import FabricXCommitter.Library.FallibleLoop
import FabricXCommitter.VC.Committer

/-!
# What the statements of a commit do

The groups of a list by namespace are a permutation of the list.
-/

namespace FabricXCommitter.VC

open Library List Function

variable {nsToReads : List (Bytes × Read)} {nsId : Bytes} {db next : Database}
  {newWrites updateWrites : List WriteEntry}

theorem mem_readsOfNamespace {read : Read} :
    read ∈ readsOfNamespace nsToReads nsId ↔ (nsId, read) ∈ nsToReads := by
  rw [readsOfNamespace, mem_map]
  constructor
  · intro found
    obtain ⟨entry, mem, eq⟩ := found
    obtain ⟨inside, sameNs⟩ := mem_filter.mp mem
    have same : entry.1 = nsId := by simpa using sameNs
    rw [← same, ← eq]
    exact inside
  · intro mem
    exact ⟨(nsId, read), mem_filter.mpr ⟨mem, by simp⟩, rfl⟩

theorem mem_readNamespaces {entry : Bytes × Read} (mem : entry ∈ nsToReads) :
    entry.1 ∈ readNamespaces nsToReads :=
  mem_dedup.mpr (mem_map_of_mem mem)

/-- Every namespace that is looked up exists and every version can be sent. -/
structure ReadsServed (db : Database) (nsToReads : List (Bytes × Read)) : Prop where
  tables : ∀ entry ∈ nsToReads, db.hasTable entry.1 = true
  fits : ∀ entry ∈ nsToReads, entry.2.version.all fitsBigint = true

theorem validateNamespaceReads_eq
    (served : ReadsServed db nsToReads) (mem : nsId ∈ readNamespaces nsToReads) :
    validateNamespaceReads db nsId (readsOfNamespace nsToReads nsId) =
      some ((readsOfNamespace nsToReads nsId).filter (readMismatch db nsId)) := by
  have tableExists : db.hasTable nsId = true := by
    obtain ⟨entry, inside, eq⟩ := mem_map.mp (mem_dedup.mp mem)
    rw [← eq]
    exact served.tables entry inside
  have fits :
      (readsOfNamespace nsToReads nsId).all (fun read => read.version.all fitsBigint) = true := by
    rw [all_eq_true]
    intro read inside
    exact served.fits (nsId, read) (mem_readsOfNamespace.mp inside)
  rw [validateNamespaceReads, tableExists, fits]
  rfl

theorem validateReads_eq (served : ReadsServed db nsToReads) :
    ∃ conflicts,
      validateReads db nsToReads = some conflicts ∧
        ∀ entry, entry ∈ conflicts ↔
          entry ∈ nsToReads ∧ readMismatch db entry.1 entry.2 = true := by
  let mismatches (nsId : Bytes) : List (Bytes × Read) :=
    ((readsOfNamespace nsToReads nsId).filter (readMismatch db nsId)).map fun read => (nsId, read)
  have loop :
      validateReads db nsToReads =
        some
          ((readNamespaces nsToReads).foldl
            (fun conflicts nsId => conflicts ++ mismatches nsId) []) := by
    apply foldlM_eq_foldl _ (fun _ => True) trivial
    intro nsId mem conflicts _
    rw [validateNamespaceReads_eq served mem]
    exact ⟨rfl, trivial⟩
  refine ⟨_, loop, ?_⟩
  intro entry
  rw [← flatMap_eq_foldl, mem_flatMap]
  constructor
  · intro found
    obtain ⟨nsId, _, inside⟩ := found
    obtain ⟨read, readMem, eq⟩ := mem_map.mp inside
    obtain ⟨listed, mismatch⟩ := mem_filter.mp readMem
    rw [← eq]
    exact ⟨mem_readsOfNamespace.mp listed, mismatch⟩
  · intro facts
    obtain ⟨mem, mismatch⟩ := facts
    refine ⟨entry.1, mem_readNamespaces mem, ?_⟩
    exact mem_map.mpr ⟨entry.2, mem_filter.mpr ⟨mem_readsOfNamespace.mpr mem, mismatch⟩, rfl⟩

def queriedVersion (db : Database) (nsId key : Bytes) : Option UInt64 :=
  (db.row nsId key).map fun row => UInt64.ofNat row.version

variable {entries : List WriteEntry}

theorem mem_writesOfNamespace {entry : WriteEntry} :
    entry ∈ writesOfNamespace entries nsId ↔ entry ∈ entries ∧ entry.nsId = nsId := by
  rw [writesOfNamespace, mem_filter]
  simp

theorem mem_writeNamespaces :
    nsId ∈ writeNamespaces entries ↔ ∃ entry ∈ entries, entry.nsId = nsId := by
  rw [writeNamespaces, mem_dedup, mem_map]

theorem groups_perm (entries : List WriteEntry) :
    ((writeNamespaces entries).flatMap (writesOfNamespace entries)).Perm entries :=
  flatMap_filter_perm WriteEntry.nsId (nodup_dedup _) entries
    fun entry mem => mem_writeNamespaces.mpr ⟨entry, mem, rfl⟩

private theorem foldl_update_of_mem {Key Value : Type} [DecidableEq Key] (value : Key → Value)
    {keys : List Key} {key : Key} (start : Key → Value)
    (covered : key ∈ keys ∨ start key = value key) :
    keys.foldl (fun map key => update map key (value key)) start key = value key := by
  induction keys generalizing start with
  | nil =>
    rcases covered with mem | equal
    · cases mem
    · exact equal
  | cons head rest ih =>
    apply ih (update start head (value head))
    by_cases same : key = head
    · right
      rw [same, update_self]
    · rw [update_of_ne same]
      rcases covered with mem | equal
      · exact .inl ((mem_cons.mp mem).resolve_left same)
      · exact .inr equal

theorem queryBlindVersions_eq (tables : ∀ entry ∈ entries, db.hasTable entry.nsId = true) :
    ∃ state,
      queryBlindVersions db entries = some state ∧
        ∀ entry ∈ entries, state entry.nsId entry.key = queriedVersion db entry.nsId entry.key := by
  let versions (nsId key : Bytes) : Option UInt64 :=
    if key ∈ (writesOfNamespace entries nsId).map WriteEntry.key then
      queriedVersion db nsId key
    else
      none
  have loop :
      queryBlindVersions db entries =
        some
          ((writeNamespaces entries).foldl
            (fun state nsId => update state nsId (versions nsId))
            fun _ _ => none) := by
    apply foldlM_eq_foldl _ (fun _ => True) trivial
    intro nsId mem state _
    obtain ⟨entry, inside, sameNs⟩ := mem_writeNamespaces.mp mem
    have tableExists : db.hasTable nsId = true := sameNs ▸ tables entry inside
    rw [queryVersionsIfPresent, if_pos tableExists]
    exact ⟨rfl, trivial⟩
  refine ⟨_, loop, ?_⟩
  intro entry mem
  have queried : entry.key ∈ (writesOfNamespace entries entry.nsId).map WriteEntry.key :=
    mem_map_of_mem (mem_writesOfNamespace.mpr ⟨mem, rfl⟩)
  have listed : entry.nsId ∈ writeNamespaces entries := mem_writeNamespaces.mpr ⟨entry, mem, rfl⟩
  rw [foldl_update_of_mem versions _ (.inl listed)]
  exact if_pos queried

def WriteEntry.pair (entry : WriteEntry) : Bytes × Bytes := (entry.nsId, entry.key)

def WriteEntry.newRow (entry : WriteEntry) : RowWrite := ⟨entry.nsId, entry.key, ⟨entry.value, 0⟩⟩

def WriteEntry.updatedRow (entry : WriteEntry) : RowWrite :=
  ⟨entry.nsId, entry.key, ⟨entry.value, entry.version.toNat⟩⟩

/-- An insertion reports the existing ones of its keys and leaves the tables
and the rows of other namespaces alone. -/
theorem insertNs_spec (tableExists : db.hasTable nsId = true) (writes : List Write) :
    ∃ existing next,
      insertNs db nsId writes = some (existing, next) ∧
        (∀ key, key ∈ existing ↔
          key ∈ writes.map Write.key ∧ (db.row nsId key).isSome = true) ∧
          next.hasTable = db.hasTable ∧ ∀ other, other ≠ nsId → next.row other = db.row other := by
  rw [insertNs, if_pos tableExists]
  split
  · rename_i fresh
    refine ⟨[], _, rfl, ?_, (Database.applyRows_other _ _).1, ?_⟩
    · intro key
      constructor
      · intro mem
        cases mem
      · intro facts
        rw [fresh.2 key facts.1] at facts
        cases facts.2
    · intro other different
      funext key
      refine @Database.rowAt_applyRows_of_not_mem db _ (other, key) ?_
      intro mem
      rw [map_map] at mem
      obtain ⟨w, _, eq⟩ := mem_map.mp mem
      exact different (Prod.mk.inj eq).1.symm
  · refine ⟨_, db, rfl, ?_, rfl, fun _ _ => rfl⟩
    intro key
    rw [mem_filter, mem_dedup]

variable {nsIds : List Bytes}

/-- One pass of `insertStates` over some of the namespaces. -/
private theorem insertLoop_spec (newWrites : List WriteEntry)
    (distinct : nsIds.Nodup) (found : List (Bytes × Bytes)) (db : Database)
    (tables : ∀ nsId ∈ nsIds, db.hasTable nsId = true) :
    ∃ conflicts next,
      nsIds.foldlM
          (fun current nsId =>
            (insertNs current.2 nsId
                ((writesOfNamespace newWrites nsId).map WriteEntry.toWrite)).map
              fun inserted => (current.1 ++ inserted.1.map fun key => (nsId, key), inserted.2))
          (found, db) = some (conflicts, next) ∧
        ∀ pair, pair ∈ conflicts ↔
          pair ∈ found ∨
            pair.1 ∈ nsIds ∧ pair ∈ newWrites.map WriteEntry.pair ∧
              (db.rowAt pair).isSome = true := by
  induction nsIds generalizing found db with
  | nil =>
    refine ⟨found, db, rfl, ?_⟩
    intro pair
    simp
  | cons nsId rest ih =>
    obtain ⟨headFresh, restDistinct⟩ := nodup_cons.mp distinct
    obtain ⟨existing, middle, inserted, existingIff, sameTables, sameRows⟩ :=
      insertNs_spec (tables nsId mem_cons_self)
        ((writesOfNamespace newWrites nsId).map WriteEntry.toWrite)
    have middleTables : ∀ other ∈ rest, middle.hasTable other = true := by
      intro other mem
      rw [sameTables]
      exact tables other (mem_cons_of_mem nsId mem)
    obtain ⟨conflicts, next, looped, conflictsIff⟩ :=
      ih restDistinct (found ++ existing.map fun key => (nsId, key)) middle middleTables
    refine ⟨conflicts, next, ?_, ?_⟩
    · rw [foldlM_cons, inserted]
      exact looped
    · intro pair
      have headIff :
          pair ∈ existing.map (fun key => (nsId, key)) ↔
            pair.1 = nsId ∧ pair ∈ newWrites.map WriteEntry.pair ∧
              (db.rowAt pair).isSome = true := by
        constructor
        · intro mem
          obtain ⟨key, keyMem, eq⟩ := mem_map.mp mem
          obtain ⟨written, present⟩ := (existingIff key).mp keyMem
          rw [map_map] at written
          obtain ⟨entry, entryMem, sameKey⟩ := mem_map.mp written
          obtain ⟨inside, sameNs⟩ := mem_writesOfNamespace.mp entryMem
          rw [← eq]
          exact
            ⟨rfl,
              mem_map.mpr ⟨entry, inside, Prod.ext sameNs sameKey⟩,
              present⟩
        · intro facts
          obtain ⟨sameNs, written, present⟩ := facts
          obtain ⟨entry, inside, eq⟩ := mem_map.mp written
          rw [← eq] at sameNs present ⊢
          have listed : entry.key ∈ existing := by
            rw [existingIff, map_map]
            refine ⟨?_, ?_⟩
            · exact mem_map.mpr ⟨entry, mem_writesOfNamespace.mpr ⟨inside, sameNs⟩, rfl⟩
            · rw [← sameNs]
              exact present
          exact mem_map.mpr ⟨entry.key, listed, by rw [← sameNs]; rfl⟩
      have restIff :
          (pair.1 ∈ rest ∧ pair ∈ newWrites.map WriteEntry.pair ∧
              (middle.rowAt pair).isSome = true) ↔
            pair.1 ∈ rest ∧ pair ∈ newWrites.map WriteEntry.pair ∧
              (db.rowAt pair).isSome = true := by
        constructor
        · intro facts
          have different : pair.1 ≠ nsId := fun same => headFresh (same ▸ facts.1)
          rw [Database.rowAt, sameRows pair.1 different] at facts
          exact facts
        · intro facts
          have different : pair.1 ≠ nsId := fun same => headFresh (same ▸ facts.1)
          rw [Database.rowAt, sameRows pair.1 different]
          exact facts
      rw [conflictsIff, mem_append, headIff, restIff, mem_cons, or_assoc, or_and_right]

theorem insertStates_spec (tables : ∀ entry ∈ newWrites, db.hasTable entry.nsId = true) :
    ∃ conflicts next,
      insertStates db newWrites = some (conflicts, next) ∧
        ∀ pair, pair ∈ conflicts ↔
          pair ∈ newWrites.map WriteEntry.pair ∧ (db.rowAt pair).isSome = true := by
  have nsTables : ∀ nsId ∈ writeNamespaces newWrites, db.hasTable nsId = true := by
    intro nsId mem
    obtain ⟨entry, inside, sameNs⟩ := mem_writeNamespaces.mp mem
    rw [← sameNs]
    exact tables entry inside
  obtain ⟨conflicts, next, looped, conflictsIff⟩ :=
    insertLoop_spec newWrites (nodup_dedup _) [] db nsTables
  refine ⟨conflicts, next, looped, ?_⟩
  intro pair
  rw [conflictsIff]
  constructor
  · intro facts
    rcases facts with nothing | listed
    · cases nothing
    · exact listed.2
  · intro facts
    obtain ⟨entry, inside, eq⟩ := mem_map.mp facts.1
    refine .inr ⟨?_, facts⟩
    rw [← eq]
    exact mem_writeNamespaces.mpr ⟨entry, inside, rfl⟩

/-- The new writes have tables and distinct keys that do not exist. -/
structure Insertable (db : Database) (newWrites : List WriteEntry) : Prop where
  tables : ∀ entry ∈ newWrites, db.hasTable entry.nsId = true
  distinct : (newWrites.map WriteEntry.pair).Nodup
  absent : ∀ entry ∈ newWrites, db.row entry.nsId entry.key = none

theorem hasTable_insertNs {writes : List Write} {existing : List Bytes}
    (inserted : insertNs db nsId writes = some (existing, next)) :
    db.hasTable nsId = true ∧ next.hasTable = db.hasTable := by
  rw [insertNs] at inserted
  split at inserted
  · rename_i tableExists
    refine ⟨tableExists, ?_⟩
    split at inserted
    · cases inserted
      exact (Database.applyRows_other _ _).1
    · cases inserted
      rfl
  · cases inserted

theorem tables_of_insertStates
    {found : List (Bytes × Bytes)} (inserted : insertStates db newWrites = some (found, next)) :
    ∀ entry ∈ newWrites, db.hasTable entry.nsId = true := by
  intro entry mem
  by_contra missing
  have failed : insertStates db newWrites = none := by
    refine
      foldlM_eq_none_of_invariant
        (fun current : List (Bytes × Bytes) × Database => current.2.hasTable = db.hasTable)
        rfl (mem_writeNamespaces.mpr ⟨entry, mem, rfl⟩) ?_ ?_
    · intro nsId _ current after same stepped
      obtain ⟨result, isResult, isAfter⟩ := Option.map_eq_some_iff.mp stepped
      rw [← isAfter]
      exact (hasTable_insertNs isResult).2.trans same
    · intro current same
      rw [Option.map_eq_none_iff, Option.eq_none_iff_forall_ne_some]
      intro result isResult
      apply missing
      rw [← same]
      exact (hasTable_insertNs isResult).1
  rw [failed] at inserted
  cases inserted

theorem insertNs_fresh
    (tableExists : db.hasTable nsId = true) (distinct : (newWrites.map WriteEntry.pair).Nodup)
    (absent : ∀ entry ∈ newWrites, entry.nsId = nsId → db.row entry.nsId entry.key = none) :
    insertNs db nsId ((writesOfNamespace newWrites nsId).map WriteEntry.toWrite) =
      some ([], db.applyRows ((writesOfNamespace newWrites nsId).map WriteEntry.newRow)) := by
  have keys :
      ((writesOfNamespace newWrites nsId).map WriteEntry.toWrite).map Write.key =
        (writesOfNamespace newWrites nsId).map WriteEntry.key := by
    rw [map_map]
    rfl
  have distinctKeys : ((writesOfNamespace newWrites nsId).map WriteEntry.key).Nodup := by
    have pairs : ((writesOfNamespace newWrites nsId).map WriteEntry.pair).Nodup :=
      distinct.sublist (filter_sublist.map _)
    have samePairs :
        (writesOfNamespace newWrites nsId).map WriteEntry.pair =
          ((writesOfNamespace newWrites nsId).map WriteEntry.key).map fun key => (nsId, key) := by
      rw [map_map]
      apply map_congr_left
      intro entry inside
      exact Prod.ext (mem_writesOfNamespace.mp inside).2 rfl
    rw [samePairs] at pairs
    exact pairs.of_map _
  have absentKeys :
      ∀ key ∈ (writesOfNamespace newWrites nsId).map WriteEntry.key, db.row nsId key = none := by
    intro key inside
    obtain ⟨entry, entryMem, eq⟩ := mem_map.mp inside
    obtain ⟨listed, sameNs⟩ := mem_writesOfNamespace.mp entryMem
    rw [← eq, ← sameNs]
    exact absent entry listed sameNs
  rw [insertNs, if_pos tableExists]
  simp only [keys]
  rw [if_pos ⟨distinctKeys, absentKeys⟩, map_map]
  congr 3
  apply map_congr_left
  intro entry inside
  rw [WriteEntry.newRow, (mem_writesOfNamespace.mp inside).2]
  rfl

private theorem insertLoop_fresh
    {newWrites : List WriteEntry} (distinctPairs : (newWrites.map WriteEntry.pair).Nodup)
    (distinct : nsIds.Nodup) (db : Database) (tables : ∀ nsId ∈ nsIds, db.hasTable nsId = true)
    (absent : ∀ entry ∈ newWrites, entry.nsId ∈ nsIds → db.row entry.nsId entry.key = none) :
    nsIds.foldlM
        (fun current nsId =>
          (insertNs current.2 nsId ((writesOfNamespace newWrites nsId).map WriteEntry.toWrite)).map
            fun inserted => (current.1 ++ inserted.1.map fun key => (nsId, key), inserted.2))
        ([], db) =
      some
        ([],
          db.applyRows ((nsIds.flatMap (writesOfNamespace newWrites)).map WriteEntry.newRow)) := by
  induction nsIds generalizing db with
  | nil => rfl
  | cons nsId rest ih =>
    obtain ⟨headFresh, restDistinct⟩ := nodup_cons.mp distinct
    have inserted :=
      insertNs_fresh (tables nsId mem_cons_self) distinctPairs
        fun entry mem sameNs => absent entry mem (sameNs ▸ mem_cons_self)
    have restTables :
        ∀ other ∈ rest,
          (db.applyRows
            ((writesOfNamespace newWrites nsId).map WriteEntry.newRow)).hasTable other = true := by
      intro other mem
      rw [(Database.applyRows_other _ _).1]
      exact tables other (mem_cons_of_mem nsId mem)
    have restAbsent :
        ∀ entry ∈ newWrites, entry.nsId ∈ rest →
          (db.applyRows
            ((writesOfNamespace newWrites nsId).map
              WriteEntry.newRow)).row entry.nsId entry.key = none := by
      intro entry mem inRest
      have outside :
          (entry.nsId, entry.key) ∉
            ((writesOfNamespace newWrites nsId).map WriteEntry.newRow).map
              fun write => (write.nsId, write.key) := by
        intro written
        rw [map_map] at written
        obtain ⟨other, otherMem, eq⟩ := mem_map.mp written
        have sameNs : entry.nsId = nsId :=
          (Prod.mk.inj eq).1.symm.trans (mem_writesOfNamespace.mp otherMem).2
        exact headFresh (sameNs ▸ inRest)
      have unchanged := Database.rowAt_applyRows_of_not_mem db outside
      rw [Database.rowAt, Database.rowAt] at unchanged
      rw [unchanged]
      exact absent entry mem (mem_cons_of_mem nsId inRest)
    rw [foldlM_cons, inserted, flatMap_cons, map_append, Database.applyRows_append]
    exact ih restDistinct _ restTables restAbsent

theorem insertStates_fresh (insertable : Insertable db newWrites) :
    insertStates db newWrites =
      some
        ([],
          db.applyRows
            (((writeNamespaces newWrites).flatMap
              (writesOfNamespace newWrites)).map WriteEntry.newRow)) := by
  apply insertLoop_fresh insertable.distinct (nodup_dedup _) db
  · intro nsId mem
    obtain ⟨entry, inside, sameNs⟩ := mem_writeNamespaces.mp mem
    rw [← sameNs]
    exact insertable.tables entry inside
  · intro entry mem _
    exact insertable.absent entry mem

theorem insertNs_done {writes : List Write} (distinct : (writes.map Write.key).Nodup)
    (inserted : insertNs db nsId writes = some ([], next)) :
    (∀ w ∈ writes, db.row nsId w.key = none ∧ next.row nsId w.key = some ⟨w.value, 0⟩) ∧
      ∀ key, key ∉ writes.map Write.key → next.row nsId key = db.row nsId key := by
  rw [insertNs] at inserted
  split at inserted
  · rename_i tableExists
    have absent : ∀ key ∈ writes.map Write.key, db.row nsId key = none := by
      split at inserted
      · rename_i fresh
        exact fresh.2
      · obtain ⟨nothing, _⟩ := Prod.mk.inj (Option.some.inj inserted)
        intro key mem
        have unfiltered := filter_eq_nil_iff.mp nothing key (mem_dedup.mpr mem)
        simpa using unfiltered
    rw [if_pos ⟨distinct, absent⟩] at inserted
    cases inserted
    constructor
    · intro w mem
      refine ⟨absent w.key (mem_map_of_mem mem), ?_⟩
      have rows :=
        Database.rowAt_applyRows db
          (writes.map fun w => (⟨nsId, w.key, ⟨w.value, 0⟩⟩ : RowWrite))
          (by
            intro write inside
            obtain ⟨_, _, same⟩ := mem_map.mp inside
            rw [← same]
            exact tableExists)
      have distinctPairs :
          (((writes.map fun w => (⟨nsId, w.key, ⟨w.value, 0⟩⟩ : RowWrite)).map
            RowWrite.entry).map Prod.fst).Nodup := by
        rw [map_map, map_map]
        exact
          (nodup_map_iff_inj_on distinct.of_map).mpr
            fun first firstMem second secondMem same =>
              inj_on_of_nodup_map distinct firstMem secondMem (Prod.mk.inj same).2
      have listed :
          ((nsId, w.key), (⟨w.value, 0⟩ : Row)) ∈
            (writes.map fun w => (⟨nsId, w.key, ⟨w.value, 0⟩⟩ : RowWrite)).map RowWrite.entry := by
        rw [map_map]
        exact mem_map.mpr ⟨w, mem, rfl⟩
      exact (congrFun rows (nsId, w.key)).trans (overlay_of_mem distinctPairs listed)
    · intro key outside
      refine @Database.rowAt_applyRows_of_not_mem db _ (nsId, key) ?_
      intro mem
      rw [map_map] at mem
      obtain ⟨w, inside, same⟩ := mem_map.mp mem
      exact outside (mem_map.mpr ⟨w, inside, (Prod.mk.inj same).2⟩)
  · cases inserted

/-- The rows of one namespace are those that its own insertion leaves. -/
private theorem insertLoop_namespace (newWrites : List WriteEntry)
    (distinct : nsIds.Nodup) (nsId : Bytes) {found : List (Bytes × Bytes)} {db next : Database}
    (looped :
      nsIds.foldlM
          (fun current nsId =>
            (insertNs current.2 nsId
                ((writesOfNamespace newWrites nsId).map WriteEntry.toWrite)).map
              fun inserted => (current.1 ++ inserted.1.map fun key => (nsId, key), inserted.2))
          (found, db) = some ([], next)) :
    found = [] ∧
      (nsId ∉ nsIds → next.row nsId = db.row nsId) ∧
        (nsId ∈ nsIds →
          ∃ before middle, before.row nsId = db.row nsId ∧
            next.row nsId = middle.row nsId ∧
              insertNs before nsId ((writesOfNamespace newWrites nsId).map WriteEntry.toWrite) =
                some ([], middle)) := by
  induction nsIds generalizing found db with
  | nil =>
    cases looped
    exact ⟨rfl, fun _ => rfl, fun inside => absurd inside not_mem_nil⟩
  | cons head rest ih =>
    obtain ⟨headFresh, restDistinct⟩ := nodup_cons.mp distinct
    obtain ⟨current, stepped, continued⟩ := Option.bind_eq_some_iff.mp looped
    obtain ⟨⟨existing, middle⟩, inserted, same⟩ := Option.map_eq_some_iff.mp stepped
    subst same
    obtain ⟨nothing, others, own⟩ := ih restDistinct continued
    obtain ⟨noneFound, noneExisting⟩ := append_eq_nil_iff.mp nothing
    have noExisting : existing = [] := map_eq_nil_iff.mp noneExisting
    subst noExisting
    have sameRows : ∀ other, other ≠ head → middle.row other = db.row other := by
      obtain ⟨existing, after, isInserted, _, _, rows⟩ :=
        insertNs_spec (hasTable_insertNs inserted).1
          ((writesOfNamespace newWrites head).map WriteEntry.toWrite)
      rw [inserted] at isInserted
      cases isInserted
      exact rows
    refine ⟨noneFound, ?_, ?_⟩
    · intro outside
      rw [mem_cons, not_or] at outside
      rw [others outside.2, sameRows nsId outside.1]
    · intro inside
      by_cases isHead : nsId = head
      · subst isHead
        exact ⟨db, middle, rfl, others headFresh, inserted⟩
      · obtain ⟨before, after, sameBefore, sameAfter, isInserted⟩ :=
          own (mem_of_ne_of_mem isHead inside)
        exact ⟨before, after, sameBefore.trans (sameRows nsId isHead), sameAfter, isInserted⟩

theorem insertStates_namespace
    (inserted : insertStates db newWrites = some ([], next)) (nsId : Bytes)
    (distinct : ((writesOfNamespace newWrites nsId).map WriteEntry.key).Nodup) :
    (∀ entry ∈ writesOfNamespace newWrites nsId,
        db.row nsId entry.key = none ∧ next.row nsId entry.key = some ⟨entry.value, 0⟩) ∧
      ∀ key, key ∉ (writesOfNamespace newWrites nsId).map WriteEntry.key →
        next.row nsId key = db.row nsId key := by
  obtain ⟨_, others, own⟩ := insertLoop_namespace newWrites (nodup_dedup _) nsId inserted
  by_cases inside : nsId ∈ writeNamespaces newWrites
  · obtain ⟨before, middle, sameBefore, sameAfter, isInserted⟩ := own inside
    have keys :
        ((writesOfNamespace newWrites nsId).map WriteEntry.toWrite).map Write.key =
          (writesOfNamespace newWrites nsId).map WriteEntry.key := by
      rw [map_map]
      rfl
    obtain ⟨written, kept⟩ := insertNs_done (by rw [keys]; exact distinct) isInserted
    rw [keys] at kept
    rw [← sameBefore, sameAfter]
    exact ⟨fun entry mem => written _ (mem_map_of_mem mem), kept⟩
  · have nothing : writesOfNamespace newWrites nsId = [] := by
      rw [eq_nil_iff_forall_not_mem]
      intro entry mem
      obtain ⟨isEntry, sameNs⟩ := mem_writesOfNamespace.mp mem
      exact inside (mem_writeNamespaces.mpr ⟨entry, isEntry, sameNs⟩)
    rw [nothing, others inside]
    exact ⟨fun _ mem => absurd mem not_mem_nil, fun _ _ => rfl⟩

theorem updateStates_namespace (updated : updateStates db updateWrites = some next)
    (outside : ∀ entry ∈ updateWrites, entry.nsId ≠ nsId) :
    next.row nsId = db.row nsId ∧ next.hasTable = db.hasTable ∧
      next.txStatus = db.txStatus ∧ next.latestSnapshotKey = db.latestSnapshotKey := by
  refine
    foldlM_invariant
      (fun current : Database =>
        current.row nsId = db.row nsId ∧ current.hasTable = db.hasTable ∧
          current.txStatus = db.txStatus ∧ current.latestSnapshotKey = db.latestSnapshotKey)
      ⟨rfl, rfl, rfl, rfl⟩ ?_ updated
  intro other mem current after holds stepped
  obtain ⟨sameRows, sameTables, sameStatuses, samePointer⟩ := holds
  have different : nsId ≠ other := by
    intro same
    obtain ⟨entry, isEntry, sameNs⟩ := mem_writeNamespaces.mp mem
    exact outside entry isEntry (sameNs.trans same.symm)
  rw [updateNs] at stepped
  split at stepped
  · cases stepped
    obtain ⟨tables, statuses, pointer, _⟩ := Database.applyRows_other current _
    refine ⟨?_, tables.trans sameTables, statuses.trans sameStatuses, pointer.trans samePointer⟩
    rw [← sameRows]
    funext key
    refine @Database.rowAt_applyRows_of_not_mem current _ (nsId, key) ?_
    intro written
    rw [map_map] at written
    obtain ⟨w, _, same⟩ := mem_map.mp written
    exact different (Prod.mk.inj same).1.symm
  · cases stepped

theorem isSome_row_applyRows (db : Database) (writes : List RowWrite) {key : Bytes}
    (present : (db.row nsId key).isSome = true) :
    ((db.applyRows writes).row nsId key).isSome = true := by
  induction writes generalizing db with
  | nil => exact present
  | cons write rest ih =>
    apply ih (db.writeRow write.nsId write.key write.row)
    simp only [Database.writeRow]
    split
    · rfl
    · exact present

/-- The updated rows have tables and exist, and their versions can be sent. -/
structure Updatable (db : Database) (updateWrites : List WriteEntry) : Prop where
  tables : ∀ entry ∈ updateWrites, db.hasTable entry.nsId = true
  present : ∀ entry ∈ updateWrites, (db.row entry.nsId entry.key).isSome = true
  fits : ∀ entry ∈ updateWrites, fitsBigint entry.version = true

theorem updateNs_eq
    (updatable : Updatable db updateWrites) (mem : nsId ∈ writeNamespaces updateWrites) :
    updateNs db nsId ((writesOfNamespace updateWrites nsId).map WriteEntry.toVersionedWrite) =
      some (db.applyRows ((writesOfNamespace updateWrites nsId).map WriteEntry.updatedRow)) := by
  have tableExists : db.hasTable nsId = true := by
    obtain ⟨entry, inside, sameNs⟩ := mem_writeNamespaces.mp mem
    rw [← sameNs]
    exact updatable.tables entry inside
  have fits :
      ((writesOfNamespace updateWrites nsId).map WriteEntry.toVersionedWrite).all
        (fun w => fitsBigint w.version) = true := by
    rw [all_map, all_eq_true]
    intro entry inside
    exact updatable.fits entry (mem_writesOfNamespace.mp inside).1
  have all :
      ((writesOfNamespace updateWrites nsId).map WriteEntry.toVersionedWrite).filter
        (fun w => (db.row nsId w.key).isSome) =
      (writesOfNamespace updateWrites nsId).map WriteEntry.toVersionedWrite := by
    rw [filter_eq_self]
    intro w inside
    obtain ⟨entry, entryMem, eq⟩ := mem_map.mp inside
    obtain ⟨listed, sameNs⟩ := mem_writesOfNamespace.mp entryMem
    rw [← eq, ← sameNs]
    exact updatable.present entry listed
  rw [updateNs, tableExists, fits, all, map_map]
  simp only [Bool.and_self, if_true, Option.some.injEq]
  congr 1
  apply map_congr_left
  intro entry inside
  rw [WriteEntry.updatedRow, (mem_writesOfNamespace.mp inside).2]
  rfl

theorem Updatable.applyRows (updatable : Updatable db updateWrites) (writes : List RowWrite) :
    Updatable (db.applyRows writes) updateWrites where
  tables := by
    rw [(Database.applyRows_other _ _).1]
    exact updatable.tables
  present := fun entry mem => isSome_row_applyRows db writes (updatable.present entry mem)
  fits := updatable.fits

private theorem foldl_applyRows
    (groups : Bytes → List WriteEntry) (nsIds : List Bytes) (db : Database) :
    nsIds.foldl (fun db nsId => db.applyRows ((groups nsId).map WriteEntry.updatedRow)) db =
      db.applyRows ((nsIds.flatMap groups).map WriteEntry.updatedRow) := by
  induction nsIds generalizing db with
  | nil => rfl
  | cons nsId rest ih =>
    rw [foldl_cons, ih, flatMap_cons, map_append, Database.applyRows_append]

theorem updateStates_eq (updatable : Updatable db updateWrites) :
    updateStates db updateWrites =
      some
        (db.applyRows
          (((writeNamespaces updateWrites).flatMap
            (writesOfNamespace updateWrites)).map WriteEntry.updatedRow)) := by
  rw [← foldl_applyRows]
  apply foldlM_eq_foldl _ (fun db => Updatable db updateWrites) updatable
  intro nsId mem current currentUpdatable
  exact ⟨updateNs_eq currentUpdatable mem, currentUpdatable.applyRows _⟩

theorem updateStates_eq_none (db : Database) {entry : WriteEntry} (mem : entry ∈ updateWrites)
    (overflow : fitsBigint entry.version = false) :
    updateStates db updateWrites = none := by
  apply foldlM_eq_none (mem_writeNamespaces.mpr ⟨entry, mem, rfl⟩)
  intro current
  have refused :
      ((writesOfNamespace updateWrites entry.nsId).map WriteEntry.toVersionedWrite).all
        (fun w => fitsBigint w.version) = false := by
    rw [all_eq_false]
    refine ⟨entry.toVersionedWrite, mem_map_of_mem (mem_writesOfNamespace.mpr ⟨mem, rfl⟩), ?_⟩
    rw [WriteEntry.toVersionedWrite, overflow]
    exact Bool.false_ne_true
  rw [updateNs, refused, Bool.and_false]
  rfl

end FabricXCommitter.VC
