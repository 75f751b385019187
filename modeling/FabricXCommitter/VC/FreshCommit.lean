import FabricXCommitter.VC.Settlement

/-!
# Attempts that take effect
-/

namespace FabricXCommitter.VC

open Library List Option

variable {tx : VcTx}

theorem commits_iff {db : Database} :
    commits db tx = true ↔
      db.txStatus tx.ref.txId = none ∧ tx.prelimInvalidTxStatus = none ∧
        readsMatch db tx = true := by
  rw [commits, Bool.and_eq_true, Bool.and_eq_true, isNone_iff_eq_none,
    isNone_iff_eq_none, and_assoc]

theorem mem_txExpectedAbsent {ns : TxNamespace} (nsMem : ns ∈ tx.namespaces)
    {rw : ReadWrite} (mem : rw ∈ ns.readWrites) (noVersion : rw.version = none) :
    (⟨ns.nsId, rw.key, rw.value, 0⟩ : WriteEntry) ∈ txExpectedAbsent tx := by
  refine mem_flatMap.mpr ⟨ns, nsMem, ?_⟩
  exact mem_filterMap.mpr ⟨rw, mem, by rw [noVersion]⟩

theorem mem_createdNamespaces (plain : Plain tx) (unspoiled : tx.prelimInvalidTxStatus = none)
    (state : Bytes → Bytes → Option UInt64) {nsId : Bytes} :
    nsId ∈ createdNamespaces tx ↔
      ∃ entry ∈ txNews state tx, entry.nsId = metaNamespaceID ∧ entry.key = nsId := by
  rw [createdNamespaces, mem_flatMap]
  constructor
  · intro found
    obtain ⟨ns, nsMem, inside⟩ := found
    split at inside
    · rename_i isMeta
      obtain ⟨rw, rwMem, eq⟩ := List.mem_map.mp inside
      obtain ⟨listed, noVersion⟩ := mem_filter.mp rwMem
      rw [isNone_iff_eq_none] at noVersion
      exact
        ⟨_, mem_txNews_of_expectedAbsent unspoiled
          (mem_txExpectedAbsent nsMem listed noVersion), isMeta, eq⟩
    · cases inside
  · intro found
    obtain ⟨entry, mem, isMeta, sameKey⟩ := found
    rw [txNews, preparedNamespaces_of_valid unspoiled] at mem
    rcases mem_append.mp mem with expected | blind
    · obtain ⟨ns, nsMem, inside⟩ := mem_flatMap.mp expected
      obtain ⟨rw, rwMem, eq⟩ := mem_filterMap.mp inside
      split at eq
      · cases eq
      · rename_i noVersion
        have same := Option.some.inj eq
        rw [← same] at isMeta sameKey
        refine ⟨ns, nsMem, ?_⟩
        rw [if_pos isMeta]
        refine List.mem_map.mpr ⟨rw, mem_filter.mpr ⟨rwMem, ?_⟩, sameKey⟩
        rw [noVersion]
        rfl
    · obtain ⟨source, sourceMem, eq⟩ := mem_filterMap.mp blind
      obtain ⟨ns, nsMem, inside⟩ := mem_flatMap.mp sourceMem
      obtain ⟨w, wMem, sourceEquality⟩ := List.mem_map.mp inside
      split at eq
      · cases eq
      · have same := Option.some.inj eq
        rw [← same, ← sourceEquality] at isMeta
        rw [plain.metaBlind ns nsMem isMeta] at wMem
        cases wMem

theorem nodup_flatMap_commits {db : Database} {batch : List VcTx} (served : Served db batch)
    {keys : VcTx → List (Bytes × Bytes)}
    (within :
      ∀ tx ∈ batch, commits db tx = true →
        (keys tx).Nodup ∧ ∀ pair ∈ keys tx, pair ∈ writeKeys tx) :
    (batch.flatMap fun tx =>
      if commits db tx then keys tx else []).Nodup := by
  rw [nodup_flatMap]
  constructor
  · intro tx mem
    split
    · rename_i commit
      exact (within tx mem commit).1
    · exact nodup_nil
  · apply served.independent.imp_of_mem
    intro first second firstMem secondMem independent
    change List.Disjoint _ _
    intro pair inFirst inSecond
    dsimp only at inFirst inSecond
    split at inFirst
    · rename_i firstCommits
      split at inSecond
      · rename_i secondCommits
        obtain ⟨firstNew, firstValid, _⟩ := commits_iff.mp firstCommits
        obtain ⟨secondNew, secondValid, _⟩ := commits_iff.mp secondCommits
        exact
          (independent firstNew secondNew firstValid secondValid).written pair
            ((within first firstMem firstCommits).2 pair inFirst)
            ((within second secondMem secondCommits).2 pair inSecond)
      · cases inSecond
    · cases inFirst

section

variable {db : Database} {batch : List VcTx}

theorem rowTables_concat (served : Served db batch) :
    ∀ write ∈ (Effects.concat (batch.map (effectsOf db))).rows, db.hasTable write.nsId = true := by
  intro write mem
  rw [concat_effectsOf] at mem
  obtain ⟨tx, inBatch, inside⟩ := mem_flatMap.mp mem
  split at inside
  · obtain ⟨source, sourceMem, eq⟩ := List.mem_map.mp inside
    rw [← eq]
    exact (served.namespaces tx inBatch).tablesExist source sourceMem
  · cases inside

theorem rowKeys_concat_nodup (admissible : Admissible batch) (served : Served db batch) :
    ((Effects.concat (batch.map (effectsOf db))).rows.map fun write =>
      (write.nsId, write.key)).Nodup := by
  have asKeys :
      ((Effects.concat (batch.map (effectsOf db))).rows.map fun write => (write.nsId, write.key)) =
        batch.flatMap fun tx =>
          if commits db tx then writeKeys tx else [] := by
    rw [concat_effectsOf, map_flatMap]
    apply flatMap_congr
    intro tx _
    split
    · rw [rowWrites, List.map_map]
      rfl
    · rfl
  rw [asKeys]
  apply nodup_flatMap_commits served
  intro tx mem commit
  obtain ⟨_, unspoiled, _⟩ := commits_iff.mp commit
  exact ⟨(admissible.plain tx mem unspoiled).keysDistinct, fun pair inside => inside⟩

theorem statusIds_concat_nodup (distinct : (batch.map fun tx => tx.ref.txId).Nodup) :
    ((Effects.concat (batch.map (effectsOf db))).statuses.map Prod.fst).Nodup := by
  rw [concat_effectsOf, map_flatMap, nodup_flatMap]
  constructor
  · intro tx _
    rw [recordedStatuses]
    split
    · exact nodup_nil
    · exact nodup_singleton _
  · rw [List.Nodup, pairwise_map] at distinct
    apply distinct.imp
    intro first second different
    change List.Disjoint _ _
    intro id inFirst inSecond
    have firstId := statusIds_effectsOf db first id inFirst
    have secondId := statusIds_effectsOf db second id inSecond
    exact different (firstId.symm.trans secondId)

theorem apply_concat_perm (admissible : Admissible batch) (served : Served db batch)
    {order : List VcTx} (permuted : order.Perm batch) :
    db.apply (Effects.concat (order.map (effectsOf db))) =
      db.apply (Effects.concat (batch.map (effectsOf db))) := by
  symm
  apply Database.apply_perm db (rowTables_concat served)
    (statusIds_concat_nodup admissible.distinct) _ _
    (rowKeys_concat_nodup admissible served)
  · exact (permuted.symm.map _).flatMap_right _
  · exact (permuted.symm.map _).flatMap_right _
  · intro nsId
    exact ((permuted.symm.map (effectsOf db)).flatMap_right _).mem_iff

end

theorem present_of_mem_txUpdates {db : Database} {state : Bytes → Bytes → Option UInt64}
    (unspoiled : tx.prelimInvalidTxStatus = none) (matched : readsMatch db tx = true)
    (resolved :
      ∀ entry ∈ txBlinds tx, state entry.nsId entry.key = queriedVersion db entry.nsId entry.key)
    {entry : WriteEntry} (mem : entry ∈ txUpdates state tx) :
    (db.row entry.nsId entry.key).isSome = true := by
  rw [txUpdates, preparedNamespaces_of_valid unspoiled] at mem
  rcases mem_append.mp mem with readWrite | blind
  · obtain ⟨ns, nsMem, inside⟩ := mem_flatMap.mp readWrite
    obtain ⟨rw, rwMem, eq⟩ := mem_filterMap.mp inside
    obtain ⟨version, isSome, same⟩ := map_eq_some_iff.mp eq
    have agrees := readsMatch_iff.mp matched _ (mem_txEvents_readWrite unspoiled nsMem rwMem)
    rw [← same]
    simp only [readMismatch, readOf, isSome] at agrees
    cases stored : db.row ns.nsId rw.key with
    | some row => rfl
    | none =>
      rw [stored] at agrees
      cases agrees
  · obtain ⟨source, sourceMem, eq⟩ := mem_filterMap.mp blind
    obtain ⟨version, queried, same⟩ := map_eq_some_iff.mp eq
    rw [resolved source sourceMem, queriedVersion] at queried
    obtain ⟨row, stored, _⟩ := map_eq_some_iff.mp queried
    rw [← same, stored]
    rfl

section

variable {db : Database} {batch : List VcTx}
  {state : Bytes → Bytes → Option UInt64} {dead : Invalidated}
  (admissible : Admissible batch) (offered : Offered db batch)
  (judged : Judged db batch state dead) (settled : Settled db batch dead)
  (absent :
    ∀ tx ∈ batch, live dead tx = true →
      ∀ entry ∈ txExpectedAbsent tx, db.row entry.nsId entry.key = none)

include judged settled absent

theorem live_eq_commits (mem : tx ∈ batch) : live dead tx = commits db tx := by
  rw [Bool.eq_iff_iff]
  constructor
  · intro alive
    have unrecorded := settled.unrecorded_of_live mem alive
    refine commits_iff.mpr ⟨unrecorded, (live_iff.mp alive).2, ?_⟩
    rw [readsMatch_iff]
    intro event eventMem
    cases validated : event.validated with
    | true => exact judged.complete tx mem unrecorded alive event eventMem validated
    | false =>
      obtain ⟨ns, nsMem, rw, rwMem, noVersion, sameNs, sameRead⟩ :=
        unvalidated_event eventMem validated
      rw [preparedNamespaces_of_valid (live_iff.mp alive).2] at nsMem
      have missing : db.row ns.nsId rw.key = none :=
        absent tx mem alive _ (mem_txExpectedAbsent nsMem rwMem noVersion)
      rw [sameNs, sameRead, readMismatch, missing]
  · intro commit
    obtain ⟨unrecorded, unspoiled, matched⟩ := commits_iff.mp commit
    refine live_iff.mpr ⟨?_, unspoiled⟩
    cases verdict : dead tx.ref.txId with
    | none => rfl
    | some status =>
      have mismatch := (judged.sound tx mem unrecorded status verdict).2.2
      rw [matched] at mismatch
      cases mismatch

theorem statusIn_eq_outcome (mem : tx ∈ batch) (unrecorded : db.txStatus tx.ref.txId = none) :
    statusIn dead tx = outcome db tx := by
  rw [statusIn, outcome, unrecorded]
  cases verdict : dead tx.ref.txId with
  | some status =>
    obtain ⟨conflict, unspoiled, mismatch⟩ := judged.sound tx mem unrecorded status verdict
    rw [conflict, unspoiled, mismatch]
    rfl
  | none =>
    cases prelim : tx.prelimInvalidTxStatus with
    | some status => rfl
    | none =>
      have alive : live dead tx = true := live_iff.mpr ⟨verdict, prelim⟩
      rw [live_eq_commits judged settled absent mem] at alive
      rw [(commits_iff.mp alive).2.2]
      rfl

theorem flatMap_live_eq {Result : Type} (entries : VcTx → List Result) :
    (batch.flatMap fun tx => if live dead tx then entries tx else []) =
      batch.flatMap fun tx => if commits db tx then entries tx else [] := by
  apply flatMap_congr
  intro tx mem
  rw [live_eq_commits judged settled absent mem]

include admissible

theorem statusEntries_fresh :
    statusEntries (statesOf (view state batch dead)).batchStatus =
      (Effects.concat (batch.map (effectsOf db))).statuses := by
  rw [statusEntries_view admissible, concat_effectsOf]
  apply flatMap_congr
  intro tx mem
  rw [recordedStatuses]
  cases recorded : db.txStatus tx.ref.txId with
  | some stored =>
    have duplicate := settled tx mem (by rw [recorded]; rfl)
    rw [if_pos duplicate]
    simp
  | none =>
    rw [statusIn_eq_outcome judged settled absent mem recorded]
    simp

include offered

theorem insertable_fresh : Insertable db (statesOf (view state batch dead)).newWrites where
  tables := newWrites_tables admissible offered
  distinct := by
    have asKeys :
        (statesOf (view state batch dead)).newWrites.map WriteEntry.pair =
          batch.flatMap fun tx =>
            if commits db tx then
              (txNews state tx).map WriteEntry.pair
            else
              [] := by
      rw [newWrites_view state dead admissible.distinct,
        flatMap_live_eq judged settled absent, map_flatMap]
      apply flatMap_congr
      intro tx _
      split <;> rfl
    rw [asKeys]
    apply nodup_flatMap_commits offered.toServed
    intro tx mem commit
    obtain ⟨_, unspoiled, _⟩ := commits_iff.mp commit
    have keysDistinct :=
      (pairs_perm state unspoiled).nodup_iff.mpr (admissible.plain tx mem unspoiled).keysDistinct
    refine ⟨keysDistinct.of_append_left, ?_⟩
    intro pair inside
    exact (pairs_perm state unspoiled).mem_iff.mp (mem_append_left _ inside)
  absent := by
    intro entry mem
    rw [newWrites_view state dead admissible.distinct, mem_flatMap_live] at mem
    obtain ⟨tx, inBatch, alive, inside⟩ := mem
    cases stored : db.row entry.nsId entry.key with
    | none => rfl
    | some row =>
      have unrecorded := settled.unrecorded_of_live inBatch alive
      have expected :=
        expectedAbsent_of_present (live_iff.mp alive).2
          (judged.resolved tx inBatch unrecorded alive) inside
          (by rw [stored]; rfl)
      rw [absent tx inBatch alive entry expected] at stored
      cases stored

theorem rows_fresh :
    ((statesOf (view state batch dead)).newWrites.map WriteEntry.newRow ++
        (statesOf (view state batch dead)).updateWrites.map WriteEntry.updatedRow).Perm
      (Effects.concat (batch.map (effectsOf db))).rows := by
  rw [newWrites_view state dead admissible.distinct,
    updateWrites_view state dead admissible.distinct,
    flatMap_live_eq judged settled absent,
    flatMap_live_eq judged settled absent, map_flatMap, map_flatMap,
    concat_effectsOf]
  refine (flatMap_append_perm _ _ _).trans ?_
  apply List.Perm.flatMap_left
  intro tx mem
  cases commit : commits db tx with
  | false => exact List.Perm.refl _
  | true =>
    obtain ⟨unrecorded, unspoiled, matched⟩ := commits_iff.mp commit
    have alive : live dead tx = true := by
      rw [live_eq_commits judged settled absent mem, commit]
    exact
      rows_perm offered.valid (admissible.plain tx mem unspoiled)
        unspoiled matched (judged.resolved tx mem unrecorded alive)

theorem effects_fresh :
    db.apply (statesOf (view state batch dead)).effects =
      db.apply (Effects.concat (batch.map (effectsOf db))) := by
  have rows := rows_fresh admissible offered judged settled absent
  have grouped :
      (statesOf (view state batch dead)).effects.rows.Perm
        (Effects.concat (batch.map (effectsOf db))).rows :=
    (((groups_perm _).map _).append ((groups_perm _).map _)).trans rows
  symm
  apply Database.apply_perm db (rowTables_concat offered.toServed)
    (statusIds_concat_nodup admissible.distinct)
  · rw [← statusEntries_fresh admissible judged settled absent]
    exact List.Perm.refl _
  · intro nsId
    have newWrites :=
      (newWrites_view state dead admissible.distinct).trans
        (flatMap_live_eq judged settled absent (txNews state))
    rw [concat_effectsOf]
    change
      _ ↔ nsId ∈
        (writesOfNamespace (statesOf (view state batch dead)).newWrites
          metaNamespaceID).map WriteEntry.key
    rw [List.mem_map, mem_flatMap, newWrites]
    constructor
    · intro found
      obtain ⟨tx, inBatch, inside⟩ := found
      split at inside
      · rename_i commit
        obtain ⟨_, unspoiled, _⟩ := commits_iff.mp commit
        obtain ⟨entry, entryMem, isMeta, sameKey⟩ :=
          (mem_createdNamespaces (admissible.plain tx inBatch unspoiled) unspoiled state).mp inside
        refine ⟨entry, mem_writesOfNamespace.mpr ⟨?_, isMeta⟩, sameKey⟩
        refine mem_flatMap.mpr ⟨tx, inBatch, ?_⟩
        rw [if_pos commit]
        exact entryMem
      · cases inside
    · intro found
      obtain ⟨entry, listed, sameKey⟩ := found
      obtain ⟨entryMem, isMeta⟩ := mem_writesOfNamespace.mp listed
      obtain ⟨tx, inBatch, inside⟩ := mem_flatMap.mp entryMem
      refine ⟨tx, inBatch, ?_⟩
      split at inside
      · rename_i commit
        obtain ⟨_, unspoiled, _⟩ := commits_iff.mp commit
        rw [if_pos commit]
        exact
          (mem_createdNamespaces (admissible.plain tx inBatch unspoiled)
            unspoiled state).mpr ⟨entry, inside, isMeta, sameKey⟩
      · cases inside
  · exact rowKeys_concat_nodup admissible offered.toServed
  · exact grouped.symm

theorem updatable_fresh (storable : ∀ tx ∈ batch, Storable db tx) :
    Updatable db (statesOf (view state batch dead)).updateWrites := by
  have source :
      ∀ entry ∈ (statesOf (view state batch dead)).updateWrites,
        ∃ tx ∈ batch, live dead tx = true ∧ commits db tx = true ∧ entry ∈ txUpdates state tx := by
    intro entry mem
    rw [updateWrites_view state dead admissible.distinct, mem_flatMap_live] at mem
    obtain ⟨tx, inBatch, alive, inside⟩ := mem
    have commit := alive
    rw [live_eq_commits judged settled absent inBatch] at commit
    exact ⟨tx, inBatch, alive, commit, inside⟩
  constructor
  · intro entry mem
    obtain ⟨tx, inBatch, _, commit, inside⟩ := source entry mem
    obtain ⟨_, unspoiled, _⟩ := commits_iff.mp commit
    obtain ⟨write, writeMem, pairEquality⟩ :=
      write_of_mem_writeKeys (pair_of_mem_txUpdates state unspoiled inside)
    have sameNs : write.nsId = entry.nsId := (Prod.mk.inj pairEquality).1
    rw [← sameNs]
    exact (offered.namespaces tx inBatch).tablesExist write writeMem
  · intro entry mem
    obtain ⟨tx, inBatch, alive, commit, inside⟩ := source entry mem
    obtain ⟨unrecorded, unspoiled, matched⟩ := commits_iff.mp commit
    exact
      present_of_mem_txUpdates unspoiled matched
        (judged.resolved tx inBatch unrecorded alive) inside
  · intro entry mem
    obtain ⟨tx, inBatch, alive, commit, inside⟩ := source entry mem
    obtain ⟨unrecorded, unspoiled, _⟩ := commits_iff.mp commit
    exact
      (updates_fit_iff offered.valid (admissible.plain tx inBatch unspoiled)
        commit (judged.resolved tx inBatch unrecorded alive)).mpr
        (storable tx inBatch) entry inside

theorem fresh_view : Fresh db (statesOf (view state batch dead)) where
  unrecorded := settled.unrecorded_of_entry admissible
  insertable := insertable_fresh admissible offered judged settled absent

/-- An attempt on a settled batch that meets no existing key has the effects of
all its transactions, or fails if some row cannot be stored. -/
theorem attempt_fresh (codec : SnapshotCodec) :
    commit codec db (statesOf (view state batch dead)) =
      if ∀ tx ∈ batch, Storable db tx then
        some (.committed (db.apply (Effects.concat (batch.map (effectsOf db)))))
      else
        none := by
  have plainStates := plainStates_view admissible state dead
  have fresh := fresh_view admissible offered judged settled absent
  split
  · rename_i storable
    rw [commit_committed codec plainStates fresh
        (updatable_fresh admissible offered judged settled absent storable),
      effects_fresh admissible offered judged settled absent]
  · rename_i unstorable
    rw [not_forall] at unstorable
    obtain ⟨tx, rest⟩ := unstorable
    obtain ⟨mem, tooLarge⟩ := Classical.not_imp.mp rest
    have commit : commits db tx = true := by
      by_contra notCommitting
      apply tooLarge
      intro write inside
      simp [effectsOf, notCommitting] at inside
    have alive : live dead tx = true := by
      rw [live_eq_commits judged settled absent mem, commit]
    obtain ⟨unrecorded, unspoiled, _⟩ := commits_iff.mp commit
    rw [← updates_fit_iff offered.valid
      (admissible.plain tx mem unspoiled) commit
      (judged.resolved tx mem unrecorded alive)] at tooLarge
    rw [not_forall] at tooLarge
    obtain ⟨entry, overflow⟩ := tooLarge
    obtain ⟨entryMem, refused⟩ := Classical.not_imp.mp overflow
    apply commit_refused codec plainStates fresh
    · rw [updateWrites_view state dead admissible.distinct, mem_flatMap_live]
      exact ⟨tx, mem, alive, entryMem⟩
    · rw [← Bool.not_eq_true]
      exact refused

end

end FabricXCommitter.VC
