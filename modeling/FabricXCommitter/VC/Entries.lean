import FabricXCommitter.VC.BatchView

/-!
# The entries of a plain transaction
-/

namespace FabricXCommitter.VC

open Library List

/-- What the form of a data or namespace-lifecycle transaction provides. -/
structure Plain (tx : VcTx) : Prop where
  systemFree : ∀ ns ∈ tx.namespaces, ns.nsId ≠ snapshotNamespaceID ∧ ns.nsId ≠ checkpointNamespaceID
  writesSome : txWrites tx ≠ []
  keysDistinct : (writeKeys tx).Nodup
  metaBlind : ∀ ns ∈ tx.namespaces, ns.nsId = metaNamespaceID → ns.blindWrites = []
  apart :
    ∀ event ∈ txEvents tx, event.validated = true →
      ∀ other ∈ txEvents tx, other.validated = false → event.cmp ≠ other.cmp
  fits : ∀ entry ∈ txReads tx, entry.2.version.all fitsBigint = true

/-- The IDs of a batch are distinct and its transactions are plain. -/
structure Admissible (batch : List VcTx) : Prop where
  distinct : (batch.map fun tx => tx.ref.txId).Nodup
  plain : ∀ tx ∈ batch, tx.prelimInvalidTxStatus = none → Plain tx

theorem Admissible.plainBatch
    {batch : List VcTx} (admissible : Admissible batch) : PlainBatch batch where
  distinct := admissible.distinct
  plain := fun tx mem valid => (admissible.plain tx mem valid).systemFree

theorem Admissible.writes {batch : List VcTx} (admissible : Admissible batch) :
    ∀ tx ∈ batch, tx.prelimInvalidTxStatus = none → txWrites tx ≠ [] :=
  fun tx mem valid => (admissible.plain tx mem valid).writesSome

theorem txReads_eq (tx : VcTx) :
    (txEvents tx).map (fun event => (event.nsId, event.read)) = txReads tx := by
  rw [txEvents, txReads, map_flatMap]
  apply flatMap_congr
  intro ns _
  simp [namespaceEvents, namespaceReads, Function.comp_def]

theorem mem_txReads_of_event {tx : VcTx} {event : ReadEvent} (mem : event ∈ txEvents tx) :
    (event.nsId, event.read) ∈ txReads tx := by
  rw [← txReads_eq]
  exact mem_map_of_mem (f := fun event : ReadEvent => (event.nsId, event.read)) mem

theorem readsMatch_iff {db : Database} {tx : VcTx} :
    readsMatch db tx = true ↔
      ∀ event ∈ txEvents tx, readMismatch db event.nsId event.read = false := by
  rw [readsMatch, ← txReads_eq, all_map, all_eq_true]
  simp

theorem mem_namespaceEvents_readWrite
    {id : Bytes} {ns : TxNamespace} {rw : ReadWrite} (mem : rw ∈ ns.readWrites) :
    (⟨id, ns.nsId, readOf rw, rw.version.isSome⟩ : ReadEvent) ∈ namespaceEvents id ns := by
  apply mem_append_right
  apply mem_append_left
  exact mem_map_of_mem
    (f := fun rw => (⟨id, ns.nsId, readOf rw, rw.version.isSome⟩ : ReadEvent))
    mem

theorem mem_txEvents_readWrite {tx : VcTx} (unspoiled : tx.prelimInvalidTxStatus = none)
    {ns : TxNamespace} (nsMem : ns ∈ tx.namespaces) {rw : ReadWrite} (mem : rw ∈ ns.readWrites) :
    (⟨tx.ref.txId, ns.nsId, readOf rw, rw.version.isSome⟩ : ReadEvent) ∈ txEvents tx := by
  rw [txEvents, preparedNamespaces_of_valid unspoiled]
  exact mem_flatMap.mpr ⟨ns, nsMem, mem_namespaceEvents_readWrite mem⟩

theorem unvalidated_event {tx : VcTx} {event : ReadEvent} (mem : event ∈ txEvents tx)
    (unvalidated : event.validated = false) :
    ∃ ns ∈ preparedNamespaces tx, ∃ rw ∈ ns.readWrites,
      rw.version = none ∧ event.nsId = ns.nsId ∧ event.read = ⟨rw.key, none⟩ := by
  obtain ⟨ns, nsMem, inside⟩ := mem_flatMap.mp mem
  refine ⟨ns, nsMem, ?_⟩
  rcases mem_append.mp inside with readOnly | rest
  · obtain ⟨read, _, eq⟩ := mem_map.mp readOnly
    rw [← eq] at unvalidated
    cases unvalidated
  · rcases mem_append.mp rest with readWrite | version
    · obtain ⟨rw, rwMem, eq⟩ := mem_map.mp readWrite
      rw [← eq] at unvalidated
      have noVersion : rw.version = none :=
        Option.isSome_eq_false_iff.mp unvalidated |> Option.isNone_iff_eq_none.mp
      refine ⟨rw, rwMem, noVersion, ?_, ?_⟩
      · rw [← eq]
      · rw [← eq, readOf, noVersion]
    · obtain ⟨entry, _, eq⟩ := mem_map.mp version
      rw [← eq] at unvalidated
      cases unvalidated

theorem toNat_add_one {version : UInt64} (small : version.toNat < bigintLimit) :
    (version + 1).toNat = version.toNat + 1 := by
  rw [UInt64.toNat_add]
  have limit : bigintLimit = 2 ^ 63 := rfl
  have one : (1 : UInt64).toNat = 1 := rfl
  omega

section

variable {db : Database} {tx : VcTx} {state : Bytes → Bytes → Option UInt64}

def txBlinds (tx : VcTx) : List WriteEntry := tx.namespaces.flatMap blindEntries

private theorem append_interchange {Item : Type} (first second third fourth : List Item) :
    (first ++ second ++ (third ++ fourth)).Perm (first ++ third ++ (second ++ fourth)) := by
  rw [append_assoc, append_assoc, ← append_assoc second, ← append_assoc third]
  exact (perm_append_comm.append_right fourth).append_left first

/-- Every write of a transaction is one new entry or one update, however its
blind writes are resolved. -/
theorem entries_perm
    {Result : Type} (ofNew ofUpdate : WriteEntry → Result) (image : KeyedWrite → Result)
    (unspoiled : tx.prelimInvalidTxStatus = none)
    (newReadWrites :
      ∀ ns ∈ tx.namespaces, ∀ rw ∈ ns.readWrites, rw.version = none →
        ofNew ⟨ns.nsId, rw.key, rw.value, 0⟩ = image ⟨ns.nsId, rw.key, rw.value⟩)
    (updatedReadWrites :
      ∀ ns ∈ tx.namespaces, ∀ rw ∈ ns.readWrites,
        ∀ version, rw.version = some version →
          ofUpdate ⟨ns.nsId, rw.key, rw.value, version + 1⟩ = image ⟨ns.nsId, rw.key, rw.value⟩)
    (newBlinds :
      ∀ entry ∈ txBlinds tx, state entry.nsId entry.key = none →
        ofNew { entry with version := 0 } = image ⟨entry.nsId, entry.key, entry.value⟩)
    (updatedBlinds :
      ∀ entry ∈ txBlinds tx,
        ∀ version, state entry.nsId entry.key = some version →
          ofUpdate { entry with version := version + 1 } =
            image ⟨entry.nsId, entry.key, entry.value⟩) :
    ((txNews state tx).map ofNew ++ (txUpdates state tx).map ofUpdate).Perm
      ((txWrites tx).map image) := by
  have readWrites :
      ((tx.namespaces.flatMap newEntries).map ofNew ++
          (tx.namespaces.flatMap updateEntries).map ofUpdate).Perm
        (tx.namespaces.flatMap fun ns =>
          ns.readWrites.map fun rw => image ⟨ns.nsId, rw.key, rw.value⟩) := by
    rw [map_flatMap, map_flatMap]
    refine (flatMap_append_perm _ _ _).trans ?_
    apply List.Perm.flatMap_left
    intro ns nsMem
    rw [newEntries, updateEntries, map_filterMap, map_filterMap]
    apply filterMap_append_perm
    intro rw mem
    cases version : rw.version with
    | none =>
      left
      simp [newReadWrites ns nsMem rw mem version]
    | some number =>
      right
      simp [updatedReadWrites ns nsMem rw mem number version]
  have blinds :
      (((txBlinds tx).filterMap fun entry =>
            if (state entry.nsId entry.key).isSome then
              none
            else
              some { entry with version := 0 }).map ofNew ++
          ((txBlinds tx).filterMap fun entry =>
            (state entry.nsId entry.key).map fun version =>
              { entry with version := version + 1 }).map ofUpdate).Perm
        ((txBlinds tx).map fun entry => image ⟨entry.nsId, entry.key, entry.value⟩) := by
    rw [map_filterMap, map_filterMap]
    apply filterMap_append_perm
    intro entry mem
    cases queried : state entry.nsId entry.key with
    | none =>
      left
      simp [newBlinds entry mem queried]
    | some number =>
      right
      simp [updatedBlinds entry mem number queried]
  have writes :
      (txWrites tx).map image =
        tx.namespaces.flatMap fun ns =>
          ns.readWrites.map (fun rw => image ⟨ns.nsId, rw.key, rw.value⟩) ++
            (blindEntries ns).map fun entry => image ⟨entry.nsId, entry.key, entry.value⟩ := by
    rw [txWrites, preparedNamespaces_of_valid unspoiled, map_flatMap]
    apply flatMap_congr
    intro ns _
    simp [namespaceWrites, blindEntries, Function.comp_def]
  rw [txNews, txUpdates, preparedNamespaces_of_valid unspoiled, map_append, map_append, writes]
  refine (append_interchange _ _ _ _).trans ?_
  refine (readWrites.append blinds).trans ?_
  rw [txBlinds, map_flatMap]
  exact flatMap_append_perm _ _ _

theorem pairs_perm
    (state : Bytes → Bytes → Option UInt64) (unspoiled : tx.prelimInvalidTxStatus = none) :
    ((txNews state tx).map WriteEntry.pair ++ (txUpdates state tx).map WriteEntry.pair).Perm
      (writeKeys tx) := by
  apply entries_perm _ _ _ unspoiled
  · intro ns _ rw _ _
    rfl
  · intro ns _ rw _ version _
    rfl
  · intro entry _ _
    rfl
  · intro entry _ version _
    rfl

theorem rows_perm
    (valid : db.Valid) (plain : Plain tx) (unspoiled : tx.prelimInvalidTxStatus = none)
    (matched : readsMatch db tx = true)
    (resolved :
      ∀ entry ∈ txBlinds tx, state entry.nsId entry.key = queriedVersion db entry.nsId entry.key) :
    ((txNews state tx).map WriteEntry.newRow ++ (txUpdates state tx).map WriteEntry.updatedRow).Perm
      (rowWrites db tx) := by
  apply entries_perm _ _ _ unspoiled
  · intro ns nsMem rw mem version
    have agrees := readsMatch_iff.mp matched _ (mem_txEvents_readWrite unspoiled nsMem mem)
    simp only [readMismatch, readOf, version] at agrees
    cases stored : db.row ns.nsId rw.key with
    | none => rfl
    | some row =>
      rw [stored] at agrees
      cases agrees
  · intro ns nsMem rw mem number version
    have event := mem_txEvents_readWrite unspoiled nsMem mem
    have agrees := readsMatch_iff.mp matched _ event
    have fits := plain.fits _ (mem_txReads_of_event event)
    simp only [readMismatch, readOf, version] at agrees fits
    cases stored : db.row ns.nsId rw.key with
    | none =>
      rw [stored] at agrees
      cases agrees
    | some row =>
      rw [stored] at agrees
      have small : number.toNat < bigintLimit := by simpa [fitsBigint] using fits
      have same : row.version = number.toNat := by simpa using agrees
      simp [WriteEntry.updatedRow, nextVersion, same, toNat_add_one small]
  · intro entry mem absent
    rw [resolved entry mem, queriedVersion, Option.map_eq_none_iff] at absent
    simp [WriteEntry.newRow, nextVersion, absent]
  · intro entry mem version present
    rw [resolved entry mem, queriedVersion] at present
    obtain ⟨row, stored, eq⟩ := Option.map_eq_some_iff.mp present
    have bounded := valid.bounded _ _ _ stored
    have roundTrip : (UInt64.ofNat row.version).toNat = row.version := by
      apply UInt64.toNat_ofNat_of_lt
      exact Nat.lt_trans bounded (by decide)
    have small : (UInt64.ofNat row.version).toNat < bigintLimit := by
      rw [roundTrip]
      exact bounded
    rw [← eq]
    simp [WriteEntry.updatedRow, nextVersion, stored, toNat_add_one small, roundTrip]

theorem updates_fit_iff (valid : db.Valid) (plain : Plain tx) (commit : commits db tx = true)
    (resolved :
      ∀ entry ∈ txBlinds tx, state entry.nsId entry.key = queriedVersion db entry.nsId entry.key) :
    (∀ entry ∈ txUpdates state tx, fitsBigint entry.version = true) ↔ Storable db tx := by
  have facts := commit
  rw [commits, Bool.and_eq_true, Bool.and_eq_true,
    Option.isNone_iff_eq_none, Option.isNone_iff_eq_none] at facts
  obtain ⟨⟨_, unspoiled⟩, matched⟩ := facts
  have permuted := rows_perm valid plain unspoiled matched resolved
  have rows : (effectsOf db tx).rows = rowWrites db tx := by
    rw [effectsOf, commit]
    rfl
  rw [Storable, rows]
  constructor
  · intro fits write mem
    rcases mem_append.mp (permuted.mem_iff.mpr mem) with new | updated
    · obtain ⟨entry, _, eq⟩ := mem_map.mp new
      rw [← eq]
      exact Nat.two_pow_pos 63
    · obtain ⟨entry, entryMem, eq⟩ := mem_map.mp updated
      rw [← eq]
      exact of_decide_eq_true (fits entry entryMem)
  · intro storable entry mem
    have stored : entry.updatedRow ∈ rowWrites db tx :=
      permuted.mem_iff.mp (mem_append_right _ (mem_map_of_mem mem))
    exact decide_eq_true (storable _ stored)

end

end FabricXCommitter.VC
