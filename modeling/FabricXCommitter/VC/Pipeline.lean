import FabricXCommitter.VC.FreshCommit
import FabricXCommitter.VC.Screening

/-!
# The pipeline on a plain batch

The first attempt marks the recorded transactions, the second invalidates those that
expect existing keys to be absent, the third takes effect.
-/

namespace FabricXCommitter.VC

open Library List

variable {entry : WriteEntry}

section

variable (codec : SnapshotCodec)

theorem loneSnapshotRequest_eq_none (txIDs : List Bytes) {newWrites : TransactionToWrites}
    (noSnapshot : ∀ id, ∀ entry ∈ newWrites id, entry.nsId ≠ snapshotNamespaceID) :
    loneSnapshotRequest txIDs newWrites = none := by
  have nothing : ∀ id, firstWriteIn snapshotNamespaceID (newWrites id) = none := by
    intro id
    rw [firstWriteIn, find?_eq_none]
    intro entry mem same
    exact noSnapshot id entry mem (by simpa using same)
  rw [loneSnapshotRequest]
  split
  · rw [nothing]
    rfl
  · rfl

theorem mem_without {writes : TransactionToWrites} {dead : Invalidated} {id : Bytes}
    (mem : entry ∈ writes.without dead id) :
    entry ∈ writes id := by
  rw [TransactionToWrites.without] at mem
  split at mem
  · cases mem
  · exact mem

variable {batch : List VcTx} (plainBatch : PlainBatch batch)
  (dead : Invalidated)

include plainBatch

theorem noSnapshot_entriesById {entries : TxNamespace → List WriteEntry}
    (tagged : ∀ ns, ∀ entry ∈ entries ns, entry.nsId = ns.nsId)
    {id : Bytes} (mem : entry ∈ entriesById entries batch id) :
    entry.nsId ≠ snapshotNamespaceID := by
  obtain ⟨tx, inBatch, valid, ns, nsMem, sameNs⟩ := nsId_of_mem_entriesById tagged mem
  rw [sameNs]
  exact (plainBatch.plain tx inBatch valid ns nsMem).1

theorem rejectSnapshot_masked (db : Database) :
    rejectSnapshotIfPriorNotCheckpointed codec db (masked (.ofPrepared (preparedForm batch)) dead) =
      some (masked (.ofPrepared (preparedForm batch)) dead) := by
  rw [rejectSnapshotIfPriorNotCheckpointed, loneSnapshotRequest_eq_none]
  intro id entry mem
  exact noSnapshot_entriesById plainBatch nsId_of_mem_newEntries (mem_without mem)

theorem createSnapshot_view (db : Database) (state : Bytes → Bytes → Option UInt64) :
    createSnapshotIfPresent codec db (view state batch dead) =
      some (view state batch dead, db) := by
  rw [createSnapshotIfPresent, loneSnapshotRequest_eq_none]
  intro id entry mem
  rcases mem_append.mp (mem_without mem) with new | blind
  · exact noSnapshot_entriesById plainBatch nsId_of_mem_newEntries new
  · obtain ⟨source, sourceMem, eq⟩ := mem_filterMap.mp blind
    have sameNs : entry.nsId = source.nsId := by
      split at eq
      · cases eq
      · rw [← Option.some.inj eq]
    rw [sameNs]
    apply noSnapshot_entriesById plainBatch _ sourceMem
    intro ns other inside
    obtain ⟨w, _, same⟩ := mem_map.mp inside
    rw [← same]

end

/-- No read of an unrecorded transaction is hidden by a read-write without a
version that precedes it, unless the read matches anyway. -/
def Unhidden (db : Database) (batch : List VcTx) : Prop :=
  ∀ tx ∈ batch, db.txStatus tx.ref.txId = none →
    ∀ event ∈ txEvents tx, event.validated = true →
      hidden (batchEvents batch) event.cmp = true → readMismatch db event.nsId event.read = false

instance (db : Database) (batch : List VcTx) : Decidable (Unhidden db batch) :=
  inferInstanceAs
    (Decidable
      (∀ tx ∈ batch, db.txStatus tx.ref.txId = none →
        ∀ event ∈ txEvents tx, event.validated = true →
          hidden (batchEvents batch) event.cmp = true →
            readMismatch db event.nsId event.read = false))

variable {tx : VcTx} {event : ReadEvent}

section

variable (codec : SnapshotCodec) {db : Database} {batch : List VcTx}
  (admissible : Admissible batch) (valid : db.Valid)
  (namespaces : ∀ tx ∈ batch, NamespacesExist db tx)

include valid in
theorem readTable_of_mem_txEvents (exist : NamespacesExist db tx) (mem : event ∈ txEvents tx) :
    db.hasTable event.nsId = true := by
  obtain ⟨ns, nsMem, inside⟩ := mem_flatMap.mp mem
  have nsTable := exist ns nsMem
  rcases mem_append.mp inside with readOnly | rest
  · obtain ⟨read, _, eq⟩ := mem_map.mp readOnly
    rw [← eq]
    exact nsTable
  · rcases mem_append.mp rest with readWrite | version
    · obtain ⟨rw, _, eq⟩ := mem_map.mp readWrite
      rw [← eq]
      exact nsTable
    · obtain ⟨entry, entryMem, eq⟩ := mem_map.mp version
      rw [← eq]
      rw [Option.mem_toList, versionRead] at entryMem
      split at entryMem
      · rw [← Option.some.inj entryMem]
        exact valid.configTable
      · split at entryMem
        · cases entryMem
        · rw [← Option.some.inj entryMem]
          exact valid.metaTable

omit admissible in
theorem groupWrites_blind
    (distinct : (batch.map fun tx => tx.ref.txId).Nodup) (dead : Invalidated) :
    groupWrites (batch.map fun tx => tx.ref.txId)
        (TransactionToWrites.without (entriesById blindEntries batch) dead) =
      batch.flatMap fun tx =>
        if live dead tx then
          (preparedNamespaces tx).flatMap blindEntries
        else
          [] := by
  apply groupWrites_without
  · intro tx mem
    exact entriesById_of_mem distinct mem blindEntries
  · intro tx _ invalid
    rw [preparedNamespaces_of_invalid invalid]
    rfl

omit admissible in
theorem invalidate_listed {conflicts : List (Bytes × Read)}
    (listed : ∀ entry ∈ conflicts, entry ∈ (indexOf (batchEvents batch)).1) :
    invalidateTxsOnReadConflicts (.ofPrepared (preparedForm batch)) conflicts =
      some
        (masked (.ofPrepared (preparedForm batch))
          (kill
            (conflicts.flatMap fun conflict =>
              (indexOf (batchEvents batch)).2 (newCmpRead conflict.1 conflict.2))
            .abortedMvccConflict fun _ => none)) := by
  have readers :
      ∀ conflict ∈ conflicts,
        (ValidatedTransactions.ofPrepared (preparedForm batch)).readToTxIDs
          (newCmpRead conflict.1 conflict.2) ≠ [] := by
    intro conflict mem
    obtain ⟨event, eventMem, _, eq⟩ := listed_indexOf (listed conflict mem)
    have reader :
        event.id ∈ (indexOf (batchEvents batch)).2 (newCmpRead conflict.1 conflict.2) := by
      refine mem_readers_indexOf.mpr ⟨event, eventMem, ?_, rfl⟩
      rw [← eq]
      rfl
    exact ne_nil_of_mem reader
  have invalidated := invalidateTxsOnReadConflicts_masked (fun _ => none) readers
  exact invalidated

include admissible valid namespaces

theorem readsServed : ReadsServed db (preparedForm batch).nsToReads where
  tables := by
    intro entry mem
    obtain ⟨event, eventMem, _, eq⟩ := listed_indexOf mem
    obtain ⟨tx, inBatch, inside⟩ := mem_batchEvents.mp eventMem
    rw [← eq]
    exact readTable_of_mem_txEvents valid (namespaces tx inBatch) inside
  fits := by
    intro entry mem
    obtain ⟨event, eventMem, _, eq⟩ := listed_indexOf mem
    obtain ⟨tx, inBatch, inside⟩ := mem_batchEvents.mp eventMem
    rw [← eq]
    exact fits_of_mem_txEvents admissible inBatch inside

theorem validate_eq (unhidden : Unhidden db batch) (attempts : Nat) :
    ∃ dead,
      validate codec attempts db (preparedForm batch) =
          some (masked (.ofPrepared (preparedForm batch)) dead, db) ∧
        Screened db batch dead := by
  obtain ⟨conflicts, validated, conflictsIff⟩ :=
    validateReads_eq (readsServed admissible valid namespaces)
  have listed : ∀ entry ∈ conflicts, entry ∈ (indexOf (batchEvents batch)).1 :=
    fun entry mem => ((conflictsIff entry).mp mem).1
  have screened :=
    screened_of_conflicts admissible
      (fun entry inIndex tx _ _ _ => by
        rw [conflictsIff]
        exact and_iff_right inIndex)
      listed unhidden
  have invalidated := invalidate_listed listed
  refine ⟨_, ?_, screened⟩
  rw [validate, validated]
  simp only [invalidated]
  rw [rejectSnapshot_masked codec admissible.plainBatch]
  rfl

omit valid in
theorem populate_eq (dead : Invalidated) :
    ∃ state,
      populateVersionsAndCategorizeBlindWrites db
          (masked (.ofPrepared (preparedForm batch)) dead) =
          some (view state batch dead) ∧
        ∀ tx ∈ batch, live dead tx = true →
          ∀ entry ∈ txBlinds tx,
            state entry.nsId entry.key = queriedVersion db entry.nsId entry.key := by
  have tables :
      ∀ entry ∈ batch.flatMap (fun tx =>
          if live dead tx then
            (preparedNamespaces tx).flatMap blindEntries
          else
            []),
        db.hasTable entry.nsId = true := by
    intro entry mem
    obtain ⟨tx, inBatch, _, inside⟩ := (mem_flatMap_live dead).mp mem
    obtain ⟨ns, nsMem, blind⟩ := mem_flatMap.mp inside
    obtain ⟨w, _, eq⟩ := mem_map.mp blind
    rw [← eq]
    exact namespaces tx inBatch ns nsMem
  obtain ⟨state, found, versions⟩ := queryBlindVersions_eq tables
  refine ⟨state, ?_, ?_⟩
  · change
      (queryBlindVersions db
          (groupWrites (batch.map fun tx => tx.ref.txId)
            (TransactionToWrites.without (entriesById blindEntries batch) dead))).map _ = _
    rw [groupWrites_blind admissible.distinct, found, Option.map_some, categorizeBlindWrites_masked]
    rfl
  · intro tx mem alive entry inside
    apply versions
    refine (mem_flatMap_live dead).mpr ⟨tx, mem, alive, ?_⟩
    rw [preparedNamespaces_of_valid (live_iff.mp alive).2]
    exact inside

end

section

variable (codec : SnapshotCodec) {db : Database} {batch : List VcTx}
  {state : Bytes → Bytes → Option UInt64} {dead : Invalidated}
  {reads : List (Bytes × Read)}

/-- Invalidating the transactions that expect existing keys to be absent is
right for the unrecorded ones. -/
theorem Judged.kill_conflicts (admissible : Admissible batch) (judged : Judged db batch state dead)
    (present : ∀ read ∈ reads, read.2.version = none ∧ (db.row read.1 read.2.key).isSome = true) :
    Judged db batch state
      (kill
        (reads.flatMap fun read => (indexOf (batchEvents batch)).2 (newCmpRead read.1 read.2))
        .abortedMvccConflict dead) where
  sound := by
    apply sound_kill_readers admissible judged.sound
    intro read mem tx inBatch _ event eventMem sameCmp
    obtain ⟨noVersion, stored⟩ := present read mem
    obtain ⟨sameNs, sameRead⟩ :=
      newCmpRead_injective
        (fits_of_mem_txEvents admissible inBatch eventMem)
        (by rw [noVersion]; rfl) sameCmp
    rw [sameNs, sameRead, readMismatch, noVersion]
    cases row : db.row read.1 read.2.key with
    | none =>
      rw [row] at stored
      cases stored
    | some found => rfl
  complete := fun tx mem unrecorded alive =>
    judged.complete tx mem unrecorded (live_of_live_kill alive).1
  resolved := fun tx mem unrecorded alive =>
    judged.resolved tx mem unrecorded (live_of_live_kill alive).1

/-- The statuses and the database of a batch whose transactions are processed
together. -/
def batchResult (db : Database) (batch : List VcTx) :
    Option (List TxStatus × Option CheckpointFeedback × Database) :=
  if ∀ tx ∈ batch, Storable db tx then
    some
      (batch.map fun tx => ⟨tx.ref, outcome db tx⟩, none,
        db.apply (Effects.concat (batch.map (effectsOf db))))
  else
    none

theorem txStatus_batch_of_nothing (admissible : Admissible batch) (mem : tx ∈ batch)
    (nothing : recordedStatuses db tx = []) :
    (db.apply (Effects.concat (batch.map (effectsOf db)))).txStatus tx.ref.txId =
      db.txStatus tx.ref.txId := by
  rw [Database.txStatus_apply]
  apply overlay_of_not_mem
  intro recorded
  obtain ⟨entry, entryMem, sameId⟩ := mem_map.mp recorded
  rw [concat_effectsOf] at entryMem
  obtain ⟨other, otherMem, inside⟩ := mem_flatMap.mp entryMem
  have otherId : entry.1 = other.ref.txId := statusIds_effectsOf db other _ (mem_map_of_mem inside)
  have same := inj_on_of_nodup_map admissible.distinct otherMem mem (otherId.symm.trans sameId)
  rw [same, nothing] at inside
  cases inside

theorem correctedStatus_eq (admissible : Admissible batch) (judged : Judged db batch state dead)
    (settled : Settled db batch dead)
    (absent :
      ∀ tx ∈ batch, live dead tx = true →
        ∀ entry ∈ txExpectedAbsent tx, db.row entry.nsId entry.key = none) :
    setCorrectStatusForDuplicateTxID
        (db.apply (Effects.concat (batch.map (effectsOf db))))
        (prepareStatusForCommit (view state batch dead))
        (view state batch dead).txIDToHeight =
      batch.map fun tx => ⟨tx.ref, outcome db tx⟩ := by
  rw [setCorrectStatusForDuplicateTxID,
    prepareStatusForCommit_view state dead admissible.distinct admissible.writes, map_map]
  apply map_congr_left
  intro tx mem
  simp only [Function.comp_apply, txIDToHeight_view state dead admissible.distinct mem]
  cases recorded : db.txStatus tx.ref.txId with
  | none =>
    have status := statusIn_eq_outcome judged settled absent mem recorded
    rw [status]
    split
    · rename_i duplicate
      have nothing : recordedStatuses db tx = [] := by
        rw [recordedStatuses, if_pos (Or.inr duplicate)]
      rw [txStatus_batch_of_nothing admissible mem nothing, recorded]
    · rfl
  | some stored =>
    have isRecorded : (db.txStatus tx.ref.txId).isSome = true := by
      rw [recorded]
      rfl
    have nothing : recordedStatuses db tx = [] := by
      rw [recordedStatuses, if_pos (Or.inl isRecorded)]
    have duplicate := settled tx mem isRecorded
    rw [if_pos duplicate,
      txStatus_batch_of_nothing admissible mem nothing, recorded, outcome,
      recorded]
    obtain ⟨status, storedHeight⟩ := stored
    by_cases sameHeight : storedHeight = tx.ref.height
    · simp only [sameHeight, if_true]
      rfl
    · have different : some tx.ref.height ≠ some storedHeight := fun same =>
        sameHeight (Option.some.inj same).symm
      simp only [if_neg different, if_neg sameHeight, duplicate]

theorem commitLoop_fresh (admissible : Admissible batch) (offered : Offered db batch)
    (judged : Judged db batch state dead) (settled : Settled db batch dead)
    (absent :
      ∀ tx ∈ batch, live dead tx = true →
        ∀ entry ∈ txExpectedAbsent tx, db.row entry.nsId entry.key = none) (retries : Nat) :
    commitLoop codec db (retries + 1) (view state batch dead) = batchResult db batch := by
  rw [commitLoop, attempt_fresh admissible offered judged settled absent codec, batchResult]
  by_cases storable : ∀ tx ∈ batch, Storable db tx
  · rw [if_pos storable, if_pos storable]
    simp only [correctedStatus_eq admissible judged settled absent]
    rfl
  · rw [if_neg storable, if_neg storable]

section

variable (independent : batch.Pairwise Independent)

theorem mem_readKeys_of_event (mem : event ∈ txEvents tx) :
    (event.nsId, event.read.key) ∈ readKeys tx :=
  mem_map_of_mem
    (f := fun entry : Bytes × Read => (entry.1, entry.2.key))
    (mem_txReads_of_event mem)

theorem mem_writeKeys_of_expectedAbsent
    (unspoiled : tx.prelimInvalidTxStatus = none) (mem : entry ∈ txExpectedAbsent tx) :
    (entry.nsId, entry.key) ∈ writeKeys tx :=
  pair_of_mem_txNews (fun _ _ => none) unspoiled (mem_txNews_of_expectedAbsent unspoiled mem)

theorem event_of_expectedAbsent
    (unspoiled : tx.prelimInvalidTxStatus = none) (mem : entry ∈ txExpectedAbsent tx) :
    ∃ event ∈ txEvents tx, event.cmp = newCmpRead entry.nsId ⟨entry.key, none⟩ := by
  obtain ⟨ns, nsMem, inside⟩ := mem_flatMap.mp mem
  obtain ⟨rw, rwMem, eq⟩ := mem_filterMap.mp inside
  refine ⟨_, mem_txEvents_readWrite unspoiled nsMem rwMem, ?_⟩
  split at eq
  · cases eq
  · rename_i noVersion
    rw [← Option.some.inj eq, ReadEvent.cmp, readOf, noVersion]

include independent

/-- In a batch of independent transactions only the transaction that writes a
key reads it. -/
theorem reader_eq_writer {writer : VcTx} (mem : tx ∈ batch) (writerMem : writer ∈ batch)
    (eventMem : event ∈ txEvents tx) (written : (event.nsId, event.read.key) ∈ writeKeys writer) :
    tx = writer := by
  have symmetric : Std.Symm Independent := ⟨fun _ _ => Independent.symm⟩
  by_contra different
  exact
    (independent.forall mem writerMem different).readByFirst _ written
      (mem_readKeys_of_event eventMem)

omit independent in
theorem invalidateTxsOnReadConflicts_view {conflicts : List (Bytes × Read)}
    (readers :
      ∀ conflict ∈ conflicts,
        (indexOf (batchEvents batch)).2 (newCmpRead conflict.1 conflict.2) ≠ []) :
    invalidateTxsOnReadConflicts (view state batch dead) conflicts =
      some
        (view state batch
          (kill
            (conflicts.flatMap fun conflict =>
              (indexOf (batchEvents batch)).2 (newCmpRead conflict.1 conflict.2))
            .abortedMvccConflict dead)) :=
  invalidateTxsOnReadConflicts_masked dead readers

omit independent in
theorem readers_of_conflicts
    (expected :
      ∀ read ∈ reads,
        ∃ tx ∈ batch, live dead tx = true ∧
          ∃ entry ∈ txExpectedAbsent tx,
            read = (entry.nsId, ⟨entry.key, none⟩) ∧ (db.row entry.nsId entry.key).isSome = true) :
    ∀ read ∈ reads, (indexOf (batchEvents batch)).2 (newCmpRead read.1 read.2) ≠ [] := by
  intro read inside
  obtain ⟨tx, mem, alive, entry, entryMem, same, _⟩ := expected read inside
  obtain ⟨event, eventMem, sameCmp⟩ := event_of_expectedAbsent (live_iff.mp alive).2 entryMem
  rw [same]
  exact ne_nil_of_mem (mem_readers.mpr ⟨tx, mem, rfl, event, eventMem, sameCmp⟩)

theorem Settled.kill_conflicts (admissible : Admissible batch) (settled : Settled db batch dead)
    (expected :
      ∀ read ∈ reads,
        ∃ tx ∈ batch, live dead tx = true ∧
          ∃ entry ∈ txExpectedAbsent tx,
            read = (entry.nsId, ⟨entry.key, none⟩) ∧ (db.row entry.nsId entry.key).isSome = true) :
    Settled db batch
      (kill
        (reads.flatMap fun read => (indexOf (batchEvents batch)).2 (newCmpRead read.1 read.2))
        .abortedMvccConflict dead) := by
  intro tx mem recorded
  have spared :
      tx.ref.txId ∉
        reads.flatMap fun read => (indexOf (batchEvents batch)).2 (newCmpRead read.1 read.2) := by
    intro killed
    obtain ⟨read, inside, reader⟩ := mem_flatMap.mp killed
    obtain ⟨owner, ownerMem, sameId, event, eventMem, sameCmp⟩ := mem_readers.mp reader
    have sameTx := inj_on_of_nodup_map admissible.distinct ownerMem mem sameId
    subst sameTx
    obtain ⟨writer, writerMem, alive, entry, entryMem, same, _⟩ := expected read inside
    rw [same] at sameCmp
    obtain ⟨sameNs, sameRead⟩ :=
      newCmpRead_injective (fits_of_mem_txEvents admissible ownerMem eventMem) rfl sameCmp
    have written : (event.nsId, event.read.key) ∈ writeKeys writer := by
      rw [sameNs, sameRead]
      exact mem_writeKeys_of_expectedAbsent (live_iff.mp alive).2 entryMem
    have equal := reader_eq_writer independent ownerMem writerMem eventMem written
    rw [equal, settled.unrecorded_of_live writerMem alive] at recorded
    cases recorded
  have before := settled tx mem recorded
  rw [statusIn] at before ⊢
  rw [kill_of_not_mem spared]
  exact before

theorem commitLoop_settled (admissible : Admissible batch) (offered : Offered db batch)
    (judged : Judged db batch state dead) (settled : Settled db batch dead) (retries : Nat) :
    commitLoop codec db (retries + 2) (view state batch dead) = batchResult db batch := by
  by_cases existing :
      ∃ tx ∈ batch, live dead tx = true ∧
        ∃ entry ∈ txExpectedAbsent tx, (db.row entry.nsId entry.key).isSome = true
  · obtain ⟨tx, mem, alive, entry, expected, present⟩ := existing
    obtain ⟨reads, attempted, readsIff⟩ :=
      attempt_conflicts codec admissible offered judged settled mem alive expected present
    have sources := fun read inside => (readsIff read).mp inside
    have stored :
        ∀ read ∈ reads, read.2.version = none ∧ (db.row read.1 read.2.key).isSome = true := by
      intro read inside
      obtain ⟨_, _, _, source, _, same, found⟩ := sources read inside
      rw [same]
      exact ⟨rfl, found⟩
    rw [commitLoop, attempted]
    simp only [invalidateTxsOnReadConflicts_view (readers_of_conflicts sources)]
    apply
      commitLoop_fresh codec admissible offered
        (judged.kill_conflicts admissible stored)
        (settled.kill_conflicts independent admissible sources)
    intro liveTx liveMem stillAlive source sourceExpected
    obtain ⟨wasAlive, spared⟩ := live_of_live_kill stillAlive
    by_contra found
    apply spared
    obtain ⟨event, eventMem, sameCmp⟩ :=
      event_of_expectedAbsent (live_iff.mp wasAlive).2 sourceExpected
    refine mem_flatMap.mpr ⟨(source.nsId, ⟨source.key, none⟩), ?_, ?_⟩
    · rw [readsIff]
      exact
        ⟨liveTx, liveMem, wasAlive, source, sourceExpected, rfl,
          Option.isSome_iff_ne_none.mpr found⟩
    · exact mem_readers.mpr ⟨liveTx, liveMem, rfl, event, eventMem, sameCmp⟩
  · apply commitLoop_fresh codec admissible offered judged settled
    intro tx mem alive entry expected
    by_contra found
    exact existing ⟨tx, mem, alive, entry, expected, Option.isSome_iff_ne_none.mpr found⟩

theorem commitLoop_eq (admissible : Admissible batch) (offered : Offered db batch)
    (judged : Judged db batch state dead) (retries : Nat) :
    commitLoop codec db (retries + 3) (view state batch dead) = batchResult db batch := by
  by_cases unmarked :
      ∃ tx ∈ batch, (db.txStatus tx.ref.txId).isSome = true ∧
        statusIn dead tx ≠ .rejectedDuplicateTxId
  · obtain ⟨tx, mem, recorded, status⟩ := unmarked
    obtain ⟨txIDs, attempted, marked⟩ := attempt_duplicates codec admissible mem recorded status
    have recordedIDs : ∀ id ∈ txIDs, (db.txStatus id).isSome = true := by
      intro id inside
      obtain ⟨other, _, sameId, _, stored⟩ := (marked id).mp inside
      rw [← sameId]
      exact stored
    rw [commitLoop, attempted]
    simp only [view, updateInvalidTxs_masked]
    exact
      commitLoop_settled codec independent admissible offered
        (judged.kill_recorded recordedIDs _) (settled_kill marked) retries
  · apply commitLoop_settled codec independent admissible offered judged
    intro tx mem recorded
    by_contra status
    exact unmarked ⟨tx, mem, recorded, status⟩

end

end

/-- Processing a batch of independent plain transactions gives every
transaction its outcome and has all their effects, unless a row cannot be
stored. -/
theorem processBatch_of_independent (codec : SnapshotCodec) (attempts : Nat) {db : Database}
    {batch : List VcTx} (admissible : Admissible batch) (valid : db.Valid)
    (namespaces : ∀ tx ∈ batch, NamespacesExist db tx) (independent : batch.Pairwise Independent) :
    processBatch codec attempts db batch = batchResult db batch := by
  have unhidden : Unhidden db batch := by
    intro tx mem _ event eventMem validated hiddenRead
    exfalso
    obtain ⟨other, first, unvalidated⟩ := hidden_iff.mp hiddenRead
    obtain ⟨otherMem, sameCmp⟩ := mem_of_firstEvent first
    obtain ⟨writer, writerMem, inside⟩ := mem_batchEvents.mp otherMem
    obtain ⟨sameNs, sameRead⟩ := same_read_of_cmp admissible writerMem mem inside eventMem sameCmp
    obtain ⟨ns, nsMem, rw, rwMem, noVersion, otherNs, otherRead⟩ :=
      unvalidated_event inside unvalidated
    have writerValid := valid_of_mem_txEvents inside
    rw [preparedNamespaces_of_valid writerValid] at nsMem
    have writes :=
      mem_writeKeys_of_expectedAbsent writerValid (mem_txExpectedAbsent nsMem rwMem noVersion)
    have equal : tx = writer := by
      apply reader_eq_writer independent mem writerMem eventMem
      rw [← sameNs, ← sameRead, otherNs, otherRead]
      exact writes
    subst equal
    exact
      (admissible.plain tx mem writerValid).apart event eventMem
        validated other inside unvalidated sameCmp.symm
  obtain ⟨dead, validated, screened⟩ :=
    validate_eq codec admissible valid namespaces unhidden attempts
  obtain ⟨state, populated, resolved⟩ := populate_eq admissible namespaces dead
  have judged : Judged db batch state dead :=
    { screened with
      resolved := fun tx mem _ alive => resolved tx mem alive }
  rw [processBatch, prepare_eq codec admissible.plainBatch]
  simp only [validated, commitTransactions, populated,
    createSnapshot_view codec admissible.plainBatch]
  exact
    commitLoop_eq codec independent admissible
      { Served.of_independent namespaces independent with valid := valid } judged
      1021

end FabricXCommitter.VC
