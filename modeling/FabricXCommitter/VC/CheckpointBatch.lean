import FabricXCommitter.DependencyGraph.Detector
import FabricXCommitter.VC.SnapshotCommit

/-!
# Checkpoint transactions in one batch

The preparer admits one, but the dependency graph lets several pass together.
-/

namespace FabricXCommitter.VC

open Library Sidecar List Option

variable {tx : VcTx} {platform : Platform} {codec : SnapshotCodec} {p : PreparedTransactions}
  {batch : List VcTx} {cp : CheckpointTx} {v : ValidatedTransactions} {after : Database}

def isCheckpoint (tx : VcTx) : Bool :=
  tx.prelimInvalidTxStatus.isNone && tx.namespaces.any fun ns => ns.nsId == checkpointNamespaceID

def namedBlock (tx : VcTx) : Option UInt64 :=
  if isCheckpoint tx then
    (tx.namespaces.flatMap TxNamespace.readWrites).head?.bind fun rw =>
      blockNumFromCheckpointKey rw.key
  else
    none

theorem isCheckpoint_iff (tx : VcTx) :
    isCheckpoint tx = true ↔
      tx.prelimInvalidTxStatus = none ∧ ∃ ns ∈ tx.namespaces, ns.nsId = checkpointNamespaceID := by
  simp [isCheckpoint]

theorem isCheckpoint_of_namedBlock {blockNum : UInt64} (named : namedBlock tx = some blockNum) :
    isCheckpoint tx = true := by
  rw [namedBlock] at named
  split at named
  · assumption
  · cases named

/-- What the preparer makes of a checkpoint transaction. -/
structure CheckpointFields
    (codec : SnapshotCodec) (tx : VcTx) (key value : Bytes) (blockNum : UInt64) : Prop where
  named : namedBlock tx = some blockNum
  decoded : blockNumFromCheckpointKey key = some blockNum
  validValue : isValidCheckpointValue value = true
  news :
    (preparedNamespaces (expandTx codec tx)).flatMap newEntries =
      [⟨checkpointNamespaceID, key, value, 0⟩]
  updates : (preparedNamespaces (expandTx codec tx)).flatMap updateEntries = []
  blinds : (preparedNamespaces (expandTx codec tx)).flatMap blindEntries = []
  events :
    expandedTxEvents (expandTx codec tx) =
      [⟨tx.ref.txId, checkpointNamespaceID, ⟨key, none⟩, false⟩]

theorem Submitted.checkpointFields (submitted : Submitted platform tx)
    (checkpoint : isCheckpoint tx = true) (codec : SnapshotCodec) :
    ∃ key value blockNum, CheckpointFields codec tx key value blockNum := by
  obtain ⟨unspoiled, ns, mem, isNs⟩ := (isCheckpoint_iff tx).mp checkpoint
  obtain ⟨alone, noReads, noBlinds, key, value, blockNum, readWrites, decoded,
    validValue⟩ := submitted.checkpointForm unspoiled mem isNs
  have all : preparedNamespaces (expandTx codec tx) = [ns] :=
    (submitted.checkpointEntries codec unspoiled mem isNs).1
  have notSnapshot : ns.nsId ≠ snapshotNamespaceID := by
    rw [isNs]
    decide
  have noVersionRead : versionRead checkpointNamespaceID ns.nsVersion = none := rfl
  refine
    ⟨key, value, blockNum,
      { named := ?_
        decoded := decoded
        validValue := validValue
        news := ?_
        updates := ?_
        blinds := ?_
        events := ?_ }⟩
  · rw [namedBlock, if_pos checkpoint, alone, flatMap_singleton, readWrites]
    exact decoded
  · rw [all, flatMap_singleton, newEntries, readWrites, isNs]
    rfl
  · rw [all, flatMap_singleton, updateEntries, readWrites]
    rfl
  · rw [all, flatMap_singleton, blindEntries, noBlinds]
    rfl
  · rw [expandedTxEvents, all, flatMap_singleton, expandedEvents,
      if_neg notSnapshot, namespaceEvents, noReads, readWrites, isNs,
      noVersionRead]
    rfl

theorem not_checkpoint_entry (other : isCheckpoint tx = false) {entry : WriteEntry}
    (mem : entry ∈ (preparedNamespaces (expandTx codec tx)).flatMap newEntries) :
    entry.nsId ≠ checkpointNamespaceID := by
  intro inNamespace
  obtain ⟨ns, nsMem, inside⟩ := mem_flatMap.mp mem
  rw [preparedNamespaces] at nsMem
  split at nsMem
  · rename_i unspoiled
    obtain ⟨source, isSource, same⟩ := List.mem_map.mp nsMem
    subst same
    have isNs : source.nsId = checkpointNamespaceID := by
      rw [← nsId_expandNamespace codec tx.ref source, ← nsId_of_mem_newEntries _ entry inside]
      exact inNamespace
    have checkpoint :=
      (isCheckpoint_iff tx).mpr ⟨isNone_iff_eq_none.mp unspoiled, source, isSource, isNs⟩
    rw [other] at checkpoint
    cases checkpoint
  · cases nsMem

theorem unvalidated_of_checkpoint (submitted : Submitted platform tx) {event : ReadEvent}
    (mem : event ∈ expandedTxEvents (expandTx codec tx))
    (inNamespace : event.nsId = checkpointNamespaceID) :
    event.validated = false := by
  have checkpoint : isCheckpoint tx = true := by
    obtain ⟨ns, nsMem, inside⟩ := mem_flatMap.mp mem
    rw [preparedNamespaces] at nsMem
    split at nsMem
    · rename_i unspoiled
      obtain ⟨source, isSource, same⟩ := List.mem_map.mp nsMem
      subst same
      rw [isCheckpoint_iff]
      refine ⟨isNone_iff_eq_none.mp unspoiled, source, isSource, ?_⟩
      by_cases isSnapshot : source.nsId = snapshotNamespaceID
      · rw [expandNamespace, if_pos isSnapshot, expandedEvents, if_pos rfl] at inside
        rw [mem_singleton.mp inside] at inNamespace
        change snapshotNamespaceID = checkpointNamespaceID at inNamespace
        exact absurd inNamespace (by decide)
      · rw [expandNamespace, if_neg isSnapshot, expandedEvents, if_neg isSnapshot] at inside
        rcases namespace_of_event inside with own | isConfig | isMeta
        · exact own.symm.trans inNamespace
        · exact absurd (isConfig.symm.trans inNamespace) (by decide)
        · exact absurd (isMeta.symm.trans inNamespace) (by decide)
    · cases nsMem
  obtain ⟨key, value, blockNum, fields⟩ := submitted.checkpointFields checkpoint codec
  rw [fields.events] at mem
  rw [mem_singleton.mp mem]

/-- The entry of a transaction that the loop over the new writes meets. -/
def Marked (p : PreparedTransactions) (tx : VcTx) : Prop :=
  if isCheckpoint tx then
    ∃ write blockNum height,
      firstWriteIn checkpointNamespaceID (p.txIDToNsNewWrites tx.ref.txId) = some write ∧
        blockNumFromCheckpointKey write.key = some blockNum ∧
          isValidCheckpointValue write.value = true ∧ p.txIDToHeight tx.ref.txId = some height
  else
    firstWriteIn checkpointNamespaceID (p.txIDToNsNewWrites tx.ref.txId) = none

theorem checkpointStep_other
    (marked : Marked p tx) (other : isCheckpoint tx = false) (cp : Option CheckpointTx) :
    checkpointStep p cp tx.ref.txId = some cp := by
  rw [Marked, other] at marked
  rw [checkpointStep, show firstWriteIn _ _ = none from marked]

theorem checkpointStep_first (marked : Marked p tx) (checkpoint : isCheckpoint tx = true) :
    ∃ found, checkpointStep p none tx.ref.txId = some (some found) := by
  rw [Marked, if_pos checkpoint] at marked
  obtain ⟨write, blockNum, height, isWrite, decoded, valid, known⟩ := marked
  simp [checkpointStep, isWrite, decoded, valid, known]

theorem checkpointStep_second
    (marked : Marked p tx) (checkpoint : isCheckpoint tx = true) (found : CheckpointTx) :
    checkpointStep p (some found) tx.ref.txId = none := by
  rw [Marked, if_pos checkpoint] at marked
  obtain ⟨write, blockNum, height, isWrite, decoded, valid, _⟩ := marked
  simp [checkpointStep, isWrite, decoded, valid]

theorem checkpointLoop_isSome_iff
    {txs : List VcTx} (marked : ∀ tx ∈ txs, Marked p tx) (cp : Option CheckpointTx) :
    ((txs.map fun tx => tx.ref.txId).foldlM (checkpointStep p) cp).isSome = true ↔
      cp.toList.length + txs.countP isCheckpoint ≤ 1 := by
  induction txs generalizing cp with
  | nil => cases cp <;> simp
  | cons tx rest ih =>
    obtain ⟨first, later⟩ := forall_mem_cons.mp marked
    rw [map_cons, foldlM_cons]
    cases checkpoint : isCheckpoint tx with
    | false =>
      rw [checkpointStep_other first checkpoint, countP_cons_of_neg (by simp [checkpoint])]
      exact ih later cp
    | true =>
      rw [countP_cons_of_pos checkpoint]
      cases cp with
      | none =>
        obtain ⟨found, stepped⟩ := checkpointStep_first first checkpoint
        have continued := ih later (some found)
        simp only [toList_some, toList_none, length_singleton, length_nil] at continued ⊢
        rw [stepped]
        change Option.isSome (List.foldlM _ _ _) = true ↔ _
        rw [continued]
        omega
      | some found =>
        rw [checkpointStep_second first checkpoint]
        simp

theorem marked_expandedForm (submitted : ∀ tx ∈ batch, Submitted platform tx)
    (distinct : (batch.map fun tx => tx.ref.txId).Nodup) {tx : VcTx} (mem : tx ∈ batch) :
    Marked (expandedForm (batch.map (expandTx codec))) tx := by
  have expandedDistinct : ((batch.map (expandTx codec)).map fun tx => tx.ref.txId).Nodup := by
    rw [List.map_map]
    exact distinct
  have news :
      (expandedForm (batch.map (expandTx codec))).txIDToNsNewWrites tx.ref.txId =
        (preparedNamespaces (expandTx codec tx)).flatMap newEntries :=
    entriesById_of_mem expandedDistinct (List.mem_map_of_mem mem) newEntries
  rw [Marked, news]
  split
  · rename_i checkpoint
    obtain ⟨key, value, blockNum, fields⟩ := (submitted tx mem).checkpointFields checkpoint codec
    have known := txOfId_of_mem distinct mem
    refine
      ⟨⟨checkpointNamespaceID, key, value, 0⟩, blockNum, tx.ref.height, ?_,
        fields.decoded, fields.validValue, ?_⟩
    · rw [fields.news]
      rfl
    · simp [expandedForm, preparedForm, txOfId_map_expandTx, known]
  · rename_i other
    apply find?_eq_none.mpr
    intro entry inside
    have outside := not_checkpoint_entry (Bool.eq_false_iff.mpr other) inside
    simpa using outside

theorem prepare_isSome_iff
    (codec : SnapshotCodec) (submitted : ∀ tx ∈ batch, Submitted platform tx) :
    (prepare codec batch).isSome = true ↔ (firstCopies batch).countP isCheckpoint ≤ 1 := by
  have marked :
      ∀ tx ∈ firstCopies batch,
        Marked (expandedForm ((firstCopies batch).map (expandTx codec))) tx := by
    intro tx mem
    exact
      marked_expandedForm
        (fun tx mem => submitted tx (firstCopies_subset mem))
        (firstCopies_distinct batch) mem
  have ids :
      (expandedForm ((firstCopies batch).map (expandTx codec))).txIDs =
        (firstCopies batch).map fun tx => tx.ref.txId :=
    List.map_map
  have loop := checkpointLoop_isSome_iff marked none
  rw [prepare, foldl_prepareTx, isSome_map, checkpointWriteInBatch_eq, ids, loop]
  simp

/-! ## The verdict on a checkpoint -/

/-- The latest snapshot record names the block and is not closed. -/
def OpenSnapshot (codec : SnapshotCodec) (db : Database) (blockNum : UInt64) : Prop :=
  ∃ state, readLatest codec db = some (some state) ∧
    state.txRef.map TxRef.blockNum = some blockNum ∧
      state.status ≠ .checkpointed ∧ state.status ≠ .aborted

section

variable {codec : SnapshotCodec} {db : Database}

theorem verifyCheckpoint_unmatched (readable : readLatest codec db ≠ none)
    (unmatched : ¬ OpenSnapshot codec db cp.snapshotBlockNum) (attempts : Nat) :
    verifyCheckpoint codec (attempts + 1) db cp =
      some (⟨.rejectedCheckpointNoSuchSnapshot, none⟩, db) := by
  rw [verifyCheckpoint]
  split
  · rename_i unreadable
    exact absurd unreadable readable
  · rfl
  · rename_i state isLatest
    split
    · rfl
    · rename_i ref isRef
      split
      · rfl
      · rename_i sameBlock
        split
        · rfl
        · rename_i notClosed
          rw [not_or] at notClosed
          refine absurd ⟨state, isLatest, ?_, notClosed⟩ unmatched
          rw [isRef]
          exact congrArg some (not_not.mp sameBlock)

theorem readable_of_verifyCheckpoint {attempts : Nat} {verified : CheckpointVerdict × Database}
    (succeeded : verifyCheckpoint codec attempts db cp = some verified) :
    readLatest codec db ≠ none ∧ ∃ fewer, attempts = fewer + 1 := by
  cases attempts with
  | zero => cases succeeded
  | succ fewer =>
    refine ⟨?_, fewer, rfl⟩
    intro unreadable
    rw [verifyCheckpoint, unreadable] at succeeded
    cases succeeded

theorem rejectCheckpoint_unmatched
    (found : v.checkpoint = some cp) (unrecorded : db.txStatus cp.txID = none)
    (readable : readLatest codec db ≠ none)
    (unmatched : ¬ OpenSnapshot codec db cp.snapshotBlockNum) (attempts : Nat) :
    rejectCheckpointIfNotVerified codec (attempts + 1) db v =
      some (updateInvalidTxs v [cp.txID] .rejectedCheckpointNoSuchSnapshot, db) := by
  rw [rejectCheckpointIfNotVerified, found]
  simp [unrecorded, verifyCheckpoint_unmatched readable unmatched]

end

/-! ## A rejected checkpoint keeps its status -/

/-- A transaction that reads checkpoints only and is rejected, in a batch
without a checkpoint to commit. -/
structure TurnedDown
    (batch : List VcTx) (tx : VcTx) (status : Status) (v : ValidatedTransactions) : Prop where
  accounted : Accounted batch v
  noCheckpoint : v.checkpoint = none
  isStatus : v.invalidTxStatus tx.ref.txId = some status
  reads : ReadsCheckpoints v tx.ref.txId

section

variable {codec : SnapshotCodec} {db : Database} {batch : List VcTx}
  {tx : VcTx} {status : Status} {v next : ValidatedTransactions}

theorem reported_of_turnedDown (turnedDown : TurnedDown batch tx status v) :
    reportedStatus v tx.ref.txId = some status := by
  rw [reportedStatus, turnedDown.isStatus]

theorem turnedDown_categorizeBlindWrites
    (turnedDown : TurnedDown batch tx status v) (state : Bytes → Bytes → Option UInt64) :
    TurnedDown batch tx status (categorizeBlindWrites state v) where
  accounted := accounted_categorizeBlindWrites turnedDown.accounted state
  noCheckpoint := turnedDown.noCheckpoint
  isStatus := turnedDown.isStatus
  reads := turnedDown.reads

theorem createSnapshot_other (created : createSnapshotIfPresent codec db v = some (next, after)) :
    next.checkpoint = v.checkpoint ∧
      next.invalidTxStatus = v.invalidTxStatus ∧
        next.readToTxIDs = v.readToTxIDs ∧ after.txStatus = db.txStatus := by
  obtain ⟨⟨names, rfl⟩, rfl | ⟨id, write, value, _, rfl⟩⟩ := createSnapshot_cases created
  · exact ⟨rfl, rfl, rfl, rfl⟩
  · exact ⟨rfl, rfl, rfl, rfl⟩

theorem turnedDown_createSnapshot (turnedDown : TurnedDown batch tx status v)
    (created : createSnapshotIfPresent codec db v = some (next, after)) :
    TurnedDown batch tx status next := by
  obtain ⟨sameCheckpoint, sameStatus, sameReads, _⟩ := createSnapshot_other created
  exact
    { accounted := accounted_createSnapshot turnedDown.accounted created
      noCheckpoint := sameCheckpoint.trans turnedDown.noCheckpoint
      isStatus := by
        rw [sameStatus]
        exact turnedDown.isStatus
      reads := by
        rw [ReadsCheckpoints, sameReads]
        exact turnedDown.reads }

theorem recorded_of_commit_duplicates {states : StatesToBeCommitted} {txIDs : List Bytes}
    (attempted : commit codec db states = some (.duplicates txIDs)) :
    ∀ id ∈ txIDs, (db.txStatus id).isSome = true := by
  obtain ⟨_, recorded, inserted⟩ := commit_eq_duplicates attempted
  rw [insertTxStatus] at inserted
  intro id mem
  split at inserted
  · cases inserted
    cases mem
  obtain ⟨rows, _, same⟩ := map_eq_some_iff.mp inserted
  rw [insertTxStatusRows] at same
  split at same
  · cases same
    cases mem
  · cases same
    exact (mem_filter.mp mem).2

theorem invalidate_other {conflicts : List (Bytes × Read)} {id : Bytes}
    (unread : ∀ conflict ∈ conflicts, id ∉ v.readToTxIDs (newCmpRead conflict.1 conflict.2))
    (invalidated : invalidateTxsOnReadConflicts v conflicts = some next) :
    next.readToTxIDs = v.readToTxIDs ∧
      next.invalidTxStatus id = v.invalidTxStatus id ∧
        (v.checkpoint = none → next.checkpoint = none) := by
  refine
    foldlM_invariant
      (fun current : ValidatedTransactions =>
        current.readToTxIDs = v.readToTxIDs ∧
          current.invalidTxStatus id = v.invalidTxStatus id ∧
            (v.checkpoint = none → current.checkpoint = none))
      ⟨rfl, rfl, fun nothing => nothing⟩ ?_ invalidated
  intro conflict mem current following holds stepped
  obtain ⟨sameReads, sameStatus, kept⟩ := holds
  dsimp only at stepped
  split at stepped
  · cases stepped
  · cases stepped
    refine ⟨sameReads, ?_, ?_⟩
    · rw [← sameStatus]
      apply if_neg
      rw [sameReads]
      exact unread conflict mem
    · intro nothing
      rw [updateInvalidTxs, kept nothing]
      rfl

theorem turnedDown_duplicates (turnedDown : TurnedDown batch tx status v)
    (unrecorded : db.txStatus tx.ref.txId = none) {txIDs : List Bytes}
    (attempted : commit codec db (statesOf v) = some (.duplicates txIDs)) :
    TurnedDown batch tx status (updateInvalidTxs v txIDs .rejectedDuplicateTxId) where
  accounted := accounted_duplicates turnedDown.accounted attempted
  noCheckpoint := by
    rw [updateInvalidTxs, turnedDown.noCheckpoint]
    rfl
  isStatus := by
    rw [← turnedDown.isStatus]
    apply if_neg
    intro inside
    have recorded := recorded_of_commit_duplicates attempted _ inside
    rw [unrecorded] at recorded
    cases recorded
  reads := turnedDown.reads

theorem turnedDown_conflicts
    (turnedDown : TurnedDown batch tx status v) {conflicts : List (Bytes × Read)}
    (attempted : commit codec db (statesOf v) = some (.conflicts conflicts))
    (invalidated : invalidateTxsOnReadConflicts v conflicts = some next) :
    TurnedDown batch tx status next := by
  have unread :=
    turnedDown.accounted.unread_of_conflicts turnedDown.noCheckpoint turnedDown.reads attempted
  obtain ⟨sameReads, sameStatus, kept⟩ := invalidate_other unread invalidated
  exact
    { accounted := accounted_conflicts turnedDown.accounted attempted invalidated
      noCheckpoint := kept turnedDown.noCheckpoint
      isStatus := sameStatus.trans turnedDown.isStatus
      reads := by
        rw [ReadsCheckpoints, sameReads]
        exact turnedDown.reads }

theorem mem_commitLoop_of_turnedDown
    (distinct : (batch.map fun tx => tx.ref.txId).Nodup) (mem : tx ∈ batch)
    (unrecorded : db.txStatus tx.ref.txId = none)
    (notDuplicate : status ≠ .rejectedDuplicateTxId) {retries : Nat}
    {statuses : List TxStatus} {feedback : Option CheckpointFeedback} :
    ∀ {v : ValidatedTransactions}, TurnedDown batch tx status v →
      commitLoop codec db retries v = some (statuses, feedback, after) →
        ⟨tx.ref, status⟩ ∈ statuses := by
  induction retries with
  | zero =>
    intro v _ looped
    cases looped
  | succ retries ih =>
    intro v turnedDown looped
    rw [commitLoop] at looped
    split at looped
    · cases looped
    · cases looped
      exact
        (mem_corrected_iff distinct turnedDown.accounted mem
          (reported_of_turnedDown turnedDown) notDuplicate after status).mpr
          rfl
    · rename_i txIDs attempted
      exact ih (turnedDown_duplicates turnedDown unrecorded attempted) looped
    · rename_i conflicts attempted
      split at looped
      · cases looped
      · rename_i following invalidated
        exact ih (turnedDown_conflicts turnedDown attempted invalidated) looped

theorem mem_commitTransactions_of_turnedDown
    (distinct : (batch.map fun tx => tx.ref.txId).Nodup) (mem : tx ∈ batch)
    (unrecorded : db.txStatus tx.ref.txId = none) (notDuplicate : status ≠ .rejectedDuplicateTxId)
    (turnedDown : TurnedDown batch tx status v)
    {statuses : List TxStatus} {feedback : Option CheckpointFeedback}
    (committed : commitTransactions codec db v = some (statuses, feedback, after)) :
    ⟨tx.ref, status⟩ ∈ statuses := by
  rw [commitTransactions] at committed
  split at committed
  · cases committed
  rename_i resolved populated
  obtain ⟨state, _, same⟩ := map_eq_some_iff.mp populated
  subst same
  split at committed
  · cases committed
  rename_i created current isCreated
  have sameStatuses := (createSnapshot_other isCreated).2.2.2
  apply
    mem_commitLoop_of_turnedDown distinct mem (by rw [sameStatuses, unrecorded])
      notDuplicate _ committed
  exact turnedDown_createSnapshot (turnedDown_categorizeBlindWrites turnedDown state) isCreated

end

/-! ## The validation of a batch with a checkpoint -/

section

variable {platform : Platform} {codec : SnapshotCodec} {attempts : Nat}
  {db : Database} {batch : List VcTx} {p : PreparedTransactions} {tx : VcTx}
  {blockNum : UInt64}
  (submitted : ∀ tx ∈ batch, Submitted platform tx)
  (preparedAs : PreparedAs codec batch p) (mem : tx ∈ batch)
  (named : namedBlock tx = some blockNum)

include submitted preparedAs mem named

theorem prepared_checkpoint :
    ∃ cp, p.checkpoint = some cp ∧ cp.txID = tx.ref.txId ∧
      cp.snapshotBlockNum = blockNum ∧
        ∃ entry, p.txIDToNsNewWrites tx.ref.txId = [entry] ∧
          entry.nsId = checkpointNamespaceID := by
  obtain ⟨key, value, decodedBlock, fields⟩ :=
    (submitted tx mem).checkpointFields (isCheckpoint_of_namedBlock named) codec
  have sameBlock : decodedBlock = blockNum := Option.some.inj (fields.named.symm.trans named)
  have news : p.txIDToNsNewWrites tx.ref.txId = [⟨checkpointNamespaceID, key, value, 0⟩] := by
    rw [preparedAs.news, preparedAs.entries_of_mem _ mem, fields.news]
  have isFirst :
      firstWriteIn checkpointNamespaceID (p.txIDToNsNewWrites tx.ref.txId) =
        some ⟨checkpointNamespaceID, key, value, 0⟩ := by
    rw [news]
    rfl
  have isId : tx.ref.txId ∈ p.txIDs := by
    rw [preparedAs.ids]
    exact List.mem_map_of_mem (f := fun tx : VcTx => tx.ref.txId) mem
  obtain ⟨cp, found, sameId⟩ :=
    preparedAs.checkpoint.writer tx.ref.txId isId (by rw [isFirst]; exact some_ne_none _)
  refine ⟨cp, found, sameId, ?_, _, news, rfl⟩
  obtain ⟨_, _, write, isWrite, decoded, _⟩ := preparedAs.checkpoint.fields cp found
  rw [sameId, isFirst] at isWrite
  cases isWrite
  rw [fields.decoded] at decoded
  rw [← Option.some.inj decoded, sameBlock]

omit preparedAs in
theorem not_refuted_checkpoint : ¬ Refuted codec db batch tx := by
  intro refuted
  obtain ⟨entry, listed, _, event, inside, sameCmp⟩ := refuted
  obtain ⟨key, value, decodedBlock, fields⟩ :=
    (submitted tx mem).checkpointFields (isCheckpoint_of_namedBlock named) codec
  rw [fields.events] at inside
  obtain ⟨source, isSource, validated, isEntry⟩ := listed_indexOf listed
  obtain ⟨expanded, isExpanded, ofExpanded⟩ := mem_flatMap.mp isSource
  obtain ⟨other, otherMem, same⟩ := List.mem_map.mp isExpanded
  subst same
  have sourceNs : source.nsId = checkpointNamespaceID := by
    have sameNs := congrArg CmpRead.nsId sameCmp
    rw [mem_singleton.mp inside, ← isEntry, newCmpRead] at sameNs
    split at sameNs <;> exact sameNs.symm
  rw [unvalidated_of_checkpoint (submitted other otherMem) ofExpanded sourceNs] at validated
  cases validated

theorem checkpoint_rejectSnapshot
    {next : ValidatedTransactions} (found : v.checkpoint = some cp) (isTx : cp.txID = tx.ref.txId)
    (sameNews : v.newWrites tx.ref.txId = p.txIDToNsNewWrites tx.ref.txId)
    (gated : rejectSnapshotIfPriorNotCheckpointed codec db v = some next) :
    next.checkpoint = some cp := by
  obtain ⟨_, _, _, _, entry, news, inNamespace⟩ :=
    prepared_checkpoint submitted preparedAs mem named
  rcases rejectSnapshot_cases gated with rfl | ⟨id, write, status, isRequest, rfl⟩
  · exact found
  · have outside : cp.txID ∉ [id] := by
      intro inside
      have sameId : id = tx.ref.txId := by
        rw [← isTx]
        exact (mem_singleton.mp inside).symm
      rw [loneSnapshotRequest] at isRequest
      split at isRequest
      · obtain ⟨first, isFirst, samePair⟩ := map_eq_some_iff.mp isRequest
        cases samePair
        rw [sameId, sameNews, news] at isFirst
        have inSnapshots : entry.nsId = snapshotNamespaceID := by
          have isEntry := mem_of_find?_eq_some isFirst
          rw [← mem_singleton.mp isEntry]
          exact eq_of_beq (find?_some isFirst :)
        rw [inNamespace] at inSnapshots
        exact absurd inSnapshots (by decide)
      · cases isRequest
    rw [updateInvalidTxs, found, filter_some]
    exact if_pos (decide_eq_true outside)

theorem turnedDown_of_validate
    (unrecorded : db.txStatus tx.ref.txId = none) (unmatched : ¬ OpenSnapshot codec db blockNum)
    (validated : validate codec attempts db p = some (v, after)) :
    TurnedDown batch tx .rejectedCheckpointNoSuchSnapshot v ∧ after = db := by
  obtain ⟨cp, found, isTx, names, _⟩ := prepared_checkpoint submitted preparedAs mem named
  rw [validate] at validated
  split at validated
  · cases validated
  rename_i conflicts compared
  split at validated
  · cases validated
  rename_i first invalidated
  split at validated
  · cases validated
  rename_i second gated
  obtain ⟨dead, isMasked, deadIff⟩ := masked_of_validated preparedAs compared invalidated
  have alive : dead tx.ref.txId = none := by
    cases isDead : dead tx.ref.txId with
    | none => rfl
    | some status =>
      refine absurd ((deadIff tx mem).mp ?_) (not_refuted_checkpoint submitted mem named)
      rw [isDead]
      rfl
  have firstFound : first.checkpoint = some cp := by
    rw [isMasked]
    change Option.filter _ p.checkpoint = _
    rw [found, filter_some, isTx, alive]
    rfl
  have firstNews : first.newWrites tx.ref.txId = p.txIDToNsNewWrites tx.ref.txId := by
    rw [isMasked]
    change (if (dead tx.ref.txId).isSome then [] else _) = _
    rw [alive]
    rfl
  have secondFound :=
    checkpoint_rejectSnapshot submitted preparedAs mem named firstFound isTx firstNews gated
  obtain ⟨firstAccounted, sameFeedback⟩ :=
    accounted_comparedReads (accounted_ofPrepared submitted preparedAs) invalidated
  obtain ⟨secondAccounted, noFeedback⟩ := accounted_rejectSnapshot firstAccounted sameFeedback gated
  have cpUnrecorded : db.txStatus cp.txID = none := by
    rw [isTx]
    exact unrecorded
  have verified : ∃ result, verifyCheckpoint codec attempts db cp = some result := by
    have succeeded := validated
    rw [rejectCheckpointIfNotVerified, secondFound] at succeeded
    dsimp only at succeeded
    rw [cpUnrecorded] at succeeded
    obtain ⟨result, isResult, _⟩ := map_eq_some_iff.mp succeeded
    exact ⟨result, isResult⟩
  obtain ⟨result, isResult⟩ := verified
  obtain ⟨readable, fewer, isSucc⟩ := readable_of_verifyCheckpoint isResult
  subst isSucc
  rw [rejectCheckpoint_unmatched secondFound cpUnrecorded readable
    (by rw [names]; exact unmatched)] at validated
  cases validated
  refine ⟨?_, rfl⟩
  have facts := secondAccounted.checkpoint cp secondFound
  exact
    { accounted := by
        apply accounted_updateInvalidTxs secondAccounted
        intro feedback isFeedback
        rw [noFeedback] at isFeedback
        cases isFeedback
      noCheckpoint := by
        rw [updateInvalidTxs, secondFound, filter_some]
        simp
      isStatus := by
        rw [← isTx]
        exact if_pos (mem_singleton_self cp.txID)
      reads := by
        rw [← isTx]
        exact facts.reads }

end

/-! ## A batch of checkpoints -/

theorem commitTransactions_of_nothing
    {db : Database} (distinct : (batch.map fun tx => tx.ref.txId).Nodup)
    (accounted : Accounted batch v) (noCheckpoint : v.checkpoint = none)
    (noUpdates : ∀ id ∈ v.txIDs, v.validTxNonBlindWrites id = [])
    (noBlinds : ∀ id ∈ v.txIDs, v.validTxBlindWrites id = [])
    (noNews : ∀ id ∈ v.txIDs, v.newWrites id = [])
    (unrecorded : ∀ tx ∈ batch, db.txStatus tx.ref.txId = none) :
    (commitTransactions codec db v).isSome = true := by
  have resolved :
      populateVersionsAndCategorizeBlindWrites db v =
        some (categorizeBlindWrites (fun _ _ => none) v) := by
    rw [populateVersionsAndCategorizeBlindWrites, groupWrites, flatMap_eq_nil_iff.mpr noBlinds]
    rfl
  have stillNoUpdates :
      groupWrites v.txIDs (categorizeBlindWrites (fun _ _ => none) v).validTxNonBlindWrites =
        [] := by
    apply flatMap_eq_nil_iff.mpr
    intro id mem
    simp [categorizeBlindWrites, noUpdates id mem]
  have stillNoNews :
      ∀ id ∈ v.txIDs, (categorizeBlindWrites (fun _ _ => none) v).newWrites id = [] := by
    intro id mem
    simp [categorizeBlindWrites, noNews id mem, noBlinds id mem]
  have noRequest :
      createSnapshotIfPresent codec db (categorizeBlindWrites (fun _ _ => none) v) =
        some (categorizeBlindWrites (fun _ _ => none) v, db) := by
    have noWriters :
        writers (categorizeBlindWrites (fun _ _ => none) v).txIDs
            (categorizeBlindWrites (fun _ _ => none) v).newWrites = [] := by
      apply filter_eq_nil_iff.mpr
      intro id mem
      simp [stillNoNews id mem]
    rw [createSnapshotIfPresent, loneSnapshotRequest, noWriters]
  have attempted :
      ∃ after,
        commit codec db (statesOf (categorizeBlindWrites (fun _ _ => none) v)) =
          some (.committed after) := by
    have settled := accounted_categorizeBlindWrites accounted fun _ _ => none
    cases isEmpty : (statesOf (categorizeBlindWrites (fun _ _ => none) v)).empty with
    | true =>
      rw [commit, if_pos isEmpty]
      exact ⟨db, rfl⟩
    | false =>
      have news : (statesOf (categorizeBlindWrites (fun _ _ => none) v)).newWrites = [] :=
        flatMap_eq_nil_iff.mpr stillNoNews
      have updates : (statesOf (categorizeBlindWrites (fun _ _ => none) v)).updateWrites = [] :=
        stillNoUpdates
      have fresh : Fresh db (statesOf (categorizeBlindWrites (fun _ _ => none) v)) := by
        constructor
        · intro entry mem
          obtain ⟨tx, inBatch, _, _, _, same⟩ := (mem_statusEntries settled).mp mem
          rw [same]
          exact unrecorded tx inBatch
        · rw [news]
          exact
            ⟨fun _ mem => absurd mem not_mem_nil, nodup_nil, fun _ mem => absurd mem not_mem_nil⟩
      rw [commit_fresh_consistent codec
        (consistent_of_accounted distinct settled) noCheckpoint fresh isEmpty,
        updates]
      exact ⟨_, rfl⟩
  obtain ⟨after, committed⟩ := attempted
  simp only [commitTransactions, resolved, noRequest,
    maxRetriesToRemoveAllInvalidTxs, commitLoop, committed, isSome_some]

theorem processBatch_of_checkpoints
    {attempts : Nat} {db : Database} (submitted : ∀ tx ∈ batch, Submitted platform tx)
    (single : (firstCopies batch).countP isCheckpoint ≤ 1)
    (checkpoints : ∀ tx ∈ batch, isCheckpoint tx = true)
    (readable : readLatest codec db ≠ none) {tx : VcTx}
    (mem : tx ∈ firstCopies batch) {blockNum : UInt64} (named : namedBlock tx = some blockNum)
    (unrecorded : db.txStatus tx.ref.txId = none) (unmatched : ¬ OpenSnapshot codec db blockNum) :
    (processBatch codec (attempts + 1) db batch).isSome = true := by
  obtain ⟨p, prepared⟩ := isSome_iff_exists.mp ((prepare_isSome_iff codec submitted).mpr single)
  have preparedAs := preparedAs_of_prepare prepared
  have copiesSubmitted : ∀ tx ∈ firstCopies batch, Submitted platform tx :=
    fun tx mem => submitted tx (firstCopies_subset mem)
  have alone : firstCopies batch = [tx] := by
    have all : (firstCopies batch).countP isCheckpoint = (firstCopies batch).length := by
      apply countP_eq_length.mpr
      intro other otherMem
      exact checkpoints other (firstCopies_subset otherMem)
    rw [all] at single
    obtain ⟨only, isOnly⟩ := length_eq_one_iff.mp (Nat.le_antisymm single (length_pos_of_mem mem))
    rw [isOnly, mem_singleton] at mem
    rw [isOnly, mem]
  obtain ⟨cp, found, isTx, names, entry, news, inNamespace⟩ :=
    prepared_checkpoint copiesSubmitted preparedAs mem named
  obtain ⟨key, value, decodedBlock, fields⟩ :=
    (copiesSubmitted tx mem).checkpointFields (isCheckpoint_of_namedBlock named) codec
  have ids : p.txIDs = [tx.ref.txId] := by
    rw [preparedAs.ids, alone]
    rfl
  have noReads : p.nsToReads = [] := by
    rw [preparedAs.listed, alone, map_singleton, flatMap_singleton, fields.events]
    rfl
  have noRequest :
      rejectSnapshotIfPriorNotCheckpointed codec db (ValidatedTransactions.ofPrepared p) =
        some (.ofPrepared p) := by
    have notFound : loneSnapshotRequest p.txIDs p.txIDToNsNewWrites = none := by
      have different : entry.nsId ≠ snapshotNamespaceID := by
        rw [inNamespace]
        decide
      simp [loneSnapshotRequest, writers, ids, news, firstWriteIn, different]
    have sameIds : (ValidatedTransactions.ofPrepared p).txIDs = p.txIDs := rfl
    have sameNews : (ValidatedTransactions.ofPrepared p).newWrites = p.txIDToNsNewWrites := rfl
    rw [rejectSnapshotIfPriorNotCheckpointed, sameIds, sameNews, notFound]
  have validated :
      validate codec (attempts + 1) db p =
        some
          (updateInvalidTxs (.ofPrepared p) [cp.txID] .rejectedCheckpointNoSuchSnapshot, db) := by
    have compared : validateReads db p.nsToReads = some [] := by
      rw [noReads]
      rfl
    have unchanged :
        invalidateTxsOnReadConflicts (ValidatedTransactions.ofPrepared p) [] =
          some (.ofPrepared p) :=
      rfl
    simp only [validate, compared, unchanged, noRequest]
    exact
      rejectCheckpoint_unmatched (v := .ofPrepared p) found
        (by rw [isTx]; exact unrecorded) readable
        (by rw [names]; exact unmatched) attempts
  have turnedDown :=
    (turnedDown_of_validate copiesSubmitted preparedAs mem named unrecorded unmatched validated).1
  have cleared :
      ∀ writes : TransactionToWrites, ∀ id ∈ p.txIDs, writes.deleteAll [cp.txID] id = [] := by
    intro writes id isId
    rw [ids, ← isTx] at isId
    exact if_pos isId
  rw [processBatch, prepared]
  simp only [validated]
  apply
    commitTransactions_of_nothing (firstCopies_distinct batch)
      turnedDown.accounted turnedDown.noCheckpoint (cleared _) (cleared _)
      (cleared _)
  intro other otherMem
  rw [alone, mem_singleton] at otherMem
  rw [otherMem]
  exact unrecorded

/-! ## Checkpoints of different blocks -/

/-- A batch is prepared, a checkpoint without an open snapshot for its block is
rejected, and a batch of checkpoints is processed for that. -/
structure CheckpointsHandled
    (codec : SnapshotCodec) (attempts : Nat) (batch : List VcTx) : Prop where
  prepared : (prepare codec batch).isSome = true
  rejected :
    ∀ db statuses feedback after,
      processBatch codec attempts db batch = some (statuses, feedback, after) →
        ∀ tx ∈ firstCopies batch, ∀ blockNum,
          namedBlock tx = some blockNum → db.txStatus tx.ref.txId = none →
            ¬ OpenSnapshot codec db blockNum →
              ⟨tx.ref, .rejectedCheckpointNoSuchSnapshot⟩ ∈ statuses
  answered :
    (∀ tx ∈ batch, isCheckpoint tx = true) →
      ∀ db, readLatest codec db ≠ none →
        ∀ tx ∈ firstCopies batch, ∀ blockNum,
          namedBlock tx = some blockNum → db.txStatus tx.ref.txId = none →
            ¬ OpenSnapshot codec db blockNum → (processBatch codec attempts db batch).isSome = true

/-- Checkpoints are handled exactly if at most one of them is in the batch. -/
theorem checkpointsHandled_iff_single {platform : Platform} (codec : SnapshotCodec) (attempts : Nat)
    {batch : List VcTx} (submitted : ∀ tx ∈ batch, Submitted platform tx) :
    CheckpointsHandled codec (attempts + 1) batch ↔
      (firstCopies batch).countP isCheckpoint ≤ 1 := by
  constructor
  · intro handled
    exact (prepare_isSome_iff codec submitted).mp handled.prepared
  · intro single
    refine
      { prepared := (prepare_isSome_iff codec submitted).mpr single
        rejected := ?_
        answered := ?_ }
    · intro db statuses feedback after processed tx member blockNum named unrecorded unmatched
      rw [processBatch] at processed
      split at processed
      · cases processed
      rename_i p prepared
      split at processed
      · cases processed
      rename_i v current validated
      obtain ⟨turnedDown, same⟩ :=
        turnedDown_of_validate
          (fun tx member => submitted tx (firstCopies_subset member))
          (preparedAs_of_prepare prepared) member named unrecorded unmatched
          validated
      subst same
      exact
        mem_commitTransactions_of_turnedDown (firstCopies_distinct batch) member
          unrecorded (by decide) turnedDown processed
    · intro checkpoints db readable tx member blockNum named unrecorded unmatched
      exact
        processBatch_of_checkpoints submitted single checkpoints readable member
          named unrecorded unmatched

def abortTx (txNum : UInt32) (blockNum : UInt8) : VcTx where
  ref := ⟨[txNum.toUInt8], 9, txNum⟩
  namespaces :=
    [{ nsId := checkpointNamespaceID
       readWrites := [⟨[1, blockNum], none, checkpointAbortValue⟩] }]

theorem submitted_abortTx {txNum : UInt32} {blockNum : UInt8}
    (accepted :
      verifyTxForm permissivePlatform ⟨(abortTx txNum blockNum).namespaces, [some [some [1]]]⟩ =
        statusNotYetValidated) :
    Submitted permissivePlatform (abortTx txNum blockNum) :=
  fun _ => Or.inl ⟨[some [some [1]]], accepted⟩

theorem single_abort_handled : CheckpointsHandled fieldCodec 1 [abortTx 1 5] := by
  have submitted : ∀ tx ∈ [abortTx 1 5], Submitted permissivePlatform tx := by
    intro tx member
    rw [mem_singleton.mp member]
    exact submitted_abortTx (by decide +kernel)
  apply (checkpointsHandled_iff_single fieldCodec 0 submitted).mpr
  decide +kernel

/-- Two accepted aborts of different blocks do not conflict, and a batch of both
fails. -/
theorem two_aborts_stop_batch :
    verifyTxForm permissivePlatform ⟨(abortTx 1 5).namespaces, [some [some [1]]]⟩ =
        statusNotYetValidated ∧
      verifyTxForm permissivePlatform ⟨(abortTx 2 6).namespaces, [some [some [1]]]⟩ =
          statusNotYetValidated ∧
        ¬ DependencyGraph.Conflicting permissivePlatform
            (abortTx 2 6).namespaces (abortTx 1 5).namespaces ∧
          prepare fieldCodec [abortTx 1 5, abortTx 2 6] = none := by
  refine ⟨by decide +kernel, by decide +kernel, ?_, ?_⟩
  · intro conflict
    obtain ⟨ns, key, access, otherAccess, first, second, _⟩ := conflict
    cases access <;> cases otherAccess <;>
      simp_all [DependencyGraph.accessedPairs, abortTx, permissivePlatform]
  · decide +kernel

end FabricXCommitter.VC
