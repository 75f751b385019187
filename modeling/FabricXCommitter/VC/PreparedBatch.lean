import FabricXCommitter.Sidecar.Form
import FabricXCommitter.VC.BatchView

/-!
# What a merged batch is prepared to

The preparer ignores all but the first copy of each transaction ID.
-/

namespace FabricXCommitter.VC

open Library Sidecar List

/-- What the coordinator sends: a transaction that is already rejected, one that
the sidecar accepted, or that of a configuration block. -/
def Submitted (platform : Platform) (tx : VcTx) : Prop :=
  tx.prelimInvalidTxStatus = none →
    (∃ endorsements,
      verifyTxForm platform ⟨tx.namespaces, endorsements⟩ = statusNotYetValidated) ∨
      ∃ value, tx.namespaces = (configTx value).namespaces

section

variable {platform : Platform} {tx : VcTx}

theorem entries_of_readWrites {ns : TxNamespace} (readWrites : ns.readWrites ≠ []) :
    updateEntries ns ≠ [] ∨ newEntries ns ≠ [] := by
  obtain ⟨first, rest, shape⟩ := exists_cons_of_ne_nil readWrites
  rw [updateEntries, newEntries, shape]
  cases version : first.version with
  | none =>
    right
    simp [version]
  | some number =>
    left
    simp [version]

theorem Submitted.writesSome (codec : SnapshotCodec) (submitted : Submitted platform tx)
    (unspoiled : tx.prelimInvalidTxStatus = none) :
    ∃ ns ∈ preparedNamespaces (expandTx codec tx),
      updateEntries ns ≠ [] ∨ newEntries ns ≠ [] ∨ blindEntries ns ≠ [] := by
  have all :
      preparedNamespaces (expandTx codec tx) = tx.namespaces.map (expandNamespace codec tx.ref) :=
    preparedNamespaces_of_valid unspoiled
  rw [all]
  rcases submitted unspoiled with ⟨endorsements, accepted⟩ | ⟨value, config⟩
  · have formed := wellFormed_of_verifyTxForm accepted
    obtain ⟨ns, mem⟩ := exists_mem_of_ne_nil _ formed.nonempty
    refine ⟨_, mem_map_of_mem mem, ?_⟩
    by_cases snapshot : ns.nsId = snapshotNamespaceID
    · rw [expandNamespace, if_pos snapshot]
      right
      left
      simp [newEntries]
    · rw [expandNamespace, if_neg snapshot]
      rcases (formed.each ns mem).writesSome snapshot with readWrites | blindWrites
      · rcases entries_of_readWrites readWrites with updates | news
        · exact .inl updates
        · exact .inr (.inl news)
      · right
        right
        rw [blindEntries]
        simpa using blindWrites
  · rw [config]
    refine ⟨_, mem_map_of_mem mem_cons_self, ?_⟩
    right
    right
    have notSnapshot : configNamespaceID ≠ snapshotNamespaceID := by decide
    rw [expandNamespace, if_neg notSnapshot]
    simp [blindEntries]

theorem Submitted.checkpointForm (submitted : Submitted platform tx)
    (unspoiled : tx.prelimInvalidTxStatus = none) {ns : TxNamespace} (mem : ns ∈ tx.namespaces)
    (checkpoint : ns.nsId = checkpointNamespaceID) :
    tx.namespaces = [ns] ∧ ns.readsOnly = [] ∧ ns.blindWrites = [] ∧
      ∃ key value blockNum,
        ns.readWrites = [⟨key, none, value⟩] ∧
          blockNumFromCheckpointKey key = some blockNum ∧ isValidCheckpointValue value = true := by
  rcases submitted unspoiled with ⟨endorsements, accepted⟩ | ⟨value, config⟩
  · have formed := wellFormed_of_verifyTxForm accepted
    exact ⟨formed.alone mem (.inr checkpoint), (formed.each ns mem).checkpointForm checkpoint⟩
  · rw [config] at mem
    have isConfig : ns.nsId = configNamespaceID := by rw [mem_singleton.mp mem]
    rw [checkpoint] at isConfig
    exact absurd isConfig (by decide)

theorem Submitted.checkpointEntries (codec : SnapshotCodec) (submitted : Submitted platform tx)
    (unspoiled : tx.prelimInvalidTxStatus = none) {ns : TxNamespace} (mem : ns ∈ tx.namespaces)
    (checkpoint : ns.nsId = checkpointNamespaceID) :
    preparedNamespaces (expandTx codec tx) = [ns] ∧ updateEntries ns = [] ∧
      blindEntries ns = [] ∧
        ∀ event ∈ expandedTxEvents (expandTx codec tx), event.nsId = checkpointNamespaceID := by
  obtain ⟨alone, noReads, noBlinds, key, value, _, readWrites, _⟩ :=
    submitted.checkpointForm unspoiled mem checkpoint
  have notSnapshot : ns.nsId ≠ snapshotNamespaceID := by
    rw [checkpoint]
    decide
  have all : preparedNamespaces (expandTx codec tx) = [ns] := by
    have every :
        preparedNamespaces (expandTx codec tx) = tx.namespaces.map (expandNamespace codec tx.ref) :=
      preparedNamespaces_of_valid unspoiled
    rw [every, alone, map_singleton, expandNamespace, if_neg notSnapshot]
  have noVersionRead : versionRead checkpointNamespaceID ns.nsVersion = none := rfl
  refine ⟨all, ?_, ?_, ?_⟩
  · rw [updateEntries, readWrites]
    rfl
  · rw [blindEntries, noBlinds]
    rfl
  · intro event inside
    rw [expandedTxEvents, all, flatMap_singleton, expandedEvents,
      if_neg notSnapshot, namespaceEvents, noReads, readWrites, checkpoint,
      noVersionRead] at inside
    rw [mem_singleton.mp inside]

end

/-- One iteration of `checkpointWriteInBatch`. -/
def checkpointStep (p : PreparedTransactions) (cp : Option CheckpointTx) (txID : Bytes) :
    Option (Option CheckpointTx) :=
  match firstWriteIn checkpointNamespaceID (p.txIDToNsNewWrites txID) with
  | none => some cp
  | some write =>
    match blockNumFromCheckpointKey write.key with
    | none => none
    | some blockNum =>
      if !isValidCheckpointValue write.value then
        none
      else if cp.isSome then
        none
      else
        (p.txIDToHeight txID).map fun h =>
          some ⟨txID, ⟨txID, h.blockNum, h.txNum⟩, blockNum, write.value⟩

theorem checkpointWriteInBatch_eq (p : PreparedTransactions) :
    checkpointWriteInBatch p = p.txIDs.foldlM (checkpointStep p) none :=
  rfl

structure CheckpointFound
    (p : PreparedTransactions) (txIDs : List Bytes) (cp : Option CheckpointTx) : Prop where
  writer :
    ∀ id ∈ txIDs,
      firstWriteIn checkpointNamespaceID (p.txIDToNsNewWrites id) ≠ none →
        ∃ found, cp = some found ∧ found.txID = id
  fields :
    ∀ found, cp = some found →
      found.txID ∈ txIDs ∧
        (∃ height, p.txIDToHeight found.txID = some height ∧
          found.ref = ⟨found.txID, height.blockNum, height.txNum⟩) ∧
        ∃ write,
          firstWriteIn checkpointNamespaceID (p.txIDToNsNewWrites found.txID) = some write ∧
          blockNumFromCheckpointKey write.key = some found.snapshotBlockNum ∧
            found.value = write.value

theorem checkpointFound_append {p : PreparedTransactions} {front : List Bytes} {last : Bytes}
    {cp next : Option CheckpointTx} (found : CheckpointFound p front cp)
    (stepped : checkpointStep p cp last = some next) :
    CheckpointFound p (front ++ [last]) next := by
  rw [checkpointStep] at stepped
  split at stepped
  · rename_i noWrite
    cases stepped
    constructor
    · intro id mem writes
      rcases mem_append.mp mem with inFront | isLast
      · exact found.writer id inFront writes
      · rw [mem_singleton.mp isLast] at writes
        exact absurd noWrite writes
    · intro given same
      obtain ⟨inFront, facts⟩ := found.fields given same
      exact ⟨mem_append_left _ inFront, facts⟩
  · rename_i write isWrite
    split at stepped
    · cases stepped
    rename_i blockNum decoded
    split at stepped
    · cases stepped
    split at stepped
    · cases stepped
    rename_i noEarlier
    have empty : cp = none := by simpa using noEarlier
    obtain ⟨height, known, same⟩ := Option.map_eq_some_iff.mp stepped
    subst same
    constructor
    · intro id mem writes
      rcases mem_append.mp mem with inFront | isLast
      · obtain ⟨given, isGiven, _⟩ := found.writer id inFront writes
        rw [empty] at isGiven
        cases isGiven
      · exact ⟨_, rfl, (mem_singleton.mp isLast).symm⟩
    · intro given same
      cases same
      exact
        ⟨mem_append_right _ (mem_singleton_self last),
          ⟨height, known, rfl⟩, write, isWrite, decoded, rfl⟩

theorem checkpointFound_of_checkpointWriteInBatch
    {p : PreparedTransactions} {cp : Option CheckpointTx}
    (succeeded : checkpointWriteInBatch p = some cp) :
    CheckpointFound p p.txIDs cp := by
  rw [checkpointWriteInBatch_eq] at succeeded
  generalize p.txIDs = txIDs at succeeded ⊢
  induction txIDs using List.reverseRec generalizing cp with
  | nil =>
    cases succeeded
    constructor
    · intro id mem
      cases mem
    · intro given same
      cases same
  | append_singleton front last ih =>
    rw [foldlM_append] at succeeded
    obtain ⟨earlier, before, stepped⟩ := Option.bind_eq_some_iff.mp succeeded
    obtain ⟨next, isNext, done⟩ := Option.bind_eq_some_iff.mp stepped
    cases done
    exact checkpointFound_append (ih before) isNext

structure PreparedAs (codec : SnapshotCodec) (batch : List VcTx) (p : PreparedTransactions) :
    Prop where
  distinct : (batch.map fun tx => tx.ref.txId).Nodup
  ids : p.txIDs = batch.map fun tx => tx.ref.txId
  heights : ∀ tx ∈ batch, p.txIDToHeight tx.ref.txId = some tx.ref.height
  prelim : ∀ tx ∈ batch, p.invalidTxIDStatus tx.ref.txId = tx.prelimInvalidTxStatus
  updates : p.txIDToNsNonBlindWrites = entriesById updateEntries (batch.map (expandTx codec))
  news : p.txIDToNsNewWrites = entriesById newEntries (batch.map (expandTx codec))
  blinds : p.txIDToNsBlindWrites = entriesById blindEntries (batch.map (expandTx codec))
  listed : p.nsToReads = (indexOf ((batch.map (expandTx codec)).flatMap expandedTxEvents)).1
  readers : p.readToTxIDs = (indexOf ((batch.map (expandTx codec)).flatMap expandedTxEvents)).2
  checkpoint : CheckpointFound p p.txIDs p.checkpoint

section

variable {codec : SnapshotCodec} {batch : List VcTx}
  {p : PreparedTransactions}

theorem preparedAs_of_prepare (prepared : prepare codec batch = some p) :
    PreparedAs codec (firstCopies batch) p := by
  rw [prepare, foldl_prepareTx] at prepared
  obtain ⟨cp, found, same⟩ := Option.map_eq_some_iff.mp prepared
  have distinct := firstCopies_distinct batch
  subst same
  refine
    { distinct := distinct
      ids := map_map
      heights := ?_
      prelim := ?_
      updates := rfl
      news := rfl
      blinds := rfl
      listed := rfl
      readers := rfl
      checkpoint := ?_ }
  · intro tx mem
    have known := txOfId_of_mem distinct mem
    simp [expandedForm, preparedForm, txOfId_map_expandTx, known]
  · intro tx mem
    have known := txOfId_of_mem distinct mem
    simp [expandedForm, preparedForm, txOfId_map_expandTx, known]
  · obtain ⟨writer, fields⟩ := checkpointFound_of_checkpointWriteInBatch found
    exact ⟨writer, fields⟩

theorem of_mem_expandedEntries {entries : TxNamespace → List WriteEntry}
    (tagged : ∀ ns, ∀ entry ∈ entries ns, entry.nsId = ns.nsId) {id : Bytes} {entry : WriteEntry}
    (mem : entry ∈ entriesById entries (batch.map (expandTx codec)) id) :
    ∃ tx ∈ batch, tx.ref.txId = id ∧ tx.prelimInvalidTxStatus = none ∧
      ∃ ns ∈ tx.namespaces, entry.nsId = ns.nsId ∧
        entry ∈ entries (expandNamespace codec tx.ref ns) := by
  obtain ⟨expanded, isExpanded, inside⟩ := mem_flatMap.mp mem
  obtain ⟨tx, inBatch, same⟩ := mem_map.mp isExpanded
  subst same
  split at inside
  · rename_i sameId
    obtain ⟨ns, nsMem, entryMem⟩ := mem_flatMap.mp inside
    rw [preparedNamespaces] at nsMem
    split at nsMem
    · rename_i valid
      obtain ⟨source, sourceMem, sameNs⟩ := mem_map.mp nsMem
      subst sameNs
      refine
        ⟨tx, inBatch, sameId, Option.isNone_iff_eq_none.mp valid, source, sourceMem, ?_, entryMem⟩
      rw [tagged _ entry entryMem, nsId_expandNamespace]
    · cases nsMem
  · cases inside

namespace PreparedAs

variable (preparedAs : PreparedAs codec batch p)

include preparedAs

theorem expandedDistinct : ((batch.map (expandTx codec)).map fun tx => tx.ref.txId).Nodup := by
  rw [map_map]
  exact preparedAs.distinct

theorem entries_of_mem (entries : TxNamespace → List WriteEntry) {tx : VcTx} (mem : tx ∈ batch) :
    entriesById entries (batch.map (expandTx codec)) tx.ref.txId =
      (preparedNamespaces (expandTx codec tx)).flatMap entries :=
  entriesById_of_mem preparedAs.expandedDistinct (mem_map_of_mem mem) entries

theorem mem_readers {cr : CmpRead} {id : Bytes} :
    id ∈ p.readToTxIDs cr ↔
      ∃ tx ∈ batch, tx.ref.txId = id ∧
        ∃ event ∈ expandedTxEvents (expandTx codec tx), event.cmp = cr := by
  rw [preparedAs.readers, mem_readers_indexOf]
  constructor
  · intro found
    obtain ⟨event, mem, sameCmp, sameId⟩ := found
    obtain ⟨expanded, isExpanded, inside⟩ := mem_flatMap.mp mem
    obtain ⟨tx, inBatch, same⟩ := mem_map.mp isExpanded
    subst same
    refine ⟨tx, inBatch, ?_, event, inside, sameCmp⟩
    rw [← sameId, id_of_mem_expandedTxEvents inside]
    rfl
  · intro found
    obtain ⟨tx, inBatch, sameId, event, inside, sameCmp⟩ := found
    refine
      ⟨event,
        mem_flatMap.mpr ⟨_, mem_map_of_mem inBatch, inside⟩,
        sameCmp, ?_⟩
    rw [id_of_mem_expandedTxEvents inside]
    exact sameId

end PreparedAs

end

end FabricXCommitter.VC
