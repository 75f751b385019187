import FabricXCommitter.VC.CheckpointBatch
import FabricXCommitter.VC.SnapshotInvariant

/-!
# Keys of checkpoints

The decoder takes numbers with leading zero bytes, so a block has several accepted keys.
-/

namespace FabricXCommitter.VC

open Library Sidecar DependencyGraph List Option

/-- The key that a checkpoint transaction writes. -/
def writtenKey (tx : VcTx) : Option Bytes :=
  (tx.namespaces.flatMap TxNamespace.readWrites).head?.map ReadWrite.key

/-- The rows that a transaction inserts. -/
def insertedEntries (codec : SnapshotCodec) (tx : VcTx) : List WriteEntry :=
  (preparedNamespaces (expandTx codec tx)).flatMap newEntries

/-- The second of two transactions that write one checkpoint key is ordered
after the first, and its insert is rejected once the first is stored. -/
structure ClosedOnce (platform : Platform) (blockNum : UInt64) (first second : VcTx) : Prop where
  firstWrites :
    accessedPairs platform first.namespaces .readWrite =
      [(checkpointNamespaceID, checkpointKey blockNum)]
  secondWrites :
    accessedPairs platform second.namespaces .readWrite =
      [(checkpointNamespaceID, checkpointKey blockNum)]
  ordered : Conflicting platform second.namespaces first.namespaces
  stored :
    ∀ codec db after,
      insertStates db (insertedEntries codec first) = some ([], after) →
        (after.row checkpointNamespaceID (checkpointKey blockNum)).isSome = true
  rejected :
    ∀ codec db,
      (db.row checkpointNamespaceID (checkpointKey blockNum)).isSome = true →
        insertStates db (insertedEntries codec second) =
          some ([(checkpointNamespaceID, checkpointKey blockNum)], db)

/-- A checkpoint transaction writes one row, under a key of its block. -/
structure WritesCheckpoint (platform : Platform) (tx : VcTx) (key : Bytes) : Prop where
  pairs : accessedPairs platform tx.namespaces .readWrite = [(checkpointNamespaceID, key)]
  inserted : ∀ codec, ∃ value, insertedEntries codec tx = [⟨checkpointNamespaceID, key, value, 0⟩]

theorem Submitted.writesCheckpoint
    {platform : Platform} {tx : VcTx} (submitted : Submitted platform tx)
    {blockNum : UInt64} (named : namedBlock tx = some blockNum) :
    ∃ key, writtenKey tx = some key ∧
      blockNumFromCheckpointKey key = some blockNum ∧ WritesCheckpoint platform tx key := by
  have checkpoint := isCheckpoint_of_namedBlock named
  obtain ⟨unspoiled, ns, mem, isNs⟩ := (isCheckpoint_iff tx).mp checkpoint
  obtain ⟨alone, _, _, key, value, other, readWrites, _⟩ :=
    submitted.checkpointForm unspoiled mem isNs
  have isKey : writtenKey tx = some key := by
    rw [writtenKey, alone, flatMap_singleton, readWrites]
    rfl
  have decoded : blockNumFromCheckpointKey key = some blockNum := by
    rw [namedBlock, if_pos checkpoint, alone, flatMap_singleton, readWrites] at named
    exact named
  refine ⟨key, isKey, decoded, ?_, ?_⟩
  · rw [accessedPairs, alone, flatMap_singleton, readWrites, isNs]
    rfl
  · intro codec
    have all := (submitted.checkpointEntries codec unspoiled mem isNs).1
    refine ⟨value, ?_⟩
    rw [insertedEntries, all, flatMap_singleton, newEntries, readWrites, isNs]
    rfl

theorem insertStates_singleton (db : Database) (entry : WriteEntry) :
    insertStates db [entry] =
      (insertNs db entry.nsId [entry.toWrite]).map fun inserted =>
        (inserted.1.map fun key => (entry.nsId, key), inserted.2) := by
  simp [insertStates, writeNamespaces, writesOfNamespace]

theorem insertNs_singleton_present {db : Database} {nsId : Bytes} {write : Write}
    (present : (db.row nsId write.key).isSome = true) :
    insertNs db nsId [write] = some ([write.key], db) := by
  have tableExists : db.hasTable nsId = true := by
    by_contra missing
    rw [db.rowsInTables nsId write.key (Bool.eq_false_iff.mpr missing)] at present
    cases present
  have notAbsent : db.row nsId write.key ≠ none := by
    intro absent
    rw [absent] at present
    cases present
  simp [insertNs, tableExists, notAbsent, present]

theorem insertNs_singleton_stored {db after : Database} {nsId : Bytes} {write : Write}
    (inserted : insertNs db nsId [write] = some ([], after)) :
    (after.row nsId write.key).isSome = true := by
  by_cases present : (db.row nsId write.key).isSome = true
  · rw [insertNs_singleton_present present] at inserted
    cases inserted
  · have absent : db.row nsId write.key = none := by simpa using present
    have tableExists : db.hasTable nsId = true := by
      by_contra missing
      simp [insertNs, missing] at inserted
    simp [insertNs, tableExists, absent] at inserted
    rw [← inserted]
    simp [Database.applyRows, Database.writeRow, tableExists]

theorem closedOnce_of_writes {platform : Platform} {blockNum : UInt64} {first second : VcTx}
    (firstWrites : WritesCheckpoint platform first (checkpointKey blockNum))
    (secondWrites : WritesCheckpoint platform second (checkpointKey blockNum)) :
    ClosedOnce platform blockNum first second where
  firstWrites := firstWrites.pairs
  secondWrites := secondWrites.pairs
  ordered := by
    refine ⟨checkpointNamespaceID, checkpointKey blockNum, .readWrite, .readWrite, ?_, ?_, by simp⟩
    · rw [secondWrites.pairs]
      exact mem_singleton_self _
    · rw [firstWrites.pairs]
      exact mem_singleton_self _
  stored := by
    intro codec db after inserted
    obtain ⟨value, isEntry⟩ := firstWrites.inserted codec
    rw [isEntry, insertStates_singleton] at inserted
    obtain ⟨result, isResult, same⟩ := map_eq_some_iff.mp inserted
    obtain ⟨existing, next⟩ := result
    obtain ⟨nothing, isAfter⟩ := Prod.mk.inj same
    rw [map_eq_nil_iff] at nothing
    dsimp only at nothing isAfter
    rw [nothing, isAfter] at isResult
    exact insertNs_singleton_stored isResult
  rejected := by
    intro codec db present
    obtain ⟨value, isEntry⟩ := secondWrites.inserted codec
    rw [isEntry, insertStates_singleton, insertNs_singleton_present present]
    rfl

/-- Accepted keys are the keys of their numbers, and checkpoints of one block
compete for one row, exactly as far as keys are not padded. -/
theorem checkpoint_key_canonical_iff (platform : Platform) (key : Bytes) :
    ((∀ blockNum, blockNumFromCheckpointKey key = some blockNum ↔ key = checkpointKey blockNum) ∧
      ∀ blockNum first second,
        Submitted platform first → Submitted platform second →
          namedBlock first = some blockNum →
            namedBlock second = some blockNum →
              writtenKey first = some key →
                (writtenKey second).all (fun other => Unpadded other) = true →
                  ClosedOnce platform blockNum first second) ↔
      (blockNumFromCheckpointKey key = none ∨ Unpadded key) := by
  constructor
  · intro holds
    cases decoded : blockNumFromCheckpointKey key with
    | none => exact Or.inl rfl
    | some blockNum =>
      right
      exact (checkpointKey_iff_unpadded decoded).mp ((holds.1 blockNum).mp decoded)
  · intro unpadded
    constructor
    · intro blockNum
      constructor
      · intro decoded
        rw [decoded] at unpadded
        rcases unpadded with impossible | unpadded
        · cases impossible
        · exact (checkpointKey_iff_unpadded decoded).mpr unpadded
      · intro isKey
        rw [isKey]
        exact blockNumFromCheckpointKey_checkpointKey blockNum
    · intro blockNum first second firstSubmitted secondSubmitted firstNamed
        secondNamed isKey secondUnpadded
      obtain ⟨given, isGiven, firstDecoded, firstWrites⟩ :=
        firstSubmitted.writesCheckpoint firstNamed
      obtain ⟨other, isOther, secondDecoded, secondWrites⟩ :=
        secondSubmitted.writesCheckpoint secondNamed
      rw [isKey] at isGiven
      cases isGiven
      rw [firstDecoded] at unpadded
      rcases unpadded with impossible | unpadded
      · cases impossible
      rw [isOther] at secondUnpadded
      have otherUnpadded : Unpadded other := by simpa using secondUnpadded
      rw [(checkpointKey_iff_unpadded firstDecoded).mpr unpadded] at firstWrites
      rw [(checkpointKey_iff_unpadded secondDecoded).mpr otherUnpadded] at secondWrites
      exact closedOnce_of_writes firstWrites secondWrites

/-- An abort of the snapshot of block 0 under a given key. -/
def abortOfGenesis (txNum : UInt32) (key : Bytes) : VcTx where
  ref := ⟨[txNum.toUInt8], 9, txNum⟩
  namespaces :=
    [{ nsId := checkpointNamespaceID
       readWrites := [⟨key, none, checkpointAbortValue⟩] }]

/-- The key `[1, 0]` is accepted for block 0, whose key is `[0]`.  Aborts under
the two keys are accepted, they do not conflict, and both are inserted. -/
theorem padded_key_accepted :
    blockNumFromCheckpointKey [1, 0] = some 0 ∧
      [1, 0] ≠ checkpointKey 0 ∧
        (∀ key ∈ [[0], [1, 0]],
          verifyTxForm permissivePlatform ⟨(abortOfGenesis 1 key).namespaces, [some [some [1]]]⟩ =
            statusNotYetValidated ∧
            namedBlock (abortOfGenesis 1 key) = some 0) ∧
          ¬ Conflicting permissivePlatform (abortOfGenesis 2 [1, 0]).namespaces
              (abortOfGenesis 1 [0]).namespaces ∧
            (insertStates systemDatabase
                (insertedEntries fieldCodec (abortOfGenesis 1 [0]) ++
                  insertedEntries fieldCodec (abortOfGenesis 2 [1, 0]))).map
                Prod.fst =
              some [] := by
  refine ⟨by decide +kernel, by decide +kernel, by decide +kernel, ?_,
    by decide +kernel⟩
  intro conflict
  obtain ⟨ns, key, access, otherAccess, first, second, _⟩ := conflict
  cases access <;> cases otherAccess <;>
    simp_all [accessedPairs, abortOfGenesis, permissivePlatform]

end FabricXCommitter.VC
