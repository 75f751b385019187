import FabricXCommitter.VC.Preparer

/-!
# Snapshot and checkpoint transactions
-/

namespace FabricXCommitter.VC

section

variable (codec : SnapshotCodec)

/-- `ReadLatest`: a missing row or an undecodable value is an error. -/
def readLatest (db : Database) : Option (Option SnapshotState) :=
  if db.latestSnapshotKey = [] then
    some none
  else
    match db.row snapshotNamespaceID db.latestSnapshotKey with
    | none => none
    | some row => (codec.decode row.value).map some

inductive SnapshotUpdateResult where
  | updated (db : Database)
  | unexpectedStatus
  | failed

/-- `UPDATE ns__snapshot SET value = $2, version = version + 1`. -/
def writeSnapshotRecord (db : Database) (key : Bytes) (row : Row) (state : SnapshotState) :
    Option Database :=
  if row.version + 1 < bigintLimit then
    some (db.writeRow snapshotNamespaceID key ⟨codec.encode state, row.version + 1⟩)
  else
    none

def recordSnapshotError (db : Database) (ref : TxRef) (expected : SnapshotStatus)
    (errMsg : String) : SnapshotUpdateResult :=
  if expected = .unspecified then
    .failed
  else
    match db.row snapshotNamespaceID ref.txId with
    | none => .failed
    | some row =>
      match codec.decode row.value with
      | none => .failed
      | some state =>
        if state.status ≠ expected then
          .unexpectedStatus
        else
          match writeSnapshotRecord codec db ref.txId row { state with error := errMsg } with
          | none => .failed
          | some db => .updated db

def terminalStatus (cp : CheckpointTx) : SnapshotStatus :=
  if cp.value = checkpointAbortValue then .aborted else .checkpointed

def markSnapshotTerminalInTx (db : Database) (blockNum : UInt64) (target : SnapshotStatus) :
    Option Database :=
  if db.latestSnapshotKey = [] then
    none
  else
    match db.row snapshotNamespaceID db.latestSnapshotKey with
    | none => none
    | some row =>
      match codec.decode row.value with
      | none => none
      | some state =>
        if state.status = target then
          some db
        else if state.status = .checkpointed ∨ state.status = .aborted then
          none
        else if state.txRef.map TxRef.blockNum ≠ some blockNum then
          none
        else
          writeSnapshotRecord codec db db.latestSnapshotKey row { state with status := target }

end

section

variable (codec : SnapshotCodec)

def writers (txIDs : List Bytes) (writes : TransactionToWrites) : List Bytes :=
  txIDs.filter fun id => !(writes id).isEmpty

def loneSnapshotRequest (txIDs : List Bytes) (newWrites : TransactionToWrites) :
    Option (Bytes × WriteEntry) :=
  match writers txIDs newWrites with
  | [id] => (firstWriteIn snapshotNamespaceID (newWrites id)).map fun write => (id, write)
  | _ => none

def determineSnapshotStatus (db : Database) : Option Status :=
  (readLatest codec db).map fun latest =>
    match latest with
    | none => .unspecified
    | some state =>
      match state.status with
      | .checkpointed | .aborted => .unspecified
      | .completed => .rejectedSnapshotNoCheckpoint
      | _ => .rejectedSnapshotInProgress

def rejectSnapshotIfPriorNotCheckpointed (db : Database) (v : ValidatedTransactions) :
    Option ValidatedTransactions :=
  match loneSnapshotRequest v.txIDs v.newWrites with
  | none => some v
  | some (incomingTxID, _) =>
    if incomingTxID = [] then
      some v
    else if (db.txStatus incomingTxID).isSome then
      some v
    else
      (determineSnapshotStatus codec db).map fun blockStatus =>
        if blockStatus = .unspecified then
          v
        else
          updateInvalidTxs v [incomingTxID] blockStatus

def hexString (bytes : Bytes) : String :=
  String.join
    (bytes.map fun byte =>
      String.ofList [Nat.digitChar (byte.toNat / 16), Nat.digitChar (byte.toNat % 16)])

structure CheckpointVerdict where
  rejectStatus : Status := .unspecified
  feedback : Option CheckpointFeedback := none
  deriving DecidableEq, Repr

def divergenceReason (state : SnapshotState) (cp : CheckpointTx) : String :=
  "local snapshot hash " ++ hexString state.hash ++ " for block " ++
    toString cp.snapshotBlockNum ++ " does not match the checkpoint hash " ++ hexString cp.value

/-- The checkpoint is compared with the latest snapshot record.  The comparison
is repeated if the record changed while the divergence was stored; the first
argument bounds the repetitions. -/
def verifyCheckpoint : Nat → Database → CheckpointTx → Option (CheckpointVerdict × Database)
  | 0, _, _ => none
  | attempts + 1, db, cp =>
    match readLatest codec db with
    | none => none
    | some none => some (⟨.rejectedCheckpointNoSuchSnapshot, none⟩, db)
    | some (some state) =>
      match state.txRef with
      | none => some (⟨.rejectedCheckpointNoSuchSnapshot, none⟩, db)
      | some ref =>
        if ref.blockNum ≠ cp.snapshotBlockNum then
          some (⟨.rejectedCheckpointNoSuchSnapshot, none⟩, db)
        else if state.status = .checkpointed ∨ state.status = .aborted then
          some (⟨.rejectedCheckpointNoSuchSnapshot, none⟩, db)
        else if terminalStatus cp = .aborted then
          some ({}, db)
        else if state.hash = [] then
          some (⟨.unspecified, some ⟨.hold, cp.ref, cp.snapshotBlockNum, ""⟩⟩, db)
        else if state.hash = cp.value then
          some ({}, db)
        else
          let reason := divergenceReason state cp
          match recordSnapshotError codec db ref state.status reason with
          | .updated db =>
            some (⟨.unspecified, some ⟨.halt, cp.ref, cp.snapshotBlockNum, reason⟩⟩, db)
          | .unexpectedStatus => verifyCheckpoint attempts db cp
          | .failed => none

def rejectCheckpointIfNotVerified (attempts : Nat) (db : Database) (v : ValidatedTransactions) :
    Option (ValidatedTransactions × Database) :=
  match v.checkpoint with
  | none => some (v, db)
  | some cp =>
    if (db.txStatus cp.txID).isSome then
      some (v, db)
    else
      (verifyCheckpoint codec attempts db cp).map fun verified =>
        if verified.1.rejectStatus ≠ .unspecified then
          (updateInvalidTxs v [cp.txID] verified.1.rejectStatus, verified.2)
        else if verified.1.feedback.isSome then
          ({ v with
              newWrites := v.newWrites.deleteAll [cp.txID]
              checkpoint := none
              checkpointFeedback := verified.1.feedback }, verified.2)
        else
          (v, verified.2)

def snapshotDatabaseName (ref : TxRef) : String := "snapshot_" ++ toString ref.blockNum

/-- The snapshot database is created before the commit, and the record is
rewritten to a pending one that names it. -/
def createSnapshotIfPresent (db : Database) (v : ValidatedTransactions) :
    Option (ValidatedTransactions × Database) :=
  match loneSnapshotRequest v.txIDs v.newWrites with
  | none => some (v, db)
  | some (id, write) =>
    match codec.decode write.value with
    | none => none
    | some state =>
      match state.txRef with
      | none => none
      | some ref =>
        if (db.txStatus ref.txId).isSome then
          some (v, db)
        else
          let name := snapshotDatabaseName ref
          let rewritten : WriteEntry :=
            { write with
              value :=
                codec.encode
                  { txRef := some ref
                    status := .pending
                    cloneDatabase := name } }
          some
            ({ v with
                newWrites :=
                  Function.update v.newWrites id
                    ((v.newWrites id).map fun entry =>
                      if entry = write then rewritten else entry) },
              { db with
                snapshotDatabases := fun other => other == name || db.snapshotDatabases other })

variable {codec} {db after : Database} {v next : ValidatedTransactions}

theorem rejectSnapshot_cases (gated : rejectSnapshotIfPriorNotCheckpointed codec db v = some next) :
    next = v ∨
      ∃ id write status, loneSnapshotRequest v.txIDs v.newWrites = some (id, write) ∧
        next = updateInvalidTxs v [id] status := by
  revert gated
  fun_cases rejectSnapshotIfPriorNotCheckpointed codec db v with
  | case4 id write isRequest named unrecorded =>
    intro gated
    obtain ⟨status, _, same⟩ := Option.map_eq_some_iff.mp gated
    split at same
    · exact .inl same.symm
    · exact .inr ⟨id, write, status, isRequest, same.symm⟩
  | _ =>
    intro gated
    exact .inl (Option.some.inj gated).symm

theorem rejectCheckpoint_cases {attempts : Nat}
    (gated : rejectCheckpointIfNotVerified codec attempts db v = some (next, after)) :
    next = v ∨
      ∃ cp verdict, v.checkpoint = some cp ∧
        verifyCheckpoint codec attempts db cp = some (verdict, after) ∧
          (next = updateInvalidTxs v [cp.txID] verdict.rejectStatus ∨
            ∃ feedback, verdict.feedback = some feedback ∧
              next =
                { v with
                  newWrites := v.newWrites.deleteAll [cp.txID]
                  checkpoint := none
                  checkpointFeedback := some feedback }) := by
  revert gated
  fun_cases rejectCheckpointIfNotVerified codec attempts db v with
  | case3 cp isCheckpoint unrecorded =>
    intro gated
    obtain ⟨⟨verdict, verifiedDb⟩, isVerified, same⟩ := Option.map_eq_some_iff.mp gated
    split at same
    · cases same
      exact .inr ⟨cp, verdict, isCheckpoint, isVerified, .inl rfl⟩
    split at same
    · rename_i present
      obtain ⟨feedback, isFeedback⟩ := Option.isSome_iff_exists.mp present
      rw [isFeedback] at same
      cases same
      exact .inr ⟨cp, verdict, isCheckpoint, isVerified, .inr ⟨feedback, isFeedback, rfl⟩⟩
    · cases same
      exact .inl rfl
  | _ =>
    intro gated
    cases gated
    exact .inl rfl

/-- The record of the request is rewritten under its key, and only the snapshot
databases change. -/
theorem createSnapshot_cases (created : createSnapshotIfPresent codec db v = some (next, after)) :
    (∃ names, after = { db with snapshotDatabases := names }) ∧
      (next = v ∨
        ∃ id write value, loneSnapshotRequest v.txIDs v.newWrites = some (id, write) ∧
          next =
            { v with
              newWrites :=
                Function.update v.newWrites id
                  ((v.newWrites id).map fun entry =>
                    if entry = write then { write with value := value } else entry) }) := by
  revert created
  fun_cases createSnapshotIfPresent codec db v with
  | case1 | case4 =>
    intro created
    cases created
    exact ⟨⟨_, rfl⟩, .inl rfl⟩
  | case2 | case3 =>
    intro created
    cases created
  | case5 id write isRequest =>
    intro created
    cases created
    exact ⟨⟨_, rfl⟩, .inr ⟨id, write, _, isRequest, rfl⟩⟩

end

end FabricXCommitter.VC
