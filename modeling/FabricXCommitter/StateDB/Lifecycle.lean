import FabricXCommitter.Library.Fleet
import FabricXCommitter.VC.Committer

/-!
# The processes that write snapshot records

A write may take effect without being acknowledged and is then tried again.
-/

namespace FabricXCommitter.StateDB

open Library VC

structure SnapshotUpdate where
  status : SnapshotStatus
  digest : Option Bytes := none
  errMsg : String := ""
  expectedStatus : List SnapshotStatus := []
  clearCloneDatabase : Bool := false
  deriving DecidableEq, Repr

def SnapshotUpdate.applyTo (change : SnapshotUpdate) (state : SnapshotState) : SnapshotState :=
  { state with
    status := change.status
    hash := change.digest.getD state.hash
    cloneDatabase :=
      if change.clearCloneDatabase then "" else state.cloneDatabase
    error := if change.clearCloneDatabase then state.error else change.errMsg }

section

variable (codec : SnapshotCodec)

/-- `SnapshotStateManager.Update`, without its retries. -/
def update (db : Database) (ref : TxRef) (change : SnapshotUpdate) : SnapshotUpdateResult :=
  if change.status = .unspecified then
    .failed
  else
    match db.row snapshotNamespaceID ref.txId with
    | none => .failed
    | some row =>
      match codec.decode row.value with
      | none => .failed
      | some state =>
        if change.expectedStatus ≠ [] ∧ state.status ∉ change.expectedStatus then
          .unexpectedStatus
        else
          match writeSnapshotRecord codec db ref.txId row (change.applyTo state) with
          | none => .failed
          | some db => .updated db

/-- The record stored under a transaction ID. -/
def record (db : Database) (key : Bytes) : Option SnapshotState :=
  (db.row snapshotNamespaceID key).bind fun row => codec.decode row.value

/-- The update with which a hasher takes a record. -/
def markInProgress : SnapshotUpdate where
  status := .inProgress
  expectedStatus := [.pending, .inProgress, .failed]

def publishDigest (digest : Bytes) : SnapshotUpdate where
  status := .completed
  digest := some digest
  expectedStatus := [.inProgress]

def recordFailure (errMsg : String) : SnapshotUpdate where
  status := .failed
  errMsg := errMsg
  expectedStatus := [.inProgress]

/-- The part of `readRecordNeedingHash` after the record was read: the
reference, the clone and the status of a record that is to be hashed. -/
def needsHash (state : SnapshotState) : Option (TxRef × String × SnapshotStatus) :=
  match state.txRef with
  | none => none
  | some ref =>
    match state.status with
    | .pending | .inProgress | .failed =>
      if state.cloneDatabase = "" then
        none
      else
        some (ref, state.cloneDatabase, state.status)
    | _ => none

/-- What `verifyCheckpoint` concludes from a record. -/
inductive Judgement where
  | rejected
  | accepted
  | held
  | diverged (ref : TxRef) (status : SnapshotStatus) (reason : String)
  deriving DecidableEq, Repr

def judge (cp : CheckpointTx) (state : SnapshotState) : Judgement :=
  match state.txRef with
  | none => .rejected
  | some ref =>
    if ref.blockNum ≠ cp.snapshotBlockNum then
      .rejected
    else if state.status = .checkpointed ∨ state.status = .aborted then
      .rejected
    else if terminalStatus cp = .aborted then
      .accepted
    else if state.hash = [] then
      .held
    else if state.hash = cp.value then
      .accepted
    else
      .diverged ref state.status (divergenceReason state cp)

def recordDivergence (status : SnapshotStatus) (reason : String) : SnapshotUpdate where
  status := status
  errMsg := reason
  expectedStatus := [status]

def deletableSnapshotStatuses : List SnapshotStatus := [.checkpointed, .aborted]

/-- The part of `deleteSnapshotClone` before the clone is dropped. -/
def deletable (state : SnapshotState) : Option (TxRef × String × SnapshotStatus) :=
  if state.cloneDatabase = "" then
    none
  else if state.status ∉ deletableSnapshotStatuses then
    none
  else
    state.txRef.map fun ref => (ref, state.cloneDatabase, state.status)

def clearClone (status : SnapshotStatus) : SnapshotUpdate where
  status := status
  expectedStatus := [status]
  clearCloneDatabase := true

/-- How far a process has come with a record. -/
inductive Process where
  | idle
  | hashPointed (key : Bytes)
  | hashPicked (ref : TxRef) (clone : String) (status : SnapshotStatus)
  | marking (ref : TxRef)
  | hashing (ref : TxRef)
  | publishing (ref : TxRef) (digest : Bytes)
  | failing (ref : TxRef) (errMsg : String)
  | checking (cp : CheckpointTx)
  | checkPointed (cp : CheckpointTx) (key : Bytes)
  | halting (cp : CheckpointTx) (ref : TxRef) (status : SnapshotStatus) (reason : String)
  | verified (cp : CheckpointTx)
  | known (cp : CheckpointTx)
  | dropping (ref : TxRef) (clone : String) (status : SnapshotStatus)
  | clearing (ref : TxRef) (status : SnapshotStatus)
  deriving DecidableEq, Repr

inductive Task where
  | startHash
  | startCheck (cp : CheckpointTx)
  | startDelete (txID : Bytes)
  | readPointer
  | readRecord
  | openClone
  | hashed (digest : Bytes)
  | hashFailed (errMsg : String)
  | update (acknowledged : Bool)
  | createDatabase (name : String)
  | dropDatabase
  | commit (states : StatesToBeCommitted) (acknowledged : Bool)
  | abandon

/-- A pending write of a process, and where the process stands if the row does
not have the expected status. -/
def pendingUpdate : Process → Option (TxRef × SnapshotUpdate × Process)
  | .marking ref => some (ref, markInProgress, .idle)
  | .publishing ref digest => some (ref, publishDigest digest, .idle)
  | .failing ref errMsg => some (ref, recordFailure errMsg, .idle)
  | .halting cp ref status reason => some (ref, recordDivergence status reason, .checking cp)
  | .clearing ref status => some (ref, clearClone status, .idle)
  | _ => none

/-- Where a process stands after its write was acknowledged. -/
def afterUpdate : Process → Process
  | .marking ref => .hashing ref
  | _ => .idle

/-- A batch is committed with the checkpoint that passed the gate, or without a
checkpoint. -/
def mayCommit (process : Process) (checkpoint : Option CheckpointTx) : Bool :=
  match process with
  | .idle => checkpoint.isNone
  | .verified cp => checkpoint.isNone || checkpoint == some cp
  | .known cp => checkpoint.isNone || checkpoint == some cp
  | _ => false

/-- One access of a process to the database.  A process that stops for an error
or finishes is idle again. -/
def processStep (db : Database) (process : Process) : Task → Option (Database × Process)
  | .startHash =>
    if process = .idle then
      if db.latestSnapshotKey = [] then
        some (db, .idle)
      else
        some (db, .hashPointed db.latestSnapshotKey)
    else
      none
  | .startCheck cp =>
    if process = .idle then
      if (db.txStatus cp.txID).isSome then
        some (db, .known cp)
      else
        some (db, .checking cp)
    else
      none
  | .startDelete txID =>
    if process = .idle then
      match (record codec db txID).bind deletable with
      | none => some (db, .idle)
      | some (ref, clone, status) => some (db, .dropping ref clone status)
    else
      none
  | .readPointer =>
    match process with
    | .checking cp =>
      if db.latestSnapshotKey = [] then
        some (db, .idle)
      else
        some (db, .checkPointed cp db.latestSnapshotKey)
    | _ => none
  | .readRecord =>
    match process with
    | .hashPointed key =>
      match (record codec db key).bind needsHash with
      | none => some (db, .idle)
      | some (ref, clone, status) => some (db, .hashPicked ref clone status)
    | .checkPointed cp key =>
      match (record codec db key).map (judge cp) with
      | some .accepted => some (db, .verified cp)
      | some (.diverged ref status reason) => some (db, .halting cp ref status reason)
      | _ => some (db, .idle)
    | _ => none
  | .openClone =>
    match process with
    | .hashPicked ref clone status =>
      if db.snapshotDatabases clone then
        some (db, if status = .inProgress then .hashing ref else .marking ref)
      else
        some (db, .idle)
    | _ => none
  | .hashed digest =>
    match process with
    | .hashing ref => some (db, .publishing ref digest)
    | _ => none
  | .hashFailed errMsg =>
    match process with
    | .hashing ref => some (db, .failing ref errMsg)
    | _ => none
  | .update acknowledged =>
    (pendingUpdate process).map fun pending =>
      match update codec db pending.1 pending.2.1 with
      | .updated after => (after, if acknowledged then afterUpdate process else process)
      | .unexpectedStatus => (db, pending.2.2)
      | .failed => (db, .idle)
  | .createDatabase name =>
    if process = .idle then
      some
        ({ db with
            snapshotDatabases := fun other => other == name || db.snapshotDatabases other },
          .idle)
    else
      none
  | .dropDatabase =>
    match process with
    | .dropping ref clone status =>
      some
        ({ db with
            snapshotDatabases := fun name => name != clone && db.snapshotDatabases name },
          .clearing ref status)
    | _ => none
  | .commit states acknowledged =>
    if mayCommit process states.checkpoint then
      match commit codec db states with
      | some (.committed after) => some (after, if acknowledged then .idle else process)
      | some _ => some (db, process)
      | none => some (db, .idle)
    else
      none
  | .abandon => some (db, .idle)

def processes : Fleet Database Process Empty Task where
  environmentStep := fun _ _ event => nomatch event
  workerStep := processStep codec

end

section

variable {codec : SnapshotCodec}

theorem recordSnapshotError_eq_update
    (db : Database) (ref : TxRef) (status : SnapshotStatus) (reason : String) :
    recordSnapshotError codec db ref status reason =
      update codec db ref (recordDivergence status reason) := by
  rw [recordSnapshotError, update]
  by_cases unspecified : status = .unspecified
  · rw [if_pos unspecified, if_pos (show (recordDivergence _ _).status = _ from unspecified)]
  · cases db.row snapshotNamespaceID ref.txId with
    | none => rfl
    | some row =>
      dsimp only
      cases codec.decode row.value with
      | none => rfl
      | some state =>
        by_cases expected : state.status = status
        · have allowed :
              ¬ ((recordDivergence status reason).expectedStatus ≠ [] ∧
                state.status ∉ (recordDivergence status reason).expectedStatus) := by
            simp [recordDivergence, expected]
          have same :
              { state with error := reason } = (recordDivergence status reason).applyTo state := by
            subst expected
            rfl
          dsimp only
          rewrite [if_neg (not_not.mpr expected), if_neg allowed, same]
          rfl
        · simp [recordDivergence, expected]

theorem verifyCheckpoint_eq_judge (attempts : Nat) (db : Database) (cp : CheckpointTx) :
    verifyCheckpoint codec (attempts + 1) db cp =
      (readLatest codec db).bind fun latest =>
        match latest.map (judge cp) with
        | none | some .rejected => some (⟨.rejectedCheckpointNoSuchSnapshot, none⟩, db)
        | some .accepted => some ({}, db)
        | some .held => some (⟨.unspecified, some ⟨.hold, cp.ref, cp.snapshotBlockNum, ""⟩⟩, db)
        | some (.diverged ref status reason) =>
          match update codec db ref (recordDivergence status reason) with
          | .updated db =>
            some (⟨.unspecified, some ⟨.halt, cp.ref, cp.snapshotBlockNum, reason⟩⟩, db)
          | .unexpectedStatus => verifyCheckpoint codec attempts db cp
          | .failed => none := by
  rw [verifyCheckpoint]
  cases readLatest codec db with
  | none => rfl
  | some latest =>
    cases latest with
    | none => rfl
    | some state =>
      simp only [Option.bind_some, Option.map_some, judge]
      cases state.txRef with
      | none => rfl
      | some ref =>
        dsimp only
        split
        · rfl
        split
        · rfl
        split
        · rfl
        split
        · rfl
        split
        · rfl
        · rewrite [recordSnapshotError_eq_update]
          rfl

end

end FabricXCommitter.StateDB
