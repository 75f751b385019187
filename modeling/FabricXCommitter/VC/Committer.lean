import FabricXCommitter.VC.Snapshot

/-!
# Committing a validated batch
-/

namespace FabricXCommitter.VC

/-- The writes of all transactions, to be split by namespace. -/
def groupWrites (txIDs : List Bytes) (writes : TransactionToWrites) : List WriteEntry :=
  txIDs.flatMap writes

def writeNamespaces (entries : List WriteEntry) : List Bytes := (entries.map WriteEntry.nsId).dedup

def writesOfNamespace (entries : List WriteEntry) (nsId : Bytes) : List WriteEntry :=
  entries.filter fun entry => entry.nsId == nsId

def queryBlindVersions (db : Database) (entries : List WriteEntry) :
    Option (Bytes → Bytes → Option UInt64) :=
  (writeNamespaces entries).foldlM
    (fun state nsId =>
      (queryVersionsIfPresent db nsId ((writesOfNamespace entries nsId).map WriteEntry.key)).map
        fun versions => Function.update state nsId versions)
    (fun _ _ => none)

/-- A blind write of a present key becomes an update to the next version, that
of an absent key a new write. -/
def categorizeBlindWrites (state : Bytes → Bytes → Option UInt64) (v : ValidatedTransactions) :
    ValidatedTransactions :=
  { v with
    validTxNonBlindWrites := fun id =>
      v.validTxNonBlindWrites id ++
        (v.validTxBlindWrites id).filterMap fun entry =>
          (state entry.nsId entry.key).map fun version => { entry with version := version + 1 }
    newWrites := fun id =>
      v.newWrites id ++
        (v.validTxBlindWrites id).filterMap fun entry =>
          if (state entry.nsId entry.key).isSome then
            none
          else
            some { entry with version := 0 }
    validTxBlindWrites := fun _ => [] }

def populateVersionsAndCategorizeBlindWrites (db : Database) (v : ValidatedTransactions) :
    Option ValidatedTransactions :=
  (queryBlindVersions db (groupWrites v.txIDs v.validTxBlindWrites)).map
    fun state => categorizeBlindWrites state v

structure StatesToBeCommitted where
  updateWrites : List WriteEntry
  newWrites : List WriteEntry
  batchStatus : List TxStatus
  txIDToHeight : Bytes → Option Height
  checkpoint : Option CheckpointTx

def StatesToBeCommitted.empty (states : StatesToBeCommitted) : Bool :=
  states.updateWrites.isEmpty && states.newWrites.isEmpty && states.batchStatus.isEmpty

/-- The rows for `tx_status`.  The status of a duplicate is never inserted. -/
def statusRows (txIDToHeight : Bytes → Option Height) :
    List TxStatus → Option (List (Bytes × Status × Height))
  | [] => some []
  | s :: rest =>
    if s.status = .rejectedDuplicateTxId then
      statusRows txIDToHeight rest
    else
      match txIDToHeight s.ref.txId, statusRows txIDToHeight rest with
      | some height, some rows => some ((s.ref.txId, s.status, height) :: rows)
      | _, _ => none

def insertTxStatus (db : Database) (states : StatesToBeCommitted) :
    Option (List Bytes × Database) :=
  if states.batchStatus.isEmpty then
    some ([], db)
  else
    (statusRows states.txIDToHeight states.batchStatus).map (insertTxStatusRows db)

def WriteEntry.toWrite (entry : WriteEntry) : Write := ⟨entry.key, entry.value⟩

def WriteEntry.toVersionedWrite (entry : WriteEntry) : VersionedWrite :=
  ⟨entry.key, entry.value, entry.version⟩

def insertStates (db : Database) (newWrites : List WriteEntry) :
    Option (List (Bytes × Bytes) × Database) :=
  (writeNamespaces newWrites).foldlM
    (fun current nsId =>
      (insertNs current.2 nsId ((writesOfNamespace newWrites nsId).map WriteEntry.toWrite)).map
        fun inserted => (current.1 ++ inserted.1.map fun key => (nsId, key), inserted.2))
    ([], db)

def createTablesAndFunctionsForNamespaces
    (db : Database) (newWrites : List WriteEntry) : Database :=
  (writesOfNamespace newWrites metaNamespaceID).foldl (fun db entry => db.createTable entry.key) db

def updateStates (db : Database) (updateWrites : List WriteEntry) : Option Database :=
  (writeNamespaces updateWrites).foldlM
    (fun db nsId =>
      updateNs db nsId ((writesOfNamespace updateWrites nsId).map WriteEntry.toVersionedWrite))
    db

def setLatestSnapshotKeyIfPresent (db : Database) (newWrites : List WriteEntry) : Database :=
  match writesOfNamespace newWrites snapshotNamespaceID with
  | [] => db
  | entry :: _ => { db with latestSnapshotKey := entry.key }

/-- The result of a database transaction: committed, or rolled back with the
recorded IDs or the existing keys it met. -/
inductive CommitResult where
  | committed (db : Database)
  | duplicates (txIDs : List Bytes)
  | conflicts (reads : List (Bytes × Read))

section

variable (codec : SnapshotCodec)

def closeSnapshot (db : Database) : Option CheckpointTx → Option Database
  | none => some db
  | some cp => markSnapshotTerminalInTx codec db cp.snapshotBlockNum (terminalStatus cp)

def commit (db : Database) (states : StatesToBeCommitted) : Option CommitResult :=
  if states.empty then
    some (.committed db)
  else
    match insertTxStatus db states with
    | none => none
    | some (duplicate :: rest, _) => some (.duplicates (duplicate :: rest))
    | some ([], recorded) =>
      match insertStates recorded states.newWrites with
      | none => none
      | some (conflict :: rest, _) =>
        some (.conflicts ((conflict :: rest).map fun found => (found.1, ⟨found.2, none⟩)))
      | some ([], inserted) =>
        match updateStates
            (createTablesAndFunctionsForNamespaces inserted states.newWrites)
            states.updateWrites with
        | none => none
        | some updated =>
          (closeSnapshot codec
              (setLatestSnapshotKeyIfPresent updated states.newWrites)
              states.checkpoint).map
            .committed

def reportedStatus (v : ValidatedTransactions) (id : Bytes) : Option Status :=
  match v.invalidTxStatus id with
  | some status => some status
  | none =>
    if (v.validTxNonBlindWrites id).isEmpty &&
        (v.validTxBlindWrites id).isEmpty && (v.newWrites id).isEmpty then
      none
    else
      some .committed

def prepareStatusForCommit (v : ValidatedTransactions) : List TxStatus :=
  v.txIDs.filterMap fun id =>
    match reportedStatus v id, v.txIDToHeight id with
    | some status, some height => some ⟨⟨id, height.blockNum, height.txNum⟩, status⟩
    | _, _ => none

def statesOf (v : ValidatedTransactions) : StatesToBeCommitted where
  updateWrites := groupWrites v.txIDs v.validTxNonBlindWrites
  newWrites := groupWrites v.txIDs v.newWrites
  batchStatus := prepareStatusForCommit v
  txIDToHeight := v.txIDToHeight
  checkpoint := v.checkpoint

/-- A duplicate that was recorded at the same height is a resubmission and
gets its recorded status. -/
def setCorrectStatusForDuplicateTxID (db : Database) (txsStatus : List TxStatus)
    (txIDToHeight : Bytes → Option Height) : List TxStatus :=
  txsStatus.map fun s =>
    if s.status = .rejectedDuplicateTxId then
      match db.txStatus s.ref.txId with
      | some (status, height) =>
        if txIDToHeight s.ref.txId = some height then
          ⟨⟨s.ref.txId, height.blockNum, height.txNum⟩, status⟩
        else
          s
      | none => s
    else
      s

def maxRetriesToRemoveAllInvalidTxs : Nat := 1024

def commitLoop (db : Database) :
    Nat → ValidatedTransactions → Option (List TxStatus × Option CheckpointFeedback × Database)
  | 0, _ => none
  | retries + 1, v =>
    match commit codec db (statesOf v) with
    | none => none
    | some (.committed committed) =>
      some
        (setCorrectStatusForDuplicateTxID committed (prepareStatusForCommit v) v.txIDToHeight,
          v.checkpointFeedback, committed)
    | some (.duplicates txIDs) =>
      commitLoop db retries (updateInvalidTxs v txIDs .rejectedDuplicateTxId)
    | some (.conflicts reads) =>
      match invalidateTxsOnReadConflicts v reads with
      | none => none
      | some v => commitLoop db retries v

def commitTransactions (db : Database) (v : ValidatedTransactions) :
    Option (List TxStatus × Option CheckpointFeedback × Database) :=
  match populateVersionsAndCategorizeBlindWrites db v with
  | none => none
  | some v =>
    match createSnapshotIfPresent codec db v with
    | none => none
    | some (v, db) => commitLoop codec db maxRetriesToRemoveAllInvalidTxs v

def validate (attempts : Nat) (db : Database) (p : PreparedTransactions) :
    Option (ValidatedTransactions × Database) :=
  match validateReads db p.nsToReads with
  | none => none
  | some conflicts =>
    match invalidateTxsOnReadConflicts (.ofPrepared p) conflicts with
    | none => none
    | some v =>
      match rejectSnapshotIfPriorNotCheckpointed codec db v with
      | none => none
      | some v => rejectCheckpointIfNotVerified codec attempts db v

/-- Preparer, validator and committer applied to one batch.  The second
argument bounds the repeated comparisons of a checkpoint. -/
def processBatch (attempts : Nat) (db : Database) (transactions : List VcTx) :
    Option (List TxStatus × Option CheckpointFeedback × Database) :=
  match prepare codec transactions with
  | none => none
  | some p =>
    match validate codec attempts db p with
    | none => none
    | some (v, db) => commitTransactions codec db v

end

end FabricXCommitter.VC
