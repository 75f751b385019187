import FabricXCommitter.Encoding
import FabricXCommitter.VC.Database
import FabricXCommitter.VC.SnapshotRecord

/-!
# Preparing and validating a batch

Loops over a Go map follow the order in which the IDs first occur.
-/

namespace FabricXCommitter.VC

open Function

/-- A read with a signed version; a missing version is `-1`. -/
structure CmpRead where
  nsId : Bytes
  key : Bytes
  version : Int
  deriving DecidableEq, Repr

def newCmpRead (nsId : Bytes) (read : Read) : CmpRead :=
  match read.version with
  | none => ⟨nsId, read.key, -1⟩
  | some version => ⟨nsId, read.key, version.toBitVec.toInt⟩

structure WriteEntry where
  nsId : Bytes
  key : Bytes
  value : Bytes
  version : UInt64
  deriving DecidableEq, Repr

abbrev TransactionToWrites := Bytes → List WriteEntry

def TransactionToWrites.append (writes : TransactionToWrites) (id : Bytes) (entry : WriteEntry) :
    TransactionToWrites :=
  update writes id (writes id ++ [entry])

structure CheckpointTx where
  txID : Bytes
  ref : TxRef
  snapshotBlockNum : UInt64
  value : Bytes
  deriving DecidableEq, Repr

/-- `txIDs` lists the keys of `txIDToHeight`. -/
structure PreparedTransactions where
  nsToReads : List (Bytes × Read)
  readToTxIDs : CmpRead → List Bytes
  txIDToNsNonBlindWrites : TransactionToWrites
  txIDToNsBlindWrites : TransactionToWrites
  txIDToNsNewWrites : TransactionToWrites
  invalidTxIDStatus : Bytes → Option Status
  txIDs : List Bytes
  txIDToHeight : Bytes → Option Height
  checkpoint : Option CheckpointTx

def emptyPrepared : PreparedTransactions where
  nsToReads := []
  readToTxIDs := fun _ => []
  txIDToNsNonBlindWrites := fun _ => []
  txIDToNsBlindWrites := fun _ => []
  txIDToNsNewWrites := fun _ => []
  invalidTxIDStatus := fun _ => none
  txIDs := []
  txIDToHeight := fun _ => none
  checkpoint := none

/-- Register a read of a transaction.  The read is appended to the reads of its
namespace if it is to be validated and was not registered before. -/
def recordRead (p : PreparedTransactions) (id nsId : Bytes) (read : Read)
    (validated : Bool) : PreparedTransactions :=
  let cr := newCmpRead nsId read
  { p with
    readToTxIDs := update p.readToTxIDs cr (p.readToTxIDs cr ++ [id])
    nsToReads :=
      if validated && (p.readToTxIDs cr).isEmpty then
        p.nsToReads ++ [(nsId, read)]
      else
        p.nsToReads }

def addReadsOnly (p : PreparedTransactions) (id nsId : Bytes) (readsOnly : List Read) :
    PreparedTransactions :=
  readsOnly.foldl (fun p read => recordRead p id nsId read true) p

def readOf (rw : ReadWrite) : Read := ⟨rw.key, rw.version⟩

/-- A read-write with a version is validated and updates its key; without a
version it is a new write. -/
def addReadWrite (id nsId : Bytes) (p : PreparedTransactions) (rw : ReadWrite) :
    PreparedTransactions :=
  let p := recordRead p id nsId (readOf rw) rw.version.isSome
  match rw.version with
  | some version =>
    { p with
      txIDToNsNonBlindWrites :=
        p.txIDToNsNonBlindWrites.append id ⟨nsId, rw.key, rw.value, version + 1⟩ }
  | none =>
    { p with
      txIDToNsNewWrites := p.txIDToNsNewWrites.append id ⟨nsId, rw.key, rw.value, 0⟩ }

def addReadWrites (p : PreparedTransactions) (id nsId : Bytes)
    (readWrites : List ReadWrite) : PreparedTransactions :=
  readWrites.foldl (addReadWrite id nsId) p

def addBlindWrites (p : PreparedTransactions) (id nsId : Bytes) (blindWrites : List Write) :
    PreparedTransactions :=
  blindWrites.foldl
    (fun p w =>
      { p with
        txIDToNsBlindWrites := p.txIDToNsBlindWrites.append id ⟨nsId, w.key, w.value, 0⟩ })
    p

/-- The read of the version of the policy under which a namespace of the
transaction was executed. -/
def versionRead (nsId : Bytes) (nsVersion : UInt64) : Option (Bytes × Read) :=
  if nsId = metaNamespaceID then
    some (configNamespaceID, ⟨configKey, some nsVersion⟩)
  else if nsId = configNamespaceID ∨ nsId = checkpointNamespaceID then
    none
  else
    some (metaNamespaceID, ⟨nsId, some nsVersion⟩)

section

variable (codec : SnapshotCodec)

def prepareNamespace (ref : TxRef) (p : PreparedTransactions) (ns : TxNamespace) :
    PreparedTransactions :=
  if ns.nsId = snapshotNamespaceID then
    addReadWrites p ref.txId snapshotNamespaceID
      [⟨ref.txId, none, codec.encode { txRef := some ref }⟩]
  else
    let p := addReadsOnly p ref.txId ns.nsId ns.readsOnly
    let p := addReadWrites p ref.txId ns.nsId ns.readWrites
    let p := addBlindWrites p ref.txId ns.nsId ns.blindWrites
    match versionRead ns.nsId ns.nsVersion with
    | some (nsId, read) => addReadsOnly p ref.txId nsId [read]
    | none => p

/-- A transaction whose ID occurred before in the batch is ignored. -/
def prepareTx (p : PreparedTransactions) (tx : VcTx) : PreparedTransactions :=
  if tx.ref.txId ∈ p.txIDs then
    p
  else
    let p :=
      { p with
        txIDs := p.txIDs ++ [tx.ref.txId]
        txIDToHeight := update p.txIDToHeight tx.ref.txId (some tx.ref.height) }
    match tx.prelimInvalidTxStatus with
    | some status =>
      { p with
        invalidTxIDStatus := update p.invalidTxIDStatus tx.ref.txId (some status) }
    | none => tx.namespaces.foldl (prepareNamespace codec tx.ref) p

def firstWriteIn (nsId : Bytes) (entries : List WriteEntry) : Option WriteEntry :=
  entries.find? fun entry => entry.nsId == nsId

/-- The checkpoint transaction among the new writes.  An undecodable key, an
invalid value or a second checkpoint fails the batch. -/
def checkpointWriteInBatch (p : PreparedTransactions) : Option (Option CheckpointTx) :=
  p.txIDs.foldlM
    (fun cp txID =>
      match firstWriteIn checkpointNamespaceID (p.txIDToNsNewWrites txID) with
      | none => some cp
      | some write =>
        match blockNumFromCheckpointKey write.key with
        | none => none
        | some blockNum =>
          if !isValidCheckpointValue write.value then
            none
          else if cp.isSome then
            none
          else
            (p.txIDToHeight txID).map fun h =>
              some ⟨txID, ⟨txID, h.blockNum, h.txNum⟩, blockNum, write.value⟩)
    none

def prepare (transactions : List VcTx) : Option PreparedTransactions :=
  let p := transactions.foldl (prepareTx codec) emptyPrepared
  (checkpointWriteInBatch p).map fun cp => { p with checkpoint := cp }

end

inductive FeedbackSignal where
  | hold
  | halt
  deriving DecidableEq, Repr

structure CheckpointFeedback where
  signal : FeedbackSignal
  ref : TxRef
  snapshotBlockNumber : UInt64
  reason : String
  deriving DecidableEq, Repr

structure ValidatedTransactions where
  validTxNonBlindWrites : TransactionToWrites
  validTxBlindWrites : TransactionToWrites
  newWrites : TransactionToWrites
  readToTxIDs : CmpRead → List Bytes
  invalidTxStatus : Bytes → Option Status
  txIDs : List Bytes
  txIDToHeight : Bytes → Option Height
  checkpoint : Option CheckpointTx
  checkpointFeedback : Option CheckpointFeedback

/-- The validated transactions before any read was compared. -/
def ValidatedTransactions.ofPrepared (p : PreparedTransactions) : ValidatedTransactions where
  validTxNonBlindWrites := p.txIDToNsNonBlindWrites
  validTxBlindWrites := p.txIDToNsBlindWrites
  newWrites := p.txIDToNsNewWrites
  readToTxIDs := p.readToTxIDs
  invalidTxStatus := p.invalidTxIDStatus
  txIDs := p.txIDs
  txIDToHeight := p.txIDToHeight
  checkpoint := p.checkpoint
  checkpointFeedback := none

def TransactionToWrites.deleteAll (writes : TransactionToWrites) (txIDs : List Bytes) :
    TransactionToWrites :=
  fun id => if id ∈ txIDs then [] else writes id

/-- The iterations of the source concern different transaction IDs, so the loop
is given pointwise. -/
def updateInvalidTxs (v : ValidatedTransactions) (txIDs : List Bytes) (status : Status) :
    ValidatedTransactions :=
  { v with
    validTxNonBlindWrites := v.validTxNonBlindWrites.deleteAll txIDs
    validTxBlindWrites := v.validTxBlindWrites.deleteAll txIDs
    newWrites := v.newWrites.deleteAll txIDs
    checkpoint := v.checkpoint.filter fun cp => cp.txID ∉ txIDs
    invalidTxStatus := fun id =>
      if id ∈ txIDs then some status else v.invalidTxStatus id }

/-- A conflicting read that no transaction made is an error. -/
def invalidateTxsOnReadConflicts (v : ValidatedTransactions) (conflicts : List (Bytes × Read)) :
    Option ValidatedTransactions :=
  conflicts.foldlM
    (fun v conflict =>
      let txIDs := v.readToTxIDs (newCmpRead conflict.1 conflict.2)
      if txIDs.isEmpty then
        none
      else
        some (updateInvalidTxs v txIDs .abortedMvccConflict))
    v

def readNamespaces (nsToReads : List (Bytes × Read)) : List Bytes := (nsToReads.map Prod.fst).dedup

def readsOfNamespace (nsToReads : List (Bytes × Read)) (nsId : Bytes) : List Read :=
  (nsToReads.filter fun entry => entry.1 == nsId).map Prod.snd

def validateReads (db : Database) (nsToReads : List (Bytes × Read)) :
    Option (List (Bytes × Read)) :=
  (readNamespaces nsToReads).foldlM
    (fun conflicts nsId =>
      (validateNamespaceReads db nsId (readsOfNamespace nsToReads nsId)).map
        fun found => conflicts ++ found.map fun read => (nsId, read))
    []

end FabricXCommitter.VC
