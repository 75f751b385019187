import Mathlib.Data.List.Basic
import Mathlib.Data.UInt

/-!
# Transactions, heights and statuses

Go strings and byte slices are both byte sequences.
-/

namespace FabricXCommitter

abbrev Bytes := List UInt8

instance : LawfulBEq Bytes := inferInstance

/-- The transaction statuses of `committerpb.Status` that the modelled code
names. -/
inductive Status where
  | unspecified
  | committed
  | abortedSignatureInvalid
  | abortedMvccConflict
  | rejectedDuplicateTxId
  | malformedBadEnvelope
  | malformedMissingTxId
  | malformedUnsupportedEnvelopePayload
  | malformedBadEnvelopePayload
  | malformedTxIdConflict
  | malformedEmptyNamespaces
  | malformedDuplicateNamespace
  | malformedNamespaceIdInvalid
  | malformedBlindWritesNotAllowed
  | malformedNoWrites
  | malformedEmptyKey
  | malformedDuplicateKeyInReadWriteSet
  | malformedMissingSignature
  | malformedNamespacePolicyInvalid
  | malformedSnapshotNotMarkerOnly
  | malformedCheckpointInvalidKey
  | malformedCheckpointInvalidValue
  | malformedSystemTxNotStandalone
  | rejectedSnapshotInProgress
  | rejectedSnapshotNoCheckpoint
  | rejectedDuplicateSnapshotInBlock
  | rejectedCheckpointNoSuchSnapshot
  deriving DecidableEq, Repr

structure Height where
  blockNum : UInt64
  txNum : UInt32
  deriving DecidableEq, Repr

structure TxRef where
  txId : Bytes
  blockNum : UInt64
  txNum : UInt32
  deriving DecidableEq, Repr

/-- `NewHeightFromTxRef`. -/
def TxRef.height (ref : TxRef) : Height := ⟨ref.blockNum, ref.txNum⟩

/-- A read of a key; a missing version states that the key does not exist. -/
structure Read where
  key : Bytes
  version : Option UInt64
  deriving DecidableEq, Repr

structure ReadWrite where
  key : Bytes
  version : Option UInt64
  value : Bytes
  deriving DecidableEq, Repr

structure Write where
  key : Bytes
  value : Bytes
  deriving DecidableEq, Repr

structure TxNamespace where
  nsId : Bytes
  nsVersion : UInt64 := 0
  readsOnly : List Read := []
  readWrites : List ReadWrite := []
  blindWrites : List Write := []
  deriving DecidableEq, Repr

/-- The endorsements of one namespace; `none` stands for a nil pointer. -/
abbrev Endorsements := Option (List (Option Bytes))

structure Tx where
  namespaces : List TxNamespace
  endorsements : List Endorsements
  deriving DecidableEq, Repr

structure TxWithRef where
  ref : TxRef
  content : Tx
  deriving DecidableEq, Repr

/-- A transaction as the coordinator hands it to a validator-committer. -/
structure VcTx where
  ref : TxRef
  namespaces : List TxNamespace
  prelimInvalidTxStatus : Option Status := none
  deriving DecidableEq, Repr

/-- A transaction with its final status. -/
structure TxStatus where
  ref : TxRef
  status : Status
  deriving DecidableEq, Repr

/-- The system namespace IDs `_meta`, `_config`, `_snapshot` and `_checkpoint`,
and the key of the configuration record. -/
def metaNamespaceID : Bytes := [0x5f, 0x6d, 0x65, 0x74, 0x61]

def configNamespaceID : Bytes := [0x5f, 0x63, 0x6f, 0x6e, 0x66, 0x69, 0x67]

def snapshotNamespaceID : Bytes := [0x5f, 0x73, 0x6e, 0x61, 0x70, 0x73, 0x68, 0x6f, 0x74]

def checkpointNamespaceID : Bytes :=
  [0x5f, 0x63, 0x68, 0x65, 0x63, 0x6b, 0x70, 0x6f, 0x69, 0x6e, 0x74]

def configKey : Bytes := [0x5f, 0x63, 0x6f, 0x6e, 0x66, 0x69, 0x67]

/-- The functions the modelled code calls in packages outside the repository.
`isSystemNamespace` recognises the four namespaces whose tables the database
setup creates; `policyAccepted` says that policy bytes unmarshal and yield a
namespace verifier. -/
structure Platform where
  isSystemNamespace : Bytes → Bool
  policyAccepted : Bytes → Bool
  isSystemNamespace_iff :
    ∀ nsId, isSystemNamespace nsId = true ↔
      nsId = metaNamespaceID ∨ nsId = configNamespaceID ∨
        nsId = snapshotNamespaceID ∨ nsId = checkpointNamespaceID

/-- A platform that accepts every policy. -/
def permissivePlatform : Platform where
  isSystemNamespace := fun nsId =>
    decide
      (nsId = metaNamespaceID ∨ nsId = configNamespaceID ∨
        nsId = snapshotNamespaceID ∨ nsId = checkpointNamespaceID)
  policyAccepted := fun _ => true
  isSystemNamespace_iff := fun _ => decide_eq_true_iff

end FabricXCommitter
