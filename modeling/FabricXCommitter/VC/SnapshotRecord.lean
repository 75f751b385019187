import FabricXCommitter.Library.Serializer
import FabricXCommitter.Transaction
import Mathlib.Logic.Encodable.Basic
import Mathlib.Logic.Equiv.List

/-!
# Snapshot records

The contract of the wire format is that a written record is read back.
-/

namespace FabricXCommitter.VC

inductive SnapshotStatus where
  | unspecified
  | pending
  | inProgress
  | completed
  | failed
  | checkpointed
  | aborted
  deriving DecidableEq, Repr

structure SnapshotState where
  txRef : Option TxRef
  status : SnapshotStatus := .unspecified
  hash : Bytes := []
  cloneDatabase : String := ""
  error : String := ""
  deriving DecidableEq, Repr

/-- The wire format of snapshot records: `EncodeSnapshotState` and
`DecodeSnapshotState`. -/
structure SnapshotCodec where
  encode : SnapshotState → Bytes
  decode : Bytes → Option SnapshotState
  decode_encode : ∀ state, decode (encode state) = some state

def SnapshotStatus.number : SnapshotStatus → Nat
  | .unspecified => 0
  | .pending => 1
  | .inProgress => 2
  | .completed => 3
  | .failed => 4
  | .checkpointed => 5
  | .aborted => 6

def SnapshotStatus.ofNumber : Nat → SnapshotStatus
  | 0 => .unspecified
  | 1 => .pending
  | 2 => .inProgress
  | 3 => .completed
  | 4 => .failed
  | 5 => .checkpointed
  | _ => .aborted

/-- The fields of a record as numbers. -/
abbrev SnapshotNumbers := Option (List Nat × Nat × Nat) × Nat × List Nat × List Nat × List Nat

def SnapshotState.numbers (state : SnapshotState) : SnapshotNumbers :=
  (state.txRef.map fun ref => (ref.txId.map UInt8.toNat, ref.blockNum.toNat, ref.txNum.toNat),
    state.status.number, state.hash.map UInt8.toNat,
    state.cloneDatabase.toList.map Char.toNat,
    state.error.toList.map Char.toNat)

def SnapshotState.ofNumbers (numbers : SnapshotNumbers) : SnapshotState where
  txRef :=
    numbers.1.map fun ref => ⟨ref.1.map UInt8.ofNat, UInt64.ofNat ref.2.1, UInt32.ofNat ref.2.2⟩
  status := .ofNumber numbers.2.1
  hash := numbers.2.2.1.map UInt8.ofNat
  cloneDatabase := String.ofList (numbers.2.2.2.1.map Char.ofNat)
  error := String.ofList (numbers.2.2.2.2.map Char.ofNat)

theorem SnapshotState.ofNumbers_numbers (state : SnapshotState) :
    ofNumbers state.numbers = state := by
  obtain ⟨txRef, status, hash, cloneDatabase, error⟩ := state
  have bytes : ∀ given : Bytes, (given.map UInt8.toNat).map UInt8.ofNat = given := by
    intro given
    simp [Function.comp_def]
  have text : ∀ given : String,
      String.ofList ((given.toList.map Char.toNat).map Char.ofNat) = given := by
    intro given
    simp [Function.comp_def, Char.ofNat_toNat]
  have sameStatus : SnapshotStatus.ofNumber status.number = status := by cases status <;> rfl
  have sameRef :
      ((txRef.map fun ref => (ref.txId.map UInt8.toNat, ref.blockNum.toNat, ref.txNum.toNat)).map
        fun ref =>
          (⟨ref.1.map UInt8.ofNat, UInt64.ofNat ref.2.1, UInt32.ofNat ref.2.2⟩ :
            TxRef)) = txRef := by
    cases txRef with
    | none => rfl
    | some ref => simp [Function.comp_def]
  simp only [numbers, ofNumbers, bytes, text, sameStatus, sameRef]

/-- The length of the encoding is the number of the record. -/
def countingCodec : SnapshotCodec where
  encode := fun state => List.replicate (Encodable.encode state.numbers) 0
  decode := fun bytes =>
    (Encodable.decode bytes.length : Option SnapshotNumbers).map SnapshotState.ofNumbers
  decode_encode := by
    intro state
    rw [List.length_replicate, Encodable.encodek, Option.map_some, SnapshotState.ofNumbers_numbers]

/-- The fields of a record one after another. -/
def fieldSerializer : Library.Serializer SnapshotNumbers :=
  .pair (.option (.pair (.list .nat) (.pair .nat .nat)))
    (.pair .nat (.pair (.list .nat) (.pair (.list .nat) (.list .nat))))

def fieldCodec : SnapshotCodec where
  encode := fun state => fieldSerializer.write state.numbers
  decode := fun bytes => (fieldSerializer.readAll bytes).map SnapshotState.ofNumbers
  decode_encode := by
    intro state
    rw [Library.Serializer.readAll_write, Option.map_some, SnapshotState.ofNumbers_numbers]

end FabricXCommitter.VC
