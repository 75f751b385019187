import FabricXCommitter.Library.ByteOrder
import FabricXCommitter.Transaction

/-!
# Order-preserving integer encoding, heights and checkpoint keys

The decoder takes bytes with leading zeros too.
-/

namespace FabricXCommitter

open Library List

def bigEndianUint64 (bytes : Bytes) : UInt64 :=
  bytes.foldl (fun value byte => value * 256 + byte.toUInt64) 0

/-- `EncodeOrderPreservingVarUint64`.  The varint of a size up to eight is one
byte. -/
def encodeOrderPreservingVarUint64 (number : UInt64) : Bytes :=
  let significant := (bigEndianBytes 8 number.toNat).dropWhile (· == 0)
  UInt8.ofNat significant.length :: significant

/-- `DecodeOrderPreservingVarUint64`: the decoded number and the number of
consumed bytes.  A first byte with its high bit set starts a varint that is
not one byte long, which the source rejects. -/
def decodeOrderPreservingVarUint64 : Bytes → Option (UInt64 × Nat)
  | [] => none
  | sizeByte :: rest =>
    if 0x80 ≤ sizeByte then
      none
    else if 8 < sizeByte then
      none
    else if rest.length < sizeByte.toNat then
      none
    else
      some (bigEndianUint64 (rest.take sizeByte.toNat), sizeByte.toNat + 1)

def checkpointKey (blockNum : UInt64) : Bytes := encodeOrderPreservingVarUint64 blockNum

/-- `BlockNumFromCheckpointKey`: extra bytes after the number are rejected. -/
def blockNumFromCheckpointKey (key : Bytes) : Option UInt64 :=
  match decodeOrderPreservingVarUint64 key with
  | none => none
  | some (blockNum, consumed) =>
    if consumed ≠ key.length then none else some blockNum

/-- The value `abort` of a checkpoint that closes a snapshot without a digest. -/
def checkpointAbortValue : Bytes := [0x61, 0x62, 0x6f, 0x72, 0x74]

/-- `IsValidCheckpointValue`: exactly `abort`, or as long as a SHA-256 digest. -/
def isValidCheckpointValue (value : Bytes) : Bool :=
  value == checkpointAbortValue || value.length == 32

/-- `NewHeightFromBytes`: the height and the number of consumed bytes. -/
def newHeightFromBytes (b : Bytes) : Option (Height × Nat) :=
  match decodeOrderPreservingVarUint64 b with
  | none => none
  | some (blockNum, consumed) =>
    match decodeOrderPreservingVarUint64 (b.drop consumed) with
    | none => none
    | some (txNum, consumedByTxNum) =>
      some (⟨blockNum, txNum.toUInt32⟩, consumed + consumedByTxNum)

def Height.toBytes (height : Height) : Bytes :=
  encodeOrderPreservingVarUint64 height.blockNum ++
    encodeOrderPreservingVarUint64 height.txNum.toUInt64

/-- Block numbers are compared first, then transaction numbers. -/
def Height.compare (first second : Height) : Ordering :=
  (compareNat first.blockNum.toNat second.blockNum.toNat).then
    (compareNat first.txNum.toNat second.txNum.toNat)

theorem bigEndianUint64_eq (bytes : Bytes) :
    bigEndianUint64 bytes = UInt64.ofNat (bigEndian bytes) := by
  induction bytes using List.reverseRecOn with
  | nil => rfl
  | append_singleton front last ih =>
    rw [bigEndian_append_singleton, bigEndianUint64, foldl_append]
    change bigEndianUint64 front * 256 + last.toUInt64 = _
    rw [ih, UInt64.ofNat_add, UInt64.ofNat_mul]
    simp

def significantBytes (number : UInt64) : Bytes := (bigEndianBytes 8 number.toNat).dropWhile (· == 0)

theorem encode_eq (number : UInt64) :
    encodeOrderPreservingVarUint64 number =
      UInt8.ofNat (significantBytes number).length :: significantBytes number :=
  rfl

theorem significantBytes_length (number : UInt64) : (significantBytes number).length ≤ 8 := by
  have shorter := (dropWhile_sublist (· == 0) (l := bigEndianBytes 8 number.toNat)).length_le
  exact shorter

theorem significantBytes_leading (number : UInt64) : (significantBytes number).head? ≠ some 0 :=
  head?_dropWhile_zero _

theorem bigEndian_significantBytes (number : UInt64) :
    bigEndian (significantBytes number) = number.toNat := by
  rw [significantBytes, bigEndian_dropWhile]
  exact bigEndian_bigEndianBytes number.toNat_lt

theorem sizeByte_toNat (number : UInt64) :
    (UInt8.ofNat (significantBytes number).length).toNat = (significantBytes number).length := by
  apply UInt8.toNat_ofNat_of_lt
  exact Nat.lt_of_le_of_lt (significantBytes_length number) (by decide)

theorem decode_cons_eq_some_iff
    {sizeByte : UInt8} {rest : Bytes} {number : UInt64} {consumed : Nat} :
    decodeOrderPreservingVarUint64 (sizeByte :: rest) = some (number, consumed) ↔
      sizeByte.toNat ≤ 8 ∧ sizeByte.toNat ≤ rest.length ∧
        number = bigEndianUint64 (rest.take sizeByte.toNat) ∧ consumed = sizeByte.toNat + 1 := by
  rw [decodeOrderPreservingVarUint64]
  by_cases large : 8 < sizeByte
  · have atLeast : ¬ sizeByte.toNat ≤ 8 := by
      exact Nat.not_le_of_lt large
    simp [large, atLeast]
  · have atMost : sizeByte.toNat ≤ 8 := by
      exact Nat.le_of_not_lt large
    have notHigh : ¬ 0x80 ≤ sizeByte := by
      rw [UInt8.le_iff_toNat_le]
      simp
      omega
    by_cases short : rest.length < sizeByte.toNat
    · simp [large, notHigh, short, Nat.not_le_of_lt short]
    · simp [large, notHigh, short, atMost, Nat.le_of_not_lt short, eq_comm]

theorem decode_encode (number : UInt64) (rest : Bytes) :
    decodeOrderPreservingVarUint64 (encodeOrderPreservingVarUint64 number ++ rest) =
      some (number, (encodeOrderPreservingVarUint64 number).length) := by
  have size := sizeByte_toNat number
  have short := significantBytes_length number
  rw [encode_eq, cons_append, decode_cons_eq_some_iff, size]
  refine ⟨short, ?_, ?_, rfl⟩
  · rw [length_append]
    omega
  · rw [take_left, bigEndianUint64_eq, bigEndian_significantBytes, UInt64.ofNat_toNat]

theorem encode_bigEndianUint64
    {bytes : Bytes} (short : bytes.length ≤ 8) (leading : bytes.head? ≠ some 0) :
    encodeOrderPreservingVarUint64 (bigEndianUint64 bytes) = UInt8.ofNat bytes.length :: bytes := by
  have fits : bigEndian bytes < 2 ^ 64 := by
    have bound := bigEndian_lt bytes
    have powers : 256 ^ bytes.length ≤ 256 ^ 8 := Nat.pow_le_pow_right (by decide) short
    omega
  have same : significantBytes (bigEndianUint64 bytes) = bytes := by
    apply eq_of_bigEndian_eq_of_leading (significantBytes_leading _) leading
    rw [bigEndian_significantBytes, bigEndianUint64_eq]
    exact UInt64.toNat_ofNat_of_lt fits
  rw [encode_eq, same]

/-- The number in a key has no leading zero byte. -/
def Unpadded (key : Bytes) : Prop := key[1]? ≠ some 0

instance (key : Bytes) : Decidable (Unpadded key) := inferInstanceAs (Decidable (key[1]? ≠ some 0))

theorem blockNumFromCheckpointKey_checkpointKey (blockNum : UInt64) :
    blockNumFromCheckpointKey (checkpointKey blockNum) = some blockNum := by
  have decoded := decode_encode blockNum []
  rw [append_nil] at decoded
  simp [blockNumFromCheckpointKey, checkpointKey, decoded]

theorem unpadded_checkpointKey (blockNum : UInt64) : Unpadded (checkpointKey blockNum) := by
  have leading := significantBytes_leading blockNum
  rw [Unpadded, checkpointKey, encode_eq, getElem?_cons_succ, ← head?_eq_getElem?]
  exact leading

theorem checkpointKey_iff_unpadded
    {key : Bytes} {blockNum : UInt64} (decoded : blockNumFromCheckpointKey key = some blockNum) :
    key = checkpointKey blockNum ↔ Unpadded key := by
  constructor
  · intro isKey
    rw [isKey]
    exact unpadded_checkpointKey blockNum
  · intro unpadded
    cases key with
    | nil => cases decoded
    | cons sizeByte rest =>
      rw [blockNumFromCheckpointKey] at decoded
      split at decoded
      · cases decoded
      · rename_i number consumed read
        obtain ⟨short, _, isNumber, isConsumed⟩ := decode_cons_eq_some_iff.mp read
        split at decoded
        · cases decoded
        · rename_i whole
          rw [not_not, isConsumed, length_cons] at whole
          have size : sizeByte.toNat = rest.length := by omega
          rw [size, take_length] at isNumber
          rw [size] at short
          rw [Unpadded, getElem?_cons_succ, ← head?_eq_getElem?] at unpadded
          cases decoded
          rw [checkpointKey, isNumber, encode_bigEndianUint64 short unpadded,
            ← size, UInt8.ofNat_toNat]

theorem encode_orders :
    Orders encodeOrderPreservingVarUint64 fun first second =>
      compareNat first.toNat second.toNat := by
  intro first second rest others
  dsimp only
  have firstNumber := bigEndian_significantBytes first
  have secondNumber := bigEndian_significantBytes second
  rw [encode_eq, encode_eq, cons_append, cons_append, compareBytes, sizeByte_toNat, sizeByte_toNat]
  rcases Nat.lt_trichotomy (significantBytes first).length
      (significantBytes second).length with shorter | sameLength | longer
  · have less := bigEndian_lt_of_length_lt (significantBytes_leading second) shorter
    rw [firstNumber, secondNumber] at less
    rw [compareNat_of_lt shorter, compareNat_of_lt less]
    rfl
  · rw [sameLength, compareNat_self, compareBytes_append sameLength,
      compareBytes_eq_compareNat sameLength, firstNumber, secondNumber]
    rfl
  · have greater := bigEndian_lt_of_length_lt (significantBytes_leading first) longer
    rw [firstNumber, secondNumber] at greater
    rw [compareNat_of_gt longer, compareNat_of_gt greater]
    rfl

theorem Height.toBytes_orders : Orders Height.toBytes Height.compare := by
  have widened :
      Orders (fun txNum : UInt32 => encodeOrderPreservingVarUint64 txNum.toUInt64)
        fun first second => compareNat first.toNat second.toNat := by
    intro first second rest others
    rw [encode_orders]
    dsimp only
    rw [UInt32.toNat_toUInt64, UInt32.toNat_toUInt64]
  exact encode_orders.append widened Height.blockNum Height.txNum

theorem Height.compare_eq_iff {first second : Height} :
    first.compare second = .eq ↔ first = second := by
  rw [Height.compare, Ordering.then_eq_eq, compareNat_eq_iff, compareNat_eq_iff,
    UInt64.toNat_inj, UInt32.toNat_inj]
  cases first
  cases second
  simp

theorem newHeightFromBytes_toBytes (height : Height) (rest : Bytes) :
    newHeightFromBytes (height.toBytes ++ rest) = some (height, height.toBytes.length) := by
  rw [newHeightFromBytes, Height.toBytes, append_assoc, decode_encode]
  simp only [drop_left, decode_encode, length_append]
  simp

/-- Heights are decoded from their bytes whatever follows, no height's bytes are
a prefix of those of another one, and bytes are ordered as heights. -/
theorem height_encoding (height other : Height) (rest : Bytes) :
    newHeightFromBytes (height.toBytes ++ rest) = some (height, height.toBytes.length) ∧
      (height.toBytes <+: other.toBytes ↔ height = other) ∧
        compareBytes height.toBytes other.toBytes = height.compare other :=
  ⟨newHeightFromBytes_toBytes height rest,
    Height.toBytes_orders.prefix_iff Height.compare_eq_iff,
    Height.toBytes_orders.compare height other⟩

end FabricXCommitter
