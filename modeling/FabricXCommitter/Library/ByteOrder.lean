import Mathlib.Algebra.Order.Ring.Nat
import Mathlib.Data.List.TakeWhile
import Mathlib.Data.UInt

/-!
# Big-endian numbers and the order of byte strings

Encodings that order their arguments compose.
-/

namespace FabricXCommitter.Library

open List

def compareNat (first second : Nat) : Ordering :=
  if first < second then .lt else if second < first then .gt else .eq

theorem compareNat_of_lt {first second : Nat} (less : first < second) :
    compareNat first second = .lt :=
  if_pos less

theorem compareNat_of_gt {first second : Nat} (greater : second < first) :
    compareNat first second = .gt := by
  rw [compareNat, if_neg (by omega), if_pos greater]

@[simp]
theorem compareNat_self (number : Nat) : compareNat number number = .eq := by
  simp [compareNat]

@[simp]
theorem compareNat_eq_iff {first second : Nat} :
    compareNat first second = .eq ↔ first = second := by
  rcases Nat.lt_trichotomy first second with less | same | greater
  · simp [compareNat_of_lt less, Nat.ne_of_lt less]
  · simp [same]
  · simp [compareNat_of_gt greater, Nat.ne_of_gt greater]

/-- The first difference decides, and a proper prefix is less. -/
def compareBytes : List UInt8 → List UInt8 → Ordering
  | [], [] => .eq
  | [], _ :: _ => .lt
  | _ :: _, [] => .gt
  | first :: rest, second :: others =>
    (compareNat first.toNat second.toNat).then (compareBytes rest others)

@[simp]
theorem compareBytes_eq_iff {first second : List UInt8} :
    compareBytes first second = .eq ↔ first = second := by
  induction first generalizing second with
  | nil =>
    cases second with
    | nil => simp [compareBytes]
    | cons byte others => simp [compareBytes]
  | cons byte rest ih =>
    cases second with
    | nil => simp [compareBytes]
    | cons other others =>
      simp [compareBytes, Ordering.then_eq_eq, ih, UInt8.toNat_inj]

theorem compareBytes_append {first second : List UInt8} (sameLength : first.length = second.length)
    (rest others : List UInt8) :
    compareBytes (first ++ rest) (second ++ others) =
      (compareBytes first second).then (compareBytes rest others) := by
  induction first generalizing second with
  | nil =>
    rw [eq_nil_of_length_eq_zero sameLength.symm]
    rfl
  | cons byte tail ih =>
    cases second with
    | nil => cases sameLength
    | cons other otherTail =>
      simp only [cons_append, compareBytes]
      rw [ih (by simpa using sameLength), Ordering.then_assoc]

section

variable {Source : Type*}

def Orders (encode : Source → List UInt8) (order : Source → Source → Ordering) : Prop :=
  ∀ first second rest others,
    compareBytes (encode first ++ rest) (encode second ++ others) =
      (order first second).then (compareBytes rest others)

variable {encode : Source → List UInt8} {order : Source → Source → Ordering}

theorem Orders.compare (orders : Orders encode order) (first second : Source) :
    compareBytes (encode first) (encode second) = order first second := by
  have extended := orders first second [] []
  simpa [compareBytes] using extended

theorem Orders.prefix_iff (orders : Orders encode order)
    (strict : ∀ {first second}, order first second = .eq ↔ first = second) {first second : Source} :
    encode first <+: encode second ↔ first = second := by
  constructor
  · intro starts
    obtain ⟨rest, same⟩ := starts
    have equal : compareBytes (encode first ++ rest) (encode second ++ []) = .eq := by
      rw [compareBytes_eq_iff, same, append_nil]
    rw [orders, Ordering.then_eq_eq] at equal
    exact strict.mp equal.1
  · intro same
    rw [same]

/-- An encoding by parts orders its arguments part by part. -/
theorem Orders.append {Other : Type*} {Whole : Type*} {encodeOther : Other → List UInt8}
    {otherOrder : Other → Other → Ordering}
    (orders : Orders encode order) (othersOrder : Orders encodeOther otherOrder)
    (left : Whole → Source) (right : Whole → Other) :
    Orders (fun whole => encode (left whole) ++ encodeOther (right whole))
      fun first second =>
        (order (left first) (left second)).then (otherOrder (right first) (right second)) := by
  intro first second rest others
  rw [append_assoc, append_assoc, orders, othersOrder, Ordering.then_assoc]

end

def bigEndian (bytes : List UInt8) : Nat :=
  bytes.foldl (fun value byte => value * 256 + byte.toNat) 0

@[simp]
theorem bigEndian_nil : bigEndian [] = 0 := rfl

theorem bigEndian_append_singleton (bytes : List UInt8) (byte : UInt8) :
    bigEndian (bytes ++ [byte]) = bigEndian bytes * 256 + byte.toNat := by
  simp [bigEndian, foldl_append]

theorem bigEndian_cons (byte : UInt8) (rest : List UInt8) :
    bigEndian (byte :: rest) = byte.toNat * 256 ^ rest.length + bigEndian rest := by
  induction rest using List.reverseRecOn with
  | nil => simp [bigEndian]
  | append_singleton front last ih =>
    rw [← cons_append, bigEndian_append_singleton, ih,
      bigEndian_append_singleton, length_append, length_singleton,
      Nat.pow_succ, Nat.add_mul, Nat.mul_assoc, Nat.add_assoc]

theorem bigEndian_lt (bytes : List UInt8) : bigEndian bytes < 256 ^ bytes.length := by
  induction bytes with
  | nil => simp
  | cons byte rest ih =>
    have small : byte.toNat + 1 ≤ 256 := byte.toNat_lt
    have scaled := Nat.mul_le_mul_right (256 ^ rest.length) small
    rw [bigEndian_cons, length_cons, Nat.pow_succ']
    rw [Nat.add_mul] at scaled
    omega

/-- Numbers of one length are ordered as their byte strings. -/
theorem compareBytes_eq_compareNat
    {first second : List UInt8} (sameLength : first.length = second.length) :
    compareBytes first second = compareNat (bigEndian first) (bigEndian second) := by
  induction first generalizing second with
  | nil =>
    rw [eq_nil_of_length_eq_zero sameLength.symm]
    rfl
  | cons byte rest ih =>
    cases second with
    | nil => cases sameLength
    | cons other others =>
      have restLength : rest.length = others.length := by simpa using sameLength
      have restBound := bigEndian_lt rest
      have othersBound := bigEndian_lt others
      rw [restLength] at restBound
      rw [compareBytes, ih restLength, bigEndian_cons, bigEndian_cons, restLength]
      rcases Nat.lt_trichotomy byte.toNat other.toNat with less | same | greater
      · have scaled := Nat.mul_le_mul_right (256 ^ others.length) less
        rw [Nat.succ_mul] at scaled
        have lessWhole :
            byte.toNat * 256 ^ others.length + bigEndian rest <
              other.toNat * 256 ^ others.length + bigEndian others := by
          omega
        rw [compareNat_of_lt less, compareNat_of_lt lessWhole]
        rfl
      · rw [same, compareNat_self]
        simp [compareNat, Ordering.then]
      · have scaled := Nat.mul_le_mul_right (256 ^ others.length) greater
        rw [Nat.succ_mul] at scaled
        have greaterWhole :
            other.toNat * 256 ^ others.length + bigEndian others <
              byte.toNat * 256 ^ others.length + bigEndian rest := by
          omega
        rw [compareNat_of_gt greater, compareNat_of_gt greaterWhole]
        rfl

theorem eq_of_bigEndian_eq {first second : List UInt8} (sameLength : first.length = second.length)
    (same : bigEndian first = bigEndian second) : first = second := by
  rw [← compareBytes_eq_iff, compareBytes_eq_compareNat sameLength, same, compareNat_self]

/-- The lowest bytes of a number, the highest of them first. -/
def bigEndianBytes : Nat → Nat → List UInt8
  | 0, _ => []
  | count + 1, number => bigEndianBytes count (number / 256) ++ [UInt8.ofNat (number % 256)]

@[simp]
theorem bigEndianBytes_length (count number : Nat) :
    (bigEndianBytes count number).length = count := by
  induction count generalizing number with
  | zero => rfl
  | succ count ih => simp [bigEndianBytes, ih]

theorem bigEndian_bigEndianBytes {count number : Nat} (fits : number < 256 ^ count) :
    bigEndian (bigEndianBytes count number) = number := by
  induction count generalizing number with
  | zero =>
    have isZero : number = 0 := by simpa using fits
    rw [isZero]
    rfl
  | succ count ih =>
    have smaller : number / 256 < 256 ^ count := by
      exact Nat.div_lt_of_lt_mul (Nat.mul_comm _ _ ▸ fits)
    have lowest : (UInt8.ofNat (number % 256)).toNat = number % 256 :=
      UInt8.toNat_ofNat_of_lt (Nat.mod_lt _ (by decide))
    rw [bigEndianBytes, bigEndian_append_singleton, ih smaller, lowest]
    omega

theorem bigEndian_dropWhile (bytes : List UInt8) :
    bigEndian (bytes.dropWhile (· == 0)) = bigEndian bytes := by
  induction bytes with
  | nil => rfl
  | cons byte rest ih =>
    by_cases isZero : byte = 0
    · rw [dropWhile_cons_of_pos (by simp [isZero]), ih, bigEndian_cons, isZero]
      simp
    · rw [dropWhile_cons_of_neg (by simp [isZero])]

theorem head?_dropWhile_zero (bytes : List UInt8) : (bytes.dropWhile (· == 0)).head? ≠ some 0 := by
  induction bytes with
  | nil => simp
  | cons byte rest ih =>
    by_cases isZero : byte = 0
    · rw [dropWhile_cons_of_pos (by simp [isZero])]
      exact ih
    · simp [isZero]

theorem le_bigEndian {byte : UInt8} {rest : List UInt8} (leading : (byte :: rest).head? ≠ some 0) :
    256 ^ rest.length ≤ bigEndian (byte :: rest) := by
  have nonzero : byte.toNat ≠ 0 := by
    intro isZero
    apply leading
    rw [head?_cons, UInt8.toNat_inj.mp (isZero.trans UInt8.toNat_zero.symm)]
  have scaled := Nat.mul_le_mul_right (256 ^ rest.length) (Nat.pos_of_ne_zero nonzero)
  rw [bigEndian_cons]
  omega

/-- A longer number without a leading zero is greater. -/
theorem bigEndian_lt_of_length_lt {first second : List UInt8} (leading : second.head? ≠ some 0)
    (shorter : first.length < second.length) :
    bigEndian first < bigEndian second := by
  cases second with
  | nil => simp at shorter
  | cons byte rest =>
    have bound := bigEndian_lt first
    have lower := le_bigEndian leading
    have powers : 256 ^ first.length ≤ 256 ^ rest.length := by
      apply Nat.pow_le_pow_right (by decide)
      rw [length_cons] at shorter
      omega
    omega

/-- A number has one byte string without a leading zero. -/
theorem eq_of_bigEndian_eq_of_leading
    {first second : List UInt8} (firstLeading : first.head? ≠ some 0)
    (secondLeading : second.head? ≠ some 0)
    (same : bigEndian first = bigEndian second) : first = second := by
  rcases Nat.lt_trichotomy first.length second.length with shorter | sameLength | longer
  · have less := bigEndian_lt_of_length_lt secondLeading shorter
    omega
  · exact eq_of_bigEndian_eq sameLength same
  · have less := bigEndian_lt_of_length_lt firstLeading longer
    omega

end FabricXCommitter.Library
