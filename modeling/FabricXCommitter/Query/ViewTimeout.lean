import Mathlib.Data.UInt

/-!
# The timeout of a view

Numbers of `2 ^ 63` and more are negative for the comparison and pass it.
-/

namespace FabricXCommitter.Query

/-- `time.Millisecond`, in the nanoseconds of a `time.Duration`. -/
def millisecond : Int64 := 1000000

/-- `Duration.Milliseconds`. -/
def milliseconds (duration : Int64) : Int64 := duration / millisecond

/-- The milliseconds that `BeginView` passes on. -/
def capTimeout (maxViewTimeout : Int64) (timeoutMilliseconds : UInt64) : UInt64 :=
  if timeoutMilliseconds = 0 ∨ timeoutMilliseconds.toInt64 > milliseconds maxViewTimeout then
    (milliseconds maxViewTimeout).toUInt64
  else
    timeoutMilliseconds

/-- The duration of the context that `makeView` creates. -/
def contextTimeout (timeoutMilliseconds : UInt64) : Int64 :=
  timeoutMilliseconds.toInt64 * millisecond

def viewTimeout (maxViewTimeout : Int64) (timeoutMilliseconds : UInt64) : Int64 :=
  contextTimeout (capTimeout maxViewTimeout timeoutMilliseconds)

theorem toInt_toInt64 (n : UInt64) : n.toInt64.toInt = (n.toNat : Int).bmod (2 ^ 64) :=
  BitVec.toInt_eq_toNat_bmod n.toBitVec

theorem toInt_contextTimeout (n : UInt64) :
    (contextTimeout n).toInt = ((n.toNat : Int) * 1000000).bmod (2 ^ 64) := by
  have factor : millisecond.toInt = 1000000 := rfl
  rw [contextTimeout, Int64.toInt_mul, toInt_toInt64, factor, Int.bmod_mul_bmod]

section

variable {maxViewTimeout : Int64} (positive : 0 < maxViewTimeout)

include positive

theorem toInt_milliseconds :
    (milliseconds maxViewTimeout).toInt = maxViewTimeout.toInt / 1000000 := by
  have nonneg : 0 < maxViewTimeout.toInt := Int64.lt_iff_toInt_lt.mp positive
  have notMin : maxViewTimeout ≠ Int64.minValue := by
    rintro rfl
    revert positive
    decide
  rw [milliseconds, Int64.toInt_div_of_ne_left _ _ notMin]
  exact Int.tdiv_eq_ediv_of_nonneg nonneg.le

theorem toNat_milliseconds :
    ((milliseconds maxViewTimeout).toUInt64.toNat : Int) = maxViewTimeout.toInt / 1000000 := by
  have isQuotient := toInt_milliseconds positive
  have nonneg : 0 < maxViewTimeout.toInt := Int64.lt_iff_toInt_lt.mp positive
  have bound := (milliseconds maxViewTimeout).toUInt64.toNat_lt
  have same := toInt_toInt64 (milliseconds maxViewTimeout).toUInt64
  change (milliseconds maxViewTimeout).toInt = _ at same
  rw [isQuotient, Int.bmod_def] at same
  split at same <;> omega

theorem toNat_capTimeout (n : UInt64) :
    ((capTimeout maxViewTimeout n).toNat : Int) =
      if n.toNat < 2 ^ 63 ∧ (n.toNat = 0 ∨ maxViewTimeout.toInt / 1000000 < n.toNat) then
        maxViewTimeout.toInt / 1000000
      else
        n.toNat := by
  have bound := n.toNat_lt
  have nonneg : 0 < maxViewTimeout.toInt := Int64.lt_iff_toInt_lt.mp positive
  have zero : n = 0 ↔ n.toNat = 0 := UInt64.toNat_inj.symm
  have above :
      n.toInt64 > milliseconds maxViewTimeout ↔
        n.toNat < 2 ^ 63 ∧ maxViewTimeout.toInt / 1000000 < n.toNat := by
    rw [gt_iff_lt, Int64.lt_iff_toInt_lt, toInt_milliseconds positive, toInt_toInt64, Int.bmod_def]
    split <;> omega
  simp only [capTimeout, zero, above]
  by_cases capped : n.toNat = 0 ∨ n.toNat < 2 ^ 63 ∧ maxViewTimeout.toInt / 1000000 < n.toNat
  · rw [if_pos capped, toNat_milliseconds positive, if_pos (by omega)]
  · rw [if_neg capped, if_neg (by omega)]

/-- The timeout is positive and within the maximum exactly if the maximum is a
millisecond or more and the request is not negative as a signed number, or if the
product of a negative request happens to wrap around into the range. -/
theorem viewTimeout_capped_iff (n : UInt64) :
    0 < viewTimeout maxViewTimeout n ∧ viewTimeout maxViewTimeout n ≤ maxViewTimeout ↔
      if n.toNat < 2 ^ 63 then
        1000000 ≤ maxViewTimeout.toInt
      else
        0 < n.toNat * 1000000 % 2 ^ 64 ∧
          ((n.toNat * 1000000 % 2 ^ 64 : Nat) : Int) ≤ maxViewTimeout.toInt := by
  have nonneg : 0 < maxViewTimeout.toInt := Int64.lt_iff_toInt_lt.mp positive
  have below := Int64.toInt_lt maxViewTimeout
  have cap := toNat_capTimeout positive n
  have zero : (0 : Int64).toInt = 0 := rfl
  rw [Int64.lt_iff_toInt_lt, Int64.le_iff_toInt_le, viewTimeout, toInt_contextTimeout, zero]
  generalize (capTimeout maxViewTimeout n).toNat = passed at cap ⊢
  generalize maxViewTimeout.toInt = maximum at nonneg below cap ⊢
  by_cases signed : n.toNat < 2 ^ 63
  · rw [if_pos signed]
    have whole : (passed : Int) * 1000000 ≤ maximum := by
      split at cap <;> omega
    have some : 0 < passed ↔ 1000000 ≤ maximum := by
      split at cap <;> omega
    rw [Int.bmod_eq_of_le (by omega) (by omega)]
    omega
  · rw [if_neg (by omega)] at cap
    have asInt :
        ((n.toNat : Int) * 1000000) % ((2 ^ 64 : Nat) : Int) =
          ((n.toNat * 1000000 % 2 ^ 64 : Nat) : Int) := by
      rfl
    rw [if_neg signed, cap, Int.bmod_def, asInt]
    have range := Nat.mod_lt (n.toNat * 1000000) (show 0 < 2 ^ 64 by decide)
    generalize n.toNat * 1000000 % 2 ^ 64 = wrapped at range ⊢
    split <;> omega

end

/-- The largest request makes the context end before it starts. -/
theorem viewTimeout_negative : (viewTimeout 10000000000 18446744073709551615).toInt = -1000000 := by
  decide +kernel

/-- A request of five seconds under the default maximum. -/
theorem viewTimeout_five_seconds :
    0 < viewTimeout 10000000000 5000 ∧ viewTimeout 10000000000 5000 ≤ 10000000000 :=
  (viewTimeout_capped_iff (by decide +kernel) 5000).mpr (by decide +kernel)

end FabricXCommitter.Query
