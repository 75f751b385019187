import Mathlib.Algebra.Order.Ring.Nat
import Mathlib.Data.Option.Basic

/-!
# Counters of 32 bits

A counter that stays between zero and `2 ^ 31` does not wrap around.
-/

namespace FabricXCommitter.Library

theorem toInt_add_ofNat {counter : Int32} {amount : Nat} (lower : 0 ≤ counter.toInt)
    (upper : counter.toInt + amount < 2 ^ 31) :
    (counter + Int32.ofNat amount).toInt = counter.toInt + amount := by
  have small : amount < 2 ^ 31 := by omega
  rw [Int32.toInt_add, Int32.toInt_ofNat_of_lt small, Int.bmod_eq_of_le]
  · omega
  · omega

theorem toInt_sub_of_le
    {counter amount : Int32} (lower : 0 ≤ amount.toInt) (covered : amount.toInt ≤ counter.toInt) :
    (counter - amount).toInt = counter.toInt - amount.toInt := by
  have upper := counter.toInt_lt
  rw [Int32.toInt_sub, Int.bmod_eq_of_le]
  · omega
  · omega

theorem toInt_sub_ofNat {counter : Int32} {amount : Nat} (covered : amount ≤ counter.toInt) :
    (counter - Int32.ofNat amount).toInt = counter.toInt - amount := by
  have upper := counter.toInt_lt
  have small : amount < 2 ^ 31 := by omega
  have same := Int32.toInt_ofNat_of_lt small
  rw [toInt_sub_of_le, same]
  · omega
  · omega

end FabricXCommitter.Library
