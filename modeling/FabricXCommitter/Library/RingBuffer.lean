import Mathlib.Algebra.Order.Ring.Nat
import Mathlib.Data.List.Basic
import Mathlib.Data.Nat.ModEq
import Mathlib.Data.Option.Basic

/-!
# Queues in growing ring buffers

The length is a power of two, and a position is reduced to an index by a mask.
-/

namespace FabricXCommitter.Library

open List Option

universe u

structure RingBuffer (α : Type u) where
  buf : List (Option α) := []
  head : Nat := 0
  count : Nat := 0
  deriving DecidableEq, Repr

namespace RingBuffer

variable {α : Type u}

def slot (ring : RingBuffer α) (position : Nat) : Nat := position &&& (ring.buf.length - 1)

def item (ring : RingBuffer α) (offset : Nat) : Option α :=
  (ring.buf[ring.slot (ring.head + offset)]?).join

def grow (initialCapacity : Nat) (ring : RingBuffer α) : RingBuffer α :=
  let size :=
    if 2 * ring.buf.length = 0 then initialCapacity else 2 * ring.buf.length
  { buf := (List.range ring.count).map ring.item ++ List.replicate (size - ring.count) none
    head := 0
    count := ring.count }

def store (ring : RingBuffer α) (item : α) : RingBuffer α :=
  { ring with
    buf := ring.buf.set (ring.slot (ring.head + ring.count)) (some item)
    count := ring.count + 1 }

def push (initialCapacity : Nat) (ring : RingBuffer α) (item : α) : RingBuffer α :=
  if ring.count = ring.buf.length then
    (ring.grow initialCapacity).store item
  else
    ring.store item

def get (ring : RingBuffer α) (offset : Nat) : Option α :=
  if offset < ring.count then ring.item offset else none

def peek (ring : RingBuffer α) : Option α :=
  if ring.count = 0 then none else (ring.buf[ring.head]?).join

def pop (ring : RingBuffer α) : RingBuffer α where
  buf := ring.buf.set ring.head none
  head := ring.slot (ring.head + 1)
  count := ring.count - 1

structure Holds (ring : RingBuffer α) (items : List α) : Prop where
  capacity : ring.buf.length = 0 ∧ ring.head = 0 ∨ ∃ exponent, ring.buf.length = 2 ^ exponent
  head : ring.head < ring.buf.length ∨ ring.buf.length = 0
  count : ring.count = items.length
  fits : items.length ≤ ring.buf.length
  stored :
    ∀ offset item, items[offset]? = some item →
      ring.buf[ring.slot (ring.head + offset)]? = some (some item)

theorem holds_empty : Holds ({} : RingBuffer α) [] where
  capacity := .inl ⟨rfl, rfl⟩
  head := .inr rfl
  count := rfl
  fits := Nat.le_refl _
  stored := by
    intro offset item found
    cases found

section

variable {ring : RingBuffer α} {items : List α} (holds : Holds ring items)

include holds

theorem Holds.slot_eq (nonempty : ring.buf.length ≠ 0) (position : Nat) :
    ring.slot position = position % ring.buf.length := by
  rcases holds.capacity with ⟨empty, _⟩ | ⟨exponent, isPower⟩
  · exact absurd empty nonempty
  · rw [slot, isPower, Nat.and_two_pow_sub_one_eq_mod]

theorem Holds.slot_head (nonempty : ring.buf.length ≠ 0) :
    ring.slot (ring.head + 0) = ring.head := by
  rcases holds.head with within | empty
  · rw [holds.slot_eq nonempty, Nat.add_zero, Nat.mod_eq_of_lt within]
  · exact absurd empty nonempty

theorem Holds.get_eq (offset : Nat) : ring.get offset = items[offset]? := by
  rw [get, holds.count]
  by_cases within : offset < items.length
  · have found := getElem?_eq_getElem within
    rw [if_pos within, item, holds.stored offset _ found, found]
    rfl
  · rw [if_neg within, getElem?_eq_none (by omega)]

theorem Holds.peek_eq : ring.peek = items.head? := by
  rw [peek, holds.count]
  cases items with
  | nil => rfl
  | cons first rest =>
    have fits := holds.fits
    rw [length_cons] at fits
    have nonempty : ring.buf.length ≠ 0 := by omega
    have stored := holds.stored 0 first rfl
    rw [holds.slot_head nonempty] at stored
    rw [if_neg (by simp), stored]
    rfl

/-- Two offsets within the capacity have different indices. -/
theorem Holds.slot_ne
    {first second : Nat} (different : first ≠ second) (withinFirst : first < ring.buf.length)
    (withinSecond : second < ring.buf.length) :
    ring.slot (ring.head + first) ≠ ring.slot (ring.head + second) := by
  have nonempty : ring.buf.length ≠ 0 := by omega
  rw [holds.slot_eq nonempty, holds.slot_eq nonempty]
  intro same
  have sameOffset : first % ring.buf.length = second % ring.buf.length :=
    Nat.ModEq.add_left_cancel' ring.head same
  rw [Nat.mod_eq_of_lt withinFirst, Nat.mod_eq_of_lt withinSecond] at sameOffset
  exact different sameOffset

theorem Holds.store (room : items.length < ring.buf.length) (item : α) :
    Holds (ring.store item) (items ++ [item]) where
  capacity := by
    rw [RingBuffer.store, length_set]
    exact holds.capacity
  head := by
    rw [RingBuffer.store, length_set]
    exact holds.head
  count := by
    rw [RingBuffer.store, length_append, holds.count]
    rfl
  fits := by
    rw [RingBuffer.store, length_set, length_append]
    exact room
  stored := by
    intro offset given found
    have sameSlot (position : Nat) : (ring.store item).slot position = ring.slot position := by
      rw [slot, slot, RingBuffer.store, length_set]
    rw [sameSlot]
    change (ring.buf.set (ring.slot (ring.head + ring.count)) (some item))[
      ring.slot (ring.head + offset)]? = _
    rw [holds.count]
    by_cases earlier : offset < items.length
    · rw [getElem?_append_left earlier] at found
      rw [getElem?_set_ne (holds.slot_ne (by omega) room (by omega))]
      exact holds.stored offset given found
    · rw [getElem?_append_right (by omega)] at found
      have isLast : offset = items.length := by
        by_contra later
        rw [getElem?_eq_none (by rw [length_singleton]; omega)] at found
        cases found
      subst isLast
      rw [Nat.sub_self] at found
      cases found
      apply getElem?_set_self
      rw [holds.slot_eq (by omega)]
      exact Nat.mod_lt _ (by omega)

theorem Holds.grow
    {initialCapacity : Nat} {exponent : Nat} (isPower : initialCapacity = 2 ^ exponent)
    (full : ring.count = ring.buf.length) :
    Holds (ring.grow initialCapacity) items ∧
      items.length < (ring.grow initialCapacity).buf.length := by
  have sameCount := holds.count
  have positive : 0 < initialCapacity := by
    rw [isPower]
    exact Nat.two_pow_pos exponent
  have size :
      ∃ size, (ring.grow initialCapacity).buf.length = size ∧
        items.length < size ∧ ∃ exponent, size = 2 ^ exponent := by
    rcases holds.capacity with ⟨empty, _⟩ | ⟨known, isKnown⟩
    · refine ⟨initialCapacity, ?_, by omega, exponent, isPower⟩
      simp only [RingBuffer.grow, empty, length_append, length_map,
        length_range, length_replicate, Nat.mul_zero, if_true]
      omega
    · have someRoom : 0 < ring.buf.length := by
        rw [isKnown]
        exact Nat.two_pow_pos known
      refine ⟨2 * ring.buf.length, ?_, by omega, known + 1, ?_⟩
      · simp only [RingBuffer.grow, length_append, length_map, length_range, length_replicate]
        rw [if_neg (by omega)]
        omega
      · rw [isKnown, Nat.pow_succ, Nat.mul_comm]
  obtain ⟨size, isSize, room, isPowerSize⟩ := size
  rw [← isSize] at room isPowerSize
  refine
    ⟨{ capacity := .inr isPowerSize
       head := .inl (by change 0 < _; omega)
       count := holds.count
       fits := by omega
       stored := ?_ }, room⟩
  intro offset given found
  have within : offset < items.length := (List.getElem?_eq_some_iff.mp found).1
  have isOffset :
      (ring.grow initialCapacity).slot ((ring.grow initialCapacity).head + offset) = offset := by
    obtain ⟨power, isPowered⟩ := isPowerSize
    rw [slot, isPowered, Nat.and_two_pow_sub_one_eq_mod, ← isPowered]
    change (0 + offset) % _ = offset
    rw [Nat.zero_add, Nat.mod_eq_of_lt (by omega)]
  rw [isOffset]
  change ((List.range ring.count).map ring.item ++ _)[offset]? = _
  rw [getElem?_append_left (by simp; omega), getElem?_map,
    getElem?_range (by omega), map_some, RingBuffer.item,
    holds.stored offset given found]
  rfl

theorem Holds.push {initialCapacity : Nat} {exponent : Nat}
    (isPower : initialCapacity = 2 ^ exponent) (item : α) :
    Holds (ring.push initialCapacity item) (items ++ [item]) := by
  rw [RingBuffer.push]
  by_cases full : ring.count = ring.buf.length
  · obtain ⟨grown, room⟩ := holds.grow isPower full
    rw [if_pos full]
    exact grown.store room item
  · have count := holds.count
    have fits := holds.fits
    rw [if_neg full]
    exact holds.store (by omega) item

theorem Holds.pop {first : α} {rest : List α} (isItems : items = first :: rest) :
    Holds ring.pop rest := by
  subst isItems
  have fits := holds.fits
  rw [length_cons] at fits
  have nonempty : ring.buf.length ≠ 0 := by omega
  have sameSlot (position : Nat) : ring.pop.slot position = ring.slot position := by
    rw [slot, slot, RingBuffer.pop, length_set]
  exact
    { capacity := by
        right
        rcases holds.capacity with ⟨empty, _⟩ | isPower
        · exact absurd empty nonempty
        · rw [RingBuffer.pop, length_set]
          exact isPower
      head := by
        left
        rw [RingBuffer.pop, length_set, holds.slot_eq nonempty]
        exact Nat.mod_lt _ (by omega)
      count := by
        have count := holds.count
        rw [length_cons] at count
        change ring.count - 1 = rest.length
        omega
      fits := by
        rw [RingBuffer.pop, length_set]
        omega
      stored := by
        intro offset given found
        have within : offset < rest.length := (List.getElem?_eq_some_iff.mp found).1
        have moved : ring.slot (ring.pop.head + offset) = ring.slot (ring.head + (offset + 1)) := by
          rw [holds.slot_eq nonempty, holds.slot_eq nonempty, RingBuffer.pop,
            holds.slot_eq nonempty, Nat.mod_add_mod]
          congr 1
          omega
        rw [sameSlot, moved]
        change (ring.buf.set ring.head none)[_]? = _
        have different : ring.slot (ring.head + 0) ≠ ring.slot (ring.head + (offset + 1)) :=
          holds.slot_ne (by omega) (by omega) (by omega)
        rw [holds.slot_head nonempty] at different
        rw [getElem?_set_ne different]
        exact holds.stored (offset + 1) given found }

end

end RingBuffer

end FabricXCommitter.Library
