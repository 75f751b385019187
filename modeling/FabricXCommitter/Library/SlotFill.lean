import FabricXCommitter.Library.Fleet
import Mathlib.Algebra.Order.Ring.Nat

/-!
# Workers that fill the slots of an array

Each fills its slots in the order of their indices, in any interleaving.
-/

namespace FabricXCommitter.Library.SlotFill

open List Option

/-- The array, and the indices that each worker has left. -/
structure State (Entry : Type) where
  slots : List (Option Entry)
  todo : List (List Nat)

section

variable {Entry : Type} (entryAt : Nat → Entry)

def step (s : State Entry) (worker : Nat) : Option (State Entry) :=
  match s.todo[worker]? with
  | some (index :: rest) =>
    some
      { slots := s.slots.set index (some (entryAt index))
        todo := s.todo.set worker rest }
  | _ => none

def fill (count : Nat) (todo : List (List Nat)) : Machine (State Entry) Nat where
  initial := { slots := List.replicate count none, todo := todo }
  step := step entryAt

/-- The array after all workers are done. -/
def State.result (s : State Entry) : Option (List (Option Entry)) :=
  if s.todo.all List.isEmpty then some s.slots else none

structure Filling (count : Nat) (s : State Entry) : Prop where
  length : s.slots.length = count
  right : ∀ index entry, s.slots[index]? = some (some entry) → entry = entryAt index
  covered : ∀ index, s.slots[index]? = some none → ∃ indices ∈ s.todo, index ∈ indices

theorem Filling.step {count worker : Nat} {s next : State Entry} (filling : Filling entryAt count s)
    (stepped : SlotFill.step entryAt s worker = some next) :
    Filling entryAt count next := by
  rw [SlotFill.step] at stepped
  split at stepped
  · rename_i here rest isWorker
    cases stepped
    refine ⟨by simp [filling.length], ?_, ?_⟩
    · intro index entry found
      by_cases same : here = index
      · subst same
        simp [getElem?_set] at found
        exact found.2.symm
      · rw [getElem?_set_ne same] at found
        exact filling.right index entry found
    · intro index found
      by_cases same : here = index
      · subst same
        simp [getElem?_set] at found
      · rw [getElem?_set_ne same] at found
        obtain ⟨indices, mem, within⟩ := filling.covered index found
        obtain ⟨place, isPlace⟩ := getElem?_of_mem mem
        -- The worker that moved still has its other indices.
        by_cases moved : worker = place
        · subst moved
          rw [isWorker] at isPlace
          cases isPlace
          refine ⟨rest, mem_set (List.getElem?_eq_some_iff.mp isWorker).1 _, ?_⟩
          exact (mem_cons.mp within).resolve_left (Ne.symm same)
        · refine ⟨indices, mem_of_getElem? (i := place) ?_, within⟩
          rwa [getElem?_set_ne moved]
  · cases stepped

theorem result_eq_some {count : Nat} {todo : List (List Nat)}
    (covers : ∀ index < count, ∃ indices ∈ todo, index ∈ indices)
    {schedule : List Nat} {s : State Entry} {slots : List (Option Entry)}
    (ran : (fill entryAt count todo).run schedule = some s) (isResult : s.result = some slots) :
    slots = (List.range count).map fun index => some (entryAt index) := by
  have filling : Filling entryAt count s := by
    refine
      (fill entryAt count todo).invariant_run (Filling entryAt count) ⟨?_, ?_, ?_⟩
        (fun _ _ _ filling stepped => filling.step entryAt stepped) ran
    · exact length_replicate
    · intro index entry found
      simp [fill, getElem?_replicate] at found
    · intro index found
      exact covers index (by simpa [fill, getElem?_replicate] using found)
  obtain ⟨done, same⟩ := ite_none_right_eq_some.mp isResult
  cases same
  apply ext_getElem?
  intro index
  by_cases below : index < count
  · rw [getElem?_map, getElem?_range below, map_some]
    cases found : s.slots[index]? with
    | none =>
      rw [List.getElem?_eq_none_iff, filling.length] at found
      omega
    | some slot =>
      cases slot with
      | none =>
        obtain ⟨indices, mem, within⟩ := filling.covered index found
        have nothing := List.all_eq_true.mp done indices mem
        rw [List.isEmpty_iff.mp nothing] at within
        cases within
      | some entry => rw [filling.right index entry found]
  · rw [getElem?_eq_none (by rw [filling.length]; omega), getElem?_eq_none (by simp; omega)]

/-- From every state the workers can finish. -/
theorem exists_schedule (count : Nat) (todo : List (List Nat)) (s : State Entry) :
    ∃ schedule final,
      (fill entryAt count todo).runFrom s schedule = some final ∧ final.result.isSome = true := by
  induction left : (s.todo.map List.length).sum using Nat.strongRecOn generalizing s with
  | _ left ih =>
    by_cases done : s.todo.all List.isEmpty = true
    · exact ⟨[], s, rfl, by rw [State.result, if_pos done]; rfl⟩
    · obtain ⟨indices, mem, unfinished⟩ : ∃ indices ∈ s.todo, indices ≠ [] := by
        simpa using done
      obtain ⟨worker, isWorker⟩ := getElem?_of_mem mem
      obtain ⟨index, rest, same⟩ := exists_cons_of_ne_nil unfinished
      subst same left
      have replaced : (s.todo.set worker rest)[worker]? = some rest :=
        getElem?_set_self (List.getElem?_eq_some_iff.mp isWorker).1
      have before := Fleet.sum_eq_others List.length isWorker
      have after := Fleet.sum_eq_others List.length replaced
      rw [Fleet.others_set] at after
      rw [length_cons] at before
      obtain ⟨schedule, final, ran, finished⟩ :=
        ih ((s.todo.set worker rest).map List.length).sum (by omega)
          ⟨s.slots.set index (some (entryAt index)), s.todo.set worker rest⟩ rfl
      refine ⟨worker :: schedule, final, Machine.runFrom_cons_eq_some _ |>.mpr ⟨_, ?_, ran⟩, finished⟩
      change SlotFill.step entryAt s worker = _
      rw [SlotFill.step, isWorker]

theorem getElem?_foldl_set (order : List Nat) (slots : List Entry) (index : Nat) :
    (order.foldl (fun slots i => slots.set i (entryAt i)) slots)[index]? =
      if index ∈ order then slots[index]?.map fun _ => entryAt index else slots[index]? := by
  induction order generalizing slots with
  | nil => simp
  | cons first rest ih =>
    rw [foldl_cons, ih]
    by_cases same : first = index
    · cases found : slots[first]? <;> simp [getElem?_set] <;> grind
    · simp [getElem?_set_ne same, Ne.symm same]

theorem foldl_set_eq
    {count : Nat} {order : List Nat} {slots : List Entry} (sameLength : slots.length = count)
    (perm : order.Perm (List.range count)) :
    order.foldl (fun slots i => slots.set i (entryAt i)) slots =
      (List.range count).map entryAt := by
  apply ext_getElem?
  intro index
  rw [getElem?_foldl_set]
  simp only [perm.mem_iff, mem_range]
  by_cases below : index < count
  · rw [if_pos below, getElem?_map, getElem?_range below, getElem?_eq_getElem (sameLength ▸ below)]
    rfl
  · rw [if_neg below, getElem?_eq_none (by omega), getElem?_eq_none (by simpa using below)]

end

end FabricXCommitter.Library.SlotFill
