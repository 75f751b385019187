import Mathlib.Data.List.Basic

/-!
# Loops that may fail
-/

namespace FabricXCommitter.Library

open List Option

universe u v

variable {State : Type u} {Item : Type v}
  {step : State → Item → Option State}
  {items : List Item} {state : State}

/-- A loop whose steps succeed is a loop without failure. -/
theorem foldlM_eq_foldl
    (next : State → Item → State) (inv : State → Prop) (initially : inv state)
    (succeeds :
      ∀ item ∈ items, ∀ current, inv current →
        step current item = some (next current item) ∧ inv (next current item)) :
    items.foldlM step state = some (items.foldl next state) := by
  induction items generalizing state with
  | nil => rfl
  | cons item rest ih =>
    obtain ⟨stepped, preserved⟩ := succeeds item mem_cons_self state initially
    rw [foldlM_cons, stepped, foldl_cons]
    exact ih preserved fun later mem => succeeds later (mem_cons_of_mem item mem)

/-- A loop whose steps leave the state unchanged. -/
theorem foldlM_eq_self (fixed : ∀ item ∈ items, step state item = some state) :
    items.foldlM step state = some state := by
  induction items with
  | nil => rfl
  | cons item rest ih =>
    rw [foldlM_cons, fixed item mem_cons_self]
    exact ih fun later mem => fixed later (mem_cons_of_mem item mem)

/-- What successful steps keep holds after a successful loop. -/
theorem foldlM_invariant (inv : State → Prop) {final : State} (initially : inv state)
    (kept : ∀ item ∈ items, ∀ current next, inv current → step current item = some next → inv next)
    (succeeded : items.foldlM step state = some final) :
    inv final := by
  induction items generalizing state with
  | nil =>
    cases succeeded
    exact initially
  | cons item rest ih =>
    obtain ⟨next, stepped, continued⟩ := bind_eq_some_iff.mp succeeded
    exact
      ih
        (kept item mem_cons_self state next initially stepped)
        (fun later mem => kept later (mem_cons_of_mem item mem))
        continued

theorem foldlM_eq_none_of_invariant
    (inv : State → Prop) {item : Item} (initially : inv state) (mem : item ∈ items)
    (kept : ∀ item ∈ items, ∀ current next, inv current → step current item = some next → inv next)
    (fails : ∀ current, inv current → step current item = none) :
    items.foldlM step state = none := by
  induction items generalizing state with
  | nil => cases mem
  | cons first rest ih =>
    rw [foldlM_cons]
    rcases mem_cons.mp mem with equal | later
    · rw [← equal, fails state initially]
      rfl
    · cases stepped : step state first with
      | none => rfl
      | some next =>
        exact
          ih
            (kept first mem_cons_self state next initially stepped)
            later fun other inRest => kept other (mem_cons_of_mem first inRest)

theorem foldlM_eq_none {item : Item} (mem : item ∈ items)
    (fails : ∀ current, step current item = none) (state : State) :
    items.foldlM step state = none :=
  foldlM_eq_none_of_invariant (fun _ => True) trivial mem
    (fun _ _ _ _ _ _ => trivial) fun current _ => fails current

end FabricXCommitter.Library
