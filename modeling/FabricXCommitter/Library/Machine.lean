import Mathlib.Data.Option.Basic

/-!
# Machines driven by an environment

The environment chooses the actions.
-/

namespace FabricXCommitter.Library

universe u v

/-- A transition system whose actions are chosen by an environment. -/
structure Machine (State : Type u) (Action : Type v) where
  initial : State
  step : State → Action → Option State

namespace Machine

variable {State : Type u} {Action : Type v}
variable (machine : Machine State Action)

def runFrom (state : State) : List Action → Option State
  | [] => some state
  | action :: rest => (machine.step state action).bind fun next => runFrom next rest

def run (actions : List Action) : Option State := machine.runFrom machine.initial actions

@[simp]
theorem runFrom_nil (state : State) : machine.runFrom state [] = some state := rfl

theorem runFrom_cons (state : State) (action : Action) (rest : List Action) :
    machine.runFrom state (action :: rest) =
      (machine.step state action).bind fun next => machine.runFrom next rest :=
  rfl

theorem runFrom_cons_eq_some {state final : State} {action : Action} {rest : List Action} :
    machine.runFrom state (action :: rest) = some final ↔
      ∃ next, machine.step state action = some next ∧ machine.runFrom next rest = some final := by
  rw [runFrom_cons, Option.bind_eq_some_iff]

theorem runFrom_append (state : State) (first second : List Action) :
    machine.runFrom state (first ++ second) =
      (machine.runFrom state first).bind fun middle => machine.runFrom middle second := by
  induction first generalizing state with
  | nil => rfl
  | cons action rest ih =>
    rw [List.cons_append, runFrom_cons, runFrom_cons]
    cases machine.step state action with
    | none => rfl
    | some next => exact ih next

theorem run_concat (actions : List Action) (action : Action) :
    machine.run (actions ++ [action]) =
      (machine.run actions).bind fun state => machine.step state action := by
  rw [run, runFrom_append, run]
  congr 1
  funext state
  exact Option.bind_fun_some (machine.step state action)

variable {actions : List Action}

theorem invariant_runFrom (inv : State → Prop)
    (preserved :
      ∀ state action next, inv state → machine.step state action = some next → inv next) :
    ∀ {state final : State}, inv state →
      machine.runFrom state actions = some final → inv final := by
  induction actions with
  | nil =>
    intro state final holds reached
    cases reached
    exact holds
  | cons action rest ih =>
    intro state final holds reached
    obtain ⟨next, stepped, continued⟩ := machine.runFrom_cons_eq_some.mp reached
    exact ih (preserved state action next holds stepped) continued

/-- The invariant rule for runs. -/
theorem invariant_run (inv : State → Prop) (initially : inv machine.initial)
    (preserved : ∀ state action next, inv state → machine.step state action = some next → inv next)
    {final : State} (reached : machine.run actions = some final) :
    inv final :=
  machine.invariant_runFrom inv preserved initially reached

/-- Every step of the execution is taken in a state that meets `guard`. -/
def Guarded (guard : State → Action → Prop) : State → List Action → Prop
  | _, [] => True
  | state, action :: rest =>
    guard state action ∧ ∀ next, machine.step state action = some next → Guarded guard next rest

instance decidableGuarded (guard : State → Action → Prop)
    [decideGuard : ∀ state action, Decidable (guard state action)] :
    ∀ state actions, Decidable (machine.Guarded guard state actions)
  | _, [] => isTrue trivial
  | state, action :: rest =>
    have (next : State) : Decidable (machine.Guarded guard next rest) :=
      decidableGuarded guard next rest
    inferInstanceAs
      (Decidable
        (guard state action ∧
          ∀ next, next ∈ machine.step state action → machine.Guarded guard next rest))

theorem guarded_of_forall
    {guard : State → Action → Prop} (meets : ∀ state, ∀ action ∈ actions, guard state action) :
    ∀ state, machine.Guarded guard state actions := by
  induction actions with
  | nil =>
    intro state
    trivial
  | cons action rest ih =>
    intro state
    refine ⟨meets state action List.mem_cons_self, fun next _ => ?_⟩
    exact
      ih
        (fun state action mem => meets state action (List.mem_cons_of_mem _ mem))
        next

theorem Guarded.mono {machine : Machine State Action} {guard weaker : State → Action → Prop}
    (weakens : ∀ state action, guard state action → weaker state action) :
    ∀ {state : State}, machine.Guarded guard state actions →
      machine.Guarded weaker state actions := by
  induction actions with
  | nil =>
    intro state _
    trivial
  | cons action rest ih =>
    intro state guarded
    exact ⟨weakens state action guarded.1, fun next stepped => ih (guarded.2 next stepped)⟩

theorem Guarded.and {machine : Machine State Action} {first second : State → Action → Prop} :
    ∀ {state : State}, machine.Guarded first state actions →
      machine.Guarded second state actions →
        machine.Guarded
          (fun state action => first state action ∧ second state action) state
          actions := by
  induction actions with
  | nil =>
    intro state _ _
    trivial
  | cons action rest ih =>
    intro state meetsFirst meetsSecond
    refine ⟨⟨meetsFirst.1, meetsSecond.1⟩, fun next stepped => ?_⟩
    exact ih (meetsFirst.2 next stepped) (meetsSecond.2 next stepped)

/-- The invariant rule for executions whose steps all meet a guard. -/
theorem invariant_guarded (guard : State → Action → Prop) (inv : State → Prop)
    (preserved :
      ∀ state action next, inv state → guard state action →
        machine.step state action = some next → inv next) :
    ∀ {state final : State}, inv state →
      machine.Guarded guard state actions →
      machine.runFrom state actions = some final → inv final := by
  induction actions with
  | nil =>
    intro state final holds _ reached
    cases reached
    exact holds
  | cons action rest ih =>
    intro state final holds guarded reached
    obtain ⟨next, stepped, continued⟩ := machine.runFrom_cons_eq_some.mp reached
    exact
      ih
        (preserved state action next holds guarded.1 stepped)
        (guarded.2 next stepped) continued

/-- If steps that meet a guard keep `good`, the others lead to `bad`, and `bad`
is never left, then an execution from a good state ends in a good state or in a
bad one, according to whether all its steps meet the guard. -/
theorem guarded_or_bad (guard : State → Action → Prop) (good bad : State → Prop)
    (kept :
      ∀ state action next, good state → guard state action →
        machine.step state action = some next → good next)
    (broken :
      ∀ state action next, good state → ¬ guard state action →
        machine.step state action = some next → bad next)
    (stays : ∀ state action next, bad state → machine.step state action = some next → bad next) :
    ∀ {state final : State}, good state →
      machine.runFrom state actions = some final →
        machine.Guarded guard state actions ∧ good final ∨
          ¬ machine.Guarded guard state actions ∧ bad final := by
  induction actions with
  | nil =>
    intro state final holds reached
    cases reached
    exact .inl ⟨trivial, holds⟩
  | cons action rest ih =>
    intro state final holds reached
    obtain ⟨next, stepped, continued⟩ := machine.runFrom_cons_eq_some.mp reached
    by_cases meets : guard state action
    · rcases ih
        (kept state action next holds meets stepped) continued with
        ⟨guarded, ends⟩ | ⟨unguarded, ends⟩
      · refine .inl ⟨⟨meets, fun other same => ?_⟩, ends⟩
        rw [stepped] at same
        exact Option.some.inj same ▸ guarded
      · exact .inr ⟨fun guarded => unguarded (guarded.2 next stepped), ends⟩
    · have ends : bad final :=
        machine.invariant_runFrom bad stays (broken state action next holds meets stepped) continued
      exact .inr ⟨fun guarded => meets guarded.1, ends⟩

end Machine

end FabricXCommitter.Library
