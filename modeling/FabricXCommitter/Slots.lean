import FabricXCommitter.Library.Machine
import FabricXCommitter.Library.Sync
import Mathlib.Data.Fintype.Basic

/-!
# Waiting for slots

`Release` broadcasts with the lock held, the function that runs after the end of a
context without it.
-/

namespace FabricXCommitter.Slots

open Library List Option

inductive Call where
  | acquire (n : Int64)
  | release (n : Int64)
  | waitTillEmpty
  deriving DecidableEq, Repr

/-- The next operation of a call.  `Wait` enrols, releases the lock, sleeps and takes
the lock again. -/
inductive Position where
  | lock
  | load
  | checkContext
  | enrol
  | park
  | blocked
  | relock
  | add
  | broadcast
  | unlock
  deriving DecidableEq, Repr

structure Routine (Ctx : Type) where
  call : Call
  ctx : Ctx
  position : Position := .lock

/-- The field `cancelled` lists the contexts that ended, `broadcasted` those after
whose end the broadcast was given. -/
structure State (Goroutine Ctx : Type) where
  size : Int64
  available : Int64
  lock : Mutex Goroutine := {}
  cond : CondVar Goroutine := {}
  routines : Goroutine → Option (Routine Ctx) := fun _ => none
  cancelled : List Ctx := []
  broadcasted : List Ctx := []

inductive Action (Goroutine Ctx : Type) where
  | call (g : Goroutine) (ctx : Ctx) (call : Call)
  | run (g : Goroutine)
  | cancel (ctx : Ctx)
  | broadcast (ctx : Ctx)

variable {Goroutine Ctx : Type} [DecidableEq Goroutine] [DecidableEq Ctx]

/-- The condition of the loop on the slots. -/
def State.lacks (s : State Goroutine Ctx) : Call → Bool
  | .acquire _ => s.available < 1
  | .waitTillEmpty => s.available < s.size
  | .release _ => false

/-- One operation of a goroutine, with its next position unless it returns. -/
def State.run (s : State Goroutine Ctx) (g : Goroutine) (r : Routine Ctx) :
    Option (State Goroutine Ctx × Option Position) :=
  match r.position with
  | .lock =>
    (s.lock.lock g).map fun lock =>
      ({ s with lock := lock }, some (if r.call matches .release _ then .add else .load))
  | .load => some (s, some (if s.lacks r.call then .checkContext else .add))
  | .checkContext => some (s, some (if r.ctx ∈ s.cancelled then .add else .enrol))
  | .enrol => some ({ s with cond := s.cond.enrol g }, some .park)
  | .park => (s.lock.unlock g).map fun lock => ({ s with lock := lock }, some .blocked)
  | .blocked => (s.cond.resume g).map fun cond => ({ s with cond := cond }, some .relock)
  | .relock => (s.lock.lock g).map fun lock => ({ s with lock := lock }, some .load)
  | .add =>
    match r.call with
    | .acquire n => some ({ s with available := s.available - n }, some .unlock)
    | .waitTillEmpty => some (s, some .unlock)
    | .release n =>
      some
        ({ s with available := s.available + n },
          some (if 0 < s.available + n then .broadcast else .unlock))
  | .broadcast => some ({ s with cond := s.cond.broadcast }, some .unlock)
  | .unlock => (s.lock.unlock g).map fun lock => ({ s with lock := lock }, none)

def State.set (s : State Goroutine Ctx) (g : Goroutine) (routine : Option (Routine Ctx)) :
    State Goroutine Ctx :=
  { s with routines := Function.update s.routines g routine }

def State.step (s : State Goroutine Ctx) : Action Goroutine Ctx → Option (State Goroutine Ctx)
  | .call g ctx call =>
    if (s.routines g).isNone then some (s.set g (some ⟨call, ctx, .lock⟩)) else none
  | .run g =>
    match s.routines g with
    | none => none
    | some r =>
      (s.run g r).map fun result =>
        result.1.set g (result.2.map fun position => { r with position := position })
  | .cancel ctx => some { s with cancelled := ctx :: s.cancelled }
  | .broadcast ctx =>
    if ctx ∈ s.cancelled ∧ ctx ∉ s.broadcasted then
      some { s with cond := s.cond.broadcast, broadcasted := ctx :: s.broadcasted }
    else
      none

def slots (size : Int64) : Machine (State Goroutine Ctx) (Action Goroutine Ctx) where
  initial := { size := size, available := size }
  step := State.step

def Position.enrolled : Position → Bool
  | .park | .blocked => true
  | _ => false

/-- A goroutine that is enrolled is found by the next broadcast.  After the broadcast
for its context it has been found, and it will not enrol again. -/
structure Attended (s : State Goroutine Ctx) (g : Goroutine) (r : Routine Ctx) : Prop where
  listed : r.position.enrolled = true → g ∈ s.cond.waiting ∨ g ∈ s.cond.notified
  released :
    r.ctx ∈ s.broadcasted → r.position ≠ .enrol ∧ (r.position.enrolled = true → g ∈ s.cond.notified)

structure Sound (s : State Goroutine Ctx) : Prop where
  ended : ∀ ctx ∈ s.broadcasted, ctx ∈ s.cancelled
  attended : ∀ g r, s.routines g = some r → Attended s g r

/-- The broadcast after the end of a context is not given between the check of the
context by a goroutine and its enrolment. -/
def Heard (s : State Goroutine Ctx) : Action Goroutine Ctx → Prop
  | .broadcast ctx => ∀ g, ∀ r ∈ s.routines g, r.ctx = ctx → r.position ≠ .enrol
  | _ => True

instance [Fintype Goroutine] (s : State Goroutine Ctx) : ∀ action, Decidable (Heard s action)
  | .broadcast ctx =>
    inferInstanceAs (Decidable (∀ g, ∀ r ∈ s.routines g, r.ctx = ctx → r.position ≠ .enrol))
  | .call _ _ _ | .run _ | .cancel _ => isTrue trivial

section

variable {s next : State Goroutine Ctx} {g other : Goroutine} {r q : Routine Ctx}

section

variable {position : Option Position} (stepped : s.run g r = some (next, position))

include stepped

theorem same_run :
    next.routines = s.routines ∧ next.cancelled = s.cancelled ∧
      next.broadcasted = s.broadcasted := by
  revert stepped
  fun_cases State.run s g r <;> intro stepped <;>
    simp only [map_eq_some_iff, Option.some.injEq] at stepped <;> grind

theorem Attended.run_other (isOther : other ≠ g) (attended : Attended s other q) :
    Attended next other q := by
  obtain ⟨listed, released⟩ := attended
  revert stepped
  fun_cases State.run s g r <;> intro stepped <;>
    simp only [CondVar.resume, map_eq_some_iff, ite_none_right_eq_some,
      Option.some.injEq] at stepped <;>
    constructor <;> grind [CondVar.enrol, CondVar.broadcast]

theorem Attended.run_self
    (ended : r.ctx ∈ s.broadcasted → r.ctx ∈ s.cancelled) (attended : Attended s g r)
    {after : Position} (isAfter : position = some after) :
    Attended next g { r with position := after } := by
  obtain ⟨listed, released⟩ := attended
  revert stepped
  fun_cases State.run s g r <;> intro stepped <;>
    simp only [CondVar.resume, map_eq_some_iff, ite_none_right_eq_some,
      Option.some.injEq] at stepped <;>
    constructor <;> grind [CondVar.enrol, CondVar.broadcast, Position.enrolled]

end

omit [DecidableEq Ctx] in
theorem Sound.set
    {routine : Option (Routine Ctx)} (ended : ∀ ctx ∈ s.broadcasted, ctx ∈ s.cancelled)
    (own : ∀ r, routine = some r → Attended s g r)
    (others : ∀ other ≠ g, ∀ r, s.routines other = some r → Attended s other r) :
    Sound (s.set g routine) := by
  refine ⟨ended, fun other r isRoutine => ?_⟩
  have attended : Attended s other r := by
    by_cases isSelf : other = g
    · subst isSelf
      exact own r (by simpa [State.set] using isRoutine)
    · exact others other isSelf r (by simpa [State.set, isSelf] using isRoutine)
  exact ⟨attended.listed, attended.released⟩

theorem Sound.step (sound : Sound s) {action : Action Goroutine Ctx} (heard : Heard s action)
    (stepped : s.step action = some next) :
    Sound next := by
  cases action with
  | call g ctx call =>
    obtain ⟨_, same⟩ := ite_none_right_eq_some.mp stepped
    cases same
    refine .set sound.ended (fun r isRoutine => ?_) fun other _ => sound.attended other
    cases isRoutine
    constructor <;> simp [Position.enrolled]
  | run g =>
    simp only [State.step] at stepped
    split at stepped
    · cases stepped
    · next r isRoutine =>
      obtain ⟨⟨middle, position⟩, ran, rfl⟩ := map_eq_some_iff.mp stepped
      obtain ⟨routines, cancelled, broadcasted⟩ := same_run ran
      refine .set ?_ (fun after isAfter => ?_) fun other isOther q isOthers => ?_
      · rw [cancelled, broadcasted]
        exact sound.ended
      · obtain ⟨position, isPosition, rfl⟩ := map_eq_some_iff.mp isAfter
        exact (sound.attended g r isRoutine).run_self ran (sound.ended r.ctx) isPosition
      · rw [routines] at isOthers
        exact (sound.attended other q isOthers).run_other ran isOther
  | cancel ctx =>
    cases stepped
    refine ⟨fun other given => mem_cons_of_mem _ (sound.ended other given), ?_⟩
    exact fun g r isRoutine => { sound.attended g r isRoutine with }
  | broadcast ctx =>
    obtain ⟨⟨isCancelled, _⟩, same⟩ := ite_none_right_eq_some.mp stepped
    cases same
    constructor
    · simpa [isCancelled] using sound.ended
    · intro g r isRoutine
      have known := heard g r isRoutine
      obtain ⟨listed, released⟩ := sound.attended g r isRoutine
      constructor <;> grind [CondVar.broadcast]

end

/-- After the broadcast that follows the end of a context no goroutine with the context
sleeps in `Wait` without a pending notification. -/
theorem ended_not_blocked
    {size : Int64} {actions : List (Action Goroutine Ctx)} {s : State Goroutine Ctx}
    (heard : (slots size).Guarded Heard (slots size).initial actions)
    (reached : (slots size).run actions = some s) {ctx : Ctx} (given : ctx ∈ s.broadcasted)
    {g : Goroutine} {r : Routine Ctx} (isRoutine : s.routines g = some r) (isCtx : r.ctx = ctx)
    (isBlocked : r.position = .blocked) :
    g ∈ s.cond.notified := by
  have sound : Sound s := by
    refine (slots size).invariant_guarded Heard Sound ?_ ⟨?_, ?_⟩ heard reached
    · exact fun _ _ _ sound heard stepped => sound.step heard stepped
    · exact fun ctx impossible => absurd impossible not_mem_nil
    · intro g r impossible
      cases impossible
  subst isCtx
  exact ((sound.attended g r isRoutine).released given).2 (by rw [isBlocked]; rfl)

/-- One goroutine takes the only slot and asks for another one, until it has found its
context live. -/
def secondAcquire : List (Action Unit Nat) :=
  .call () 7 (.acquire 1) :: List.replicate 4 (.run ()) ++
    .call () 7 (.acquire 1) :: List.replicate 3 (.run ())

/-- The context ends, and the broadcast is given, before the goroutine enrols. -/
theorem broadcast_lost :
    ∃ s, (slots 1).run (secondAcquire ++ [.cancel 7, .broadcast 7, .run (), .run ()]) = some s ∧
      s.broadcasted = [7] ∧ s.cond.notified = [] ∧ s.routines () = some ⟨.acquire 1, 7, .blocked⟩ :=
  ⟨_, rfl, rfl, rfl, rfl⟩

/-- The context ends after the goroutine has enrolled. -/
def heardBroadcast : List (Action Unit Nat) :=
  secondAcquire ++ [.run (), .run (), .cancel 7, .broadcast 7]

theorem heardBroadcast_notifies :
    ∃ s, (slots 1).run heardBroadcast = some s ∧
      s.routines () = some ⟨.acquire 1, 7, .blocked⟩ ∧ () ∈ s.cond.notified := by
  have heard : (slots 1).Guarded Heard (slots 1).initial heardBroadcast := by decide +kernel
  exact ⟨_, rfl, rfl, ended_not_blocked heard rfl mem_cons_self rfl rfl rfl⟩

end FabricXCommitter.Slots
