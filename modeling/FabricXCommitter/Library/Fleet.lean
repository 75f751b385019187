import FabricXCommitter.Library.Machine
import Mathlib.Algebra.BigOperators.Group.List.Basic
import Mathlib.Algebra.Order.BigOperators.Group.List
import Mathlib.Data.List.Nodup
import Mathlib.Data.List.Pairwise

/-!
# Fleets of workers over shared data

What workers hold is measured in a commutative monoid, and a statement about the total
is reduced to one about a single worker.
-/

namespace FabricXCommitter.Library

open List Option

structure Fleet (Shared Worker Event Task : Type*) where
  environmentStep : Shared → List Worker → Event → Option Shared
  workerStep : Shared → Worker → Task → Option (Shared × Worker)

namespace Fleet

structure State (Shared Worker : Type*) where
  shared : Shared
  workers : List Worker
  deriving DecidableEq, Repr

inductive Action (Event Task : Type*) where
  | environment (event : Event)
  | worker (index : Nat) (task : Task)
  deriving DecidableEq, Repr

variable {Shared Worker Event Task : Type*}

def step (fleet : Fleet Shared Worker Event Task) (s : State Shared Worker) :
    Action Event Task → Option (State Shared Worker)
  | .environment event =>
    (fleet.environmentStep s.shared s.workers event).map fun shared => { s with shared := shared }
  | .worker index task =>
    s.workers[index]?.bind fun worker =>
      (fleet.workerStep s.shared worker task).map fun result =>
        ⟨result.1, s.workers.set index result.2⟩

def machine (fleet : Fleet Shared Worker Event Task) (initial : State Shared Worker) :
    Machine (State Shared Worker) (Action Event Task) where
  initial := initial
  step := fleet.step

/-- What a step of a fleet can be. -/
inductive Stepped (fleet : Fleet Shared Worker Event Task) (s : State Shared Worker) :
    Action Event Task → State Shared Worker → Prop where
  | environment {event : Event} {shared : Shared}
      (stepped : fleet.environmentStep s.shared s.workers event = some shared) :
      Stepped fleet s (.environment event) { s with shared := shared }
  | worker {index : Nat} {task : Task} {before after : Worker}
      {shared : Shared}
      (found : s.workers[index]? = some before)
      (stepped : fleet.workerStep s.shared before task = some (shared, after)) :
      Stepped fleet s (.worker index task) ⟨shared, s.workers.set index after⟩

variable {s : State Shared Worker}

theorem stepped_of_step {fleet : Fleet Shared Worker Event Task} {next : State Shared Worker}
    {action : Action Event Task} (stepped : fleet.step s action = some next) :
    Stepped fleet s action next := by
  cases action with
  | environment event =>
    obtain ⟨shared, moved, same⟩ := map_eq_some_iff.mp stepped
    subst same
    exact Stepped.environment moved
  | worker index task =>
    obtain ⟨before, found, moved⟩ := bind_eq_some_iff.mp stepped
    obtain ⟨⟨shared, after⟩, result, same⟩ := map_eq_some_iff.mp moved
    subst same
    exact Stepped.worker found result

section

variable {M : Type*} [AddCommMonoid M]
variable (stock : Shared → M) (load : Worker → M)

def total (s : State Shared Worker) : M := stock s.shared + (s.workers.map load).sum

def others (workers : List Worker) (index : Nat) : M := ((workers.eraseIdx index).map load).sum

theorem sum_eq_others {workers : List Worker} {index : Nat} {worker : Worker}
    (found : workers[index]? = some worker) :
    (workers.map load).sum = load worker + others load workers index := by
  induction workers generalizing index with
  | nil => cases found
  | cons first rest ih =>
    cases index with
    | zero =>
      have same := Option.some.inj found
      subst same
      rfl
    | succ index =>
      have rests := ih found
      rw [map_cons, sum_cons, rests]
      exact add_left_comm _ _ _

theorem others_set (workers : List Worker) (index : Nat) (worker : Worker) :
    others load (workers.set index worker) index = others load workers index := by
  rw [others, others, eraseIdx_set_eq]

theorem total_eq_others {index : Nat} {worker : Worker} (found : s.workers[index]? = some worker) :
    total stock load s = stock s.shared + load worker + others load s.workers index := by
  rw [total, sum_eq_others load found, add_assoc]

theorem total_set {index : Nat} {before : Worker} (found : s.workers[index]? = some before)
    (shared : Shared) (after : Worker) :
    total stock load ⟨shared, s.workers.set index after⟩ =
      stock shared + load after + others load s.workers index := by
  obtain ⟨within, _⟩ := List.getElem?_eq_some_iff.mp found
  have replaced : (s.workers.set index after)[index]? = some after := getElem?_set_self within
  rw [total_eq_others stock load replaced, others_set]

end

theorem total_mono {M : Type*} [AddCommMonoid M] [PartialOrder M] [AddLeftMono M]
    {stock largerStock : Shared → M} {load largerLoad : Worker → M}
    (stocks : stock s.shared ≤ largerStock s.shared)
    (loads : ∀ worker ∈ s.workers, load worker ≤ largerLoad worker) :
    total stock load s ≤ total largerStock largerLoad s := by
  have sums : (s.workers.map load).sum ≤ (s.workers.map largerLoad).sum := sum_le_sum loads
  exact add_le_add stocks sums

theorem map_total {M N : Type*} [AddCommMonoid M] [AddCommMonoid N] (measure : M →+ N)
    (stock : Shared → M) (load : Worker → M) (s : State Shared Worker) :
    measure (total stock load s) =
      total (fun shared => measure (stock shared)) (fun worker => measure (load worker)) s := by
  rw [total, total, map_add, map_list_sum, List.map_map]
  rfl

/-- A fact about the shared data, and one about each worker in it. -/
structure Steady (sound : Shared → Prop) (holds : Shared → Worker → Prop)
    (s : State Shared Worker) : Prop where
  shared : sound s.shared
  workers : ∀ worker ∈ s.workers, holds s.shared worker

section

variable {fleet : Fleet Shared Worker Event Task}
  {sound : Shared → Prop} {holds : Shared → Worker → Prop}

theorem steady_environment {advances : Shared → Shared → Prop}
    (stable :
      ∀ before after worker, sound before → advances before after →
        holds before worker → holds after worker) (steady : Steady sound holds s)
    {shared : Shared} (kept : sound shared) (advanced : advances s.shared shared) :
    Steady sound holds { s with shared := shared } where
  shared := kept
  workers := fun worker mem =>
    stable s.shared shared worker steady.shared advanced (steady.workers worker mem)

theorem steady_worker {advances : Shared → Shared → Prop}
    (stable :
      ∀ before after worker, sound before → advances before after →
        holds before worker → holds after worker)
    (steady : Steady sound holds s) {shared : Shared} (kept : sound shared)
    (advanced : advances s.shared shared) {after : Worker}
    (holdsAfter : holds shared after) (index : Nat) :
    Steady sound holds ⟨shared, s.workers.set index after⟩ where
  shared := kept
  workers := by
    intro worker mem
    rcases mem_or_eq_of_mem_set mem with other | same
    · exact stable s.shared shared worker steady.shared advanced (steady.workers worker other)
    · rw [same]
      exact holdsAfter

/-- The invariant rule for facts about single workers: a step keeps the fact
about the worker that takes it, and advances the shared data only in a way that
keeps the facts about the others. -/
theorem steady_guarded
    (guard : State Shared Worker → Action Event Task → Prop) (advances : Shared → Shared → Prop)
    (environmentKeeps :
      ∀ s event shared, Steady sound holds s → guard s (.environment event) →
        fleet.environmentStep s.shared s.workers event = some shared →
          sound shared ∧ advances s.shared shared)
    (workerKeeps :
      ∀ s index task before after shared, sound s.shared →
        holds s.shared before → guard s (.worker index task) →
          fleet.workerStep s.shared before task = some (shared, after) →
            sound shared ∧ holds shared after ∧ advances s.shared shared)
    (stable :
      ∀ before after worker, sound before → advances before after →
        holds before worker → holds after worker)
    {initial : State Shared Worker} {actions : List (Action Event Task)}
    {final : State Shared Worker} (steady : Steady sound holds s)
    (guarded : (fleet.machine initial).Guarded guard s actions)
    (reached : (fleet.machine initial).runFrom s actions = some final) :
    Steady sound holds final := by
  refine
    (fleet.machine initial).invariant_guarded guard (Steady sound holds) ?_ steady guarded reached
  intro state action next holdsNow meets stepped
  cases stepped_of_step stepped with
  | environment moved =>
    obtain ⟨kept, advanced⟩ := environmentKeeps state _ _ holdsNow meets moved
    exact steady_environment stable holdsNow kept advanced
  | @worker index task before after shared found moved =>
    have held := holdsNow.workers before (mem_of_getElem? found)
    obtain ⟨kept, holdsAfter, advanced⟩ :=
      workerKeeps state index task before after shared holdsNow.shared held meets moved
    exact steady_worker stable holdsNow kept advanced holdsAfter index

end

end Fleet

section

variable {α β : Type*}

/-- If the contents of some places have no repetition together, then nothing is
in two of the places. -/
theorem eq_of_mem_of_nodup_flatMap
    {places : List α} {contents : α → List β} (once : (places.flatMap contents).Nodup)
    {first second : α} (isFirst : first ∈ places) (isSecond : second ∈ places) {item : β}
    (inFirst : item ∈ contents first) (inSecond : item ∈ contents second) :
    first = second := by
  by_contra different
  have symmetric : Std.Symm fun place other => List.Disjoint (contents place) (contents other) :=
    ⟨fun _ _ disjoint _ inOne inTwo => disjoint inTwo inOne⟩
  have apart : places.Pairwise fun place other => List.Disjoint (contents place) (contents other) :=
    (nodup_flatMap.mp once).2
  exact apart.forall isFirst isSecond different inFirst inSecond

theorem flatMap_range_length (items : List α) (contents : α → List β) :
    ((List.range items.length).flatMap fun index => items[index]?.elim [] contents) =
      items.flatMap contents := by
  induction items with
  | nil => rfl
  | cons item rest ih =>
    rw [length_cons, range_succ_eq_map, flatMap_cons, flatMap_cons, flatMap_map, ← ih]
    rfl

end

end FabricXCommitter.Library
