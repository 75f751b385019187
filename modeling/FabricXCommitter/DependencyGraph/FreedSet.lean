import FabricXCommitter.Library.Machine
import FabricXCommitter.Library.Sync

/-!
# The set of freed transactions

Two goroutines are interleaved at every operation on shared data.
-/

namespace FabricXCommitter.DependencyGraph.FreedSet

open Library List Option

inductive Goroutine where
  | producer
  | consumer
  deriving DecidableEq, Repr

/-- The next operation of `add`. -/
inductive Producer (Node : Type) where
  | idle
  | lockList (txsNode : List Node)
  | append (txsNode : List Node)
  | unlockList
  | store
  | signal
  deriving DecidableEq, Repr

/-- The next operation of `waitAndRemove`.  `Wait` enrols, releases the lock,
sleeps and takes the lock again. -/
inductive Consumer (Node : Type) where
  | lock
  | compareAndSwap
  | enrol
  | release
  | blocked
  | relock
  | unlock
  | lockList
  | take
  | unlockList (txsNode : List Node)
  | output (txsNode : List Node)
  deriving DecidableEq, Repr

structure State (Node : Type) where
  txsNode : List Node := []
  mu : Mutex Goroutine := {}
  nonEmpty : Bool := false
  lock : Mutex Goroutine := {}
  cond : CondVar Goroutine := {}
  producer : Producer Node := .idle
  consumer : Consumer Node := .lock
  added : List Node := []
  outgoing : List Node := []
  deriving DecidableEq, Repr

inductive Action (Node : Type) where
  | add (txsNode : List Node)
  | producer
  | consumer
  deriving DecidableEq, Repr

section

variable {Node : Type}

def producerStep (s : State Node) : Option (State Node) :=
  match s.producer with
  | .idle => none
  | .lockList txsNode =>
    (s.mu.lock .producer).map fun mu => { s with mu := mu, producer := .append txsNode }
  | .append txsNode =>
    some
      { s with
        txsNode := s.txsNode ++ txsNode
        added := s.added ++ txsNode
        producer := .unlockList }
  | .unlockList => (s.mu.unlock .producer).map fun mu => { s with mu := mu, producer := .store }
  | .store => some { s with nonEmpty := true, producer := .signal }
  | .signal => some { s with cond := s.cond.signal, producer := .idle }

def consumerStep (s : State Node) : Option (State Node) :=
  match s.consumer with
  | .lock =>
    (s.lock.lock .consumer).map fun lock => { s with lock := lock, consumer := .compareAndSwap }
  | .compareAndSwap =>
    if s.nonEmpty then
      some { s with nonEmpty := false, consumer := .unlock }
    else
      some { s with consumer := .enrol }
  | .enrol => some { s with cond := s.cond.enrol .consumer, consumer := .release }
  | .release =>
    (s.lock.unlock .consumer).map fun lock => { s with lock := lock, consumer := .blocked }
  | .blocked =>
    (s.cond.resume .consumer).map fun cond => { s with cond := cond, consumer := .relock }
  | .relock =>
    (s.lock.lock .consumer).map fun lock => { s with lock := lock, consumer := .compareAndSwap }
  | .unlock =>
    (s.lock.unlock .consumer).map fun lock => { s with lock := lock, consumer := .lockList }
  | .lockList => (s.mu.lock .consumer).map fun mu => { s with mu := mu, consumer := .take }
  | .take => some { s with txsNode := [], consumer := .unlockList s.txsNode }
  | .unlockList txsNode =>
    (s.mu.unlock .consumer).map fun mu => { s with mu := mu, consumer := .output txsNode }
  | .output txsNode => some { s with outgoing := s.outgoing ++ txsNode, consumer := .lock }

def step (s : State Node) : Action Node → Option (State Node)
  | .add txsNode =>
    if s.producer matches .idle then
      some { s with producer := .lockList txsNode }
    else
      none
  | .producer => producerStep s
  | .consumer => consumerStep s

variable (Node) in
def freedSet : Machine (State Node) (Action Node) where
  initial := {}
  step := step

end

section

variable {Node : Type}

/-- No `add` is in progress, there are freed transactions, and the consumer
sleeps without a pending wake-up. -/
def Stranded (s : State Node) : Prop :=
  s.producer = .idle ∧ s.txsNode ≠ [] ∧ s.consumer = .blocked ∧ .consumer ∉ s.cond.notified

/-- The signal is not given between a failed comparison and the enrolment while
the flag is set. -/
def SignalHeard (s : State Node) (action : Action Node) : Prop :=
  ¬ (action = .producer ∧ s.producer = .signal ∧ s.consumer = .enrol ∧ s.nonEmpty = true)

instance [DecidableEq Node] (s : State Node) (action : Action Node) :
    Decidable (SignalHeard s action) :=
  inferInstanceAs (Decidable (¬ _))

/-- The consumer will take the list without looking at the flag again. -/
def Consumer.takes : Consumer Node → Prop
  | .unlock => True
  | .lockList => True
  | .take => True
  | _ => False

/-- The producer will set the flag. -/
def Producer.stores : Producer Node → Prop
  | .unlockList => True
  | .store => True
  | _ => False

/-- The consumer is inside `Wait` after its enrolment. -/
def Consumer.waits : Consumer Node → Prop
  | .release => True
  | .blocked => True
  | _ => False

structure Invariant (s : State Node) : Prop where
  flagged : s.txsNode ≠ [] → s.nonEmpty = true ∨ s.producer.stores ∨ s.consumer.takes
  signalled : s.nonEmpty = true → s.cond.waiting ≠ [] ∨ s.consumer = .enrol → s.producer = .signal
  awake : ¬ s.consumer.waits → s.cond = ⟨[], []⟩
  asleep : s.consumer.waits → s.cond = ⟨[.consumer], []⟩ ∨ s.cond = ⟨[], [.consumer]⟩

theorem invariant_initial : Invariant ((freedSet Node).initial) where
  flagged := fun nonempty => absurd rfl nonempty
  signalled := fun set => absurd set Bool.false_ne_true
  awake := fun _ => rfl
  asleep := fun waits => waits.elim

section

variable {s : State Node} (inv : Invariant s)

include inv

theorem Invariant.producerMoves
    (notSignal : s.producer ≠ .signal) (mu : Mutex Goroutine) {position : Producer Node}
    (stores : s.producer.stores → position.stores) :
    Invariant { s with mu := mu, producer := position } where
  flagged := by
    intro nonempty
    rcases inv.flagged nonempty with set | storing | taking
    · exact .inl set
    · exact .inr (.inl (stores storing))
    · exact .inr (.inr taking)
  signalled := fun set waits => absurd (inv.signalled set waits) notSignal
  awake := inv.awake
  asleep := inv.asleep

variable {next : State Node}

theorem Invariant.add {txsNode : List Node} (stepped : step s (.add txsNode) = some next) :
    Invariant next := by
  simp only [step] at stepped
  cases position : s.producer with
  | idle =>
    rw [position] at stepped
    have same := Option.some.inj stepped
    subst same
    apply inv.producerMoves
    · rw [position]
      exact fun impossible => nomatch impossible
    · rw [position]
      exact False.elim
  | lockList _ | append _ | unlockList | store | signal =>
    rw [position] at stepped
    cases stepped

theorem Invariant.producerStep
    (heard : SignalHeard s .producer) (stepped : FreedSet.producerStep s = some next) :
    Invariant next := by
  rw [FreedSet.producerStep] at stepped
  cases position : s.producer with
  | idle =>
    rw [position] at stepped
    cases stepped
  | lockList txsNode =>
    rw [position] at stepped
    obtain ⟨mu, _, same⟩ := map_eq_some_iff.mp stepped
    subst same
    apply inv.producerMoves
    · rw [position]
      exact fun impossible => nomatch impossible
    · rw [position]
      exact False.elim
  | append txsNode =>
    rw [position] at stepped
    have same := Option.some.inj stepped
    subst same
    refine ⟨fun _ => .inr (.inl trivial), fun set waits => ?_, inv.awake, inv.asleep⟩
    have known := inv.signalled set waits
    rw [position] at known
    cases known
  | unlockList =>
    rw [position] at stepped
    obtain ⟨mu, _, same⟩ := map_eq_some_iff.mp stepped
    subst same
    apply inv.producerMoves
    · rw [position]
      exact fun impossible => nomatch impossible
    · exact fun _ => trivial
  | store =>
    rw [position] at stepped
    have same := Option.some.inj stepped
    subst same
    exact ⟨fun _ => .inl rfl, fun _ _ => rfl, inv.awake, inv.asleep⟩
  | signal =>
    rw [position] at stepped
    have same := Option.some.inj stepped
    subst same
    have cleared : s.cond.signal.waiting = [] := by
      by_cases waits : s.consumer.waits
      · rcases inv.asleep waits with enrolled | notified
        · rw [enrolled, CondVar.signal_of_waiting]
        · rw [notified, CondVar.signal_of_no_waiting]
      · rw [inv.awake waits, CondVar.signal_of_no_waiting]
    refine ⟨fun nonempty => ?_, fun set waits => ?_, fun notWaits => ?_, fun waits => ?_⟩
    · have known := inv.flagged nonempty
      rw [position] at known
      exact known
    · exfalso
      rcases waits with nonempty | enrols
      · exact nonempty cleared
      · exact heard ⟨rfl, position, enrols, set⟩
    · rw [inv.awake notWaits, CondVar.signal_of_no_waiting]
    · right
      rcases inv.asleep waits with enrolled | notified
      · rw [enrolled, CondVar.signal_of_waiting]
        rfl
      · rw [notified, CondVar.signal_of_no_waiting]

theorem Invariant.consumerMoves (mu lock : Mutex Goroutine) {position : Consumer Node}
    (takes : s.consumer.takes → position.takes) (waits : s.consumer.waits ↔ position.waits)
    (notEnrol : position ≠ .enrol) :
    Invariant { s with mu := mu, lock := lock, consumer := position } where
  flagged := by
    intro nonempty
    rcases inv.flagged nonempty with set | storing | taking
    · exact .inl set
    · exact .inr (.inl storing)
    · exact .inr (.inr (takes taking))
  signalled := by
    intro set parked
    rcases parked with waiting | enrols
    · exact inv.signalled set (.inl waiting)
    · exact absurd enrols notEnrol
  awake := fun notWaits => inv.awake fun before => notWaits (waits.mp before)
  asleep := fun after => inv.asleep (waits.mpr after)

theorem Invariant.compareAndSwap (position : s.consumer = .compareAndSwap) :
    Invariant
      (if s.nonEmpty then
        { s with nonEmpty := false, consumer := .unlock }
      else
        { s with consumer := .enrol }) := by
  have awake : s.cond = ⟨[], []⟩ := by
    apply inv.awake
    rw [position]
    exact id
  by_cases set : s.nonEmpty = true
  · rw [if_pos set]
    exact
      ⟨fun _ => .inr (.inr trivial),
        fun impossible => absurd impossible Bool.false_ne_true,
        fun _ => awake, fun waits => waits.elim⟩
  · rw [if_neg set]
    refine
      ⟨fun nonempty => ?_, fun isSet => absurd isSet set, fun _ => awake, fun waits => waits.elim⟩
    have known := inv.flagged nonempty
    rw [position] at known
    exact known

theorem Invariant.enrol (position : s.consumer = .enrol) :
    Invariant { s with cond := s.cond.enrol .consumer, consumer := .release } := by
  have awake : s.cond = ⟨[], []⟩ := by
    apply inv.awake
    rw [position]
    exact id
  refine ⟨fun nonempty => ?_, fun set _ => ?_, fun notWaits => ?_, fun _ => ?_⟩
  · have known := inv.flagged nonempty
    rw [position] at known
    exact known
  · exact inv.signalled set (.inr position)
  · exact absurd trivial notWaits
  · rw [awake]
    exact .inl rfl

theorem Invariant.resume (position : s.consumer = .blocked) {cond : CondVar Goroutine}
    (resumed : s.cond.resume .consumer = some cond) :
    Invariant { s with cond := cond, consumer := .relock } := by
  have free : cond = ⟨[], []⟩ := by
    have waits : s.consumer.waits := by
      rw [position]
      trivial
    rcases inv.asleep waits with enrolled | notified
    · rw [enrolled, CondVar.resume_not_notified] at resumed
      cases resumed
    · rw [notified, CondVar.resume_notified] at resumed
      exact (Option.some.inj resumed).symm
  refine ⟨fun nonempty => ?_, fun _ waits => ?_, fun _ => free, fun waits => waits.elim⟩
  · have known := inv.flagged nonempty
    rw [position] at known
    exact known
  · exfalso
    rcases waits with waiting | enrols
    · rw [free] at waiting
      exact waiting rfl
    · cases enrols

theorem Invariant.take (position : s.consumer = .take) :
    Invariant { s with txsNode := [], consumer := .unlockList s.txsNode } := by
  have awake : s.cond = ⟨[], []⟩ := by
    apply inv.awake
    rw [position]
    exact id
  refine ⟨fun nonempty => absurd rfl nonempty, fun _ waits => ?_,
    fun _ => awake, fun waits => waits.elim⟩
  exfalso
  rcases waits with waiting | enrols
  · rw [awake] at waiting
    exact waiting rfl
  · cases enrols

theorem Invariant.output {txsNode : List Node} (position : s.consumer = .output txsNode) :
    Invariant { s with outgoing := s.outgoing ++ txsNode, consumer := .lock } := by
  have awake : s.cond = ⟨[], []⟩ := by
    apply inv.awake
    rw [position]
    exact id
  refine ⟨fun nonempty => ?_, fun _ waits => ?_, fun _ => awake, fun waits => waits.elim⟩
  · have known := inv.flagged nonempty
    rw [position] at known
    exact known
  · exfalso
    rcases waits with waiting | enrols
    · rw [awake] at waiting
      exact waiting rfl
    · cases enrols

theorem Invariant.consumerStep (stepped : FreedSet.consumerStep s = some next) :
    Invariant next := by
  rw [FreedSet.consumerStep] at stepped
  cases position : s.consumer with
  | lock | release | relock | unlock | lockList | unlockList _ =>
    rw [position] at stepped
    obtain ⟨lock, _, same⟩ := map_eq_some_iff.mp stepped
    subst same
    apply inv.consumerMoves
    all_goals simp [position, Consumer.takes, Consumer.waits]
  | compareAndSwap =>
    rw [position] at stepped
    have swapped := inv.compareAndSwap position
    by_cases set : s.nonEmpty = true
    · simp only [if_pos set] at stepped swapped
      exact Option.some.inj stepped ▸ swapped
    · simp only [if_neg set] at stepped swapped
      exact Option.some.inj stepped ▸ swapped
  | enrol =>
    rw [position] at stepped
    exact Option.some.inj stepped ▸ inv.enrol position
  | blocked =>
    rw [position] at stepped
    obtain ⟨cond, resumed, same⟩ := map_eq_some_iff.mp stepped
    exact same ▸ inv.resume position resumed
  | take =>
    rw [position] at stepped
    exact Option.some.inj stepped ▸ inv.take position
  | output txsNode =>
    rw [position] at stepped
    exact Option.some.inj stepped ▸ inv.output position

theorem Invariant.step {action : Action Node} (heard : SignalHeard s action)
    (stepped : (freedSet Node).step s action = some next) :
    Invariant next := by
  cases action with
  | add txsNode => exact inv.add stepped
  | producer => exact inv.producerStep heard stepped
  | consumer => exact inv.consumerStep stepped

theorem Invariant.not_stranded : ¬ Stranded s := by
  intro stranded
  obtain ⟨idle, nonempty, blocked, notNotified⟩ := stranded
  have waits : s.consumer.waits := by
    rw [blocked]
    trivial
  have enrolled : s.cond = ⟨[.consumer], []⟩ := by
    rcases inv.asleep waits with enrolled | notified
    · exact enrolled
    · rw [notified] at notNotified
      exact absurd (mem_singleton.mpr rfl) notNotified
  have set : s.nonEmpty = true := by
    have known := inv.flagged nonempty
    rw [idle, blocked] at known
    rcases known with set | stores | takes
    · exact set
    · exact stores.elim
    · exact takes.elim
  have signals : s.producer = .signal := by
    apply inv.signalled set
    rw [enrolled]
    exact .inl (cons_ne_nil _ _)
  rw [idle] at signals
  cases signals

end

/-- Freed transactions are never stranded if no signal falls between a failed
comparison and the enrolment. -/
theorem not_stranded_of_heard {actions : List (Action Node)} {s : State Node}
    (heard : (freedSet Node).Guarded SignalHeard (freedSet Node).initial actions)
    (ran : (freedSet Node).run actions = some s) :
    ¬ Stranded s := by
  have invariant : Invariant s := by
    apply (freedSet Node).invariant_guarded SignalHeard Invariant
    · intro state action next holds guard stepped
      exact holds.step guard stepped
    · exact invariant_initial
    · exact heard
    · exact ran
  exact invariant.not_stranded

end

def addSteps (txsNode : List Nat) : List (Action Nat) := .add txsNode :: List.replicate 5 .producer

/-- The consumer finds the flag unset, and a whole `add` runs before it
enrols. -/
def missedRun : List (Action Nat) :=
  [.consumer, .consumer] ++ addSteps [7] ++ [.consumer, .consumer]

theorem missed_signal_strands : ∃ s, (freedSet Nat).run missedRun = some s ∧ Stranded s := by
  have evaluated :
      ((freedSet Nat).run missedRun).map
          (fun s => (s.producer, s.txsNode, s.consumer, s.cond.notified)) =
        some (.idle, [7], .blocked, []) := by
    decide +kernel
  obtain ⟨s, ran, outcome⟩ := map_eq_some_iff.mp evaluated
  simp only [Prod.mk.injEq] at outcome
  obtain ⟨idle, listed, blocked, notNotified⟩ := outcome
  refine ⟨s, ran, idle, ?_, blocked, ?_⟩
  · rw [listed]
    exact cons_ne_nil _ _
  · rw [notNotified]
    exact not_mem_nil

/-- The same `add` wakes the consumer after its enrolment. -/
theorem enrolled_consumer_not_stranded :
    ∃ s,
      (freedSet Nat).run (List.replicate 4 .consumer ++ addSteps [7]) = some s ∧
        s.txsNode = [7] ∧ s.consumer = .blocked ∧ ¬ Stranded s := by
  have heard :
      (freedSet Nat).Guarded SignalHeard (freedSet Nat).initial
        (List.replicate 4 .consumer ++ addSteps [7]) := by
    decide +kernel
  have evaluated :
      ((freedSet Nat).run (List.replicate 4 .consumer ++ addSteps [7])).map
          (fun s => (s.txsNode, s.consumer)) =
        some ([7], .blocked) := by
    decide +kernel
  obtain ⟨s, ran, outcome⟩ := map_eq_some_iff.mp evaluated
  obtain ⟨listed, blocked⟩ := Prod.mk.inj outcome
  exact ⟨s, ran, listed, blocked, not_stranded_of_heard heard ran⟩

end FabricXCommitter.DependencyGraph.FreedSet
