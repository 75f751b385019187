import FabricXCommitter.Coordinator.ValidatorCommitterManager
import Mathlib.Algebra.Order.Ring.Nat

/-!
# The status queue

The receivers count the transactions of a batch before they put it into the channel.
-/

namespace FabricXCommitter.Coordinator.ValidatorCommitterManager

open Library Coordinator.Failover List Option

variable {Node : Type} {height : Node → Height}

def reported (batches : List TxStatusBatch) : Nat := (batches.map txCount).sum

@[simp]
theorem reported_nil : reported [] = 0 := rfl

@[simp]
theorem reported_cons (batch : TxStatusBatch) (rest : List TxStatusBatch) :
    reported (batch :: rest) = txCount batch + reported rest := by
  rw [reported, map_cons, sum_cons, reported]

@[simp]
theorem reported_append (first second : List TxStatusBatch) :
    reported (first ++ second) = reported first + reported second := by
  rw [reported, map_append, sum_append, reported, reported]

def Work.pending : Option (Work Node) → Nat
  | some (.enqueue forwarding) => txCount forwarding.batch
  | _ => 0

/-- The transactions counted for batches that are not yet in the channel. -/
def pendingTotal (s : State Node) : Nat :=
  (s.workers.map fun inst => Work.pending inst.phase.work).sum

/-- The batch reports the transactions whose nodes are released with it. -/
def Forwarding.Balanced (forwarding : Forwarding Node) : Prop :=
  txCount forwarding.batch = forwarding.txsNode.length ∧ 0 < txCount forwarding.batch

def Work.Balanced : Work Node → Prop
  | .lookup _ _ _ => True
  | .count forwarding => forwarding.Balanced
  | .enqueue forwarding => forwarding.Balanced
  | .output forwarding => forwarding.Balanced

def feedbackTracked (height : Node → Height) (txBeingValidated : List Node) :
    Option (Work Node) → Bool
  | some (.lookup [] _ (some feedback)) =>
    (checkpointNodeToRelease height txBeingValidated (some feedback)).isSome
  | _ => true

theorem balanced_released
    (answered : List (TxStatus × Node)) (feedback : CheckpointFeedback) (node : Node) :
    (⟨answered, some feedback, some node⟩ : Forwarding Node).Balanced := by
  simp [Forwarding.Balanced, Forwarding.batch, Forwarding.txsNode, txCount]

theorem balanced_without_feedback {answered : List (TxStatus × Node)} (nonempty : answered ≠ []) :
    (⟨answered, none, none⟩ : Forwarding Node).Balanced := by
  simp [Forwarding.Balanced, Forwarding.batch, Forwarding.txsNode, txCount,
    length_pos_iff, nonempty]

theorem Reacted.balanced {extra : Extra Node} {txBeingValidated : List Node}
    {receiver : Receiver (Work Node)} {signal : Signal}
    {reaction : Reaction Node (Work Node) (Extra Node)}
    (reacted : Reacted height extra txBeingValidated receiver signal reaction)
    (sender : Sender Node)
    (tracked :
      feedbackTracked height txBeingValidated (Phase.streaming sender receiver).work = true)
    (before : ∀ work, (Phase.streaming sender receiver).work = some work → work.Balanced) :
    ∀ work, (Phase.streaming sender reaction.receiver).work = some work → work.Balanced := by
  intro work current
  cases reacted with
  | received batch | unknown _ _ _ _ | known _ _ _ _ _ =>
    have same := Option.some.inj current
    subst same
    trivial
  | nothing | written forwarding => cases current
  | counted forwarding | enqueued forwarding =>
    have same := Option.some.inj current
    subst same
    have old := before _ rfl
    exact old
  | @released answered feedback node remaining loaded =>
    have same := Option.some.inj current
    subst same
    cases feedback with
    | none => cases loaded
    | some present => exact balanced_released answered present node
  | @unreleased answered feedback something missing =>
    have same := Option.some.inj current
    subst same
    cases feedback with
    | some present =>
      have present : false = true := by
        rw [Phase.work, feedbackTracked, missing] at tracked
        exact tracked
      cases present
    | none => exact balanced_without_feedback fun empty => something ⟨empty, rfl⟩

/-- What a step can do to the status queue. -/
inductive QueueEffect
    (extra : Extra Node) (pending : Nat) (after : Extra Node) (pendingAfter : Nat) : Prop where
  | unchanged
      (queue : after.txStatusQueue = extra.txStatusQueue)
      (forwarded : after.forwarded = extra.forwarded)
      (settled : after.settled = extra.settled)
      (pending : pendingAfter = pending)
  | counted (batch : TxStatusBatch)
      (after : after = extra.addCount batch)
      (pending : pendingAfter = pending + txCount batch)
  | enqueued (batch : TxStatusBatch)
      (reports : 0 < txCount batch)
      (ch : after.txStatusQueue.ch = extra.txStatusQueue.ch ++ [batch])
      (count : after.txStatusQueue.count = extra.txStatusQueue.count)
      (forwarded : after.forwarded = extra.forwarded ++ [batch])
      (settled : after.settled.length = extra.settled.length + txCount batch)
      (pending : pendingAfter + txCount batch = pending)

theorem length_settled_enqueue (extra : Extra Node) (forwarding : Forwarding Node) :
    (extra.enqueue forwarding).settled.length =
      extra.settled.length + forwarding.txsNode.length := by
  simp only [Extra.settled, Extra.enqueue, Forwarding.txsNode, map_append, length_append]
  omega

theorem Reacted.queueEffect {extra : Extra Node} {txBeingValidated : List Node}
    {receiver : Receiver (Work Node)} {signal : Signal}
    {reaction : Reaction Node (Work Node) (Extra Node)}
    (reacted : Reacted height extra txBeingValidated receiver signal reaction)
    (sender : Sender Node) (others : Nat)
    (before : ∀ work, (Phase.streaming sender receiver).work = some work → work.Balanced) :
    QueueEffect extra
      (Work.pending (Phase.streaming sender receiver).work + others)
      reaction.extra
      (Work.pending (Phase.streaming sender reaction.receiver).work + others) := by
  cases reacted with
  | received | unknown | known | released | unreleased | nothing | written =>
    exact QueueEffect.unchanged rfl rfl rfl rfl
  | counted forwarding =>
    refine QueueEffect.counted forwarding.batch rfl ?_
    simp only [Phase.work, Work.pending]
    omega
  | enqueued forwarding =>
    obtain ⟨counts, positive⟩ : forwarding.Balanced := before _ rfl
    refine QueueEffect.enqueued forwarding.batch positive rfl rfl rfl ?_ ?_
    · rw [length_settled_enqueue, counts]
    · simp only [Phase.work, Work.pending]
      omega

/-- All receivers are about to report what they release. -/
def AllBalanced (s : State Node) : Prop :=
  ∀ inst ∈ s.workers, ∀ work, inst.phase.work = some work → work.Balanced

variable {shared : Shared Node (Extra Node)}

section

variable {s : State Node} {index : Nat} {inst : Instance Node (Work Node)}
  (found : s.workers[index]? = some inst)

include found

theorem pendingTotal_eq_others :
    pendingTotal s =
      Work.pending inst.phase.work +
        Fleet.others (fun inst => Work.pending inst.phase.work) s.workers index :=
  Fleet.sum_eq_others _ found

theorem pendingTotal_set (shared : Shared Node (Extra Node)) (after : Instance Node (Work Node)) :
    pendingTotal ⟨shared, s.workers.set index after⟩ =
      Work.pending after.phase.work +
        Fleet.others (fun inst => Work.pending inst.phase.work) s.workers index := by
  obtain ⟨within, _⟩ := List.getElem?_eq_some_iff.mp found
  have replaced : (s.workers.set index after)[index]? = some after := getElem?_set_self within
  rw [← Fleet.others_set _ s.workers index after]
  exact Fleet.sum_eq_others _ replaced

theorem queueEffect_of_workerStep {after : Instance Node (Work Node)} {task : Failover.Task Signal}
    (distinct : ((inst.contents (protocol height)).map height).Nodup) (balanced : AllBalanced s)
    (tracked :
      task = .receiver .proceed →
        feedbackTracked height inst.txBeingValidated inst.phase.work = true)
    (stepped : workerStep (protocol height) s.shared inst task = some (shared, after)) :
    QueueEffect s.shared.extra (pendingTotal s) shared.extra
        (pendingTotal ⟨shared, s.workers.set index after⟩) ∧
      AllBalanced ⟨shared, s.workers.set index after⟩ := by
  have mem : inst ∈ s.workers := mem_of_getElem? found
  rw [pendingTotal_eq_others found, pendingTotal_set found]
  cases workerStepped_of_workerStep (protocol height) distinct stepped with
  | quiet extra _ output work _ =>
    constructor
    · refine QueueEffect.unchanged ?_ ?_ ?_ ?_
      · rw [extra]
      · rw [extra]
      · rw [extra]
      · rw [work]
    · apply forall_mem_set balanced
      rw [work]
      exact balanced inst mem
  | @reacted sender receiver signal reaction same phase reacts next moved =>
    subst next
    subst moved
    have reacted := reacted_of_react height reacts
    have before := balanced inst mem
    rw [phase] at before ⊢
    constructor
    · exact reacted.queueEffect sender _ before
    · apply forall_mem_set balanced
      refine reacted.balanced sender ?_ before
      cases signal with
      | respond batch =>
        cases reacted
        rfl
      | proceed =>
        rw [← phase]
        exact tracked same

end

theorem settled_add_pending_le {inst : Instance Node (Work Node)}
    (balanced : ∀ work, inst.phase.work = some work → work.Balanced) :
    (Work.settled inst.phase.work).length + Work.pending inst.phase.work ≤
      (inst.contents (protocol height)).length := by
  cases phase : inst.phase with
  | disconnected | recovering _ => exact Nat.zero_le _
  | streaming sender receiver =>
    cases receiver with
    | recv | stopped => exact Nat.zero_le _
    | busy work =>
      have counts := balanced work (by rw [phase]; rfl)
      have held : work.held.length ≤ (inst.contents (protocol height)).length := by
        simp only [Instance.contents, phase, Phase.contents, Receiver.held, protocol, length_append]
        omega
      refine Nat.le_trans ?_ held
      cases work with
      | lookup _ _ _ | count _ => exact Nat.zero_le _
      | enqueue forwarding =>
        have same : txCount forwarding.batch = forwarding.txsNode.length := counts.1
        change 0 + txCount forwarding.batch ≤ forwarding.txsNode.length
        omega
      | output forwarding => exact Nat.le_refl _

theorem settled_add_pendingTotal_le {s : State Node} (owned : Owned (protocol height) s)
    (answered : Answered height s) (balanced : AllBalanced s) :
    s.shared.extra.settled.length + pendingTotal s ≤ s.shared.accepted.length := by
  have settled := congrArg Multiset.cardHom answered.nodes
  have accepted := congrArg Multiset.cardHom owned.total_eq
  rw [Fleet.map_total] at settled accepted
  have loads :
      Fleet.total (fun shared => shared.output.length)
          (fun inst => (Work.settled inst.phase.work).length + Work.pending inst.phase.work) s ≤
        s.shared.accepted.length := by
    have bound :
        Fleet.total (fun shared => shared.output.length)
            (fun inst => (Work.settled inst.phase.work).length + Work.pending inst.phase.work) s ≤
          Fleet.total
            (fun shared =>
              Multiset.cardHom (shared.txBatchQueue.flatten + shared.output : Multiset Node))
            (fun inst => Multiset.cardHom (inst.contents (protocol height) : Multiset Node)) s := by
      apply Fleet.total_mono
      · simp
      · intro inst mem
        exact settled_add_pending_le (balanced inst mem)
    rw [accepted] at bound
    exact bound
  have split :
      Fleet.total (fun shared => shared.output.length)
          (fun inst => (Work.settled inst.phase.work).length + Work.pending inst.phase.work) s =
        Fleet.total (fun shared => shared.output.length)
            (fun inst => (Work.settled inst.phase.work).length) s +
          pendingTotal s := by
    rw [Fleet.total, Fleet.total, pendingTotal, sum_map_add, add_assoc]
  rw [split] at loads
  have same :
      Fleet.total (fun shared => shared.output.length)
          (fun inst => (Work.settled inst.phase.work).length) s =
        s.shared.extra.settled.length :=
    settled
  rw [same] at loads
  exact loads

variable (height) in
/-- The manager reports every transaction once. -/
structure Consistent (s : State Node) : Prop where
  owned : Owned (protocol height) s
  answered : Answered height s
  balanced : AllBalanced s
  forwarded : reported s.shared.extra.forwarded = s.shared.extra.settled.length

theorem Consistent.capacity {s : State Node} (consistent : Consistent height s) :
    reported s.shared.extra.forwarded + pendingTotal s ≤ s.shared.accepted.length := by
  rw [consistent.forwarded]
  exact settled_add_pendingTotal_le consistent.owned consistent.answered consistent.balanced

theorem consistent_initial (count : Nat) :
    Consistent height (initialState ({} : Extra Node) count) := by
  refine ⟨owned_initial _ _ _, answered_initial count, ?_, rfl⟩
  intro inst mem work current
  rw [eq_of_mem_replicate mem] at current
  cases current

section

variable {s : State Node} (consistent : Consistent height s)

include consistent

theorem Consistent.accept [DecidableEq Node] {batch : List Node}
    (accepted : Failover.accept (protocol height) s.shared s.workers batch = some shared) :
    Consistent height ⟨shared, s.workers⟩ ∧
      shared.extra = s.shared.extra ∧ shared.accepted = s.shared.accepted ++ batch := by
  have owned := consistent.owned.accept _ accepted
  obtain ⟨_, same⟩ := ite_none_right_eq_some.mp accepted
  have moved := Option.some.inj same
  subst moved
  have answered := consistent.answered
  exact
    ⟨⟨owned,
        ⟨answered.nodes, answered.statuses, answered.matching, answered.working⟩,
        consistent.balanced, consistent.forwarded⟩,
      rfl, rfl⟩

theorem Consistent.worker {index : Nat} {inst after : Instance Node (Work Node)}
    {task : Failover.Task Signal} (found : s.workers[index]? = some inst)
    (tracked :
      task = .receiver .proceed →
        feedbackTracked height inst.txBeingValidated inst.phase.work = true)
    (stepped : workerStep (protocol height) s.shared inst task = some (shared, after)) :
    Consistent height ⟨shared, s.workers.set index after⟩ ∧
      QueueEffect s.shared.extra (pendingTotal s) shared.extra
        (pendingTotal ⟨shared, s.workers.set index after⟩) ∧
        shared.accepted = s.shared.accepted := by
  have distinct := consistent.owned.instance_heights _ found
  obtain ⟨effect, balanced⟩ :=
    queueEffect_of_workerStep found distinct consistent.balanced tracked stepped
  have accepted := ((workerStepped_of_workerStep _ distinct stepped).balanced _ distinct).1
  have forwarded := consistent.forwarded
  refine ⟨⟨consistent.owned.worker _ found stepped,
    consistent.answered.worker found distinct stepped, balanced, ?_⟩,
    effect, accepted⟩
  cases effect with
  | unchanged _ sameForwarded sameSettled _ =>
    rw [sameForwarded, sameSettled]
    exact forwarded
  | counted batch same _ =>
    rw [same]
    exact forwarded
  | enqueued batch _ _ _ moreForwarded moreSettled _ =>
    rw [moreForwarded, moreSettled, reported_append, forwarded,
      reported_cons, reported_nil, Nat.add_zero]

theorem Consistent.setStatusQueue (queue : TxStatusQueue) :
    Consistent height
      { s with
        shared :=
          { s.shared with
            extra := { s.shared.extra with txStatusQueue := queue } } } where
  owned := ⟨consistent.owned.places, consistent.owned.once, consistent.owned.heights⟩
  answered := ⟨consistent.answered.nodes, consistent.answered.statuses,
    consistent.answered.matching, consistent.answered.working⟩
  balanced := consistent.balanced
  forwarded := consistent.forwarded

end

end FabricXCommitter.Coordinator.ValidatorCommitterManager
