import FabricXCommitter.Coordinator.Failover

/-!
# The validator-committer manager

Statuses of unknown transactions are dropped, and feedback releases a checkpoint.
-/

namespace FabricXCommitter.Coordinator.ValidatorCommitterManager

open Library Coordinator.Failover List Option

structure CheckpointFeedback where
  ref : Option TxRef
  deriving DecidableEq, Repr

structure TxStatusBatch where
  status : List TxStatus
  checkpointFeedback : Option CheckpointFeedback := none
  deriving DecidableEq, Repr

/-- The number of transactions reported by statuses or checkpoint feedback. -/
def txCount (batch : TxStatusBatch) : Nat :=
  batch.status.length + if batch.checkpointFeedback.isSome then 1 else 0

structure TxStatusQueue where
  ch : List TxStatusBatch := []
  count : Int32 := 0
  deriving DecidableEq, Repr

/-- What is to be forwarded of a response: the known statuses with their nodes,
and the feedback with the node that it releases, if that is known. -/
structure Forwarding (Node : Type) where
  answered : List (TxStatus × Node)
  feedback : Option CheckpointFeedback
  released : Option Node
  deriving DecidableEq, Repr

def Forwarding.batch {Node : Type} (forwarding : Forwarding Node) : TxStatusBatch :=
  ⟨forwarding.answered.map Prod.fst, forwarding.feedback⟩

def Forwarding.txsNode {Node : Type} (forwarding : Forwarding Node) : List Node :=
  forwarding.answered.map Prod.snd ++ forwarding.released.toList

/-- The positions of the receiver while it handles a response. -/
inductive Work (Node : Type) where
  | lookup (rest : List TxStatus) (answered : List (TxStatus × Node))
      (feedback : Option CheckpointFeedback)
  | count (forwarding : Forwarding Node)
  | enqueue (forwarding : Forwarding Node)
  | output (forwarding : Forwarding Node)
  deriving DecidableEq, Repr

def Work.held {Node : Type} : Work Node → List Node
  | .lookup _ answered _ => answered.map Prod.snd
  | .count forwarding => forwarding.txsNode
  | .enqueue forwarding => forwarding.txsNode
  | .output forwarding => forwarding.txsNode

/-- `policyUpdates` are the nodes whose namespaces were given to the policy
manager.  `answers` and `released` record the forwarded statuses with their
nodes, and the nodes released by feedback. -/
structure Extra (Node : Type) where
  txStatusQueue : TxStatusQueue := {}
  policyUpdates : List Node := []
  forwarded : List TxStatusBatch := []
  answers : List (TxStatus × Node) := []
  released : List Node := []
  deriving DecidableEq, Repr

inductive Signal where
  | respond (batch : TxStatusBatch)
  | proceed
  deriving DecidableEq, Repr

section

variable {Node : Type} (height : Node → Height)

def checkpointNodeToRelease (txBeingValidated : List Node)
    (feedback : Option CheckpointFeedback) : Option (Node × List Node) :=
  feedback.bind fun present =>
    present.ref.bind fun ref => loadAndDelete height txBeingValidated ref.height

/-- One status is looked up. -/
def lookup (extra : Extra Node) (txBeingValidated : List Node)
    (txStatus : TxStatus) (rest : List TxStatus) (answered : List (TxStatus × Node))
    (feedback : Option CheckpointFeedback) :
    Reaction Node (Work Node) (Extra Node) :=
  match loadAndDelete height txBeingValidated txStatus.ref.height with
  | none =>
    { extra := extra
      txBeingValidated := txBeingValidated
      receiver := .busy (.lookup rest answered feedback) }
  | some (node, remaining) =>
    { extra :=
        if txStatus.status = .committed then
          { extra with policyUpdates := extra.policyUpdates ++ [node] }
        else
          extra
      txBeingValidated := remaining
      receiver := .busy (.lookup rest (answered ++ [(txStatus, node)]) feedback) }

/-- All statuses are looked up; the feedback is next. -/
def release (extra : Extra Node) (txBeingValidated : List Node) (answered : List (TxStatus × Node))
    (feedback : Option CheckpointFeedback) :
    Reaction Node (Work Node) (Extra Node) :=
  match checkpointNodeToRelease height txBeingValidated feedback with
  | some (node, remaining) =>
    { extra := extra
      txBeingValidated := remaining
      receiver := .busy (.count ⟨answered, feedback, some node⟩) }
  | none =>
    { extra := extra
      txBeingValidated := txBeingValidated
      receiver :=
        if answered = [] ∧ feedback = none then .recv
        else .busy (.count ⟨answered, feedback, none⟩) }

def Extra.enqueue (extra : Extra Node) (forwarding : Forwarding Node) : Extra Node :=
  { extra with
    txStatusQueue :=
      { extra.txStatusQueue with
        ch := extra.txStatusQueue.ch ++ [forwarding.batch] }
    forwarded := extra.forwarded ++ [forwarding.batch]
    answers := extra.answers ++ forwarding.answered
    released := extra.released ++ forwarding.released.toList }

def Extra.addCount (extra : Extra Node) (batch : TxStatusBatch) : Extra Node :=
  { extra with
    txStatusQueue :=
      { extra.txStatusQueue with
        count := extra.txStatusQueue.count + Int32.ofNat (txCount batch) } }

def react (extra : Extra Node) (txBeingValidated : List Node) :
    Receiver (Work Node) → Signal → Option (Reaction Node (Work Node) (Extra Node))
  | .recv, .respond batch =>
    some
      { extra := extra
        txBeingValidated := txBeingValidated
        receiver := .busy (.lookup batch.status [] batch.checkpointFeedback) }
  | .busy (.lookup (txStatus :: rest) answered feedback), .proceed =>
    some (lookup height extra txBeingValidated txStatus rest answered feedback)
  | .busy (.lookup [] answered feedback), .proceed =>
    some (release height extra txBeingValidated answered feedback)
  | .busy (.count forwarding), .proceed =>
    some
      { extra := extra.addCount forwarding.batch
        txBeingValidated := txBeingValidated
        receiver := .busy (.enqueue forwarding) }
  | .busy (.enqueue forwarding), .proceed =>
    some
      { extra := extra.enqueue forwarding
        txBeingValidated := txBeingValidated
        receiver := .busy (.output forwarding) }
  | .busy (.output forwarding), .proceed =>
    some
      { extra := extra
        txBeingValidated := txBeingValidated
        receiver := .recv
        written := forwarding.txsNode }
  | _, _ => none

inductive Reacted (extra : Extra Node) (txBeingValidated : List Node) :
    Receiver (Work Node) → Signal → Reaction Node (Work Node) (Extra Node) → Prop where
  | received (batch : TxStatusBatch) :
      Reacted extra txBeingValidated .recv (.respond batch)
        { extra := extra
          txBeingValidated := txBeingValidated
          receiver := .busy (.lookup batch.status [] batch.checkpointFeedback) }
  | unknown (txStatus : TxStatus) (rest : List TxStatus)
      (answered : List (TxStatus × Node))
      (feedback : Option CheckpointFeedback) :
      Reacted extra txBeingValidated
        (.busy (.lookup (txStatus :: rest) answered feedback)) .proceed
        { extra := extra
          txBeingValidated := txBeingValidated
          receiver := .busy (.lookup rest answered feedback) }
  | known {txStatus : TxStatus} (rest : List TxStatus)
      (answered : List (TxStatus × Node))
      (feedback : Option CheckpointFeedback)
      {node : Node} {remaining : List Node} (policyUpdates : List Node)
      (loaded :
        loadAndDelete height txBeingValidated txStatus.ref.height = some (node, remaining)) :
      Reacted extra txBeingValidated
        (.busy (.lookup (txStatus :: rest) answered feedback)) .proceed
        { extra := { extra with policyUpdates := policyUpdates }
          txBeingValidated := remaining
          receiver := .busy (.lookup rest (answered ++ [(txStatus, node)]) feedback) }
  | released (answered : List (TxStatus × Node))
      {feedback : Option CheckpointFeedback}
      {node : Node} {remaining : List Node}
      (loaded : checkpointNodeToRelease height txBeingValidated feedback = some (node, remaining)) :
      Reacted extra txBeingValidated
        (.busy (.lookup [] answered feedback)) .proceed
        { extra := extra
          txBeingValidated := remaining
          receiver := .busy (.count ⟨answered, feedback, some node⟩) }
  | unreleased (answered : List (TxStatus × Node))
      {feedback : Option CheckpointFeedback}
      (something : ¬ (answered = [] ∧ feedback = none))
      (missing : checkpointNodeToRelease height txBeingValidated feedback = none) :
      Reacted extra txBeingValidated
        (.busy (.lookup [] answered feedback)) .proceed
        { extra := extra
          txBeingValidated := txBeingValidated
          receiver := .busy (.count ⟨answered, feedback, none⟩) }
  | nothing :
      Reacted extra txBeingValidated (.busy (.lookup [] [] none)) .proceed
        { extra := extra
          txBeingValidated := txBeingValidated
          receiver := .recv }
  | counted (forwarding : Forwarding Node) :
      Reacted extra txBeingValidated (.busy (.count forwarding)) .proceed
        { extra := extra.addCount forwarding.batch
          txBeingValidated := txBeingValidated
          receiver := .busy (.enqueue forwarding) }
  | enqueued (forwarding : Forwarding Node) :
      Reacted extra txBeingValidated (.busy (.enqueue forwarding)) .proceed
        { extra := extra.enqueue forwarding
          txBeingValidated := txBeingValidated
          receiver := .busy (.output forwarding) }
  | written (forwarding : Forwarding Node) :
      Reacted extra txBeingValidated (.busy (.output forwarding)) .proceed
        { extra := extra
          txBeingValidated := txBeingValidated
          receiver := .recv
          written := forwarding.txsNode }

theorem reacted_lookup (extra : Extra Node) (txBeingValidated : List Node)
    (txStatus : TxStatus) (rest : List TxStatus) (answered : List (TxStatus × Node))
    (feedback : Option CheckpointFeedback) :
    Reacted height extra txBeingValidated
      (.busy (.lookup (txStatus :: rest) answered feedback)) .proceed
      (lookup height extra txBeingValidated txStatus rest answered feedback) := by
  rw [lookup]
  cases loaded : loadAndDelete height txBeingValidated txStatus.ref.height with
  | none => exact Reacted.unknown txStatus rest answered feedback
  | some found =>
    obtain ⟨node, remaining⟩ := found
    by_cases committed : txStatus.status = .committed
    · simp only [if_pos committed]
      exact Reacted.known rest answered feedback _ loaded
    · simp only [if_neg committed]
      exact Reacted.known rest answered feedback extra.policyUpdates loaded

theorem reacted_release
    (extra : Extra Node) (txBeingValidated : List Node) (answered : List (TxStatus × Node))
    (feedback : Option CheckpointFeedback) :
    Reacted height extra txBeingValidated
      (.busy (.lookup [] answered feedback)) .proceed
      (release height extra txBeingValidated answered feedback) := by
  rw [release]
  cases loaded : checkpointNodeToRelease height txBeingValidated feedback with
  | some found => exact Reacted.released answered loaded
  | none =>
    by_cases empty : answered = [] ∧ feedback = none
    · obtain ⟨noAnswers, noFeedback⟩ := empty
      subst noAnswers
      subst noFeedback
      exact Reacted.nothing
    · simp only [if_neg empty]
      exact Reacted.unreleased answered empty loaded

variable {extra : Extra Node} {txBeingValidated : List Node} {receiver : Receiver (Work Node)}
  {signal : Signal} {reaction : Reaction Node (Work Node) (Extra Node)}

theorem reacted_of_react
    (reacts : react height extra txBeingValidated receiver signal = some reaction) :
    Reacted height extra txBeingValidated receiver signal reaction := by
  revert reacts
  fun_cases react height extra txBeingValidated receiver signal with
  | case1 batch =>
    intro reacts
    exact Option.some.inj reacts ▸ Reacted.received batch
  | case2 txStatus rest answered feedback =>
    intro reacts
    exact
      Option.some.inj reacts ▸
        reacted_lookup height extra txBeingValidated txStatus rest answered feedback
  | case3 answered feedback =>
    intro reacts
    exact Option.some.inj reacts ▸ reacted_release height extra txBeingValidated answered feedback
  | case4 forwarding =>
    intro reacts
    exact Option.some.inj reacts ▸ Reacted.counted forwarding
  | case5 forwarding =>
    intro reacts
    exact Option.some.inj reacts ▸ Reacted.enqueued forwarding
  | case6 forwarding =>
    intro reacts
    exact Option.some.inj reacts ▸ Reacted.written forwarding
  | case7 =>
    intro reacts
    cases reacts

theorem released_perm {remaining : List Node} {node : Node} {feedback : Option CheckpointFeedback}
    (distinct : (txBeingValidated.map height).Nodup)
    (loaded : checkpointNodeToRelease height txBeingValidated feedback = some (node, remaining)) :
    txBeingValidated.Perm (node :: remaining) := by
  obtain ⟨_, _, withRef⟩ := bind_eq_some_iff.mp loaded
  obtain ⟨ref, _, withNode⟩ := bind_eq_some_iff.mp withRef
  exact (loadAndDelete_perm height distinct withNode).1

theorem react_conserved
    (reacts : react height extra txBeingValidated receiver signal = some reaction)
    (distinct : ((txBeingValidated ++ receiver.held Work.held).map height).Nodup) :
    (reaction.txBeingValidated ++ reaction.receiver.held Work.held ++ reaction.written).Perm
      (txBeingValidated ++ receiver.held Work.held) := by
  have tracked : (txBeingValidated.map height).Nodup := by
    rw [map_append] at distinct
    exact (nodup_append.mp distinct).1
  cases reacted_of_react height reacts with
  | received | unknown | unreleased | nothing | counted | enqueued
  | written => simp [Receiver.held, Work.held, Forwarding.txsNode]
  | @known txStatus rest answered feedback node remaining _ loaded =>
    have split := (loadAndDelete_perm height tracked loaded).1
    refine List.Perm.trans ?_ (split.append_right _).symm
    simp only [Receiver.held, Work.held, map_append, map_singleton, append_nil, ← append_assoc]
    exact perm_append_singleton node _
  | @released answered feedback node remaining loaded =>
    have split := released_perm height tracked loaded
    refine List.Perm.trans ?_ (split.append_right _).symm
    simp only [Receiver.held, Work.held, Forwarding.txsNode,
      toList_some, append_nil, ← append_assoc]
    exact perm_append_singleton node _

def protocol : Protocol Node (Work Node) (Extra Node) Signal height where
  skipsEmpty := true
  locked := false
  held := Work.held
  react := react height
  conserved := react_conserved height

end

/-! ## Every forwarded node has one status -/

section

variable {Node : Type} (height : Node → Height)

abbrev State (Node : Type) := Failover.State Node (Work Node) (Extra Node)

/-- The nodes whose statuses are forwarded and that are about to be written to
the output. -/
def Work.settled : Option (Work Node) → List Node
  | some (.output forwarding) => forwarding.txsNode
  | _ => []

def Work.answered : Work Node → List (TxStatus × Node)
  | .lookup _ answered _ => answered
  | .count forwarding => forwarding.answered
  | .enqueue forwarding => forwarding.answered
  | .output forwarding => forwarding.answered

/-- The statuses that the receiver will forward are those of the nodes it
holds. -/
def Work.Matching (work : Work Node) : Prop :=
  ∀ pair ∈ work.answered, pair.1.ref.height = height pair.2

/-- The nodes for which something was forwarded. -/
def Extra.settled (extra : Extra Node) : List Node := extra.answers.map Prod.snd ++ extra.released

structure Answered (s : State Node) : Prop where
  nodes :
    Fleet.total (fun shared => (shared.output : Multiset Node))
        (fun inst => (Work.settled inst.phase.work : Multiset Node)) s =
      s.shared.extra.settled
  statuses :
    s.shared.extra.answers.map Prod.fst = s.shared.extra.forwarded.flatMap TxStatusBatch.status
  matching : ∀ pair ∈ s.shared.extra.answers, pair.1.ref.height = height pair.2
  working : ∀ inst ∈ s.workers, ∀ work, inst.phase.work = some work → work.Matching height

variable {height}

section

variable {extra : Extra Node} {txBeingValidated : List Node} {receiver : Receiver (Work Node)}
  {signal : Signal} {reaction : Reaction Node (Work Node) (Extra Node)}
  (reacted : Reacted height extra txBeingValidated receiver signal reaction)

include reacted

/-- Nodes are settled when their batch is put into the status queue, and leave
when they are written to the output. -/
theorem Reacted.settles (sender : Sender Node) :
    (reaction.written : Multiset Node) +
          Work.settled (Phase.streaming sender reaction.receiver).work +
        extra.settled =
      (Work.settled (Phase.streaming sender receiver).work : Multiset Node) +
        reaction.extra.settled := by
  cases reacted with
  | received | unknown | known | released | unreleased | nothing | counted => rfl
  | enqueued forwarding =>
    simp only [Phase.work, Work.settled, Extra.settled, Extra.enqueue,
      Forwarding.txsNode, map_append, ← Multiset.coe_add,
      Multiset.coe_nil]
    abel
  | written forwarding => simp only [Phase.work, Work.settled, Multiset.coe_nil, add_zero]

theorem Reacted.matching (distinct : (txBeingValidated.map height).Nodup) (sender : Sender Node)
    (before : ∀ work, (Phase.streaming sender receiver).work = some work → work.Matching height) :
    ∀ work, (Phase.streaming sender reaction.receiver).work = some work → work.Matching height := by
  intro work current
  cases reacted with
  | received batch =>
    have same := Option.some.inj current
    subst same
    intro pair mem
    cases mem
  | @known txStatus rest answered feedback node remaining _ loaded =>
    have same := Option.some.inj current
    subst same
    intro pair mem
    rcases mem_append.mp mem with old | new
    · exact before _ rfl pair old
    · rw [mem_singleton.mp new]
      exact (loadAndDelete_perm height distinct loaded).2.symm
  | nothing | written forwarding => cases current
  | unknown | released | unreleased | counted | enqueued =>
    have same := Option.some.inj current
    subst same
    have old := before _ rfl
    exact old

theorem Reacted.statuses
    (before : extra.answers.map Prod.fst = extra.forwarded.flatMap TxStatusBatch.status) :
    reaction.extra.answers.map Prod.fst =
      reaction.extra.forwarded.flatMap TxStatusBatch.status := by
  cases reacted with
  | received | unknown | known | released | unreleased | nothing | counted
  | written => exact before
  | enqueued forwarding =>
    simp only [Extra.enqueue, map_append, flatMap_append, before, flatMap_singleton]
    rfl

theorem Reacted.answers_match (sender : Sender Node)
    (working : ∀ work, (Phase.streaming sender receiver).work = some work → work.Matching height)
    (before : ∀ pair ∈ extra.answers, pair.1.ref.height = height pair.2) :
    ∀ pair ∈ reaction.extra.answers, pair.1.ref.height = height pair.2 := by
  cases reacted with
  | received | unknown | known | released | unreleased | nothing | counted
  | written => exact before
  | enqueued forwarding =>
    intro pair mem
    rcases mem_append.mp mem with old | new
    · exact before pair old
    · exact working _ rfl pair new

end

theorem forall_mem_set
    {instances : List (Instance Node (Work Node))} {property : Instance Node (Work Node) → Prop}
    (before : ∀ inst ∈ instances, property inst) {index : Nat}
    {after : Instance Node (Work Node)} (new : property after) :
    ∀ inst ∈ instances.set index after, property inst := by
  intro inst mem
  rcases mem_or_eq_of_mem_set mem with old | same
  · exact before inst old
  · exact same ▸ new

theorem Answered.worker {s : State Node} (answered : Answered height s)
    {index : Nat} {inst after : Instance Node (Work Node)}
    {shared : Shared Node (Extra Node)} {task : Failover.Task Signal}
    (found : s.workers[index]? = some inst)
    (distinct : ((inst.contents (protocol height)).map height).Nodup)
    (stepped : workerStep (protocol height) s.shared inst task = some (shared, after)) :
    Answered height ⟨shared, s.workers.set index after⟩ := by
  have mem : inst ∈ s.workers := mem_of_getElem? found
  have nodes := answered.nodes
  rw [Fleet.total_eq_others _ _ found] at nodes
  cases workerStepped_of_workerStep (protocol height) distinct stepped with
  | quiet extra _ output work _ =>
    refine ⟨?_, ?_, ?_, ?_⟩
    · rw [Fleet.total_set _ _ found, output, work, extra]
      exact nodes
    · rw [extra]
      exact answered.statuses
    · rw [extra]
      exact answered.matching
    · apply forall_mem_set answered.working
      rw [work]
      exact answered.working inst mem
  | @reacted sender receiver signal reaction _ phase reacts same sameAfter =>
    subst same
    subst sameAfter
    have reacted := reacted_of_react height reacts
    have working := answered.working inst mem
    rw [phase] at working nodes
    have tracked : (inst.txBeingValidated.map height).Nodup := by
      rw [Instance.contents, map_append] at distinct
      exact (nodup_append.mp distinct).1
    refine ⟨?_, ?_, ?_, ?_⟩
    · have settles := reacted.settles sender
      rw [← nodes] at settles
      rw [Fleet.total_set _ _ found, ← Multiset.coe_add]
      apply
        add_left_cancel (a := (Work.settled (Phase.streaming sender receiver).work : Multiset Node))
      rw [← settles]
      abel
    · exact reacted.statuses answered.statuses
    · exact reacted.answers_match sender working answered.matching
    · apply forall_mem_set answered.working
      exact reacted.matching tracked sender working

theorem settled_sublist (inst : Instance Node (Work Node)) :
    (Work.settled inst.phase.work).Sublist (inst.contents (protocol height)) := by
  cases phase : inst.phase with
  | disconnected | recovering _ => exact nil_sublist _
  | streaming sender receiver =>
    cases receiver with
    | recv | stopped => exact nil_sublist _
    | busy work =>
      cases work with
      | lookup _ _ _ | count _ | enqueue _ => exact nil_sublist _
      | output forwarding =>
        simp only [Instance.contents, phase]
        exact (sublist_append_right _ _).trans (sublist_append_right _ _)

theorem settled_le_accepted
    {s : State Node} (owned : Owned (protocol height) s) (answered : Answered height s) :
    (s.shared.extra.settled : Multiset Node) ≤ s.shared.accepted := by
  have stocks :
      (s.shared.output : Multiset Node) ≤ s.shared.txBatchQueue.flatten + s.shared.output :=
    Multiset.le_add_left _ _
  have loads (inst : Instance Node (Work Node)) :
      (Work.settled inst.phase.work : Multiset Node) ≤ inst.contents (protocol height) :=
    Multiset.coe_le.mpr (settled_sublist inst).subperm
  rw [← answered.nodes, ← owned.total_eq]
  exact Fleet.total_mono stocks fun inst _ => loads inst

theorem answered_initial (count : Nat) :
    Answered height (initialState ({} : Extra Node) count) := by
  refine ⟨?_, rfl, ?_, ?_⟩
  · simp [initialState, Fleet.total, Phase.work, Work.settled, Extra.settled]
  · intro pair mem
    cases mem
  · intro inst mem work current
    rw [eq_of_mem_replicate mem] at current
    cases current

variable [DecidableEq Node]

variable (height) in
/-- The manager with the given number of validator-committers. -/
def manager (count : Nat) :
    Machine (State Node) (Fleet.Action (List Node) (Failover.Task Signal)) :=
  (fleet (protocol height)).machine (initialState {} count)

theorem answered_run
    {count : Nat} {actions : List (Fleet.Action (List Node) (Failover.Task Signal))}
    {s : State Node} (ran : (manager height count).run actions = some s) :
    Owned (protocol height) s ∧ Answered height s := by
  refine
    Machine.invariant_run _
      (fun state => Owned (protocol height) state ∧ Answered height state)
      ⟨owned_initial _ _ _, answered_initial count⟩ ?_ ran
  intro state action next holds stepped
  obtain ⟨owned, answered⟩ := holds
  refine ⟨owned.step _ stepped, ?_⟩
  cases Fleet.stepped_of_step stepped with
  | environment accepted =>
    obtain ⟨_, same⟩ := ite_none_right_eq_some.mp accepted
    have moved := Option.some.inj same
    subst moved
    exact ⟨answered.nodes, answered.statuses, answered.matching, answered.working⟩
  | worker found moved => exact answered.worker found (owned.instance_heights _ found) moved

end

end FabricXCommitter.Coordinator.ValidatorCommitterManager
