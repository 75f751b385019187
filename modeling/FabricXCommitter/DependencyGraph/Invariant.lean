import FabricXCommitter.DependencyGraph.Manager
import Mathlib.Order.Interval.Set.Basic

/-!
# Invariants of the dependency-graph manager
-/

namespace FabricXCommitter.DependencyGraph

open List

/-! ## The intervals of nodes -/

section

variable (input : List (List TxWithRef))

theorem firstNode_succ (k : Nat) :
    firstNode input (k + 1) = firstNode input k + (input.getD k []).length := by
  unfold firstNode
  rw [getD_eq_getElem?_getD]
  by_cases inside : k < input.length
  · rw [take_add_one, getElem?_eq_getElem inside, map_append, sum_append]
    simp
  · have outside : input.length ≤ k := Nat.le_of_not_lt inside
    rw [take_of_length_le outside,
      take_of_length_le (Nat.le_succ_of_le outside),
      getElem?_eq_none outside]
    rfl

theorem mem_batchNodes (k n : Nat) :
    n ∈ batchNodes input k ↔ firstNode input k ≤ n ∧ n < firstNode input (k + 1) := by
  rw [batchNodes, mem_range'_1, firstNode_succ]

theorem batchNodes_ordered (k : Nat) : (batchNodes input k).Pairwise (· < ·) := pairwise_lt_range'

def nodesBefore (k : Nat) : Set Nat := Set.Iio (firstNode input k)

theorem nodesBefore_succ (k : Nat) :
    nodesBefore input (k + 1) = nodesBefore input k ∪ nodeSet (batchNodes input k) := by
  ext n
  have bounds := firstNode_succ input k
  change n < firstNode input (k + 1) ↔ n < firstNode input k ∨ n ∈ batchNodes input k
  rw [mem_batchNodes]
  omega

end

/-! ## What the invariants speak about -/

def ConstructionPhase.batches : ConstructionPhase → List TransactionNodeBatch
  | .acquired batch => [batch]
  | _ => []

/-- The dependency-free transactions that the construction loop holds. -/
def ConstructionPhase.holds : ConstructionPhase → List Nat
  | .sending depFreeTxs => depFreeTxs
  | _ => []

def ValidationPhase.holds : ValidationPhase → Multiset Nat
  | .freed fullyFreedDependents => fullyFreedDependents
  | _ => 0

namespace State

/-- The batches output by the local constructor and not yet in the graph. -/
def pendingBatches (state : State) : List TransactionNodeBatch :=
  state.construction.batches ++ state.incomingTransactionsNode

def handedOut (state : State) : Multiset Nat :=
  state.outgoing + (state.freedOutput + state.freedTransactionsSet)

/-- The transactions handed out, or held by a loop that is about to hand them
out. -/
def inHand (state : State) : Multiset Nat :=
  state.handedOut + (state.validation.holds + ↑state.construction.holds)

def liveSet (input : List (List TxWithRef)) (state : State) : Set Nat :=
  nodesBefore input state.entered \ {n | n ∈ state.validated}

end State

/-- The batches between the workers and the graph. -/
structure PipelineInvariant
    (platform : Platform) (input : List (List TxWithRef)) (state : State) : Prop where
  constructed : ∀ batch ∈ state.constructed, batch = constructBatch platform input batch.id
  outputted : state.entered ≤ state.lastOutputtedID
  pending :
    state.pendingBatches =
      (List.range' state.entered (state.lastOutputtedID - state.entered)).map fun k =>
        constructBatch platform input (k + 1)

def DistinctKeys (platform : Platform) (input : List (List TxWithRef)) : Prop :=
  ∀ n access, ((rwKeys platform input n).keysOf access).Nodup

/-- The graph, the detector and the transactions in hand. -/
structure GraphInvariant
    (platform : Platform) (input : List (List TxWithRef)) (state : State) : Prop where
  graphSound : state.graph.Sound (nodesBefore input state.entered) (state.liveSet input)
  detectorSound : state.detector.Sound (rwKeys platform input) (state.liveSet input)
  graphComplete :
    DistinctKeys platform input →
      state.graph.Complete (rwKeys platform input)
        (nodesBefore input state.entered) (state.liveSet input)
  detectorComplete :
    DistinctKeys platform input →
      state.detector.Complete (rwKeys platform input) (state.liveSet input)
  validatedReported : state.validated ⊆ state.reported
  validatedEntered : ∀ n ∈ state.validated, n ∈ nodesBefore input state.entered
  released :
    ∀ txsNode, state.validation = .released txsNode →
      txsNode.Nodup ∧ ∀ n ∈ txsNode, n ∈ state.liveSet input ∧ n ∈ state.reported
  handedOnce : state.inHand.Nodup
  handedFree :
    ∀ n, n ∈ state.inHand ↔ n ∈ nodesBefore input state.entered ∧ state.graph.dependsOnTxs n = 0

section

variable {platform : Platform} {input : List (List TxWithRef)}
variable {state next : State}

/-! ## The pipeline of batches -/

theorem pipelineInvariant_initial (waitingTxsLimit : Nat) :
    PipelineInvariant platform input (initialState waitingTxsLimit) where
  constructed := fun _ mem => absurd mem not_mem_nil
  outputted := Nat.le_refl 0
  pending := rfl

variable {batch : TransactionNodeBatch}

section

variable (inv : PipelineInvariant platform input state)

include inv

theorem PipelineInvariant.emit (stepped : DependencyGraph.emit state = some next) :
    PipelineInvariant platform input next := by
  obtain ⟨batch, found, eq⟩ := Option.map_eq_some_iff.mp stepped
  have batchId : batch.id = state.lastOutputtedID + 1 := by simpa using find?_some found
  have batchConstructed := inv.constructed batch (mem_of_find?_eq_some found)
  have ordered := inv.outputted
  subst next
  refine ⟨?_, Nat.le_succ_of_le ordered, ?_⟩
  · intro other mem
    exact inv.constructed other (mem_of_mem_eraseP mem)
  · have count :
        state.lastOutputtedID + 1 - state.entered =
          (state.lastOutputtedID - state.entered) + 1 := by
      omega
    have last :
        state.entered + (state.lastOutputtedID - state.entered) = state.lastOutputtedID := by
      omega
    change state.construction.batches ++ (state.incomingTransactionsNode ++ [batch]) = _
    rw [← append_assoc]
    change state.pendingBatches ++ [batch] = _
    rw [inv.pending, count, range'_1_concat, map_append, last, batchConstructed, batchId]
    rfl

theorem PipelineInvariant.acquired (working : state.construction = .acquired batch) :
    state.entered < state.lastOutputtedID ∧
      batch = constructBatch platform input (state.entered + 1) ∧
        state.incomingTransactionsNode =
          (List.range' (state.entered + 1)
              (state.lastOutputtedID - (state.entered + 1))).map fun k =>
            constructBatch platform input (k + 1) := by
  have pending := inv.pending
  rw [State.pendingBatches, working] at pending
  by_cases remaining : state.entered < state.lastOutputtedID
  · have count :
        state.lastOutputtedID - state.entered =
          (state.lastOutputtedID - (state.entered + 1)) + 1 := by
      omega
    rw [count, range'_succ, map_cons] at pending
    injection pending with head tail
    exact ⟨remaining, head, tail⟩
  · have none : state.lastOutputtedID - state.entered = 0 := by omega
    rw [none] at pending
    cases pending

theorem PipelineInvariant.step
    {action : Action} (stepped : DependencyGraph.step platform input state action = some next) :
    PipelineInvariant platform input next := by
  have pending := inv.pending
  cases stepped_of_step stepped with
  | construct queued =>
    refine ⟨?_, inv.outputted, pending⟩
    intro batch mem
    rcases mem_cons.mp mem with equal | old
    · subst batch
      rfl
    · exact inv.constructed batch old
  | emit emitted => exact inv.emit emitted
  | acquire reading waiting available =>
    refine ⟨inv.constructed, inv.outputted, ?_⟩
    rw [State.pendingBatches, reading, waiting] at pending
    exact pending
  | addToGraph working addition =>
    obtain ⟨remaining, _, rest⟩ := inv.acquired working
    exact ⟨inv.constructed, remaining, rest⟩
  | sendDepFree sending =>
    refine ⟨inv.constructed, inv.outputted, ?_⟩
    rw [State.pendingBatches, sending] at pending
    exact pending
  | readValidated read =>
    obtain ⟨_, _, rfl⟩ := readValidated_eq_some read
    exact ⟨inv.constructed, inv.outputted, pending⟩
  | receive | freeDependents | addFreed | takeFreed | sendFreed =>
    exact ⟨inv.constructed, inv.outputted, pending⟩

end

theorem graphInvariant_initial (waitingTxsLimit : Nat) :
    GraphInvariant platform input (initialState waitingTxsLimit) := by
  have noNodes : nodesBefore input 0 = ∅ := by
    ext n
    simp [nodesBefore, firstNode]
  have noLive : (initialState waitingTxsLimit).liveSet input = ∅ := by
    change nodesBefore input 0 \ _ = ∅
    rw [noNodes, Set.empty_sdiff]
  have entered : nodesBefore input (initialState waitingTxsLimit).entered = ∅ := noNodes
  constructor
  · rw [entered, noLive]
    exact Graph.sound_new
  · rw [noLive]
    exact Detector.sound_new _
  · intro _ n m mem
    rw [entered] at mem
    exact absurd mem (Set.notMem_empty n)
  · intro _ m mem
    rw [noLive] at mem
    exact absurd mem (Set.notMem_empty m)
  · exact Finset.Subset.refl _
  · intro n mem
    exact absurd mem (Finset.notMem_empty n)
  · intro txsNode impossible
    cases impossible
  · exact Multiset.nodup_zero
  · intro n
    rw [entered]
    constructor
    · intro mem
      exact absurd mem (Multiset.notMem_zero n)
    · intro mem
      exact absurd mem.1 (Set.notMem_empty n)

/-- Steps that move transactions between the hands of the loops, or batches
before the graph. -/
theorem GraphInvariant.of_same_graph
    (inv : GraphInvariant platform input state) (entered : next.entered = state.entered)
    (graph : next.graph = state.graph) (detector : next.detector = state.detector)
    (validated : next.validated = state.validated) (reported : state.reported ⊆ next.reported)
    (released :
      ∀ txsNode, next.validation = .released txsNode →
        txsNode.Nodup ∧ ∀ n ∈ txsNode, n ∈ state.liveSet input ∧ n ∈ next.reported)
    (inHand : next.inHand = state.inHand) :
    GraphInvariant platform input next := by
  have live : next.liveSet input = state.liveSet input := by
    rw [State.liveSet, State.liveSet, entered, validated]
  constructor
  · rw [entered, graph, live]
    exact inv.graphSound
  · rw [detector, live]
    exact inv.detectorSound
  · rw [entered, graph, live]
    exact inv.graphComplete
  · rw [detector, live]
    exact inv.detectorComplete
  · rw [validated]
    exact inv.validatedReported.trans reported
  · rw [validated, entered]
    exact inv.validatedEntered
  · rw [live]
    exact released
  · rw [inHand]
    exact inv.handedOnce
  · rw [inHand, entered, graph]
    exact inv.handedFree

theorem entersAfter_constructBatch (k : Nat) :
    EntersAfter (rwKeys platform input) (nodesBefore input k)
      (constructBatch platform input (k + 1)) where
  ordered := batchNodes_ordered input k
  constructed := locallyConstructed_foldl _ _ (batchNodes_ordered input k)
  later := by
    intro e before n mem
    have bounds := (mem_batchNodes input k n).mp mem
    exact Nat.lt_of_lt_of_le before bounds.1

theorem entersAfter_next (batchNext : batch = constructBatch platform input (state.entered + 1)) :
    EntersAfter (rwKeys platform input) (nodesBefore input state.entered) batch := by
  rw [batchNext]
  exact entersAfter_constructBatch state.entered

theorem nodesBefore_enter (batchNext : batch = constructBatch platform input (state.entered + 1))
    (entered : next.entered = state.entered + 1) :
    nodesBefore input next.entered = nodesBefore input state.entered ∪ nodeSet batch.txsNode := by
  rw [entered, nodesBefore_succ, batchNext]
  rfl

theorem GraphInvariant.liveSet_enter (inv : GraphInvariant platform input state)
    (batchNext : batch = constructBatch platform input (state.entered + 1))
    (entered : next.entered = state.entered + 1) (validated : next.validated = state.validated) :
    next.liveSet input = state.liveSet input ∪ nodeSet batch.txsNode := by
  rw [State.liveSet, nodesBefore_enter batchNext entered, validated, Set.union_sdiff_distrib]
  congr 1
  rw [sdiff_eq_left, Set.disjoint_left]
  intro n mem already
  exact (entersAfter_next batchNext).not_entered mem (inv.validatedEntered n already)

variable {txsNode : List Nat}

theorem liveSet_validate (entered : next.entered = state.entered)
    (validated : next.validated = state.validated ∪ txsNode.toFinset) :
    next.liveSet input = state.liveSet input \ nodeSet txsNode := by
  rw [State.liveSet, State.liveSet, entered, validated, Set.sdiff_sdiff]
  congr 1
  ext n
  simp [nodeSet]

section

variable (inv : GraphInvariant platform input state)

include inv

/-- Adding a batch: the new nodes enter the graph, and those without
dependencies come into hand. -/
theorem GraphInvariant.enter (batchNext : batch = constructBatch platform input (state.entered + 1))
    {added : Graph × Detector × List Nat}
    (addition : added = addBatch (rwKeys platform input) state.graph state.detector batch)
    (entered : next.entered = state.entered + 1) (graph : next.graph = added.1)
    (detector : next.detector = added.2.1) (validated : next.validated = state.validated)
    (reported : next.reported = state.reported) (validation : next.validation = state.validation)
    (inHand : next.inHand = state.inHand + ↑added.2.2) :
    GraphInvariant platform input next := by
  have enters := entersAfter_next batchNext
  have nodes := nodesBefore_enter batchNext entered
  have live := inv.liveSet_enter batchNext entered validated
  have depFree : added.2.2 = batch.txsNode.filter added.1.isDependencyFree := by
    rw [addition]
    exact depFreeTxs_addBatch enters
  have oldDependencies :
      ∀ n ∈ nodesBefore input state.entered,
        added.1.dependsOnTxs n = state.graph.dependsOnTxs n := by
    intro n old
    have outside : n ∉ batch.txsNode := fun mem => enters.not_entered mem old
    rw [addition, dependsOnTxs_addBatch enters, if_neg outside]
  constructor
  · rw [graph, nodes, live, addition]
    exact graphSound_addBatch enters inv.graphSound inv.detectorSound
  · rw [detector, live, addition]
    exact inv.detectorSound.mergeWaitingTx enters.constructed.detectorSound
  · intro distinct
    rw [graph, nodes, live, addition]
    exact graphComplete_addBatch enters (inv.graphComplete distinct) (inv.detectorComplete distinct)
  · intro distinct
    rw [detector, live, addition]
    exact (inv.detectorComplete distinct).mergeWaitingTx enters.constructed.detectorComplete
  · rw [validated, reported]
    exact inv.validatedReported
  · intro n mem
    rw [validated] at mem
    rw [nodes]
    exact .inl (inv.validatedEntered n mem)
  · intro txsNode phase
    rw [validation] at phase
    obtain ⟨distinct, listed⟩ := inv.released txsNode phase
    refine ⟨distinct, ?_⟩
    intro n mem
    rw [live, reported]
    exact ⟨.inl (listed n mem).1, (listed n mem).2⟩
  · rw [inHand, depFree, Multiset.nodup_add]
    refine ⟨inv.handedOnce, Multiset.coe_nodup.mpr (enters.nodup.filter _), ?_⟩
    rw [Multiset.disjoint_left]
    intro n held new
    have inside := (mem_filter.mp (Multiset.mem_coe.mp new)).1
    exact enters.not_entered inside ((inv.handedFree n).mp held).1
  · intro n
    rw [inHand, depFree, Multiset.mem_add, inv.handedFree,
      Multiset.mem_coe, mem_filter, nodes, graph]
    constructor
    · intro held
      rcases held with ⟨old, free⟩ | ⟨new, free⟩
      · rw [oldDependencies n old]
        exact ⟨.inl old, free⟩
      · exact ⟨.inr new, of_decide_eq_true free⟩
    · intro entered
      obtain ⟨mem, free⟩ := entered
      rcases mem with old | new
      · rw [oldDependencies n old] at free
        exact .inl ⟨old, free⟩
      · exact .inr ⟨new, decide_eq_true free⟩

/-- Removing validated transactions: they leave the live ones, and the
transactions that lose their last dependency come into hand. -/
theorem GraphInvariant.validate
    (phase : state.validation = .released txsNode) {removed : Graph × Detector × Multiset Nat}
    (removal : removed = removeValidated (rwKeys platform input) state.graph state.detector txsNode)
    (entered : next.entered = state.entered) (graph : next.graph = removed.1)
    (detector : next.detector = removed.2.1)
    (validated : next.validated = state.validated ∪ txsNode.toFinset)
    (reported : next.reported = state.reported) (validation : next.validation = .freed removed.2.2)
    (inHand : next.inHand = state.inHand + removed.2.2) :
    GraphInvariant platform input next := by
  obtain ⟨distinctTxs, listed⟩ := inv.released txsNode phase
  have allLive : ∀ n ∈ txsNode, n ∈ state.liveSet input := fun n mem => (listed n mem).1
  have live : next.liveSet input = state.liveSet input \ nodeSet txsNode :=
    liveSet_validate entered validated
  have effect :
      Validates (nodesBefore input state.entered) (state.liveSet input) txsNode
        state.graph (removed.1, removed.2.2) := by
    rw [removal]
    exact validates_foldl inv.graphSound distinctTxs allLive
  constructor
  · rw [graph, entered, live]
    exact effect.sound
  · rw [detector, live, removal]
    exact inv.detectorSound.removeWaitingTx txsNode
  · intro distinct
    rw [graph, entered, live]
    exact effect.graphComplete (inv.graphComplete distinct)
  · intro distinct
    rw [detector, live, removal]
    exact
      (inv.detectorComplete distinct).removeWaitingTx distinctTxs allLive (fun n _ => distinct n)
  · rw [validated, reported]
    apply Finset.union_subset inv.validatedReported
    intro n mem
    exact (listed n (mem_toFinset.mp mem)).2
  · intro n mem
    rw [validated, Finset.mem_union, mem_toFinset] at mem
    rw [entered]
    rcases mem with old | new
    · exact inv.validatedEntered n old
    · exact (allLive n new).1
  · intro others otherPhase
    rw [validation] at otherPhase
    cases otherPhase
  · rw [inHand, Multiset.nodup_add]
    refine ⟨inv.handedOnce, effect.freed.nodup, ?_⟩
    rw [Multiset.disjoint_left]
    intro n held freed
    exact ((effect.freed.mem_iff n).mp freed).1 ((inv.handedFree n).mp held).2
  · intro n
    rw [inHand, Multiset.mem_add, inv.handedFree, effect.freed.mem_iff, entered, graph]
    constructor
    · intro held
      rcases held with ⟨mem, free⟩ | ⟨blocked, free⟩
      · refine ⟨mem, ?_⟩
        rw [Multiset.eq_zero_iff_forall_notMem]
        intro m dependency
        have before := ((effect.dependencies n m).mp dependency).1
        rw [free] at before
        exact Multiset.notMem_zero m before
      · obtain ⟨m, dependency⟩ := Multiset.exists_mem_of_ne_zero blocked
        exact ⟨inv.graphSound.source dependency, free⟩
    · intro held
      obtain ⟨mem, free⟩ := held
      by_cases before : state.graph.dependsOnTxs n = 0
      · exact .inl ⟨mem, before⟩
      · exact .inr ⟨before, free⟩

theorem GraphInvariant.readValidated {rejected : Nat}
    (stepped : DependencyGraph.readValidated input state txsNode rejected = some next) :
    GraphInvariant platform input next := by
  obtain ⟨idle, ⟨distinct, fresh⟩, rfl⟩ := readValidated_eq_some stepped
  refine inv.of_same_graph rfl rfl rfl rfl Finset.subset_union_left ?_ ?_
  · intro reportedTxs phase
    cases phase
    refine ⟨distinct, ?_⟩
    intro n mem
    obtain ⟨entered, unreported⟩ := fresh n mem
    refine ⟨⟨entered, ?_⟩, ?_⟩
    · intro validated
      exact unreported (inv.validatedReported validated)
    · exact Finset.mem_union_right _ (mem_toFinset.mpr mem)
  · simp [State.inHand, State.handedOut, idle, ValidationPhase.holds]

theorem GraphInvariant.step (pipeline : PipelineInvariant platform input state) {action : Action}
    (stepped : DependencyGraph.step platform input state action = some next) :
    GraphInvariant platform input next := by
  have released := inv.released
  cases stepped_of_step stepped with
  | receive | construct =>
    exact inv.of_same_graph rfl rfl rfl rfl Finset.Subset.rfl released rfl
  | emit emitted =>
    obtain ⟨batch, _, rfl⟩ := Option.map_eq_some_iff.mp emitted
    exact inv.of_same_graph rfl rfl rfl rfl Finset.Subset.rfl released rfl
  | acquire reading waiting available =>
    refine inv.of_same_graph rfl rfl rfl rfl Finset.Subset.rfl released ?_
    simp [State.inHand, State.handedOut, reading, ConstructionPhase.holds]
  | addToGraph working addition =>
    obtain ⟨_, batchNext, _⟩ := pipeline.acquired working
    refine inv.enter batchNext addition rfl rfl rfl rfl rfl rfl ?_
    simp [State.inHand, State.handedOut, working, ConstructionPhase.holds, add_assoc]
  | sendDepFree sending =>
    refine inv.of_same_graph rfl rfl rfl rfl Finset.Subset.rfl released ?_
    simp [State.inHand, State.handedOut, sending, ConstructionPhase.holds,
      add_assoc, add_comm, add_left_comm]
  | readValidated read => exact inv.readValidated read
  | freeDependents phase removal =>
    refine inv.validate phase removal rfl rfl rfl rfl rfl rfl ?_
    simp [State.inHand, State.handedOut, phase, ValidationPhase.holds,
      add_assoc, add_comm, add_left_comm]
  | addFreed freed =>
    refine inv.of_same_graph rfl rfl rfl rfl Finset.Subset.rfl ?_ ?_
    · intro txsNode impossible
      cases impossible
    · simp [State.inHand, State.handedOut, freed, ValidationPhase.holds, add_assoc]
  | takeFreed idle =>
    refine inv.of_same_graph rfl rfl rfl rfl Finset.Subset.rfl released ?_
    simp [State.inHand, State.handedOut, idle]
  | sendFreed =>
    refine inv.of_same_graph rfl rfl rfl rfl Finset.Subset.rfl released ?_
    simp [State.inHand, State.handedOut, add_assoc]

end

end

theorem invariants_of_run {platform : Platform} {input : List (List TxWithRef)}
    {waitingTxsLimit : Nat} {actions : List Action} {state : State}
    (reached : (manager platform input waitingTxsLimit).run actions = some state) :
    PipelineInvariant platform input state ∧ GraphInvariant platform input state := by
  refine
    (manager platform input waitingTxsLimit).invariant_run
      (fun state => PipelineInvariant platform input state ∧ GraphInvariant platform input state)
      ⟨pipelineInvariant_initial waitingTxsLimit, graphInvariant_initial waitingTxsLimit⟩ ?_ reached
  intro before action after invariants stepped
  obtain ⟨pipeline, graph⟩ := invariants
  exact ⟨pipeline.step stepped, graph.step pipeline stepped⟩

end FabricXCommitter.DependencyGraph
