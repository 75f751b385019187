import FabricXCommitter.DependencyGraph.Serialization

/-!
# The edges of the dependency graph

As long as nothing is validated, the graph is the one that a single detector builds.
-/

namespace FabricXCommitter.DependencyGraph

/-- Each of the first transactions depends on every earlier one that it conflicts
with, and nothing else is recorded. -/
structure ConflictGraph (keysOfTx : Nat → ReadWriteKeys) (total : Nat) (graph : Graph) : Prop where
  dependsOn :
    ∀ n m, m ∈ graph.dependsOnTxs n ↔ n < total ∧ m < n ∧ KeysConflict (keysOfTx n) (keysOfTx m)
  once : ∀ n, (graph.dependsOnTxs n).Nodup
  dependents : ∀ n m, n ∈ graph.dependentTxs m ↔ m ∈ graph.dependsOnTxs n

theorem ConflictGraph.unique {keysOfTx : Nat → ReadWriteKeys} {total : Nat} {first second : Graph}
    (firstExact : ConflictGraph keysOfTx total first)
    (secondExact : ConflictGraph keysOfTx total second) :
    first = second := by
  have dependencies : first.dependsOnTxs = second.dependsOnTxs := by
    funext n
    rw [(firstExact.once n).ext (secondExact.once n)]
    intro m
    rw [firstExact.dependsOn, secondExact.dependsOn]
  have dependents : first.dependentTxs = second.dependentTxs := by
    funext m
    ext n
    rw [firstExact.dependents, secondExact.dependents, dependencies]
  cases first with
  | mk dependsOnTxs dependentTxs =>
    cases second with
    | mk otherDependsOnTxs otherDependentTxs =>
      cases dependencies
      cases dependents
      rfl

/-- Every recorded dependency is a conflict. -/
def Graph.Justified (keysOfTx : Nat → ReadWriteKeys) (graph : Graph) : Prop :=
  ∀ n m, m ∈ graph.dependsOnTxs n → KeysConflict (keysOfTx n) (keysOfTx m)

theorem conflictGraph_of_sound {keysOfTx : Nat → ReadWriteKeys} {total : Nat} {graph : Graph}
    (sound : graph.Sound (Set.Iio total) (Set.Iio total))
    (complete : graph.Complete keysOfTx (Set.Iio total) (Set.Iio total))
    (justified : graph.Justified keysOfTx) :
    ConflictGraph keysOfTx total graph where
  dependsOn := by
    intro n m
    constructor
    · intro dependency
      exact ⟨sound.source dependency, sound.earlier dependency, justified n m dependency⟩
    · rintro ⟨inside, earlier, conflict⟩
      exact complete n m inside (earlier.trans inside) earlier conflict
  once := sound.nodup
  dependents := by
    intro n m
    constructor
    · intro dependent
      exact (sound.mirrored (sound.known dependent) n).mp dependent
    · intro dependency
      exact (sound.mirrored (sound.target dependency) n).mpr dependency

section

variable {keysOfTx : Nat → ReadWriteKeys}

theorem Detector.Sound.getDependenciesOf_conflict {live : Set Nat} {detector : Detector}
    (sound : detector.Sound keysOfTx live) {rwKeys : ReadWriteKeys} {m : Nat}
    (mem : m ∈ detector.getDependenciesOf rwKeys) :
    KeysConflict rwKeys (keysOfTx m) := by
  rw [Detector.mem_getDependenciesOf] at mem
  obtain ⟨key, laterAccess, earlierAccess, laterKey, found, notBothRead⟩ := mem
  exact ⟨key, laterAccess, earlierAccess, laterKey, (sound.waiting found).2, notBothRead⟩

theorem Graph.Justified.addNode
    {graph : Graph} (justified : graph.Justified keysOfTx) {n : Nat} {dependsOnTxs : Finset Nat}
    (conflicts : ∀ m ∈ dependsOnTxs, KeysConflict (keysOfTx n) (keysOfTx m)) :
    (graph.addDependenciesAndUpdateDependents n dependsOnTxs).Justified keysOfTx := by
  intro other m dependency
  rw [Graph.mem_dependsOnTxs_add] at dependency
  rcases dependency with old | ⟨rfl, new⟩
  · exact justified other m old
  · exact conflicts m new

theorem Graph.justified_new : Graph.new.Justified keysOfTx := by
  intro n m dependency
  exact absurd dependency (Multiset.notMem_zero m)

theorem justified_foldl (txsNode : List Nat) (ordered : txsNode.Pairwise (· < ·)) :
    (txsNode.foldl (constructNode keysOfTx)
      (Graph.new, newDependencyDetector)).1.Justified keysOfTx := by
  induction txsNode using List.reverseRec with
  | nil => exact Graph.justified_new
  | append_singleton front n ih =>
    rw [List.pairwise_append] at ordered
    have built := locallyConstructed_foldl keysOfTx front ordered.1
    rw [List.foldl_append, List.foldl_cons, List.foldl_nil, constructNode_eq]
    refine (ih ordered.1).addNode ?_
    intro m mem
    exact built.detectorSound.getDependenciesOf_conflict mem

theorem justified_addBatch {entered live : Set Nat} {graph : Graph} {detector : Detector}
    {batch : TransactionNodeBatch} (enters : EntersAfter keysOfTx entered batch)
    (justified : graph.Justified keysOfTx) (batchJustified : batch.nodes.Justified keysOfTx)
    (sound : detector.Sound keysOfTx live) :
    (addBatch keysOfTx graph detector batch).1.Justified keysOfTx := by
  intro n m dependency
  rw [mem_dependsOnTxs_addBatch enters] at dependency
  rcases dependency with ⟨_, old⟩ | ⟨_, inBatch | onEarlier⟩
  · exact justified n m old
  · exact batchJustified n m inBatch
  · exact sound.getDependenciesOf_conflict onEarlier

end

/-- The graph and the detector as long as no transaction is validated. -/
structure EdgeInvariant
    (platform : Platform) (input : List (List TxWithRef)) (state : State) : Prop where
  justified : state.graph.Justified (rwKeys platform input)
  graphComplete :
    state.graph.Complete (rwKeys platform input)
      (nodesBefore input state.entered) (nodesBefore input state.entered)
  detectorComplete :
    state.detector.Complete (rwKeys platform input) (nodesBefore input state.entered)

section

variable {platform : Platform} {input : List (List TxWithRef)}
variable {state next : State}

theorem liveSet_unvalidated (unvalidated : state.validated = ∅) :
    state.liveSet input = nodesBefore input state.entered := by
  simp [State.liveSet, unvalidated]

theorem edgeInvariant_initial (waitingTxsLimit : Nat) :
    EdgeInvariant platform input (initialState waitingTxsLimit) where
  justified := Graph.justified_new
  graphComplete := by
    intro n m mem
    exact absurd mem (Nat.not_lt_zero n)
  detectorComplete := by
    intro m mem
    exact absurd mem (Nat.not_lt_zero m)

theorem EdgeInvariant.enter
    {batch : TransactionNodeBatch} (inv : EdgeInvariant platform input state)
    (graphInvariant : GraphInvariant platform input state)
    (batchNext : batch = constructBatch platform input (state.entered + 1))
    (entered : next.entered = state.entered + 1)
    (graph : next.graph = (addBatch (rwKeys platform input) state.graph state.detector batch).1)
    (detector :
      next.detector = (addBatch (rwKeys platform input) state.graph state.detector batch).2.1) :
    EdgeInvariant platform input next := by
  have enters := entersAfter_next batchNext
  have nodes := nodesBefore_enter batchNext entered
  refine ⟨?_, ?_, ?_⟩
  · rw [graph]
    refine justified_addBatch enters inv.justified ?_ graphInvariant.detectorSound
    rw [batchNext]
    exact justified_foldl _ (batchNodes_ordered input state.entered)
  · rw [graph, nodes]
    exact graphComplete_addBatch enters inv.graphComplete inv.detectorComplete
  · rw [detector, nodes]
    exact inv.detectorComplete.mergeWaitingTx enters.constructed.detectorComplete

theorem EdgeInvariant.step {action : Action} (pipeline : PipelineInvariant platform input state)
    (graphInvariant : GraphInvariant platform input state)
    (inv : state.validated = ∅ → EdgeInvariant platform input state)
    (stepped : DependencyGraph.step platform input state action = some next)
    (unvalidated : next.validated = ∅) :
    EdgeInvariant platform input next := by
  cases graphStep_of_step stepped with
  | same entered graph detector validated =>
    rw [validated] at unvalidated
    obtain ⟨justified, graphComplete, detectorComplete⟩ := inv unvalidated
    refine ⟨?_, ?_, ?_⟩
    · rw [graph]
      exact justified
    · rw [graph, entered]
      exact graphComplete
    · rw [detector, entered]
      exact detectorComplete
  | enter working entered graph detector validated =>
    rw [validated] at unvalidated
    obtain ⟨_, batchNext, _⟩ := pipeline.acquired working
    exact (inv unvalidated).enter graphInvariant batchNext entered graph detector
  | validate released entered graph detector validated =>
    -- As nothing is validated afterwards, the batch read was empty.
    rw [validated, Finset.union_eq_empty, List.toFinset_eq_empty_iff] at unvalidated
    obtain ⟨before, rfl⟩ := unvalidated
    obtain ⟨justified, graphComplete, detectorComplete⟩ := inv before
    refine ⟨?_, ?_, ?_⟩
    · rw [graph]
      exact justified
    · rw [graph, entered]
      exact graphComplete
    · rw [detector, entered]
      exact detectorComplete

theorem edgeInvariant_run {waitingTxsLimit : Nat} {actions : List Action}
    (reached : (manager platform input waitingTxsLimit).run actions = some state)
    (unvalidated : state.validated = ∅) :
    EdgeInvariant platform input state := by
  have invariants :=
    (manager platform input waitingTxsLimit).invariant_run
      (fun state =>
        (PipelineInvariant platform input state ∧ GraphInvariant platform input state) ∧
        (state.validated = ∅ → EdgeInvariant platform input state))
      ⟨⟨pipelineInvariant_initial waitingTxsLimit, graphInvariant_initial waitingTxsLimit⟩,
        fun _ => edgeInvariant_initial waitingTxsLimit⟩
      (by
        intro before action after invariants stepped
        obtain ⟨⟨pipeline, graph⟩, edges⟩ := invariants
        exact
          ⟨⟨pipeline.step stepped, graph.step pipeline stepped⟩,
            EdgeInvariant.step pipeline graph edges stepped⟩)
      reached
  exact invariants.2 unvalidated

end

/-- The graph that a single detector builds from the transactions one by one. -/
def sequentialGraph (platform : Platform) (txs : List TxWithRef) : Graph :=
  ((List.range txs.length).foldl (constructNode (rwKeys platform [txs]))
    (Graph.new, newDependencyDetector)).1

theorem sequentialGraph_conflicts (platform : Platform) (txs : List TxWithRef) :
    ConflictGraph (rwKeys platform [txs]) txs.length (sequentialGraph platform txs) := by
  have ordered : (List.range txs.length).Pairwise (· < ·) := List.pairwise_lt_range
  have built := locallyConstructed_foldl (rwKeys platform [txs]) _ ordered
  have nodes : nodeSet (List.range txs.length) = Set.Iio txs.length := by
    ext n
    simp [nodeSet]
  refine conflictGraph_of_sound ?_ ?_ (justified_foldl _ ordered)
  · rw [← nodes]
    exact built.graphSound
  · rw [← nodes]
    exact built.graphComplete

theorem rwKeys_flatten (platform : Platform) (input : List (List TxWithRef)) :
    rwKeys platform [input.flatten] = rwKeys platform input := by
  funext n
  simp [rwKeys]

theorem firstNode_length (input : List (List TxWithRef)) :
    firstNode input input.length = input.flatten.length := by
  simp [firstNode, List.length_flatten]

/-- Once all batches are in the graph and none of their transactions is validated,
the graph is the one of a single detector, however the transactions were cut into
batches and however the workers were scheduled: an edge for each conflict with an
earlier transaction, recorded once. -/
theorem edges_eq_sequential {platform : Platform} {input : List (List TxWithRef)}
    {waitingTxsLimit : Nat} {actions : List Action} {state : State}
    (reached : (manager platform input waitingTxsLimit).run actions = some state)
    (allEntered : state.entered = input.length) (unvalidated : state.validated = ∅) :
    state.graph = sequentialGraph platform input.flatten ∧
      ConflictGraph (rwKeys platform input) input.flatten.length state.graph := by
  have edges := edgeInvariant_run reached unvalidated
  have sound := (invariants_of_run reached).2.graphSound
  have complete := edges.graphComplete
  have nodes : nodesBefore input state.entered = Set.Iio input.flatten.length := by
    rw [allEntered, nodesBefore, firstNode_length]
  rw [liveSet_unvalidated unvalidated, nodes] at sound
  rw [nodes] at complete
  have exactGraph := conflictGraph_of_sound sound complete edges.justified
  refine ⟨?_, exactGraph⟩
  have sequential := sequentialGraph_conflicts platform input.flatten
  rw [rwKeys_flatten] at sequential
  exact exactGraph.unique sequential

/-- Three writers of one key in two batches: the last depends on both others. -/
theorem two_batches_eq_sequential :
    ∃ state,
      (manager permissivePlatform
          [[dataTx 0 [1], dataTx 1 [1]], [dataTx 2 [1]]] 10).run
          (batchSteps ++ batchSteps) = some state ∧
      state.graph.dependsOnTxs 2 = {0, 1} ∧
      state.graph =
        sequentialGraph permissivePlatform [dataTx 0 [1], dataTx 1 [1], dataTx 2 [1]] := by
  have evaluated :
      ((manager permissivePlatform
          [[dataTx 0 [1], dataTx 1 [1]], [dataTx 2 [1]]] 10).run
          (batchSteps ++ batchSteps)).map
          (fun state => (state.entered, state.validated, state.graph.dependsOnTxs 2)) =
        some (2, ∅, {0, 1}) := by
    decide +kernel
  obtain ⟨state, reached, outcome⟩ := Option.map_eq_some_iff.mp evaluated
  have entered : state.entered = 2 := congrArg Prod.fst outcome
  have validated : state.validated = ∅ := congrArg (fun parts => parts.2.1) outcome
  have dependencies : state.graph.dependsOnTxs 2 = {0, 1} :=
    congrArg (fun parts => parts.2.2) outcome
  exact ⟨state, reached, dependencies, (edges_eq_sequential reached entered validated).1⟩

end FabricXCommitter.DependencyGraph
