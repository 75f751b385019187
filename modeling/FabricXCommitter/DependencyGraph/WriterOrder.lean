import FabricXCommitter.DependencyGraph.Serialization

/-!
# Transactions that follow a writer
-/

namespace FabricXCommitter.DependencyGraph

def FollowsWriter (later earlier : ReadWriteKeys) : Prop :=
  ∃ key access, key ∈ later.keysOf access ∧ key ∈ earlier.keysOf .readWrite

theorem FollowsWriter.keysConflict
    {later earlier : ReadWriteKeys} (follows : FollowsWriter later earlier) :
    KeysConflict later earlier := by
  obtain ⟨key, access, laterKey, earlierKey⟩ := follows
  exact ⟨key, access, .readWrite, laterKey, earlierKey, by simp⟩

/-- No transaction of the input reads and writes a key twice. -/
def DistinctWrites (platform : Platform) (input : List (List TxWithRef)) : Prop :=
  ∀ n, ((rwKeys platform input n).keysOf .readWrite).Nodup

theorem distinctWrites_of_forwarded {platform : Platform} {input : List (List TxWithRef)}
    (forwarded : ∀ tx ∈ input.flatten, Sidecar.Forwarded platform tx.content) :
    DistinctWrites platform input := by
  intro n
  rw [rwKeys]
  split
  · next tx located =>
    rcases forwarded tx (List.mem_of_getElem? located) with accepted | ⟨value, config⟩
    · have formed := Sidecar.wellFormed_of_verifyTxForm accepted
      exact compositeKeys_nodup formed (readWritePairs_nodup formed)
    · rw [config]
      exact List.nodup_nil
  · exact List.nodup_nil

/-- Every transaction depends on the unresolved writers before it, and the detector
knows the unresolved writers. -/
structure WriterInvariant
    (platform : Platform) (input : List (List TxWithRef)) (state : State) : Prop where
  recorded :
    ∀ n m, n ∈ nodesBefore input state.entered → m ∈ state.liveSet input →
      m < n →
        FollowsWriter (rwKeys platform input n) (rwKeys platform input m) →
          m ∈ state.graph.dependsOnTxs n
  waiting :
    ∀ m ∈ state.liveSet input,
      ∀ key ∈ (rwKeys platform input m).keysOf .readWrite, m ∈ state.detector.waiting .readWrite key

section

variable {platform : Platform} {input : List (List TxWithRef)}
variable {state next : State}

theorem writerInvariant_initial (waitingTxsLimit : Nat) :
    WriterInvariant platform input (initialState waitingTxsLimit) where
  recorded := by
    intro n m mem
    exact absurd mem (Nat.not_lt_zero n)
  waiting := by
    intro m mem
    exact absurd mem.1 (Nat.not_lt_zero m)

theorem WriterInvariant.enter (inv : WriterInvariant platform input state)
    (graphInvariant : GraphInvariant platform input state) {batch : TransactionNodeBatch}
    (batchNext : batch = constructBatch platform input (state.entered + 1))
    (entered : next.entered = state.entered + 1)
    (graph : next.graph = (addBatch (rwKeys platform input) state.graph state.detector batch).1)
    (detector :
      next.detector = (addBatch (rwKeys platform input) state.graph state.detector batch).2.1)
    (validated : next.validated = state.validated) :
    WriterInvariant platform input next := by
  have enters := entersAfter_next batchNext
  have nodes := nodesBefore_enter batchNext entered
  have live := graphInvariant.liveSet_enter batchNext entered validated
  constructor
  · intro n m nodeMem liveMem order follows
    rw [nodes] at nodeMem
    rw [live] at liveMem
    rw [graph, mem_dependsOnTxs_addBatch enters]
    rcases nodeMem with oldNode | newNode
    · refine .inl ⟨fun inside => enters.not_entered inside oldNode, ?_⟩
      rcases liveMem with oldLive | newLive
      · exact inv.recorded n m oldNode oldLive order follows
      · exact absurd order (Nat.lt_asymm (enters.later n oldNode m newLive))
    · refine .inr ⟨newNode, ?_⟩
      rcases liveMem with oldLive | newLive
      · obtain ⟨key, access, laterKey, earlierKey⟩ := follows
        right
        rw [globalDependencies, Detector.mem_getDependenciesOf]
        exact ⟨key, access, .readWrite, laterKey, inv.waiting m oldLive key earlierKey, by simp⟩
      · exact .inl (enters.constructed.graphComplete n m newNode newLive order follows.keysConflict)
  · intro m liveMem key keyed
    rw [live] at liveMem
    rw [detector, addBatch, Detector.mem_waiting_mergeWaitingTx]
    rcases liveMem with oldLive | newLive
    · exact .inl (inv.waiting m oldLive key keyed)
    · exact .inr (enters.constructed.detectorComplete m newLive .readWrite key keyed)

theorem WriterInvariant.validate
    (distinct : DistinctWrites platform input) (inv : WriterInvariant platform input state)
    (graphInvariant : GraphInvariant platform input state)
    {txsNode : List Nat} (phase : state.validation = .released txsNode)
    (entered : next.entered = state.entered)
    (graph :
      next.graph = (removeValidated (rwKeys platform input) state.graph state.detector txsNode).1)
    (detector :
      next.detector =
        (removeValidated (rwKeys platform input) state.graph state.detector txsNode).2.1)
    (validated : next.validated = state.validated ∪ txsNode.toFinset) :
    WriterInvariant platform input next := by
  obtain ⟨distinctTxs, listed⟩ := graphInvariant.released txsNode phase
  have allLive : ∀ n ∈ txsNode, n ∈ state.liveSet input := fun n mem => (listed n mem).1
  have live : next.liveSet input = state.liveSet input \ nodeSet txsNode :=
    liveSet_validate entered validated
  have effect := validates_foldl graphInvariant.graphSound distinctTxs allLive
  constructor
  · intro n m nodeMem liveMem order follows
    rw [entered] at nodeMem
    rw [live] at liveMem
    rw [graph, removeValidated, effect.dependencies]
    exact ⟨inv.recorded n m nodeMem liveMem.1 order follows, liveMem.2⟩
  · intro m liveMem key keyed
    rw [live] at liveMem
    rw [detector, removeValidated]
    exact
      Detector.mem_waiting_removeWaitingTx_of_not_mem distinctTxs
        (fun n _ => distinct n)
        (fun n mem => inv.waiting n (allLive n mem))
        liveMem.2 (inv.waiting m liveMem.1 key keyed)

theorem WriterInvariant.step
    (distinct : DistinctWrites platform input) (inv : WriterInvariant platform input state)
    (pipeline : PipelineInvariant platform input state)
    (graphInvariant : GraphInvariant platform input state) {action : Action}
    (stepped : DependencyGraph.step platform input state action = some next) :
    WriterInvariant platform input next := by
  cases graphStep_of_step stepped with
  | same entered graph detector validated =>
    have live : next.liveSet input = state.liveSet input := by
      rw [State.liveSet, State.liveSet, entered, validated]
    constructor
    · rw [entered, live, graph]
      exact inv.recorded
    · rw [live, detector]
      exact inv.waiting
  | enter working entered graph detector validated =>
    obtain ⟨_, batchNext, _⟩ := pipeline.acquired working
    exact inv.enter graphInvariant batchNext entered graph detector validated
  | validate released entered graph detector validated =>
    exact inv.validate distinct graphInvariant released entered graph detector validated

theorem WriterInvariant.validated_of_output (inv : WriterInvariant platform input state)
    (graphInvariant : GraphInvariant platform input state)
    {earlier later : Nat} (output : later ∈ state.outgoing) (order : earlier < later)
    (follows : FollowsWriter (rwKeys platform input later) (rwKeys platform input earlier)) :
    earlier ∈ state.validated := by
  have inHand : later ∈ state.inHand := by
    rw [State.inHand, State.handedOut, Multiset.mem_add, Multiset.mem_add]
    exact .inl (.inl output)
  obtain ⟨laterEntered, laterFree⟩ := (graphInvariant.handedFree later).mp inHand
  by_contra unvalidated
  have dependency :=
    inv.recorded later earlier laterEntered
      ⟨Nat.lt_trans order laterEntered, unvalidated⟩ order follows
  rw [laterFree] at dependency
  exact Multiset.notMem_zero earlier dependency

end

end FabricXCommitter.DependencyGraph
