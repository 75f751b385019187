import FabricXCommitter.DependencyGraph.Graph
import Mathlib.Data.List.Induction
import Mathlib.Data.Set.Lattice

/-!
# Building and shrinking the dependency graph
-/

namespace FabricXCommitter.DependencyGraph

open List

section

variable (keysOfTx : Nat → ReadWriteKeys)

/-- One iteration of the loop of `construct`. -/
def constructNode (built : Graph × Detector) (txNode : Nat) : Graph × Detector :=
  let dependsOnTxs := built.2.getDependenciesOf (keysOfTx txNode)
  (if dependsOnTxs.Nonempty then
      built.1.addDependenciesAndUpdateDependents txNode dependsOnTxs
    else
      built.1,
    built.2.addWaitingTx (keysOfTx txNode) txNode)

structure TransactionNodeBatch where
  id : Nat
  txsNode : List Nat
  nodes : Graph
  localDepDetector : Detector

def construct (id : Nat) (txsNode : List Nat) : TransactionNodeBatch :=
  let built := txsNode.foldl (constructNode keysOfTx) (Graph.new, newDependencyDetector)
  ⟨id, txsNode, built.1, built.2⟩

/-- One iteration of step 1 of `constructDependencyGraph`; the second component
is `depFreeTxs`. -/
def addTxNode (detector : Detector) (current : Graph × List Nat) (txNode : Nat) :
    Graph × List Nat :=
  let dependsOnTx := detector.getDependenciesOf (keysOfTx txNode)
  if dependsOnTx.Nonempty then
    (current.1.addDependenciesAndUpdateDependents txNode dependsOnTx, current.2)
  else if current.1.dependsOnTxs txNode = 0 then
    (current.1, current.2 ++ [txNode])
  else
    current

/-- The critical section of `constructDependencyGraph`. -/
def addBatch (graph : Graph) (detector : Detector) (batch : TransactionNodeBatch) :
    Graph × Detector × List Nat :=
  let added :=
    batch.txsNode.foldl (addTxNode keysOfTx detector) (graph.install batch.txsNode batch.nodes, [])
  (added.1, detector.mergeWaitingTx batch.localDepDetector, added.2)

/-- One iteration of step 1 of `processValidatedTransactions`. -/
def freeTxNode (current : Graph × Multiset Nat) (txNode : Nat) : Graph × Multiset Nat :=
  let freed := current.1.freeDependents txNode
  (freed.1, current.2 + freed.2)

/-- The critical section of `processValidatedTransactions`. -/
def removeValidated (graph : Graph) (detector : Detector) (txsNode : List Nat) :
    Graph × Detector × Multiset Nat :=
  let freed := txsNode.foldl freeTxNode (graph, 0)
  (freed.1, Detector.removeWaitingTx keysOfTx detector txsNode, freed.2)

end

/-! ## The local graph of a batch -/

def nodeSet (txsNode : List Nat) : Set Nat := {n | n ∈ txsNode}

theorem nodeSet_append_singleton (txsNode : List Nat) (n : Nat) :
    nodeSet (txsNode ++ [n]) = insert n (nodeSet txsNode) := by
  ext m
  simp [nodeSet, or_comm]

theorem constructNode_eq
    (keysOfTx : Nat → ReadWriteKeys) (built : Graph × Detector) (txNode : Nat) :
    constructNode keysOfTx built txNode =
      (built.1.addDependenciesAndUpdateDependents txNode
          (built.2.getDependenciesOf (keysOfTx txNode)),
        built.2.addWaitingTx (keysOfTx txNode) txNode) := by
  unfold constructNode
  by_cases dependent : (built.2.getDependenciesOf (keysOfTx txNode)).Nonempty
  · simp [dependent]
  · simp [dependent, Graph.addDependenciesAndUpdateDependents_empty _ _ dependent]

structure LocallyConstructed
    (keysOfTx : Nat → ReadWriteKeys) (txsNode : List Nat) (built : Graph × Detector) : Prop where
  graphSound : built.1.Sound (nodeSet txsNode) (nodeSet txsNode)
  graphComplete : built.1.Complete keysOfTx (nodeSet txsNode) (nodeSet txsNode)
  detectorSound : built.2.Sound keysOfTx (nodeSet txsNode)
  detectorComplete : built.2.Complete keysOfTx (nodeSet txsNode)

theorem locallyConstructed_nil (keysOfTx : Nat → ReadWriteKeys) :
    LocallyConstructed keysOfTx [] (Graph.new, newDependencyDetector) := by
  have noNodes : nodeSet [] = ∅ := by
    ext n
    simp [nodeSet]
  refine ⟨?_, ?_, ?_, ?_⟩
  · simpa [noNodes] using Graph.sound_new
  · intro n m mem
    simp [nodeSet] at mem
  · simpa [noNodes] using Detector.sound_new keysOfTx
  · intro m mem
    simp [nodeSet] at mem

variable {txsNode : List Nat} {n : Nat}

theorem LocallyConstructed.constructNode {keysOfTx : Nat → ReadWriteKeys} {built : Graph × Detector}
    (constructed : LocallyConstructed keysOfTx txsNode built) (fresh : ∀ m ∈ txsNode, m < n) :
    LocallyConstructed keysOfTx (txsNode ++ [n])
      (DependencyGraph.constructNode keysOfTx built n) := by
  rw [constructNode_eq]
  constructor
  · rw [nodeSet_append_singleton]
    exact
      constructed.graphSound.addNode fresh
        (fun m mem => constructed.detectorSound.getDependenciesOf_live mem)
  · rw [nodeSet_append_singleton]
    exact
      constructed.graphComplete.addNode fresh
        (fun m mem conflict => constructed.detectorComplete.mem_getDependenciesOf mem conflict)
  · rw [nodeSet_append_singleton]
    exact constructed.detectorSound.addWaitingTx n
  · rw [nodeSet_append_singleton]
    exact constructed.detectorComplete.addWaitingTx n

theorem locallyConstructed_foldl
    (keysOfTx : Nat → ReadWriteKeys) (txsNode : List Nat) (ordered : txsNode.Pairwise (· < ·)) :
    LocallyConstructed keysOfTx txsNode
      (txsNode.foldl (DependencyGraph.constructNode keysOfTx)
        (Graph.new, newDependencyDetector)) := by
  induction txsNode using List.reverseRec with
  | nil => exact locallyConstructed_nil keysOfTx
  | append_singleton front n ih =>
    rw [pairwise_append] at ordered
    obtain ⟨frontOrdered, _, before⟩ := ordered
    rw [foldl_append]
    exact (ih frontOrdered).constructNode (fun m mem => before m mem n (mem_singleton_self n))

/-! ## Adding a batch to the global graph -/

section

variable (keysOfTx : Nat → ReadWriteKeys) (detector : Detector)

def globalDependencies (n : Nat) : Finset Nat := detector.getDependenciesOf (keysOfTx n)

theorem addTxNode_graph (current : Graph × List Nat) (txNode : Nat) :
    (addTxNode keysOfTx detector current txNode).1 =
      current.1.addDependenciesAndUpdateDependents txNode
        (globalDependencies keysOfTx detector txNode) := by
  unfold addTxNode globalDependencies
  by_cases dependent : (detector.getDependenciesOf (keysOfTx txNode)).Nonempty
  · simp [dependent]
  · rw [Graph.addDependenciesAndUpdateDependents_empty _ _ dependent]
    simp only [dependent, if_false]
    split <;> rfl

theorem dependsOnTxs_addTxNodes (distinct : txsNode.Nodup) (current : Graph × List Nat) (n : Nat) :
    (txsNode.foldl (addTxNode keysOfTx detector) current).1.dependsOnTxs n =
      current.1.dependsOnTxs n +
        if n ∈ txsNode then
          (globalDependencies keysOfTx detector n).val
        else
          0 := by
  induction txsNode generalizing current with
  | nil => simp
  | cons head rest ih =>
    obtain ⟨headFresh, restDistinct⟩ := nodup_cons.mp distinct
    rw [foldl_cons, ih restDistinct, addTxNode_graph]
    by_cases same : n = head
    · subst n
      simp [Graph.addDependenciesAndUpdateDependents, headFresh]
    · simp [Graph.addDependenciesAndUpdateDependents, same]

theorem mem_dependentTxs_addTxNodes (txsNode : List Nat) (current : Graph × List Nat) (n m : Nat) :
    n ∈ (txsNode.foldl (addTxNode keysOfTx detector) current).1.dependentTxs m ↔
      n ∈ current.1.dependentTxs m ∨
        (n ∈ txsNode ∧ m ∈ globalDependencies keysOfTx detector n) := by
  induction txsNode generalizing current with
  | nil => simp
  | cons head rest ih =>
    rw [foldl_cons, ih, addTxNode_graph, Graph.mem_dependentTxs_add, mem_cons]
    constructor
    · rintro ((old | ⟨rfl, found⟩) | ⟨later, found⟩)
      · exact .inl old
      · exact .inr ⟨.inl rfl, found⟩
      · exact .inr ⟨.inr later, found⟩
    · rintro (old | ⟨rfl | later, found⟩)
      · exact .inl (.inl old)
      · exact .inl (.inr ⟨rfl, found⟩)
      · exact .inr ⟨later, found⟩

/-- The test of step 1 that puts a node on `depFreeTxs`. -/
def isFreeOnEntry (graph : Graph) (n : Nat) : Bool :=
  globalDependencies keysOfTx detector n = ∅ ∧ graph.dependsOnTxs n = 0

theorem addTxNode_depFreeTxs (current : Graph × List Nat) (txNode : Nat) :
    (addTxNode keysOfTx detector current txNode).2 =
      current.2 ++ [txNode].filter (isFreeOnEntry keysOfTx detector current.1) := by
  unfold addTxNode isFreeOnEntry globalDependencies
  by_cases dependent : (detector.getDependenciesOf (keysOfTx txNode)).Nonempty
  · simp [dependent, dependent.ne_empty]
  · rw [Finset.not_nonempty_iff_eq_empty] at dependent
    by_cases free : current.1.dependsOnTxs txNode = 0
    · simp [dependent, free]
    · simp [dependent, free]

theorem depFreeTxs_addTxNodes (distinct : txsNode.Nodup) (current : Graph × List Nat) :
    (txsNode.foldl (addTxNode keysOfTx detector) current).2 =
      current.2 ++ txsNode.filter (isFreeOnEntry keysOfTx detector current.1) := by
  induction txsNode generalizing current with
  | nil => simp
  | cons head rest ih =>
    obtain ⟨headFresh, restDistinct⟩ := nodup_cons.mp distinct
    have unchanged :
        ∀ n ∈ rest,
          isFreeOnEntry keysOfTx detector (addTxNode keysOfTx detector current head).1 n =
            isFreeOnEntry keysOfTx detector current.1 n := by
      intro n mem
      have different : n ≠ head := by
        rintro rfl
        exact headFresh mem
      simp [isFreeOnEntry, addTxNode_graph, Graph.addDependenciesAndUpdateDependents, different]
    rw [foldl_cons, ih restDistinct,
      addTxNode_depFreeTxs, filter_congr unchanged, append_assoc,
      ← filter_append]
    rfl

end

/-- The batch that enters the graph: in input order, constructed by a worker,
and later than every node of the graph. -/
structure EntersAfter (keysOfTx : Nat → ReadWriteKeys) (entered : Set Nat)
    (batch : TransactionNodeBatch) : Prop where
  ordered : batch.txsNode.Pairwise (· < ·)
  constructed : LocallyConstructed keysOfTx batch.txsNode (batch.nodes, batch.localDepDetector)
  later : ∀ e ∈ entered, ∀ n ∈ batch.txsNode, e < n

theorem EntersAfter.nodup
    {keysOfTx : Nat → ReadWriteKeys} {entered : Set Nat} {batch : TransactionNodeBatch}
    (enters : EntersAfter keysOfTx entered batch) :
    batch.txsNode.Nodup :=
  enters.ordered.imp fun less => Nat.ne_of_lt less

theorem EntersAfter.not_entered
    {keysOfTx : Nat → ReadWriteKeys} {entered : Set Nat} {batch : TransactionNodeBatch}
    (enters : EntersAfter keysOfTx entered batch) (mem : n ∈ batch.txsNode) :
    n ∉ entered :=
  fun before => lt_irrefl n (enters.later n before n mem)

section

variable {keysOfTx : Nat → ReadWriteKeys} {entered live : Set Nat}
variable {graph : Graph} {detector : Detector} {batch : TransactionNodeBatch}

theorem dependsOnTxs_addBatch (enters : EntersAfter keysOfTx entered batch) (n : Nat) :
    (addBatch keysOfTx graph detector batch).1.dependsOnTxs n =
      if n ∈ batch.txsNode then
        batch.nodes.dependsOnTxs n + (globalDependencies keysOfTx detector n).val
      else
        graph.dependsOnTxs n := by
  rw [addBatch, dependsOnTxs_addTxNodes keysOfTx detector enters.nodup]
  by_cases mem : n ∈ batch.txsNode
  · simp [Graph.install, mem]
  · simp [Graph.install, mem]

theorem mem_dependentTxs_addBatch (n m : Nat) :
    n ∈ (addBatch keysOfTx graph detector batch).1.dependentTxs m ↔
      (if m ∈ batch.txsNode then
          n ∈ batch.nodes.dependentTxs m
        else
          n ∈ graph.dependentTxs m) ∨
        (n ∈ batch.txsNode ∧ m ∈ globalDependencies keysOfTx detector n) := by
  rw [addBatch, mem_dependentTxs_addTxNodes]
  by_cases mem : m ∈ batch.txsNode
  · simp [Graph.install, mem]
  · simp [Graph.install, mem]

section

variable (enters : EntersAfter keysOfTx entered batch)

include enters

theorem mem_dependsOnTxs_addBatch (n m : Nat) :
    m ∈ (addBatch keysOfTx graph detector batch).1.dependsOnTxs n ↔
      (n ∉ batch.txsNode ∧ m ∈ graph.dependsOnTxs n) ∨
        (n ∈ batch.txsNode ∧
          (m ∈ batch.nodes.dependsOnTxs n ∨ m ∈ globalDependencies keysOfTx detector n)) := by
  rw [dependsOnTxs_addBatch enters]
  by_cases mem : n ∈ batch.txsNode
  · simp [mem]
  · simp [mem]

theorem graphSound_addBatch
    (graphSound : graph.Sound entered live) (detectorSound : detector.Sound keysOfTx live) :
    (addBatch keysOfTx graph detector batch).1.Sound
      (entered ∪ nodeSet batch.txsNode) (live ∪ nodeSet batch.txsNode) := by
  have localSound := enters.constructed.graphSound
  have globalLive : ∀ n, ∀ m ∈ globalDependencies keysOfTx detector n, m ∈ live :=
    fun n m mem => detectorSound.getDependenciesOf_live mem
  have liveOutside : ∀ m ∈ live, m ∉ batch.txsNode :=
    fun m mem inside => enters.not_entered inside (graphSound.subset mem)
  constructor
  · exact Set.union_subset_union graphSound.subset Set.Subset.rfl
  · intro n
    rw [dependsOnTxs_addBatch enters]
    split
    · rw [Multiset.nodup_add]
      refine ⟨localSound.nodup n, (globalDependencies keysOfTx detector n).nodup, ?_⟩
      rw [Multiset.disjoint_left]
      intro m localDependency globalDependency
      exact liveOutside m (globalLive n m globalDependency) (localSound.target localDependency)
    · exact graphSound.nodup n
  · intro n m dependency
    rw [mem_dependsOnTxs_addBatch enters] at dependency
    rcases dependency with ⟨_, old⟩ | ⟨mem, localOne | globalOne⟩
    · exact graphSound.earlier old
    · exact localSound.earlier localOne
    · exact enters.later m (graphSound.subset (globalLive n m globalOne)) n mem
  · intro n m dependency
    rw [mem_dependsOnTxs_addBatch enters] at dependency
    rcases dependency with ⟨_, old⟩ | ⟨_, localOne | globalOne⟩
    · exact .inl (graphSound.target old)
    · exact .inr (localSound.target localOne)
    · exact .inl (globalLive n m globalOne)
  · intro n m dependency
    rw [mem_dependsOnTxs_addBatch enters] at dependency
    rcases dependency with ⟨_, old⟩ | ⟨mem, _⟩
    · exact .inl (graphSound.source old)
    · exact .inr mem
  · intro n m dependent
    rw [mem_dependentTxs_addBatch] at dependent
    rcases dependent with old | ⟨_, globalOne⟩
    · split at old
      · rename_i inside
        exact .inr inside
      · exact .inl (graphSound.known old)
    · exact .inl (graphSound.subset (globalLive n m globalOne))
  · intro m mem n
    rw [mem_dependsOnTxs_addBatch enters, mem_dependentTxs_addBatch]
    rcases mem with old | new
    · have outside := liveOutside m old
      rw [if_neg outside, graphSound.mirrored old]
      constructor
      · rintro (dependency | found)
        · refine .inl ⟨?_, dependency⟩
          exact fun inside => enters.not_entered inside (graphSound.source dependency)
        · exact .inr ⟨found.1, .inr found.2⟩
      · rintro (⟨_, dependency⟩ | ⟨_, localOne | globalOne⟩)
        · exact .inl dependency
        · exact absurd (localSound.target localOne) outside
        · rename_i inside
          exact .inr ⟨inside, globalOne⟩
    · have inside : m ∈ batch.txsNode := new
      rw [if_pos inside, localSound.mirrored new]
      constructor
      · rintro (dependency | ⟨_, globalOne⟩)
        · exact .inr ⟨localSound.source dependency, .inl dependency⟩
        · exact absurd inside (liveOutside m (globalLive n m globalOne))
      · rintro (⟨_, dependency⟩ | ⟨_, localOne | globalOne⟩)
        · exact absurd inside (liveOutside m (graphSound.target dependency))
        · exact .inl localOne
        · exact absurd inside (liveOutside m (globalLive n m globalOne))

theorem graphComplete_addBatch (graphComplete : graph.Complete keysOfTx entered live)
    (detectorComplete : detector.Complete keysOfTx live) :
    (addBatch keysOfTx graph detector batch).1.Complete keysOfTx
      (entered ∪ nodeSet batch.txsNode) (live ∪ nodeSet batch.txsNode) := by
  intro n m nodeMem liveMem order conflict
  rw [mem_dependsOnTxs_addBatch enters]
  rcases nodeMem with oldNode | newNode
  · refine .inl ⟨fun inside => enters.not_entered inside oldNode, ?_⟩
    rcases liveMem with oldLive | newLive
    · exact graphComplete n m oldNode oldLive order conflict
    · exact absurd order (Nat.lt_asymm (enters.later n oldNode m newLive))
  · refine .inr ⟨newNode, ?_⟩
    rcases liveMem with oldLive | newLive
    · exact .inr (detectorComplete.mem_getDependenciesOf oldLive conflict)
    · exact .inl (enters.constructed.graphComplete n m newNode newLive order conflict)

theorem depFreeTxs_addBatch :
    (addBatch keysOfTx graph detector batch).2.2 =
      batch.txsNode.filter (addBatch keysOfTx graph detector batch).1.isDependencyFree := by
  have listed :
      (addBatch keysOfTx graph detector batch).2.2 =
        batch.txsNode.filter
          (isFreeOnEntry keysOfTx detector (graph.install batch.txsNode batch.nodes)) := by
    rw [addBatch, depFreeTxs_addTxNodes keysOfTx detector enters.nodup]
    rfl
  rw [listed]
  apply filter_congr
  intro n mem
  simp only [isFreeOnEntry, Graph.isDependencyFree, decide_eq_decide,
    dependsOnTxs_addBatch enters, Graph.install, if_pos mem,
    ← Multiset.card_eq_zero, Multiset.card_add, Nat.add_eq_zero_iff,
    ← Finset.card_eq_zero, Finset.card_val]
  exact and_comm

end

end

namespace Graph

variable {entered live : Set Nat} {graph : Graph}

theorem Sound.mem_dependsOnTxs_freeDependents
    (sound : graph.Sound entered live) (mem : n ∈ live) (k m : Nat) :
    m ∈ (graph.freeDependents n).1.dependsOnTxs k ↔ m ∈ graph.dependsOnTxs k ∧ m ≠ n := by
  unfold freeDependents
  by_cases dependent : k ∈ graph.dependentTxs n
  · simp only [if_pos dependent]
    rw [(sound.nodup k).mem_erase_iff]
    exact and_comm
  · simp only [if_neg dependent]
    constructor
    · intro dependency
      refine ⟨dependency, ?_⟩
      rintro rfl
      exact dependent ((sound.mirrored mem k).mpr dependency)
    · exact fun dependency => dependency.1

theorem Sound.freeDependents (sound : graph.Sound entered live) (mem : n ∈ live) :
    (graph.freeDependents n).1.Sound entered (live \ {n}) := by
  have dependencies := sound.mem_dependsOnTxs_freeDependents mem
  constructor
  · exact Set.sdiff_subset.trans sound.subset
  · intro k
    unfold Graph.freeDependents
    by_cases dependent : k ∈ graph.dependentTxs n
    · simpa [dependent] using (sound.nodup k).erase n
    · simpa [dependent] using sound.nodup k
  · intro k m dependency
    exact sound.earlier ((dependencies k m).mp dependency).1
  · intro k m dependency
    obtain ⟨before, different⟩ := (dependencies k m).mp dependency
    exact ⟨sound.target before, different⟩
  · intro k m dependency
    exact sound.source ((dependencies k m).mp dependency).1
  · intro k m dependent
    exact sound.known dependent
  · intro m remains k
    rw [dependencies k m]
    change k ∈ graph.dependentTxs m ↔ _
    rw [sound.mirrored remains.1]
    exact ⟨fun dependency => ⟨dependency, remains.2⟩, fun both => both.1⟩

end Graph

/-- The multiset lists, each once, the nodes that have dependencies in the
first graph and none in the second. -/
structure FreedBetween (before after : Graph) (freed : Multiset Nat) : Prop where
  nodup : freed.Nodup
  mem_iff : ∀ k, k ∈ freed ↔ before.dependsOnTxs k ≠ 0 ∧ after.dependsOnTxs k = 0

theorem FreedBetween.trans {first middle last : Graph} {freed moreFreed : Multiset Nat}
    (firstFreed : FreedBetween first middle freed) (lastFreed : FreedBetween middle last moreFreed)
    (shrinks : ∀ k, first.dependsOnTxs k = 0 → middle.dependsOnTxs k = 0)
    (shrinksFurther : ∀ k, middle.dependsOnTxs k = 0 → last.dependsOnTxs k = 0) :
    FreedBetween first last (freed + moreFreed) where
  nodup := by
    rw [Multiset.nodup_add]
    refine ⟨firstFreed.nodup, lastFreed.nodup, ?_⟩
    rw [Multiset.disjoint_left]
    intro k early late
    exact ((lastFreed.mem_iff k).mp late).1 ((firstFreed.mem_iff k).mp early).2
  mem_iff := by
    intro k
    rw [Multiset.mem_add, firstFreed.mem_iff, lastFreed.mem_iff]
    constructor
    · rintro (⟨blocked, free⟩ | ⟨blocked, free⟩)
      · exact ⟨blocked, shrinksFurther k free⟩
      · exact ⟨fun none => blocked (shrinks k none), free⟩
    · rintro ⟨blocked, free⟩
      by_cases middleFree : middle.dependsOnTxs k = 0
      · exact .inl ⟨blocked, middleFree⟩
      · exact .inr ⟨middleFree, free⟩

theorem freedBetween_freeDependents {entered live : Set Nat} {graph : Graph}
    (sound : graph.Sound entered live) (mem : n ∈ live) :
    FreedBetween graph (graph.freeDependents n).1 (graph.freeDependents n).2 where
  nodup := Finset.nodup _
  mem_iff := by
    intro k
    have dependencies := sound.mem_dependsOnTxs_freeDependents mem k
    have listed :
        k ∈ (graph.freeDependents n).2 ↔
          k ∈ graph.dependentTxs n ∧ (graph.freeDependents n).1.dependsOnTxs k = 0 := by
      simp [Graph.freeDependents, Graph.isDependencyFree]
    rw [listed, sound.mirrored mem]
    constructor
    · rintro ⟨dependency, free⟩
      refine ⟨?_, free⟩
      intro none
      rw [none] at dependency
      exact Multiset.notMem_zero n dependency
    · rintro ⟨blocked, free⟩
      refine ⟨?_, free⟩
      obtain ⟨m, dependency⟩ := Multiset.exists_mem_of_ne_zero blocked
      have removed : m ∉ (graph.freeDependents n).1.dependsOnTxs k := by
        rw [free]
        exact Multiset.notMem_zero m
      rw [dependencies m] at removed
      by_cases same : m = n
      · exact same ▸ dependency
      · exact absurd ⟨dependency, same⟩ removed

/-- What the loop over the validated transactions does to a sound graph. -/
structure Validates (entered live : Set Nat) (txsNode : List Nat)
    (before : Graph) (result : Graph × Multiset Nat) : Prop where
  sound : result.1.Sound entered (live \ nodeSet txsNode)
  dependencies : ∀ k m, m ∈ result.1.dependsOnTxs k ↔ m ∈ before.dependsOnTxs k ∧ m ∉ txsNode
  freed : FreedBetween before result.1 result.2

theorem validates_foldl {entered live : Set Nat} {graph : Graph} (sound : graph.Sound entered live)
    (distinct : txsNode.Nodup) (allLive : ∀ n ∈ txsNode, n ∈ live) :
    Validates entered live txsNode graph (txsNode.foldl freeTxNode (graph, 0)) := by
  induction txsNode using List.reverseRec with
  | nil =>
    refine ⟨?_, ?_, ⟨Multiset.nodup_zero, ?_⟩⟩
    · simpa [nodeSet] using sound
    · intro k m
      simp
    · intro k
      constructor
      · intro mem
        exact absurd mem (Multiset.notMem_zero k)
      · rintro ⟨blocked, free⟩
        exact absurd free blocked
  | append_singleton front n ih =>
    rw [nodup_append] at distinct
    obtain ⟨frontDistinct, _, separate⟩ := distinct
    have nFresh : n ∉ front := fun inside => separate n inside n (mem_singleton_self n) rfl
    have earlierSteps := ih frontDistinct (fun m mem => allLive m (mem_append_left _ mem))
    have nLive : n ∈ live \ nodeSet front :=
      ⟨allLive n (mem_append_right _ (mem_singleton_self n)), nFresh⟩
    rw [foldl_append]
    set reached := front.foldl freeTxNode (graph, 0)
    have lastDependencies := earlierSteps.sound.mem_dependsOnTxs_freeDependents nLive
    change
      Validates entered live (front ++ [n]) graph
        ((reached.1.freeDependents n).1, reached.2 + (reached.1.freeDependents n).2)
    constructor
    · rw [nodeSet_append_singleton, Set.insert_eq, Set.union_comm, ← Set.sdiff_sdiff]
      exact earlierSteps.sound.freeDependents nLive
    · intro k m
      rw [lastDependencies, earlierSteps.dependencies, mem_append, mem_singleton, not_or, and_assoc]
    · apply earlierSteps.freed.trans (freedBetween_freeDependents earlierSteps.sound nLive)
      · intro k none
        rw [Multiset.eq_zero_iff_forall_notMem]
        intro m dependency
        have before := ((earlierSteps.dependencies k m).mp dependency).1
        rw [none] at before
        exact Multiset.notMem_zero m before
      · intro k none
        rw [Multiset.eq_zero_iff_forall_notMem]
        intro m dependency
        have before := ((lastDependencies k m).mp dependency).1
        rw [none] at before
        exact Multiset.notMem_zero m before

theorem Validates.graphComplete {keysOfTx : Nat → ReadWriteKeys} {entered live : Set Nat}
    {before : Graph} {result : Graph × Multiset Nat}
    (validates : Validates entered live txsNode before result)
    (complete : before.Complete keysOfTx entered live) :
    result.1.Complete keysOfTx entered (live \ nodeSet txsNode) := by
  intro n m nodeMem liveMem order conflict
  rw [validates.dependencies]
  exact ⟨complete n m nodeMem liveMem.1 order conflict, liveMem.2⟩

end FabricXCommitter.DependencyGraph
