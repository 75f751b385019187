import FabricXCommitter.DependencyGraph.Detector
import Mathlib.Data.Finset.Union
import Mathlib.Data.Multiset.UnionInter

/-!
# The dependency graph

Dependencies and freed transactions come from a Go map, so both are multisets.
-/

namespace FabricXCommitter.DependencyGraph

structure Graph where
  dependsOnTxs : Nat → Multiset Nat
  dependentTxs : Nat → Finset Nat

namespace Graph

/-- Freshly allocated nodes. -/
def new : Graph := ⟨fun _ => 0, fun _ => ∅⟩

def addDependenciesAndUpdateDependents
    (graph : Graph) (n : Nat) (dependsOnTxs : Finset Nat) : Graph where
  dependsOnTxs := Function.update graph.dependsOnTxs n (graph.dependsOnTxs n + dependsOnTxs.val)
  dependentTxs := fun depOnTx =>
    if depOnTx ∈ dependsOnTxs then
      insert n (graph.dependentTxs depOnTx)
    else
      graph.dependentTxs depOnTx

def isDependencyFree (graph : Graph) (n : Nat) : Bool := graph.dependsOnTxs n = 0

/-- Each iteration of the loop of the source changes another dependent, so the
loop is given pointwise.  The second component is the list of fully freed
transactions. -/
def freeDependents (graph : Graph) (n : Nat) : Graph × Multiset Nat :=
  let freed : Graph :=
    { graph with
      dependsOnTxs := fun dependentTx =>
        if dependentTx ∈ graph.dependentTxs n then
          (graph.dependsOnTxs dependentTx).erase n
        else
          graph.dependsOnTxs dependentTx }
  (freed, ((graph.dependentTxs n).filter fun dependentTx => freed.isDependencyFree dependentTx).val)

/-- The nodes of a batch are allocated by its worker; the other nodes are
untouched. -/
def install (graph : Graph) (txsNode : List Nat) (nodes : Graph) : Graph where
  dependsOnTxs := fun n =>
    if n ∈ txsNode then nodes.dependsOnTxs n else graph.dependsOnTxs n
  dependentTxs := fun n =>
    if n ∈ txsNode then nodes.dependentTxs n else graph.dependentTxs n

end Graph

/-- The graph over the nodes of `entered`, of which those in `live` are not
validated yet.  Dependencies are earlier and live, each is recorded once, and a
live transaction knows its dependents. -/
structure Graph.Sound (entered live : Set Nat) (graph : Graph) : Prop where
  subset : live ⊆ entered
  nodup : ∀ n, (graph.dependsOnTxs n).Nodup
  earlier : ∀ {n m}, m ∈ graph.dependsOnTxs n → m < n
  target : ∀ {n m}, m ∈ graph.dependsOnTxs n → m ∈ live
  source : ∀ {n m}, m ∈ graph.dependsOnTxs n → n ∈ entered
  known : ∀ {n m}, n ∈ graph.dependentTxs m → m ∈ entered
  mirrored : ∀ {m}, m ∈ live → ∀ n, n ∈ graph.dependentTxs m ↔ m ∈ graph.dependsOnTxs n

/-- Every conflict with an earlier live transaction is recorded. -/
def Graph.Complete
    (keysOfTx : Nat → ReadWriteKeys) (entered live : Set Nat) (graph : Graph) : Prop :=
  ∀ n m, n ∈ entered → m ∈ live → m < n →
    KeysConflict (keysOfTx n) (keysOfTx m) → m ∈ graph.dependsOnTxs n

/-- Only live transactions wait, and only under their own keys. -/
structure Detector.Sound
    (keysOfTx : Nat → ReadWriteKeys) (live : Set Nat) (detector : Detector) : Prop where
  waiting :
    ∀ {access key m}, m ∈ detector.waiting access key → m ∈ live ∧ key ∈ (keysOfTx m).keysOf access
  occupied : detector.Occupied

def Detector.Complete
    (keysOfTx : Nat → ReadWriteKeys) (live : Set Nat) (detector : Detector) : Prop :=
  ∀ m, m ∈ live → ∀ access, ∀ key ∈ (keysOfTx m).keysOf access, m ∈ detector.waiting access key

theorem Detector.Sound.getDependenciesOf_live
    {keysOfTx : Nat → ReadWriteKeys} {live : Set Nat} {detector : Detector}
    (sound : detector.Sound keysOfTx live) {rwKeys : ReadWriteKeys} {m : Nat}
    (mem : m ∈ detector.getDependenciesOf rwKeys) :
    m ∈ live := by
  rw [Detector.mem_getDependenciesOf] at mem
  obtain ⟨key, laterAccess, earlierAccess, _, found, _⟩ := mem
  exact (sound.waiting found).1

theorem Detector.Complete.mem_getDependenciesOf
    {keysOfTx : Nat → ReadWriteKeys} {live : Set Nat} {detector : Detector}
    (complete : detector.Complete keysOfTx live) {rwKeys : ReadWriteKeys} {m : Nat}
    (mem : m ∈ live) (conflict : KeysConflict rwKeys (keysOfTx m)) :
    m ∈ detector.getDependenciesOf rwKeys := by
  obtain ⟨key, laterAccess, earlierAccess, laterKey, earlierKey, notBothRead⟩ := conflict
  rw [Detector.mem_getDependenciesOf]
  exact
    ⟨key, laterAccess, earlierAccess, laterKey,
      complete m mem earlierAccess key earlierKey, notBothRead⟩

namespace Graph

theorem sound_new : Graph.new.Sound ∅ ∅ where
  subset := Set.Subset.rfl
  nodup := fun _ => Multiset.nodup_zero
  earlier := fun dependency => absurd dependency (Multiset.notMem_zero _)
  target := fun dependency => absurd dependency (Multiset.notMem_zero _)
  source := fun dependency => absurd dependency (Multiset.notMem_zero _)
  known := fun dependent => absurd dependent (Finset.notMem_empty _)
  mirrored := fun mem => absurd mem (Set.notMem_empty _)

variable {dependsOnTxs : Finset Nat}

theorem addDependenciesAndUpdateDependents_empty
    (graph : Graph) (n : Nat) (empty : ¬ dependsOnTxs.Nonempty) :
    graph.addDependenciesAndUpdateDependents n dependsOnTxs = graph := by
  rw [Finset.not_nonempty_iff_eq_empty] at empty
  subst dependsOnTxs
  simp [addDependenciesAndUpdateDependents]

theorem mem_dependsOnTxs_add (graph : Graph) (n other m : Nat) (dependsOnTxs : Finset Nat) :
    m ∈ (graph.addDependenciesAndUpdateDependents n dependsOnTxs).dependsOnTxs other ↔
      m ∈ graph.dependsOnTxs other ∨ (other = n ∧ m ∈ dependsOnTxs) := by
  by_cases same : other = n
  · subst other
    simp [addDependenciesAndUpdateDependents]
  · simp [addDependenciesAndUpdateDependents, same]

theorem mem_dependentTxs_add (graph : Graph) (n other m : Nat) (dependsOnTxs : Finset Nat) :
    other ∈ (graph.addDependenciesAndUpdateDependents n dependsOnTxs).dependentTxs m ↔
      other ∈ graph.dependentTxs m ∨ (other = n ∧ m ∈ dependsOnTxs) := by
  by_cases mem : m ∈ dependsOnTxs
  · simp [addDependenciesAndUpdateDependents, mem, or_comm]
  · simp [addDependenciesAndUpdateDependents, mem]

theorem Sound.addNode {entered live : Set Nat} {graph : Graph} (sound : graph.Sound entered live)
    {n : Nat} (fresh : ∀ e ∈ entered, e < n) (liveDependencies : ∀ m ∈ dependsOnTxs, m ∈ live) :
    (graph.addDependenciesAndUpdateDependents n dependsOnTxs).Sound
      (insert n entered) (insert n live) := by
  have notEntered : n ∉ entered := fun mem => lt_irrefl n (fresh n mem)
  have notLive : n ∉ live := fun mem => notEntered (sound.subset mem)
  have dependencies : graph.dependsOnTxs n = 0 := by
    rw [Multiset.eq_zero_iff_forall_notMem]
    exact fun m mem => notEntered (sound.source mem)
  refine ⟨Set.insert_subset_insert sound.subset, ?_, ?_, ?_, ?_, ?_, ?_⟩
  · intro other
    by_cases same : other = n
    · subst other
      simp [addDependenciesAndUpdateDependents, dependencies, dependsOnTxs.nodup]
    · simpa [addDependenciesAndUpdateDependents, same] using sound.nodup other
  · intro other m dependency
    rw [mem_dependsOnTxs_add] at dependency
    rcases dependency with old | ⟨rfl, new⟩
    · exact sound.earlier old
    · exact fresh m (sound.subset (liveDependencies m new))
  · intro other m dependency
    rw [mem_dependsOnTxs_add] at dependency
    rcases dependency with old | ⟨rfl, new⟩
    · exact Set.mem_insert_of_mem _ (sound.target old)
    · exact Set.mem_insert_of_mem _ (liveDependencies m new)
  · intro other m dependency
    rw [mem_dependsOnTxs_add] at dependency
    rcases dependency with old | ⟨rfl, _⟩
    · exact Set.mem_insert_of_mem _ (sound.source old)
    · exact Set.mem_insert _ _
  · intro other m dependent
    rw [mem_dependentTxs_add] at dependent
    rcases dependent with old | ⟨_, new⟩
    · exact Set.mem_insert_of_mem _ (sound.known old)
    · exact Set.mem_insert_of_mem _ (sound.subset (liveDependencies m new))
  · intro m mem other
    rw [mem_dependsOnTxs_add, mem_dependentTxs_add]
    rcases Set.mem_insert_iff.mp mem with rfl | old
    · constructor
      · rintro (dependent | new)
        · exact absurd (sound.known dependent) notEntered
        · exact .inr new
      · rintro (dependency | new)
        · exact absurd (sound.target dependency) notLive
        · exact .inr new
    · rw [sound.mirrored old]

theorem Complete.addNode {keysOfTx : Nat → ReadWriteKeys} {entered live : Set Nat} {graph : Graph}
    (complete : graph.Complete keysOfTx entered live) {n : Nat} (fresh : ∀ e ∈ entered, e < n)
    (detected : ∀ m ∈ live, KeysConflict (keysOfTx n) (keysOfTx m) → m ∈ dependsOnTxs) :
    (graph.addDependenciesAndUpdateDependents n dependsOnTxs).Complete keysOfTx
      (insert n entered) (insert n live) := by
  intro later m laterMem liveMem order conflict
  rw [mem_dependsOnTxs_add]
  rcases Set.mem_insert_iff.mp liveMem with rfl | liveBefore
  · rcases Set.mem_insert_iff.mp laterMem with rfl | enteredBefore
    · exact absurd order (lt_irrefl _)
    · exact absurd order (Nat.lt_asymm (fresh later enteredBefore))
  · rcases Set.mem_insert_iff.mp laterMem with rfl | enteredBefore
    · exact .inr ⟨rfl, detected m liveBefore conflict⟩
    · exact .inl (complete later m enteredBefore liveBefore order conflict)

end Graph

namespace Detector

variable {keysOfTx : Nat → ReadWriteKeys} {live : Set Nat} {detector : Detector}

theorem sound_new (keysOfTx : Nat → ReadWriteKeys) : newDependencyDetector.Sound keysOfTx ∅ where
  waiting := by
    intro access key m found
    rw [waiting_newDependencyDetector] at found
    exact absurd found (Finset.notMem_empty m)
  occupied := occupied_newDependencyDetector

theorem Sound.addWaitingTx (sound : detector.Sound keysOfTx live) (n : Nat) :
    (detector.addWaitingTx (keysOfTx n) n).Sound keysOfTx (insert n live) where
  waiting := by
    intro access key m found
    rw [mem_waiting_addWaitingTx] at found
    rcases found with old | ⟨rfl, keyed⟩
    · obtain ⟨mem, keyed⟩ := sound.waiting old
      exact ⟨Set.mem_insert_of_mem _ mem, keyed⟩
    · exact ⟨Set.mem_insert _ _, keyed⟩
  occupied := occupied_addWaitingTx sound.occupied _ _

theorem Complete.addWaitingTx (complete : detector.Complete keysOfTx live) (n : Nat) :
    (detector.addWaitingTx (keysOfTx n) n).Complete keysOfTx (insert n live) := by
  intro m mem access key keyed
  rw [mem_waiting_addWaitingTx]
  rcases Set.mem_insert_iff.mp mem with rfl | old
  · exact .inr ⟨rfl, keyed⟩
  · exact .inl (complete m old access key keyed)

theorem Sound.mergeWaitingTx
    {added : Set Nat} {depDetector : Detector} (sound : detector.Sound keysOfTx live)
    (inputSound : depDetector.Sound keysOfTx added) :
    (detector.mergeWaitingTx depDetector).Sound keysOfTx (live ∪ added) where
  waiting := by
    intro access key m found
    rw [mem_waiting_mergeWaitingTx] at found
    rcases found with old | new
    · obtain ⟨mem, keyed⟩ := sound.waiting old
      exact ⟨.inl mem, keyed⟩
    · obtain ⟨mem, keyed⟩ := inputSound.waiting new
      exact ⟨.inr mem, keyed⟩
  occupied := occupied_mergeWaitingTx sound.occupied inputSound.occupied

theorem Complete.mergeWaitingTx
    {added : Set Nat} {depDetector : Detector} (complete : detector.Complete keysOfTx live)
    (inputComplete : depDetector.Complete keysOfTx added) :
    (detector.mergeWaitingTx depDetector).Complete keysOfTx (live ∪ added) := by
  intro m mem access key keyed
  rw [mem_waiting_mergeWaitingTx]
  rcases mem with old | new
  · exact .inl (complete m old access key keyed)
  · exact .inr (inputComplete m new access key keyed)

theorem Sound.removeWaitingTx (sound : detector.Sound keysOfTx live) (txsNode : List Nat) :
    (Detector.removeWaitingTx keysOfTx detector txsNode).Sound keysOfTx
      (live \ {n | n ∈ txsNode}) where
  waiting := by
    intro access key m found
    obtain ⟨before, notRemoved⟩ := mem_waiting_removeWaitingTx_imp found
    obtain ⟨mem, keyed⟩ := sound.waiting before
    exact ⟨⟨mem, fun removed => notRemoved ⟨removed, keyed⟩⟩, keyed⟩
  occupied := occupied_removeWaitingTx keysOfTx txsNode sound.occupied

/-- Completeness survives a removal only if no removed transaction lists a key
twice under one access. -/
theorem Complete.removeWaitingTx (complete : detector.Complete keysOfTx live)
    {txsNode : List Nat} (listDistinct : txsNode.Nodup) (removedLive : ∀ n ∈ txsNode, n ∈ live)
    (distinct : ∀ n ∈ txsNode, ∀ access, ((keysOfTx n).keysOf access).Nodup) :
    (Detector.removeWaitingTx keysOfTx detector txsNode).Complete keysOfTx
      (live \ {n | n ∈ txsNode}) := by
  intro m mem access key keyed
  exact
    mem_waiting_removeWaitingTx_of_not_mem listDistinct
      (fun tx removed => distinct tx removed access)
      (fun tx removed => complete tx (removedLive tx removed) access)
      mem.2 (complete m mem.1 access key keyed)

end Detector

end FabricXCommitter.DependencyGraph
