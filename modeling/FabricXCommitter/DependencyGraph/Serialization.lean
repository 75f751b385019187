import FabricXCommitter.DependencyGraph.Invariant
import FabricXCommitter.Sidecar.Form

/-!
# Transactions are output once, and conflicting ones in input order

The order fails for a transaction that lists the ID of one of its namespaces again among
its reads of the meta-namespace: the composite key is then removed twice.
-/

namespace FabricXCommitter.DependencyGraph

open List

/-- The transaction uses a namespace and also lists its ID among the reads of
the meta-namespace. -/
def RereadsNamespace (platform : Platform) (tx : Tx) : Prop :=
  ∃ ns ∈ tx.namespaces, platform.isSystemNamespace ns.nsId = false ∧
    ∃ other ∈ tx.namespaces, other.nsId = metaNamespaceID ∧ ∃ ro ∈ other.readsOnly, ro.key = ns.nsId

instance (platform : Platform) (tx : Tx) : Decidable (RereadsNamespace platform tx) :=
  inferInstanceAs
    (Decidable
      (∃ ns ∈ tx.namespaces, platform.isSystemNamespace ns.nsId = false ∧
        ∃ other ∈ tx.namespaces, other.nsId = metaNamespaceID ∧
          ∃ ro ∈ other.readsOnly, ro.key = ns.nsId))

theorem constructCompositeKey_injective {ns otherNs key otherKey : Bytes}
    (short : ns.length < 256) (otherShort : otherNs.length < 256)
    (equal : constructCompositeKey ns key = constructCompositeKey otherNs otherKey) :
    ns = otherNs ∧ key = otherKey := by
  injection equal with lengthByte contents
  have sameLength : ns.length = otherNs.length := by
    have bytes := congrArg UInt8.toNat lengthByte
    simpa [Nat.mod_eq_of_lt short, Nat.mod_eq_of_lt otherShort] using bytes
  exact append_inj contents sameLength

section

variable {platform : Platform} {tx : Tx}

private theorem implicitRead_mem {ns : TxNamespace} {pair : Bytes × Bytes}
    (mem :
      pair ∈
        (if !platform.isSystemNamespace ns.nsId then
          [(metaNamespaceID, ns.nsId)]
        else
          [])) :
    platform.isSystemNamespace ns.nsId = false ∧ pair = (metaNamespaceID, ns.nsId) := by
  by_cases system : platform.isSystemNamespace ns.nsId = true
  · simp [system] at mem
  · simp only [Bool.not_eq_true] at system
    simp only [system, Bool.not_false, if_true, mem_singleton] at mem
    exact ⟨system, mem⟩

private theorem metaNamespace_isSystem (platform : Platform) :
    platform.isSystemNamespace metaNamespaceID = true :=
  (platform.isSystemNamespace_iff metaNamespaceID).mpr (.inl rfl)

private theorem namespaceKeys_nodup
    (formed : Sidecar.WellFormed platform tx) {ns : TxNamespace} (mem : ns ∈ tx.namespaces) :
    (ns.readsOnly.map Read.key).Nodup ∧
      (ns.readWrites.map ReadWrite.key).Nodup ∧ (ns.blindWrites.map Write.key).Nodup := by
  have nodup := (formed.each ns mem).keysNodup
  rw [Sidecar.nsKeys, nodup_append, nodup_append] at nodup
  exact ⟨nodup.1, nodup.2.1.1, nodup.2.1.2.1⟩

section

variable (formed : Sidecar.WellFormed platform tx)

include formed

theorem readWritePairs_nodup : (accessedPairs platform tx.namespaces .readWrite).Nodup := by
  have pairs :=
    nodup_flatMap_pairs formed.distinct
      (fun ns => ns.readWrites.map ReadWrite.key)
      (fun ns mem => (namespaceKeys_nodup formed mem).2.1)
  simpa [accessedPairs, Function.comp_def] using pairs

theorem accessedPairs_nodup (noReread : ¬ RereadsNamespace platform tx) (access : Access) :
    (accessedPairs platform tx.namespaces access).Nodup := by
  cases access with
  | writeOnly =>
    have pairs :=
      nodup_flatMap_pairs formed.distinct
        (fun ns => ns.blindWrites.map Write.key)
        (fun ns mem => (namespaceKeys_nodup formed mem).2.2)
    simpa [accessedPairs, Function.comp_def] using pairs
  | readWrite => exact readWritePairs_nodup formed
  | readOnly =>
    have explicit :=
      nodup_flatMap_pairs formed.distinct
        (fun ns => ns.readsOnly.map Read.key)
        (fun ns mem => (namespaceKeys_nodup formed mem).1)
    rw [nodup_flatMap] at explicit
    obtain ⟨explicitDistinct, explicitDisjoint⟩ := explicit
    simp only [map_map, Function.comp_def] at explicitDistinct explicitDisjoint
    rw [accessedPairs, nodup_flatMap]
    constructor
    · intro ns mem
      rw [nodup_append]
      refine ⟨?_, explicitDistinct ns mem, ?_⟩
      · split
        · exact nodup_singleton _
        · exact nodup_nil
      · intro pair implicit other read equal
        obtain ⟨notSystem, pairEqual⟩ := implicitRead_mem implicit
        obtain ⟨ro, _, readEqual⟩ := mem_map.mp read
        rw [← equal, pairEqual] at readEqual
        rw [(Prod.mk.inj readEqual).1, metaNamespace_isSystem] at notSystem
        cases notSystem
    · have separate := formed.distinct
      rw [List.Nodup, pairwise_map] at separate
      rw [pairwise_iff_forall_sublist] at separate explicitDisjoint ⊢
      intro ns other sublist
      have different := separate sublist
      have disjoint := explicitDisjoint sublist
      have nsMem : ns ∈ tx.namespaces := sublist.subset mem_cons_self
      have otherMem : other ∈ tx.namespaces := sublist.subset (mem_cons_of_mem _ mem_cons_self)
      change List.Disjoint _ _
      intro pair first second
      rcases mem_append.mp first with implicit | read
      · obtain ⟨notSystem, pairEqual⟩ := implicitRead_mem implicit
        rcases mem_append.mp second with otherImplicit | otherRead
        · obtain ⟨_, otherEqual⟩ := implicitRead_mem otherImplicit
          rw [pairEqual] at otherEqual
          exact different (Prod.mk.inj otherEqual).2
        · obtain ⟨ro, roMem, readEqual⟩ := mem_map.mp otherRead
          rw [pairEqual] at readEqual
          obtain ⟨isMeta, sameKey⟩ := Prod.mk.inj readEqual
          exact noReread ⟨ns, nsMem, notSystem, other, otherMem, isMeta, ro, roMem, sameKey⟩
      · rcases mem_append.mp second with otherImplicit | otherRead
        · obtain ⟨notSystem, pairEqual⟩ := implicitRead_mem otherImplicit
          obtain ⟨ro, roMem, readEqual⟩ := mem_map.mp read
          rw [pairEqual] at readEqual
          obtain ⟨isMeta, sameKey⟩ := Prod.mk.inj readEqual
          exact noReread ⟨other, otherMem, notSystem, ns, nsMem, isMeta, ro, roMem, sameKey⟩
        · exact disjoint read otherRead

theorem accessedPairs_short {access : Access} {pair : Bytes × Bytes}
    (mem : pair ∈ accessedPairs platform tx.namespaces access) :
    pair.1.length < 256 := by
  have nsShort : ∀ ns ∈ tx.namespaces, ns.nsId.length < 256 :=
    fun ns nsMem => (formed.each ns nsMem).nsId_length
  cases access with
  | readOnly =>
    obtain ⟨ns, nsMem, inside⟩ := mem_flatMap.mp mem
    rcases mem_append.mp inside with implicit | read
    · rw [(implicitRead_mem implicit).2]
      change metaNamespaceID.length < 256
      decide
    · obtain ⟨_, _, equal⟩ := mem_map.mp read
      rw [← equal]
      exact nsShort ns nsMem
  | writeOnly =>
    obtain ⟨ns, nsMem, inside⟩ := mem_flatMap.mp mem
    obtain ⟨_, _, equal⟩ := mem_map.mp inside
    rw [← equal]
    exact nsShort ns nsMem
  | readWrite =>
    obtain ⟨ns, nsMem, inside⟩ := mem_flatMap.mp mem
    obtain ⟨_, _, equal⟩ := mem_map.mp inside
    rw [← equal]
    exact nsShort ns nsMem

theorem compositeKeys_nodup
    {access : Access} (distinct : (accessedPairs platform tx.namespaces access).Nodup) :
    ((readAndWriteKeys platform tx.namespaces).keysOf access).Nodup := by
  rw [keysOf_readAndWriteKeys]
  apply List.Nodup.map_on _ distinct
  intro pair mem other otherMem equal
  obtain ⟨sameNs, sameKey⟩ :=
    constructCompositeKey_injective (accessedPairs_short formed mem)
      (accessedPairs_short formed otherMem) equal
  exact Prod.ext sameNs sameKey

end

end

theorem rwKeys_of_getElem {platform : Platform} {input : List (List TxWithRef)}
    {n : Nat} {tx : TxWithRef} (located : input.flatten[n]? = some tx) :
    rwKeys platform input n = readAndWriteKeys platform tx.content.namespaces := by
  rw [rwKeys, located]

theorem distinctKeys_of_formed {platform : Platform} {input : List (List TxWithRef)}
    (formed :
      ∀ tx ∈ input.flatten,
        Sidecar.verifyTxForm platform tx.content = Sidecar.statusNotYetValidated)
    (noReread : ∀ tx ∈ input.flatten, ¬ RereadsNamespace platform tx.content) :
    DistinctKeys platform input := by
  intro n access
  rw [rwKeys]
  split
  · rename_i tx located
    have mem := mem_of_getElem? located
    have wellFormed := Sidecar.wellFormed_of_verifyTxForm (formed tx mem)
    exact compositeKeys_nodup wellFormed (accessedPairs_nodup wellFormed (noReread tx mem) access)
  · cases access <;> exact nodup_nil

/-- A transaction is not output while an earlier transaction that conflicts
with it is not validated. -/
theorem conflicting_output_follows_validation
    {platform : Platform} {input : List (List TxWithRef)} {waitingTxsLimit : Nat}
    (formed :
      ∀ tx ∈ input.flatten,
        Sidecar.verifyTxForm platform tx.content = Sidecar.statusNotYetValidated)
    (noReread : ∀ tx ∈ input.flatten, ¬ RereadsNamespace platform tx.content)
    {actions : List Action} {state : State}
    (reached : (manager platform input waitingTxsLimit).run actions = some state)
    {earlier later : Nat} {earlierTx laterTx : TxWithRef}
    (earlierLocated : input.flatten[earlier]? = some earlierTx)
    (laterLocated : input.flatten[later]? = some laterTx) (order : earlier < later)
    (conflict : Conflicting platform laterTx.content.namespaces earlierTx.content.namespaces)
    (output : later ∈ state.outgoing) :
    earlier ∈ state.validated := by
  obtain ⟨_, invariant⟩ := invariants_of_run reached
  have inHand : later ∈ state.inHand := by
    rw [State.inHand, State.handedOut, Multiset.mem_add, Multiset.mem_add]
    exact .inl (.inl output)
  obtain ⟨laterEntered, laterFree⟩ := (invariant.handedFree later).mp inHand
  by_contra unvalidated
  have earlierLive : earlier ∈ state.liveSet input := ⟨Nat.lt_trans order laterEntered, unvalidated⟩
  have keysConflict :
      KeysConflict (rwKeys platform input later) (rwKeys platform input earlier) := by
    rw [rwKeys_of_getElem earlierLocated, rwKeys_of_getElem laterLocated]
    exact keysConflict_of_conflicting conflict
  have dependency :=
    invariant.graphComplete (distinctKeys_of_formed formed noReread)
      later earlier laterEntered earlierLive order keysConflict
  rw [laterFree] at dependency
  exact Multiset.notMem_zero earlier dependency

def endorsed (blockNum : UInt64) (txNum : UInt32) (namespaces : List TxNamespace) : TxWithRef where
  ref := ⟨[blockNum.toUInt8, txNum.toUInt8], blockNum, txNum⟩
  content := ⟨namespaces, namespaces.map fun _ => some [some [1]]⟩

/-- A blind write of one key of namespace `a`. -/
def dataTx (txNum : UInt32) (key : Bytes) : TxWithRef :=
  endorsed 1 txNum [{ nsId := [0x61], blindWrites := [⟨key, [1]⟩] }]

/-- Uses namespace `a`, reads the policy of `a` explicitly and creates `b`. -/
def rereadingTx : TxWithRef :=
  endorsed 1 0
    [{ nsId := [0x61], blindWrites := [⟨[1], [1]⟩] },
      { nsId := metaNamespaceID
        readsOnly := [⟨[0x61], some 0⟩]
        readWrites := [⟨[0x62], none, [1]⟩] }]

/-- Changes the policy of namespace `a`. -/
def policyUpdateTx : TxWithRef :=
  endorsed 2 0
    [{ nsId := metaNamespaceID
       readWrites := [⟨[0x61], some 0, [2]⟩] }]

/-- One batch travels from the coordinator to the output. -/
def batchSteps : List Action := [.receive, .construct, .emit, .acquire, .addToGraph, .sendDepFree]

def validationSteps (txsNode : List Nat) : List Action :=
  [.readValidated txsNode 0, .freeDependents, .addFreed]

def rereadInput : List (List TxWithRef) := [[rereadingTx, dataTx 1 [2]], [policyUpdateTx]]

/-- The first transaction is validated between the two batches. -/
def rereadRun : List Action := batchSteps ++ validationSteps [0] ++ batchSteps

/-- The policy of namespace `a` is output for change while a transaction that
uses `a` is not validated. -/
theorem policyUpdate_output_before_validation :
    (∀ tx ∈ rereadInput.flatten,
        Sidecar.verifyTxForm permissivePlatform tx.content = Sidecar.statusNotYetValidated) ∧
      rereadInput.flatten[1]? = some (dataTx 1 [2]) ∧
        rereadInput.flatten[2]? = some policyUpdateTx ∧
          Conflicting permissivePlatform policyUpdateTx.content.namespaces
              (dataTx 1 [2]).content.namespaces ∧
            ∃ state,
              (manager permissivePlatform rereadInput 10).run rereadRun = some state ∧
                2 ∈ state.outgoing ∧ 1 ∉ state.validated := by
  have evaluated :
      ((manager permissivePlatform rereadInput 10).run rereadRun).map
          (fun state => (decide (2 ∈ state.outgoing), decide (1 ∈ state.validated))) =
        some (true, false) := by
    decide +kernel
  obtain ⟨state, reached, outcome⟩ := Option.map_eq_some_iff.mp evaluated
  obtain ⟨output, unvalidated⟩ := Prod.mk.inj outcome
  refine ⟨by decide +kernel, rfl, rfl, ?_, state, reached, ?_, ?_⟩
  · exact
      ⟨metaNamespaceID, [0x61], .readWrite, .readOnly, by decide, by decide,
        by decide⟩
  · exact of_decide_eq_true output
  · exact of_decide_eq_false unvalidated

/-- Two writers of one key: the second is output after the first was
validated. -/
theorem second_writer_follows_validation :
    ∃ state,
      (manager permissivePlatform [[dataTx 0 [1], dataTx 1 [1]]] 10).run
            (batchSteps ++ validationSteps [0] ++ [.takeFreed, .sendFreed]) =
          some state ∧
        1 ∈ state.outgoing ∧ 0 ∈ state.validated := by
  have evaluated :
      ((manager permissivePlatform [[dataTx 0 [1], dataTx 1 [1]]] 10).run
            (batchSteps ++ validationSteps [0] ++ [.takeFreed, .sendFreed])).map
          (fun state => decide (1 ∈ state.outgoing)) =
        some true := by
    decide +kernel
  obtain ⟨state, reached, outcome⟩ := Option.map_eq_some_iff.mp evaluated
  have output : 1 ∈ state.outgoing := of_decide_eq_true outcome
  have conflict :
      Conflicting permissivePlatform (dataTx 1 [1]).content.namespaces
        (dataTx 0 [1]).content.namespaces :=
    ⟨[0x61], [1], .writeOnly, .writeOnly, by decide, by decide, by decide⟩
  have validated : 0 ∈ state.validated :=
    conflicting_output_follows_validation (by decide +kernel)
      (by decide +kernel) reached rfl rfl Nat.zero_lt_one conflict output
  exact ⟨state, reached, output, validated⟩

/-- Every received batch was added to the graph, every transaction handed out
was validated, and no loop is in the middle of an iteration. -/
structure Quiescent (state : State) : Prop where
  allEntered : state.entered = state.received
  constructionIdle : state.construction = .reading
  validationIdle : state.validation = .reading
  allValidated : ∀ n ∈ state.handedOut, n ∈ state.validated

theorem State.handedOut_le_inHand (state : State) : state.handedOut ≤ state.inHand := by
  exact Multiset.le_add_right _ _

section

variable {state : State} (quiescent : Quiescent state)

include quiescent

theorem Quiescent.inHand_eq : state.inHand = state.handedOut := by
  rw [State.inHand, quiescent.constructionIdle, quiescent.validationIdle]
  simp [ConstructionPhase.holds, ValidationPhase.holds]

section

variable {platform : Platform} {input : List (List TxWithRef)}
  (inv : GraphInvariant platform input state)

include inv

/-- Dependencies are earlier and not validated, so the first transaction with
a dependency would depend on one that was handed out and not validated. -/
theorem Quiescent.dependsOnTxs_eq_zero (n : Nat) : state.graph.dependsOnTxs n = 0 := by
  induction n using Nat.strong_induction_on with
  | _ n ih =>
    rw [Multiset.eq_zero_iff_forall_notMem]
    intro m dependency
    have live := inv.graphSound.target dependency
    have free := ih m (inv.graphSound.earlier dependency)
    have held : m ∈ state.inHand := (inv.handedFree m).mpr ⟨live.1, free⟩
    rw [quiescent.inHand_eq] at held
    exact live.2 (quiescent.allValidated m held)

theorem Quiescent.handedOut_of_entered {n : Nat} (received : n < firstNode input state.received) :
    n ∈ state.handedOut := by
  rw [← quiescent.inHand_eq, inv.handedFree]
  refine ⟨?_, quiescent.dependsOnTxs_eq_zero inv n⟩
  rw [quiescent.allEntered]
  exact received

theorem Quiescent.detector_empty : state.detector.Empty := by
  apply Detector.empty_of_waiting inv.detectorSound.occupied
  intro access key
  rw [Finset.eq_empty_iff_forall_notMem]
  intro n waiting
  obtain ⟨entered, unvalidated⟩ := (inv.detectorSound.waiting waiting).1
  rw [quiescent.allEntered] at entered
  have handed := quiescent.handedOut_of_entered inv entered
  exact unvalidated (quiescent.allValidated n handed)

end

end

/-- Each transaction is handed out at most once, and a quiescent manager holds
nothing back. -/
theorem released_exactly_once {platform : Platform} {input : List (List TxWithRef)}
    {waitingTxsLimit : Nat} {actions : List Action} {state : State}
    (reached : (manager platform input waitingTxsLimit).run actions = some state) :
    (∀ n, state.handedOut.count n ≤ 1) ∧
      (Quiescent state →
        (∀ n, state.graph.dependsOnTxs n = 0) ∧
          (∀ n < firstNode input state.received, n ∈ state.handedOut) ∧ state.detector.Empty) := by
  obtain ⟨_, invariant⟩ := invariants_of_run reached
  have once : state.handedOut.Nodup :=
    Multiset.nodup_of_le state.handedOut_le_inHand invariant.handedOnce
  refine ⟨Multiset.nodup_iff_count_le_one.mp once, ?_⟩
  intro quiescent
  refine ⟨quiescent.dependsOnTxs_eq_zero invariant, ?_, quiescent.detector_empty invariant⟩
  intro n received
  exact quiescent.handedOut_of_entered invariant received

/-- Two conflicting transactions travel through the manager. -/
def drainedRun : List Action :=
  batchSteps ++ validationSteps [0] ++ [.takeFreed, .sendFreed] ++ validationSteps [1]

theorem drainedRun_releases_both :
    ∃ state,
      (manager permissivePlatform [[dataTx 0 [1], dataTx 1 [1]]] 10).run drainedRun = some state ∧
        Quiescent state ∧ 0 ∈ state.handedOut ∧ 1 ∈ state.handedOut ∧ state.detector.Empty := by
  obtain ⟨state, reached, received, quiescent⟩ :
      ∃ state,
        (manager permissivePlatform [[dataTx 0 [1], dataTx 1 [1]]] 10).run drainedRun = some state ∧
          state.received = 1 ∧ Quiescent state :=
    ⟨_, rfl, rfl, rfl, rfl, rfl, by decide +kernel⟩
  obtain ⟨_, handed, empty⟩ := (released_exactly_once reached).2 quiescent
  rw [received] at handed
  exact ⟨state, reached, quiescent, handed 0 (by decide), handed 1 (by decide), empty⟩

end FabricXCommitter.DependencyGraph
