import FabricXCommitter.DependencyGraph.Serialization
import FabricXCommitter.VC.Resubmission
import Mathlib.Data.List.NodupEquivFin

/-!
# The dependency graph and the validator-committers together

A transaction may be delivered, any number of times, once the graph has output it, and it
leaves the graph once it was answered.
-/

namespace FabricXCommitter.Coordinator.SerialCommit

open Library VC VC.Instances DependencyGraph List

/-- The input and the preliminary statuses that the verifiers give to its transactions,
and the validator-committers with their database. -/
structure Setting where
  platform : Platform
  input : List (List TxWithRef)
  verdict : Nat → Option Status
  waitingTxsLimit : Nat
  codec : SnapshotCodec
  attempts : Nat
  count : Nat
  db : Database

structure State where
  graph : DependencyGraph.State
  vc : Fleet.State Store (List Stage)

inductive Action where
  | graph (action : DependencyGraph.Action)
  | vc (index : Nat) (task : Task)
  deriving DecidableEq, Repr

def Action.batch : Action → List VcTx
  | .vc _ (.deliver batch) => batch
  | _ => []

variable (setting : Setting)

namespace Setting

def sequence : List VcTx :=
  setting.input.flatten.mapIdx fun n tx => ⟨tx.ref, tx.content.namespaces, setting.verdict n⟩

abbrev Answered (s : State) (n : Nat) : Prop :=
  ∃ status ∈ s.vc.shared.reported, setting.sequence[n]?.map VcTx.ref = some status.ref

def step (s : State) : Action → Option State
  | .graph action =>
    if ∀ n ∈ action.reports, setting.Answered s n then
      (DependencyGraph.step setting.platform setting.input s.graph action).map fun graph =>
        { s with graph := graph }
    else
      none
  | .vc index task =>
    if ∀ tx ∈ (Action.vc index task).batch,
        ∃ n < setting.sequence.length, n ∈ s.graph.outgoing ∧ setting.sequence[n]? = some tx then
      ((instances setting.codec setting.attempts).step s.vc (.worker index task)).map fun vc =>
        { s with vc := vc }
    else
      none

def committer : Machine State Action where
  initial :=
    ⟨DependencyGraph.initialState setting.waitingTxsLimit,
      ⟨⟨setting.db, []⟩, replicate setting.count []⟩⟩
  step := setting.step

/-- The transactions are as for one validator-committer, and none lists the ID of its
namespace among its reads. -/
structure Proper : Prop where
  valid : setting.db.Valid
  ids : (setting.sequence.map fun tx => tx.ref.txId).Nodup
  formed : ∀ tx ∈ setting.sequence, FormValid setting.platform tx
  noReread : ∀ tx ∈ setting.input.flatten, ¬ RereadsNamespace setting.platform tx.content
  exist : ExistAlong setting.db setting.sequence

end Setting

/-- The graph is intact, what it was told of is answered, and the database is the result
of processing transactions of the sequence once. -/
structure Coupled (s : State) : Prop where
  pipeline : PipelineInvariant setting.platform setting.input s.graph
  graph : GraphInvariant setting.platform setting.input s.graph
  answered : ∀ n ∈ s.graph.reported, setting.Answered s n
  committed :
    Fleet.Steady
      (fun store => ∃ processed, Ledger setting.db setting.sequence store processed)
      (fun store stages => ∀ stage ∈ stages, Sound setting.sequence store stage) s.vc

theorem coupled_initial : Coupled setting setting.committer.initial where
  pipeline := pipelineInvariant_initial setting.waitingTxsLimit
  graph := graphInvariant_initial setting.waitingTxsLimit
  answered := fun n mem => absurd mem (Finset.notMem_empty n)
  committed := by
    refine ⟨⟨[], Front.nil _, rfl, trivial, fun _ mem => absurd mem not_mem_nil⟩, ?_⟩
    intro stages mem stage inside
    rw [eq_of_mem_replicate mem] at inside
    cases inside

section

variable {setting}

theorem sequence_getElem {n : Nat} {tx : VcTx} (located : setting.sequence[n]? = some tx) :
    ∃ node, setting.input.flatten[n]? = some node ∧ node.content.namespaces = tx.namespaces := by
  rw [Setting.sequence, getElem?_mapIdx] at located
  obtain ⟨node, found, same⟩ := Option.map_eq_some_iff.mp located
  exact ⟨node, found, congrArg VcTx.namespaces same⟩

variable (proper : setting.Proper)

include proper

theorem Setting.Proper.workload : Workload setting.db setting.sequence :=
  ⟨proper.valid, proper.ids, fun tx mem unspoiled => (proper.formed tx mem).plain unspoiled,
    proper.exist⟩

theorem Setting.Proper.distinctKeys : DistinctKeys setting.platform setting.input := by
  intro n access
  rw [rwKeys]
  split
  · next node located =>
    have inSequence :
        setting.sequence[n]? = some ⟨node.ref, node.content.namespaces, setting.verdict n⟩ := by
      rw [Setting.sequence, getElem?_mapIdx, located, Option.map_some]
    obtain ⟨endorsements, accepted⟩ := (proper.formed _ (mem_of_getElem? inSequence)).accepted
    have wellFormed := Sidecar.wellFormed_of_verifyTxForm accepted
    have reads := proper.noReread node (mem_of_getElem? located)
    exact compositeKeys_nodup wellFormed (accessedPairs_nodup wellFormed reads access)
  · cases access <;> exact nodup_nil

variable {s next : State} (coupled : Coupled setting s)

include coupled

/-- What the graph has output is delivered after the answers to the earlier transactions
that it conflicts with. -/
theorem Coupled.inOrder {batch : List VcTx}
    (released :
      ∀ tx ∈ batch, ∃ n < setting.sequence.length,
        n ∈ s.graph.outgoing ∧ setting.sequence[n]? = some tx) :
    InOrder setting.platform setting.sequence s.vc.shared.reported batch := by
  intro tx mem
  obtain ⟨later, within, output, located⟩ := released tx mem
  refine ⟨mem_of_getElem? located, ?_⟩
  intro earlier before _ _ conflict
  obtain ⟨place, places⟩ := sublist_iff_exists_orderEmbedding_getElem?_eq.mp before
  have firstLocated : setting.sequence[place 0]? = some earlier := (places 0).symm
  have secondLocated : setting.sequence[place 1]? = some tx := (places 1).symm
  have second : later = place 1 :=
    (List.getElem?_inj within proper.workload.nodup).mp (located.trans secondLocated.symm)
  have order : place 0 < later := second ▸ place.strictMono Nat.zero_lt_one
  have inHand : later ∈ s.graph.inHand :=
    Multiset.mem_add.mpr (.inl (Multiset.mem_add.mpr (.inl output)))
  obtain ⟨entered, free⟩ := (coupled.graph.handedFree later).mp inHand
  have validated : place 0 ∈ s.graph.validated := by
    by_contra unvalidated
    obtain ⟨node, found, same⟩ := sequence_getElem located
    obtain ⟨firstNode, firstFound, firstSame⟩ := sequence_getElem firstLocated
    rw [← same, ← firstSame, ← rwKeys_of_getElem found, ← rwKeys_of_getElem firstFound] at conflict
    have dependency :=
      coupled.graph.graphComplete proper.distinctKeys later _ entered
        ⟨Nat.lt_trans order entered, unvalidated⟩ order conflict
    rw [free] at dependency
    exact Multiset.notMem_zero _ dependency
  obtain ⟨status, reported, same⟩ :=
    coupled.answered _ (coupled.graph.validatedReported validated)
  rw [firstLocated] at same
  exact ⟨status, reported, (Option.some.inj same).symm⟩

theorem Coupled.step {action : Action}
    (unhidden : Unhidden s.vc.shared.db (firstCopies action.batch))
    (stepped : setting.step s action = some next) :
    Coupled setting next := by
  cases action with
  | graph action =>
    obtain ⟨answered, moved⟩ := Option.ite_none_right_eq_some.mp stepped
    obtain ⟨graph, graphStepped, same⟩ := Option.map_eq_some_iff.mp moved
    subst same
    refine
      ⟨coupled.pipeline.step graphStepped, coupled.graph.step coupled.pipeline graphStepped, ?_,
        coupled.committed⟩
    intro n mem
    rw [(history_of_step graphStepped).2, Finset.mem_union, mem_toFinset] at mem
    exact mem.elim (coupled.answered n) (answered n)
  | vc index task =>
    obtain ⟨released, moved⟩ := Option.ite_none_right_eq_some.mp stepped
    obtain ⟨vc, vcStepped, same⟩ := Option.map_eq_some_iff.mp moved
    subst same
    have meets :
        DeliveredInOrder setting.platform setting.sequence s.vc (.worker index task) ∧
          DeliveredUnhidden s.vc (.worker index task) := by
      cases task with
      | deliver batch => exact ⟨coupled.inOrder proper released, unhidden⟩
      | access | fail => exact ⟨trivial, trivial⟩
    cases Fleet.stepped_of_step vcStepped with
    | worker found workerStepped =>
      obtain ⟨ledger, sound, advances⟩ :=
        kept_of_instanceStep proper.workload (fun tx mem _ => proper.formed tx mem)
          coupled.committed.shared (coupled.committed.workers _ (mem_of_getElem? found))
          meets.1 meets.2 workerStepped
      refine ⟨coupled.pipeline, coupled.graph, ?_, ?_⟩
      · intro n mem
        obtain ⟨status, reported, same⟩ := coupled.answered n mem
        exact ⟨status, advances.reported status reported, same⟩
      · refine Fleet.steady_worker ?_ coupled.committed ledger advances sound index
        intro before after stages _ advanced sound stage mem
        exact (sound stage mem).stable advanced

end

/-- Two updates of one row. -/
def twoUpdates : Setting where
  platform := permissivePlatform
  input :=
    [[readWriteTx 1 [1] (some 5), readWriteTx 3 [1] (some 6)].map fun tx =>
      ⟨tx.ref, tx.namespaces, [some [some [1]]]⟩]
  verdict := fun _ => none
  waitingTxsLimit := 10
  codec := countingCodec
  attempts := 1
  count := 2
  db := singleRowDatabase 5

def processed (index : Nat) (tx : VcTx) : List Action :=
  .vc index (.deliver [tx]) ::
    [.validateNamespace, .validateNamespace, .finishValidation, .categorize, .attempt true,
      .report].map fun access => .vc index (.access 0 access)

/-- The second update is output by the graph after the first was answered. -/
def updatesRun : List Action :=
  batchSteps.map .graph ++ processed 0 (readWriteTx 1 [1] (some 5)) ++
    (validationSteps [0]).map .graph ++ [.graph .takeFreed, .graph .sendFreed] ++
    processed 1 (readWriteTx 3 [1] (some 6))

end FabricXCommitter.Coordinator.SerialCommit
