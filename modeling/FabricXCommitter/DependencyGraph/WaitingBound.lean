import FabricXCommitter.DependencyGraph.Serialization

/-!
# The limit on waiting transactions

A slot is given back also for the rejected transactions, which take none.
-/

namespace FabricXCommitter.DependencyGraph

open Library List Option

/-- The manager, with the number of rejected transactions that were received and
the number of those that came back. -/
structure WaitingState where
  manager : State
  rejectedReceived : Nat
  rejectedReleased : Nat

inductive WaitingAction where
  | manager (action : Action)
  | receiveRejected (rejected : List TxStatus)

section

variable (platform : Platform) (input : List (List TxWithRef))

/-- The number of rejected transactions that a step reads from the validated
channel. -/
def WaitingAction.released : WaitingAction → Nat
  | .manager (.readValidated _ rejected) => rejected
  | _ => 0

def waitingStep (s : WaitingState) (action : WaitingAction) : Option WaitingState :=
  match action with
  | .receiveRejected rejected =>
    some { s with rejectedReceived := s.rejectedReceived + rejected.length }
  | .manager managerAction =>
    if s.rejectedReleased + action.released ≤ s.rejectedReceived then
      (step platform input s.manager managerAction).map fun manager =>
        { s with
          manager := manager
          rejectedReleased := s.rejectedReleased + action.released }
    else
      none

def waitingManager (waitingTxsLimit : Nat) : Machine WaitingState WaitingAction where
  initial :=
    { manager := initialState waitingTxsLimit
      rejectedReceived := 0
      rejectedReleased := 0 }
  step := waitingStep platform input

end

/-- The transactions of the batch that has taken its slots and is not in the graph
yet. -/
def ConstructionPhase.acquiredTxs : ConstructionPhase → Nat
  | .acquired batch => batch.txsNode.length
  | _ => 0

/-- The transactions that took slots to enter the graph and are not processed as
validated. -/
def State.waiting (input : List (List TxWithRef)) (state : State) : Nat :=
  firstNode input state.entered + state.construction.acquiredTxs - state.reported.card

/-- The slots count the waiting transactions, and one more is free for each
rejected transaction that came back. -/
structure Balanced (input : List (List TxWithRef)) (waitingTxsLimit rejectedReleased : Nat)
    (state : State) : Prop where
  reported : state.reported ⊆ Finset.range (firstNode input state.entered)
  slots :
    state.availableSlots + firstNode input state.entered + state.construction.acquiredTxs =
      waitingTxsLimit + state.reported.card + rejectedReleased

section

variable {platform : Platform} {input : List (List TxWithRef)}
variable {waitingTxsLimit rejectedReleased : Nat} {state next : State}

theorem Balanced.reported_card (balanced : Balanced input waitingTxsLimit rejectedReleased state) :
    state.reported.card ≤ firstNode input state.entered := by
  have count := Finset.card_le_card balanced.reported
  rwa [Finset.card_range] at count

theorem Balanced.slots_eq (balanced : Balanced input waitingTxsLimit rejectedReleased state) :
    state.availableSlots = waitingTxsLimit + rejectedReleased - (state.waiting input : Int) := by
  have count := balanced.reported_card
  have slots := balanced.slots
  unfold State.waiting
  omega

theorem constructBatch_length (k : Nat) :
    (constructBatch platform input (k + 1)).txsNode.length = (input.getD k []).length := by
  simp [constructBatch, construct, batchNodes]

theorem Balanced.readValidated {txsNode : List Nat} {rejected : Nat}
    (balanced : Balanced input waitingTxsLimit rejectedReleased state)
    (stepped : DependencyGraph.readValidated input state txsNode rejected = some next) :
    Balanced input waitingTxsLimit (rejectedReleased + rejected) next := by
  obtain ⟨_, reports, rfl⟩ := readValidated_eq_some stepped
  have fresh : Disjoint state.reported txsNode.toFinset := by
    rw [Finset.disjoint_right]
    intro n mem
    exact (reports.2 n (List.mem_toFinset.mp mem)).2
  constructor
  · apply Finset.union_subset balanced.reported
    intro n mem
    rw [Finset.mem_range]
    exact (reports.2 n (List.mem_toFinset.mp mem)).1
  · have slots := balanced.slots
    rw [Finset.card_union_of_disjoint fresh, toFinset_card_of_nodup reports.1]
    push_cast
    omega

theorem Balanced.step {action : Action} (pipeline : PipelineInvariant platform input state)
    (balanced : Balanced input waitingTxsLimit rejectedReleased state)
    (stepped : DependencyGraph.step platform input state action = some next) :
    Balanced input waitingTxsLimit
      (rejectedReleased + (WaitingAction.manager action).released) next := by
  have slots := balanced.slots
  cases stepped_of_step stepped with
  | emit emitted =>
    obtain ⟨batch, _, rfl⟩ := map_eq_some_iff.mp emitted
    exact ⟨balanced.reported, slots⟩
  | acquire reading waiting available =>
    refine ⟨balanced.reported, ?_⟩
    rw [reading] at slots
    simp only [ConstructionPhase.acquiredTxs, WaitingAction.released] at slots ⊢
    omega
  | @addToGraph batch working added addition =>
    obtain ⟨_, batch_eq, _⟩ := pipeline.acquired working
    have grown := firstNode_succ input state.entered
    have length_eq : batch.txsNode.length = (input.getD state.entered []).length := by
      rw [batch_eq, constructBatch_length]
    constructor
    · refine balanced.reported.trans ?_
      rw [Finset.range_subset_range, grown]
      exact Nat.le_add_right _ _
    · rw [working] at slots
      simp only [ConstructionPhase.acquiredTxs, WaitingAction.released] at slots ⊢
      omega
  | sendDepFree sending =>
    rw [sending] at slots
    exact ⟨balanced.reported, slots⟩
  | readValidated read => exact balanced.readValidated read
  | receive | construct | freeDependents | addFreed | takeFreed | sendFreed =>
    exact ⟨balanced.reported, slots⟩

theorem slots_step
    {action : Action} (stepped : DependencyGraph.step platform input state action = some next) :
    state.availableSlots + (WaitingAction.manager action).released ≤ next.availableSlots ∨
      action = .acquire ∧ 1 ≤ state.availableSlots ∧
        ∃ batch rest, state.incomingTransactionsNode = batch :: rest ∧
          next.availableSlots = state.availableSlots - batch.txsNode.length := by
  cases stepped_of_step stepped with
  | acquire reading waiting available => exact .inr ⟨rfl, available, _, _, waiting, rfl⟩
  | readValidated read =>
    obtain ⟨_, _, rfl⟩ := readValidated_eq_some read
    left
    simp only [WaitingAction.released]
    omega
  | emit emitted =>
    obtain ⟨batch, _, rfl⟩ := map_eq_some_iff.mp emitted
    simp [WaitingAction.released]
  | receive | construct | addToGraph | sendDepFree | freeDependents | addFreed | takeFreed
  | sendFreed => simp [WaitingAction.released]

theorem PipelineInvariant.next_length (pipeline : PipelineInvariant platform input state)
    {batch : TransactionNodeBatch} {rest : List TransactionNodeBatch}
    (waiting : state.incomingTransactionsNode = batch :: rest)
    {bound : Nat} (sizes : ∀ txs ∈ input, txs.length ≤ bound) :
    batch.txsNode.length ≤ bound := by
  have mem : batch ∈ state.pendingBatches := by
    rw [State.pendingBatches, waiting]
    simp
  rw [pipeline.pending] at mem
  obtain ⟨k, _, rfl⟩ := List.mem_map.mp mem
  rw [constructBatch_length, getD_eq_getElem?_getD]
  cases found : input[k]? with
  | none => simp
  | some txs => exact sizes txs (mem_of_getElem? found)

end

/-- What holds in every run.  The last field is the bound for batches of a given
size. -/
structure WaitingInvariant (platform : Platform) (input : List (List TxWithRef))
    (waitingTxsLimit : Nat) (s : WaitingState) : Prop where
  pipeline : PipelineInvariant platform input s.manager
  balanced : Balanced input waitingTxsLimit s.rejectedReleased s.manager
  bounded :
    ∀ bound, (∀ txs ∈ input, txs.length ≤ bound) →
      s.manager.waiting input = 0 ∨
        s.manager.waiting input < waitingTxsLimit + s.rejectedReleased + bound

section

variable {platform : Platform} {input : List (List TxWithRef)}
variable {waitingTxsLimit : Nat}

theorem waitingInvariant_initial :
    WaitingInvariant platform input waitingTxsLimit
      (waitingManager platform input waitingTxsLimit).initial where
  pipeline := pipelineInvariant_initial waitingTxsLimit
  balanced :=
    { reported := Finset.empty_subset _
      slots := by
        simp [waitingManager, initialState, firstNode, ConstructionPhase.acquiredTxs] }
  bounded := by
    intro bound _
    left
    simp [waitingManager, initialState, State.waiting, firstNode, ConstructionPhase.acquiredTxs]

theorem waitingInvariant_step {s next : WaitingState} {action : WaitingAction}
    (inv : WaitingInvariant platform input waitingTxsLimit s)
    (stepped : waitingStep platform input s action = some next) :
    WaitingInvariant platform input waitingTxsLimit next := by
  cases action with
  | receiveRejected rejected =>
    cases stepped
    exact ⟨inv.pipeline, inv.balanced, inv.bounded⟩
  | manager managerAction =>
    simp only [waitingStep] at stepped
    split at stepped
    · obtain ⟨manager, managerStepped, rfl⟩ := map_eq_some_iff.mp stepped
      have balanced := inv.balanced.step inv.pipeline managerStepped
      refine ⟨inv.pipeline.step managerStepped, balanced, ?_⟩
      intro bound sizes
      have before := inv.balanced.slots_eq
      have after := balanced.slots_eq
      rcases slots_step managerStepped with grows | ⟨rfl, available, batch, rest, waiting, taken⟩
      · -- No slot was taken, so no more transactions are waiting.
        have bounded := inv.bounded bound sizes
        simp only
        omega
      · have size := inv.pipeline.next_length waiting sizes
        simp only [WaitingAction.released] at after ⊢
        omega
    · cases stepped

theorem waitingInvariant_run {actions : List WaitingAction} {s : WaitingState}
    (reached : (waitingManager platform input waitingTxsLimit).run actions = some s) :
    WaitingInvariant platform input waitingTxsLimit s :=
  (waitingManager platform input waitingTxsLimit).invariant_run
    (WaitingInvariant platform input waitingTxsLimit)
    waitingInvariant_initial
    (fun _ _ _ inv stepped => waitingInvariant_step inv stepped)
    reached

/-- The step gives no slots back for rejected transactions. -/
def NoneRejected (_ : WaitingState) (action : WaitingAction) : Prop := action.released = 0

instance (s : WaitingState) (action : WaitingAction) : Decidable (NoneRejected s action) :=
  inferInstanceAs (Decidable (action.released = 0))

theorem rejectedReleased_eq_zero {actions : List WaitingAction} {s : WaitingState}
    (reached : (waitingManager platform input waitingTxsLimit).run actions = some s)
    (noneRejected :
      (waitingManager platform input waitingTxsLimit).Guarded NoneRejected
        (waitingManager platform input waitingTxsLimit).initial actions) :
    s.rejectedReleased = 0 := by
  refine
    (waitingManager platform input waitingTxsLimit).invariant_guarded
      NoneRejected (fun s => s.rejectedReleased = 0) ?_ rfl noneRejected
      reached
  intro state action next zero none stepped
  cases action with
  | receiveRejected rejected =>
    cases stepped
    exact zero
  | manager managerAction =>
    simp only [waitingManager, waitingStep] at stepped
    split at stepped
    · obtain ⟨manager, _, rfl⟩ := map_eq_some_iff.mp stepped
      rw [zero, none]
    · cases stepped

/-- A batch can take its slots exactly if it is there and the waiting transactions
are below the limit plus the rejected transactions that came back. -/
theorem acquire_iff
    {s : WaitingState} (inv : WaitingInvariant platform input waitingTxsLimit s) :
    (step platform input s.manager .acquire).isSome ↔
      s.manager.construction = .reading ∧
        s.manager.incomingTransactionsNode ≠ [] ∧
        s.manager.waiting input < waitingTxsLimit + s.rejectedReleased := by
  have slots := inv.balanced.slots_eq
  cases construction_eq : s.manager.construction with
  | acquired batch => simp [step, construction_eq]
  | sending depFreeTxs => simp [step, construction_eq]
  | reading =>
    cases incoming_eq : s.manager.incomingTransactionsNode with
    | nil => simp [step, construction_eq, incoming_eq]
    | cons batch rest =>
      have enough :
          1 ≤ s.manager.availableSlots ↔
            s.manager.waiting input < waitingTxsLimit + s.rejectedReleased := by
        omega
      by_cases available : 1 ≤ s.manager.availableSlots
      · simp [step, construction_eq, incoming_eq, available, enough.mp available]
      · simp [step, construction_eq, incoming_eq, available, ← enough]

/-- In every run, a batch enters if and only if fewer transactions are waiting than
the limit and the rejected transactions that came back together.  As long as no
rejected transaction came back, a batch enters below the limit only, and the waiting
transactions never reach the limit plus the size of a batch. -/
theorem waiting_below_limit {actions : List WaitingAction} {s : WaitingState}
    (reached : (waitingManager platform input waitingTxsLimit).run actions = some s) :
    ((step platform input s.manager .acquire).isSome ↔
      s.manager.construction = .reading ∧
        s.manager.incomingTransactionsNode ≠ [] ∧
        s.manager.waiting input < waitingTxsLimit + s.rejectedReleased) ∧
    ((waitingManager platform input waitingTxsLimit).Guarded NoneRejected
        (waitingManager platform input waitingTxsLimit).initial actions →
      ((step platform input s.manager .acquire).isSome →
        s.manager.waiting input < waitingTxsLimit) ∧
      ∀ bound, (∀ txs ∈ input, txs.length ≤ bound) →
        s.manager.waiting input = 0 ∨ s.manager.waiting input < waitingTxsLimit + bound) := by
  have invariant := waitingInvariant_run reached
  have enters := acquire_iff invariant
  refine ⟨enters, ?_⟩
  intro noneRejected
  have zero := rejectedReleased_eq_zero reached noneRejected
  constructor
  · intro enabled
    have below := (enters.mp enabled).2.2
    rw [zero] at below
    exact below
  · intro bound sizes
    have bounded := invariant.bounded bound sizes
    rw [zero] at bounded
    exact bounded

end

/-- Two batches with one transaction each. -/
def pairInput : List (List TxWithRef) := [[dataTx 0 [1]], [dataTx 1 [2]]]

def receiveAndEmit : List WaitingAction := [.manager .receive, .manager .construct, .manager .emit]

def enterGraph : List WaitingAction :=
  [.manager .acquire, .manager .addToGraph, .manager .sendDepFree]

def malformedTx : TxStatus := ⟨⟨[3], 1, 2⟩, .malformedNoWrites⟩

/-- The first batch is in the graph, the second is waiting, and the rejected
transaction of the block comes back. -/
def rejectedActions : List WaitingAction :=
  receiveAndEmit ++ receiveAndEmit ++ [.receiveRejected [malformedTx]] ++
    enterGraph ++ [.manager (.readValidated [] 1)]

/-- The transaction of the first batch comes back. -/
def validatedActions : List WaitingAction :=
  receiveAndEmit ++ receiveAndEmit ++ [.receiveRejected [malformedTx]] ++
    enterGraph ++ [.manager (.readValidated [0] 0)]

/-- The second batch enters while one transaction is waiting, so that two are. -/
theorem rejected_transaction_exceeds_limit :
    ∃ s next,
      (waitingManager permissivePlatform pairInput 1).run rejectedActions = some s ∧
      (waitingManager permissivePlatform pairInput 1).runFrom s enterGraph = some next ∧
      s.manager.waiting pairInput = 1 ∧
      next.manager.waiting pairInput = 1 + 1 := by
  have evaluated :
      ((waitingManager permissivePlatform pairInput 1).run
          rejectedActions).bind
          (fun s =>
            ((waitingManager permissivePlatform pairInput 1).runFrom s enterGraph).map
              fun next => (s.manager.waiting pairInput, next.manager.waiting pairInput)) =
        some (1, 2) := by
    decide +kernel
  obtain ⟨s, reached, continued⟩ := bind_eq_some_iff.mp evaluated
  obtain ⟨next, entered, counts⟩ := map_eq_some_iff.mp continued
  exact ⟨s, next, reached, entered, congrArg Prod.fst counts, congrArg Prod.snd counts⟩

theorem validated_transaction_makes_room :
    ∃ s,
      (waitingManager permissivePlatform pairInput 1).run validatedActions = some s ∧
      (step permissivePlatform pairInput s.manager .acquire).isSome ∧
      s.manager.waiting pairInput < 1 := by
  have evaluated :
      ((waitingManager permissivePlatform pairInput 1).run
          validatedActions).map
          (fun s => (step permissivePlatform pairInput s.manager .acquire).isSome) =
        some true := by
    decide +kernel
  have noneRejected :
      (waitingManager permissivePlatform pairInput 1).Guarded NoneRejected
        (waitingManager permissivePlatform pairInput 1).initial
        validatedActions := by
    decide +kernel
  obtain ⟨s, reached, enabled⟩ := map_eq_some_iff.mp evaluated
  exact ⟨s, reached, enabled, ((waiting_below_limit reached).2 noneRejected).1 enabled⟩

end FabricXCommitter.DependencyGraph
