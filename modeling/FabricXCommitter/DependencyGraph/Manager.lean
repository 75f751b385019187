import FabricXCommitter.DependencyGraph.Construction
import FabricXCommitter.Library.Machine
import Mathlib.Algebra.Order.Group.Multiset
import Mathlib.Algebra.Order.Ring.Nat

/-!
# The dependency-graph manager as a machine

Batch `k` of a fixed input has the ID `k + 1`, and the workers are not bounded.
-/

namespace FabricXCommitter.DependencyGraph

section

variable (platform : Platform) (input : List (List TxWithRef))

def firstNode (k : Nat) : Nat := ((input.take k).map List.length).sum

def batchNodes (k : Nat) : List Nat := List.range' (firstNode input k) (input.getD k []).length

def noKeys : ReadWriteKeys := ⟨[], [], []⟩

/-- The `rwKeys` of a node, fixed by `newTransactionNode`. -/
def rwKeys (n : Nat) : ReadWriteKeys :=
  match input.flatten[n]? with
  | some tx => readAndWriteKeys platform tx.content.namespaces
  | none => noKeys

def constructBatch (id : Nat) : TransactionNodeBatch :=
  construct (rwKeys platform input) id (batchNodes input (id - 1))

end

/-- The position of the loop of `constructDependencyGraph`. -/
inductive ConstructionPhase where
  | reading
  | acquired (batch : TransactionNodeBatch)
  | sending (depFreeTxs : List Nat)

/-- The position of the loop of `processValidatedTransactions`. -/
inductive ValidationPhase where
  | reading
  | released (txsNode : List Nat)
  | freed (fullyFreedDependents : Multiset Nat)

/-- The state of the manager.  `received`, `entered`, `reported` and
`validated` record the history: the batches received and added to the graph,
the transactions read from the validated channel, and those removed from the
graph. -/
structure State where
  received : Nat
  incomingTransactions : List Nat
  constructed : List TransactionNodeBatch
  lastOutputtedID : Nat
  incomingTransactionsNode : List TransactionNodeBatch
  availableSlots : Int
  construction : ConstructionPhase
  entered : Nat
  graph : Graph
  detector : Detector
  validation : ValidationPhase
  reported : Finset Nat
  validated : Finset Nat
  freedTransactionsSet : Multiset Nat
  freedOutput : Multiset Nat
  outgoing : Multiset Nat

def initialState (waitingTxsLimit : Nat) : State where
  received := 0
  incomingTransactions := []
  constructed := []
  lastOutputtedID := 0
  incomingTransactionsNode := []
  availableSlots := waitingTxsLimit
  construction := .reading
  entered := 0
  graph := Graph.new
  detector := newDependencyDetector
  validation := .reading
  reported := ∅
  validated := ∅
  freedTransactionsSet := 0
  freedOutput := 0
  outgoing := 0

inductive Action where
  | receive
  | construct
  | emit
  | acquire
  | addToGraph
  | sendDepFree
  | readValidated (txsNode : List Nat) (rejected : Nat)
  | freeDependents
  | addFreed
  | takeFreed
  | sendFreed
  deriving DecidableEq, Repr

section

variable (platform : Platform) (input : List (List TxWithRef))

/-- A worker outputs its batch once `lastOutputtedID` is the preceding ID. -/
def emit (state : State) : Option State :=
  let id := state.lastOutputtedID + 1
  (state.constructed.find? fun batch => batch.id == id).map fun batch =>
    { state with
      constructed := state.constructed.eraseP fun batch => batch.id == id
      lastOutputtedID := id
      incomingTransactionsNode := state.incomingTransactionsNode ++ [batch] }

/-- The coordinator reports transactions of the graph, each of them once.
Rejected transactions share the channel; they have no keys and no dependents,
so only their slots count. -/
def readValidated (state : State) (txsNode : List Nat) (rejected : Nat) : Option State :=
  match state.validation with
  | .reading =>
    if txsNode.Nodup ∧ ∀ n ∈ txsNode, n < firstNode input state.entered ∧ n ∉ state.reported then
      some
        { state with
          availableSlots := state.availableSlots + txsNode.length + rejected
          validation := .released txsNode
          reported := state.reported ∪ txsNode.toFinset }
    else
      none
  | _ => none

def step (state : State) : Action → Option State
  | .receive =>
    if state.received < input.length then
      some
        { state with
          received := state.received + 1
          incomingTransactions := state.incomingTransactions ++ [state.received + 1] }
    else
      none
  | .construct =>
    match state.incomingTransactions with
    | [] => none
    | id :: rest =>
      some
        { state with
          incomingTransactions := rest
          constructed := constructBatch platform input id :: state.constructed }
  | .emit => emit state
  | .acquire =>
    match state.construction, state.incomingTransactionsNode with
    | .reading, batch :: rest =>
      if 1 ≤ state.availableSlots then
        some
          { state with
            incomingTransactionsNode := rest
            availableSlots := state.availableSlots - batch.txsNode.length
            construction := .acquired batch }
      else
        none
    | _, _ => none
  | .addToGraph =>
    match state.construction with
    | .acquired batch =>
      let added := addBatch (rwKeys platform input) state.graph state.detector batch
      some
        { state with
          entered := state.entered + 1
          graph := added.1
          detector := added.2.1
          construction := .sending added.2.2 }
    | _ => none
  | .sendDepFree =>
    match state.construction with
    | .sending depFreeTxs =>
      some
        { state with
          construction := .reading
          outgoing := state.outgoing + depFreeTxs }
    | _ => none
  | .readValidated txsNode rejected => readValidated input state txsNode rejected
  | .freeDependents =>
    match state.validation with
    | .released txsNode =>
      let removed := removeValidated (rwKeys platform input) state.graph state.detector txsNode
      some
        { state with
          graph := removed.1
          detector := removed.2.1
          validation := .freed removed.2.2
          validated := state.validated ∪ txsNode.toFinset }
    | _ => none
  | .addFreed =>
    match state.validation with
    | .freed fullyFreedDependents =>
      some
        { state with
          validation := .reading
          freedTransactionsSet := state.freedTransactionsSet + fullyFreedDependents }
    | _ => none
  | .takeFreed =>
    if state.freedOutput = 0 then
      some
        { state with
          freedTransactionsSet := 0
          freedOutput := state.freedTransactionsSet }
    else
      none
  | .sendFreed =>
    some
      { state with
        freedOutput := 0
        outgoing := state.outgoing + state.freedOutput }

/-- The manager over a fixed input. -/
def manager (waitingTxsLimit : Nat) : Library.Machine State Action where
  initial := initialState waitingTxsLimit
  step := step platform input

end

section

variable (platform : Platform) (input : List (List TxWithRef))

inductive Stepped (state : State) : Action → State → Prop where
  | receive (more : state.received < input.length) :
      Stepped state .receive
        { state with
          received := state.received + 1
          incomingTransactions := state.incomingTransactions ++ [state.received + 1] }
  | construct {id : Nat} {rest : List Nat} (queued : state.incomingTransactions = id :: rest) :
      Stepped state .construct
        { state with
          incomingTransactions := rest
          constructed := constructBatch platform input id :: state.constructed }
  | emit {next : State} (emitted : DependencyGraph.emit state = some next) :
      Stepped state .emit next
  | acquire {batch : TransactionNodeBatch} {rest : List TransactionNodeBatch}
      (reading : state.construction = .reading)
      (waiting : state.incomingTransactionsNode = batch :: rest)
      (available : 1 ≤ state.availableSlots) :
      Stepped state .acquire
        { state with
          incomingTransactionsNode := rest
          availableSlots := state.availableSlots - batch.txsNode.length
          construction := .acquired batch }
  | addToGraph {batch : TransactionNodeBatch} (working : state.construction = .acquired batch)
      {added : Graph × Detector × List Nat}
      (addition : added = addBatch (rwKeys platform input) state.graph state.detector batch) :
      Stepped state .addToGraph
        { state with
          entered := state.entered + 1
          graph := added.1
          detector := added.2.1
          construction := .sending added.2.2 }
  | sendDepFree {depFreeTxs : List Nat} (sending : state.construction = .sending depFreeTxs) :
      Stepped state .sendDepFree
        { state with
          construction := .reading
          outgoing := state.outgoing + depFreeTxs }
  | readValidated {txsNode : List Nat} {rejected : Nat} {next : State}
      (read : DependencyGraph.readValidated input state txsNode rejected = some next) :
      Stepped state (.readValidated txsNode rejected) next
  | freeDependents {txsNode : List Nat} (released : state.validation = .released txsNode)
      {removed : Graph × Detector × Multiset Nat}
      (removal :
        removed = removeValidated (rwKeys platform input) state.graph state.detector txsNode) :
      Stepped state .freeDependents
        { state with
          graph := removed.1
          detector := removed.2.1
          validation := .freed removed.2.2
          validated := state.validated ∪ txsNode.toFinset }
  | addFreed {fullyFreedDependents : Multiset Nat}
      (freed : state.validation = .freed fullyFreedDependents) :
      Stepped state .addFreed
        { state with
          validation := .reading
          freedTransactionsSet := state.freedTransactionsSet + fullyFreedDependents }
  | takeFreed (idle : state.freedOutput = 0) :
      Stepped state .takeFreed
        { state with
          freedTransactionsSet := 0
          freedOutput := state.freedTransactionsSet }
  | sendFreed :
      Stepped state .sendFreed
        { state with
          freedOutput := 0
          outgoing := state.outgoing + state.freedOutput }

variable {platform input}

theorem stepped_of_step {state next : State} {action : Action}
    (stepped : step platform input state action = some next) :
    Stepped platform input state action next := by
  revert stepped
  fun_cases step platform input state action <;> intro stepped
  all_goals first
    | exact .emit stepped
    | exact .readValidated stepped
    | cases stepped
  all_goals constructor <;> first | assumption | rfl

end

/-- A step leaves the graph alone, adds the batch on which the construction loop
works, or removes the transactions that the validation loop has read. -/
inductive GraphStep
    (platform : Platform) (input : List (List TxWithRef)) (state next : State) : Prop where
  | same
      (entered : next.entered = state.entered)
      (graph : next.graph = state.graph)
      (detector : next.detector = state.detector)
      (validated : next.validated = state.validated)
  | enter {batch : TransactionNodeBatch}
      (working : state.construction = .acquired batch)
      (entered : next.entered = state.entered + 1)
      (graph : next.graph = (addBatch (rwKeys platform input) state.graph state.detector batch).1)
      (detector :
        next.detector = (addBatch (rwKeys platform input) state.graph state.detector batch).2.1)
      (validated : next.validated = state.validated)
  | validate {txsNode : List Nat}
      (released : state.validation = .released txsNode)
      (entered : next.entered = state.entered)
      (graph :
        next.graph = (removeValidated (rwKeys platform input) state.graph state.detector txsNode).1)
      (detector :
        next.detector =
          (removeValidated (rwKeys platform input) state.graph state.detector txsNode).2.1)
      (validated : next.validated = state.validated ∪ txsNode.toFinset)

/-- The nodes that an action takes from the validated channel. -/
def Action.reports : Action → List Nat
  | .readValidated txsNode _ => txsNode
  | _ => []

section

variable {platform : Platform} {input : List (List TxWithRef)}
variable {state next : State} {action : Action}

theorem readValidated_eq_some {txsNode : List Nat} {rejected : Nat}
    (read : readValidated input state txsNode rejected = some next) :
    state.validation = .reading ∧
      (txsNode.Nodup ∧
        ∀ n ∈ txsNode, n < firstNode input state.entered ∧ n ∉ state.reported) ∧
        next =
          { state with
            availableSlots := state.availableSlots + txsNode.length + rejected
            validation := .released txsNode
            reported := state.reported ∪ txsNode.toFinset } := by
  rw [readValidated] at read
  split at read
  · rename_i idle
    split at read
    · rename_i accepted
      cases read
      exact ⟨idle, accepted, rfl⟩
    · cases read
  · cases read

theorem graphStep_of_step (stepped : step platform input state action = some next) :
    GraphStep platform input state next := by
  cases stepped_of_step stepped with
  | addToGraph working addition =>
    subst addition
    exact .enter working rfl rfl rfl rfl
  | freeDependents released removal =>
    subst removal
    exact .validate released rfl rfl rfl rfl
  | readValidated read =>
    obtain ⟨_, _, rfl⟩ := readValidated_eq_some read
    exact .same rfl rfl rfl rfl
  | emit emitted =>
    obtain ⟨batch, _, rfl⟩ := Option.map_eq_some_iff.mp emitted
    exact .same rfl rfl rfl rfl
  | receive | construct | acquire | sendDepFree | addFreed | takeFreed | sendFreed =>
    exact .same rfl rfl rfl rfl

/-- What was output stays output, and a node is reported by being read from the
validated channel before it is removed from the graph. -/
theorem history_of_step (stepped : step platform input state action = some next) :
    state.outgoing ≤ next.outgoing ∧ next.reported = state.reported ∪ action.reports.toFinset := by
  have unreported : ∀ reported : Finset Nat, reported = reported ∪ ([] : List Nat).toFinset :=
    fun reported => (Finset.union_empty reported).symm
  cases stepped_of_step stepped with
  | readValidated read =>
    obtain ⟨_, _, rfl⟩ := readValidated_eq_some read
    exact ⟨le_rfl, rfl⟩
  | emit emitted =>
    obtain ⟨batch, _, rfl⟩ := Option.map_eq_some_iff.mp emitted
    exact ⟨le_rfl, unreported _⟩
  | sendDepFree | sendFreed => exact ⟨Multiset.le_add_right _ _, unreported _⟩
  | receive | construct | acquire | addToGraph | freeDependents | addFreed | takeFreed =>
    exact ⟨le_rfl, unreported _⟩

end

end FabricXCommitter.DependencyGraph
