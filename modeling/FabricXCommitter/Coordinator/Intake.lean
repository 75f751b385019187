import FabricXCommitter.Library.Machine
import FabricXCommitter.Transaction
import Mathlib.Algebra.Order.Ring.Nat

/-!
# Receiving blocks in the coordinator

The writers carry the context of the stream; the counters and channels outlive it.
-/

namespace FabricXCommitter.Coordinator.Intake

open Library List Option

structure Block where
  txs : List TxWithRef
  rejected : List TxStatus
  deriving DecidableEq, Repr

structure TransactionBatch where
  id : UInt64
  txs : List TxWithRef
  deriving DecidableEq, Repr

def newRejectedTransactionNode (tx : TxStatus) : VcTx where
  ref := tx.ref
  namespaces := []
  prelimInvalidTxStatus := some tx.status

structure DependencyGraphConfig where
  numOfLocalDepConstructors : Nat
  waitingTxsLimit : Nat
  chunkSize : Nat
  numOfLocalDepConstructors_pos : 0 < numOfLocalDepConstructors
  numOfLocalDepConstructors_lt : numOfLocalDepConstructors < 2 ^ 63
  waitingTxsLimit_pos : 0 < waitingTxsLimit
  chunkSize_pos : 0 < chunkSize

def DependencyGraphConfig.chunkSizeForDepGraph (config : DependencyGraphConfig) : Nat :=
  min config.waitingTxsLimit config.chunkSize

theorem DependencyGraphConfig.chunkSizeForDepGraph_pos (config : DependencyGraphConfig) :
    0 < config.chunkSizeForDepGraph :=
  Nat.lt_min.mpr ⟨config.waitingTxsLimit_pos, config.chunkSize_pos⟩

/-- Where the receiving goroutine is.  `write` and `select` are the two parts
of `Write`, with the part of the block that is not yet written. -/
inductive Position where
  | idle
  | check
  | recv
  | write (txs : List TxWithRef) (rejected : List TxStatus)
  | select (txs : List TxWithRef) (rejected : List TxStatus)
  deriving DecidableEq, Repr

def Position.pendingTxs : Position → List TxWithRef
  | .write txs _ => txs
  | .select txs _ => txs
  | _ => []

def Position.pendingRejected : Position → List TxStatus
  | .write _ rejected => rejected
  | .select _ rejected => rejected
  | _ => []

/-- No part of a block is left to write. -/
def Position.Clear (position : Position) : Prop :=
  position.pendingTxs = [] ∧ position.pendingRejected = []

instance (position : Position) : Decidable position.Clear := inferInstanceAs (Decidable (_ ∧ _))

@[simp]
theorem Position.pendingTxs_write (txs : List TxWithRef) (rejected : List TxStatus) :
    (Position.write txs rejected).pendingTxs = txs :=
  rfl

@[simp]
theorem Position.pendingRejected_write (txs : List TxWithRef) (rejected : List TxStatus) :
    (Position.write txs rejected).pendingRejected = rejected :=
  rfl

/-- `countedTxs` and `countedRejected` are the transactions that were added to
`numTxsInProgress`, and `toDepGraph` and `toVcService` are all the values ever
written to the two channels. -/
structure State where
  cancelled : Bool := false
  position : Position := .idle
  numTxsInProgress : Int32 := 0
  txBatchIDToDepGraph : UInt64 := 1
  coordinatorToDepGraphTxs : List TransactionBatch := []
  constructing : List TransactionBatch := []
  lastOutputtedID : UInt64 := 0
  countedTxs : List TxWithRef := []
  countedRejected : List TxStatus := []
  toDepGraph : List TransactionBatch := []
  toVcService : List (List VcTx) := []
  constructed : List TransactionBatch := []
  deriving DecidableEq, Repr

inductive Action where
  | openStream
  | cancel
  | receive (blk : Block)
  | receiveError
  | advance
  | send
  | done
  | readBatch
  | outputBatch (worker : Nat)
  deriving DecidableEq, Repr

variable {s next : State} {action : Action}

section

variable (config : DependencyGraphConfig)

/-- The part of the block at hand is put into its channel. -/
def State.deliver (s : State) (txs : List TxWithRef) (rejected : List TxStatus) : State :=
  if txs = [] then
    { s with
      toVcService := s.toVcService ++ [rejected.map newRejectedTransactionNode] }
  else
    let batch : TransactionBatch := ⟨s.txBatchIDToDepGraph, txs.take config.chunkSizeForDepGraph⟩
    { s with
      coordinatorToDepGraphTxs := s.coordinatorToDepGraphTxs ++ [batch]
      toDepGraph := s.toDepGraph ++ [batch] }

/-- `Write` has returned.  Its result is not looked at. -/
def State.proceed (s : State) (txs : List TxWithRef) (rejected : List TxStatus) : State :=
  if txs = [] then
    { s with position := .write [] [] }
  else
    { s with
      txBatchIDToDepGraph := s.txBatchIDToDepGraph + 1
      position := .write (txs.drop config.chunkSizeForDepGraph) rejected }

def advance (s : State) : Option State :=
  match s.position with
  | .check => some { s with position := if s.cancelled then .idle else .recv }
  | .write txs rejected =>
    if txs = [] ∧ rejected = [] then
      some { s with position := .check }
    else if s.cancelled then
      some (s.proceed config txs rejected)
    else
      some { s with position := .select txs rejected }
  | _ => none

def receive (s : State) (blk : Block) : Option State :=
  match s.position with
  | .recv =>
    some
      { s with
        numTxsInProgress := s.numTxsInProgress + Int32.ofNat (blk.txs.length + blk.rejected.length)
        countedTxs := s.countedTxs ++ blk.txs
        countedRejected := s.countedRejected ++ blk.rejected
        position := .write blk.txs blk.rejected }
  | _ => none

/-- The constructor that holds the batch compares and swaps the last number. -/
def outputBatch (s : State) (worker : Nat) : Option State :=
  s.constructing[worker]?.bind fun batch =>
    if s.lastOutputtedID = batch.id - 1 then
      some
        { s with
          lastOutputtedID := batch.id
          constructing := s.constructing.eraseIdx worker
          constructed := s.constructed ++ [batch] }
    else
      none

def step (s : State) : Action → Option State
  | .openStream =>
    if s.position = .idle then
      some { s with position := .check, cancelled := false }
    else
      none
  | .cancel => some { s with cancelled := true }
  | .receive blk => receive s blk
  | .receiveError =>
    if s.position = .recv then some { s with position := .idle } else none
  | .advance => advance config s
  | .send =>
    match s.position with
    | .select txs rejected => some ((s.deliver config txs rejected).proceed config txs rejected)
    | _ => none
  | .done =>
    match s.position with
    | .select txs rejected =>
      if s.cancelled then
        some (s.proceed config txs rejected)
      else
        none
    | _ => none
  | .readBatch =>
    if s.constructing.length < config.numOfLocalDepConstructors then
      match s.coordinatorToDepGraphTxs with
      | [] => none
      | batch :: rest =>
        some
          { s with
            coordinatorToDepGraphTxs := rest
            constructing := s.constructing ++ [batch] }
    else
      none
  | .outputBatch worker => outputBatch s worker

def intake : Machine State Action where
  initial := {}
  step := step config

end

/-! ## What becomes of the counted transactions -/

/-- The transactions that are written for the dependency graph or about to
be. -/
def State.forwardedTxs (s : State) : List TxWithRef :=
  s.toDepGraph.flatMap TransactionBatch.txs ++ s.position.pendingTxs

def State.forwardedRejected (s : State) : List VcTx :=
  s.toVcService.flatten ++ s.position.pendingRejected.map newRejectedTransactionNode

/-- Every counted transaction is written or about to be, and the batch numbers
are consecutive from 1. -/
structure Forwarded (s : State) : Prop where
  txs : s.countedTxs = s.forwardedTxs
  rejected : s.countedRejected.map newRejectedTransactionNode = s.forwardedRejected
  consecutive :
    s.toDepGraph.map TransactionBatch.id =
      (List.range s.toDepGraph.length).map fun n => UInt64.ofNat (n + 1)

section

variable (config : DependencyGraphConfig)

/-- If a batch is not put out, then a constructor can put its batch out, or all
constructors are free and there is a batch to read. -/
def Progress (s : State) : Prop :=
  s.constructed.length < s.toDepGraph.length →
    (∃ worker, (step config s (.outputBatch worker)).isSome) ∨
      s.constructing = [] ∧ (step config s .readBatch).isSome

/-- A transaction was counted that is neither written nor about to be. -/
def Lost (s : State) : Prop :=
  s.forwardedTxs.length < s.countedTxs.length ∨
    s.forwardedRejected.length < s.countedRejected.length

theorem Forwarded.not_lost (forwarded : Forwarded s) : ¬ Lost s := by
  have rejected := congrArg List.length forwarded.rejected
  rw [length_map] at rejected
  rw [Lost, forwarded.txs, rejected]
  omega

/-- No `Write` of a part of a received block finds its context cancelled. -/
def WriteLands (s : State) : Action → Prop
  | .advance => s.cancelled = true → s.position.Clear
  | .done => False
  | _ => True

instance (s : State) : ∀ action, Decidable (WriteLands s action)
  | .advance => inferInstanceAs (Decidable (_ → _))
  | .done => inferInstanceAs (Decidable False)
  | .openStream | .cancel | .receive _ | .receiveError | .send | .readBatch
  | .outputBatch _ => inferInstanceAs (Decidable True)

/-- What a step does to the counted transactions and to those written or about
to be written. -/
inductive Effect (s : State) (action : Action) (next : State) : Prop where
  | unchanged
      (lands : WriteLands s action)
      (countedTxs : next.countedTxs = s.countedTxs)
      (forwardedTxs : next.forwardedTxs = s.forwardedTxs)
      (countedRejected : next.countedRejected = s.countedRejected)
      (forwardedRejected : next.forwardedRejected = s.forwardedRejected)
  | received (blk : Block)
      (lands : WriteLands s action)
      (countedTxs : next.countedTxs = s.countedTxs ++ blk.txs)
      (forwardedTxs : next.forwardedTxs = s.forwardedTxs ++ blk.txs)
      (countedRejected : next.countedRejected = s.countedRejected ++ blk.rejected)
      (forwardedRejected :
        next.forwardedRejected = s.forwardedRejected ++ blk.rejected.map newRejectedTransactionNode)
  | dropped
      (fails : ¬ WriteLands s action)
      (countedTxs : next.countedTxs = s.countedTxs)
      (countedRejected : next.countedRejected = s.countedRejected)
      (fewer :
        next.forwardedTxs.length < s.forwardedTxs.length ∧
            next.forwardedRejected.length = s.forwardedRejected.length ∨
          next.forwardedTxs.length = s.forwardedTxs.length ∧
            next.forwardedRejected.length < s.forwardedRejected.length)

variable {rejected : List TxStatus} {txs : List TxWithRef}

theorem effect_proceed (pendingTxs : s.position.pendingTxs = txs)
    (pendingRejected : s.position.pendingRejected = rejected)
    (something : ¬ (txs = [] ∧ rejected = [])) (fails : ¬ WriteLands s action) :
    Effect s action (s.proceed config txs rejected) := by
  have positive := config.chunkSizeForDepGraph_pos
  by_cases empty : txs = []
  · have rejectedLength : rejected.length ≠ 0 := by
      rw [Ne, length_eq_zero_iff]
      exact fun none => something ⟨empty, none⟩
    rw [State.proceed, if_pos empty]
    refine Effect.dropped fails rfl rfl (Or.inr ⟨?_, ?_⟩)
    · simp [State.forwardedTxs, pendingTxs, empty]
    · simp only [State.forwardedRejected, Position.pendingRejected_write,
        pendingRejected, length_append, length_map,
        length_nil]
      omega
  · have txsLength : txs.length ≠ 0 := by
      rw [Ne, length_eq_zero_iff]
      exact empty
    rw [State.proceed, if_neg empty]
    refine Effect.dropped fails rfl rfl (Or.inl ⟨?_, ?_⟩)
    · simp only [State.forwardedTxs, Position.pendingTxs_write, pendingTxs,
        length_append, length_drop]
      omega
    · simp [State.forwardedRejected, pendingRejected]

theorem effect_sent (pendingTxs : s.position.pendingTxs = txs)
    (pendingRejected : s.position.pendingRejected = rejected) (lands : WriteLands s action) :
    Effect s action ((s.deliver config txs rejected).proceed config txs rejected) := by
  by_cases empty : txs = []
  · simp only [State.deliver, State.proceed, if_pos empty]
    refine Effect.unchanged lands rfl ?_ rfl ?_
    · simp [State.forwardedTxs, pendingTxs, empty]
    · simp [State.forwardedRejected, pendingRejected]
  · simp only [State.deliver, State.proceed, if_neg empty]
    refine Effect.unchanged lands rfl ?_ rfl ?_
    · simp [State.forwardedTxs, pendingTxs]
    · simp [State.forwardedRejected, pendingRejected]

/-- The `select` of `Write` is only entered with something to write. -/
def SelectPending (s : State) : Prop :=
  ∀ txs rejected, s.position = .select txs rejected → ¬ (txs = [] ∧ rejected = [])

theorem selectPending_proceed (s : State) (txs : List TxWithRef) (rejected : List TxStatus) :
    SelectPending (s.proceed config txs rejected) := by
  intro otherTxs otherRejected same
  by_cases empty : txs = []
  · rw [State.proceed, if_pos empty] at same
    cases same
  · rw [State.proceed, if_neg empty] at same
    cases same

theorem effect_moved (cancelled : Bool) {old position : Position} (isOld : s.position = old)
    (lands : WriteLands s action) (before : old.Clear)
    (after : position = .idle ∨ position = .check ∨ position = .recv) :
    Effect s action { s with position := position, cancelled := cancelled } ∧
      SelectPending { s with position := position, cancelled := cancelled } := by
  subst isOld
  have clear : position.Clear := by
    rcases after with isIdle | isCheck | isRecv
    · exact isIdle ▸ ⟨rfl, rfl⟩
    · exact isCheck ▸ ⟨rfl, rfl⟩
    · exact isRecv ▸ ⟨rfl, rfl⟩
  refine ⟨Effect.unchanged lands rfl ?_ rfl ?_, ?_⟩
  · simp only [State.forwardedTxs, before.1, clear.1]
  · simp only [State.forwardedRejected, before.2, clear.2]
  · intro txs rejected isSelect
    rw [show position = .select txs rejected from isSelect] at after
    simp at after

theorem effect_advance (stepped : advance config s = some next) :
    Effect s .advance next ∧ SelectPending next := by
  revert stepped
  fun_cases advance config s with
  | case1 position =>
    intro stepped
    cases stepped
    refine effect_moved s.cancelled position ?_ ⟨rfl, rfl⟩ ?_
    · intro _
      rw [position]
      exact ⟨rfl, rfl⟩
    · split <;> simp
  | case2 txs rejected position nothing =>
    intro stepped
    cases stepped
    refine effect_moved s.cancelled position ?_ nothing (.inr (.inl rfl))
    intro _
    rw [position]
    exact nothing
  | case3 txs rejected position nothing cancelled =>
    intro stepped
    cases stepped
    refine ⟨effect_proceed config ?_ ?_ nothing ?_, selectPending_proceed config s txs rejected⟩
    · rw [position]
      rfl
    · rw [position]
      rfl
    · intro lands
      have clear := lands cancelled
      rw [position] at clear
      exact nothing clear
  | case4 txs rejected position nothing running =>
    intro stepped
    cases stepped
    refine ⟨Effect.unchanged (fun set => absurd set running) rfl ?_ rfl ?_, ?_⟩
    · simp only [State.forwardedTxs, position]
      rfl
    · simp only [State.forwardedRejected, position]
      rfl
    · intro otherTxs otherRejected same
      cases same
      exact nothing
  | case5 =>
    intro stepped
    cases stepped

theorem effect_receive {blk : Block} (stepped : receive s blk = some next) :
    Effect s (.receive blk) next ∧ SelectPending next := by
  revert stepped
  fun_cases receive s blk with
  | case1 position =>
    intro stepped
    cases stepped
    refine ⟨Effect.received blk trivial rfl ?_ rfl ?_, fun _ _ impossible => nomatch impossible⟩
    · simp [State.forwardedTxs, position, Position.pendingTxs]
    · simp [State.forwardedRejected, position, Position.pendingRejected]
  | case2 =>
    intro stepped
    cases stepped

theorem effect_step (pending : SelectPending s) (stepped : step config s action = some next) :
    Effect s action next ∧ SelectPending next := by
  revert stepped
  fun_cases step config s action with
  | case1 position =>
    intro stepped
    cases stepped
    exact effect_moved false position trivial ⟨rfl, rfl⟩ (.inr (.inl rfl))
  | case5 position =>
    intro stepped
    cases stepped
    exact effect_moved s.cancelled position trivial ⟨rfl, rfl⟩ (.inl rfl)
  | case3 | case14 =>
    intro stepped
    cases stepped
    exact ⟨Effect.unchanged trivial rfl rfl rfl rfl, pending⟩
  | case4 blk => exact effect_receive
  | case7 => exact effect_advance config
  | case8 txs rejected position =>
    intro stepped
    cases stepped
    refine ⟨effect_sent config ?_ ?_ trivial, selectPending_proceed config _ txs rejected⟩
    · rw [position]
      rfl
    · rw [position]
      rfl
  | case10 txs rejected position =>
    intro stepped
    cases stepped
    refine
      ⟨effect_proceed config ?_ ?_ (pending txs rejected position) id,
        selectPending_proceed config s txs rejected⟩
    · rw [position]
      rfl
    · rw [position]
      rfl
  | case16 worker =>
    intro stepped
    obtain ⟨batch, _, swapped⟩ := bind_eq_some_iff.mp stepped
    obtain ⟨_, moved⟩ := ite_none_right_eq_some.mp swapped
    cases moved
    exact ⟨Effect.unchanged trivial rfl rfl rfl rfl, pending⟩
  | _ =>
    intro stepped
    cases stepped

theorem Lost.step (lost : Lost s) (pending : SelectPending s)
    (stepped : Intake.step config s action = some next) :
    Lost next := by
  obtain ⟨effect, _⟩ := effect_step config pending stepped
  rw [Lost] at lost ⊢
  cases effect with
  | unchanged _ countedTxs forwardedTxs countedRejected forwardedRejected =>
    rw [countedTxs, forwardedTxs, countedRejected, forwardedRejected]
    exact lost
  | received blk _ countedTxs forwardedTxs countedRejected
      forwardedRejected =>
      rw [countedTxs, forwardedTxs, countedRejected, forwardedRejected]
      simp only [length_append, length_map]
      omega
  | dropped _ countedTxs countedRejected fewer =>
    rw [countedTxs, countedRejected]
    omega

/-- The written batches are numbered from 1, and the constructors read them and
put them out in that order. -/
structure Numbered (s : State) : Prop where
  consecutive :
    s.toDepGraph.map TransactionBatch.id =
      (List.range s.toDepGraph.length).map fun n => UInt64.ofNat (n + 1)
  next : s.txBatchIDToDepGraph = UInt64.ofNat (s.toDepGraph.length + 1)
  stages : s.toDepGraph = s.constructed ++ s.constructing ++ s.coordinatorToDepGraphTxs
  last : s.lastOutputtedID = UInt64.ofNat s.constructed.length
  workers : s.constructing.length ≤ config.numOfLocalDepConstructors

theorem Numbered.moved (numbered : Numbered config s)
    (cancelled : Bool) (position : Position) (numTxsInProgress : Int32)
    (countedTxs : List TxWithRef) (countedRejected : List TxStatus) :
    Numbered config
      { s with
        cancelled := cancelled
        position := position
        numTxsInProgress := numTxsInProgress
        countedTxs := countedTxs
        countedRejected := countedRejected } :=
  ⟨numbered.consecutive, numbered.next, numbered.stages, numbered.last, numbered.workers⟩

theorem Numbered.write (numbered : Numbered config s) :
    Numbered config ((s.deliver config txs rejected).proceed config txs rejected) := by
  by_cases empty : txs = []
  · simp only [State.deliver, State.proceed, if_pos empty]
    exact ⟨numbered.consecutive, numbered.next, numbered.stages, numbered.last, numbered.workers⟩
  · simp only [State.deliver, State.proceed, if_neg empty]
    refine ⟨?_, ?_, ?_, numbered.last, numbered.workers⟩
    · simp only [map_append, numbered.consecutive, length_append,
        length_singleton, range_succ, map_singleton,
        numbered.next]
    · rw [numbered.next, length_append, length_singleton]
      exact (UInt64.ofNat_add _ 1).symm
    · rw [numbered.stages, append_assoc _ _ [_]]

theorem Numbered.id_constructing
    (numbered : Numbered config s) {worker : Nat} {batch : TransactionBatch}
    (held : s.constructing[worker]? = some batch) :
    batch.id = UInt64.ofNat (s.constructed.length + worker + 1) := by
  obtain ⟨bound, _⟩ := List.getElem?_eq_some_iff.mp held
  have placed : s.toDepGraph[s.constructed.length + worker]? = some batch := by
    rw [numbered.stages, append_assoc,
      getElem?_append_right (Nat.le_add_right _ _),
      Nat.add_sub_cancel_left, getElem?_append_left bound]
    exact held
  have within : s.constructed.length + worker < s.toDepGraph.length :=
    (List.getElem?_eq_some_iff.mp placed).1
  have numbers := congrArg (fun ids => ids[s.constructed.length + worker]?) numbered.consecutive
  simp only [getElem?_map, placed, getElem?_range within, map_some] at numbers
  exact Option.some.inj numbers

theorem ofNat_succ_sub_one (n : Nat) : UInt64.ofNat (n + 1) - 1 = UInt64.ofNat n := by
  rw [UInt64.ofNat_add]
  exact UInt64.add_sub_cancel _ _

section

variable (numbered : Numbered config s)

include numbered

theorem Numbered.worker_eq_zero
    {worker : Nat} {batch : TransactionBatch} (held : s.constructing[worker]? = some batch)
    (follows : s.lastOutputtedID = batch.id - 1) :
    worker = 0 := by
  obtain ⟨bound, _⟩ := List.getElem?_eq_some_iff.mp held
  have few := numbered.workers
  have limit := config.numOfLocalDepConstructors_lt
  rw [numbered.id_constructing config held, ofNat_succ_sub_one, numbered.last] at follows
  have remainders := congrArg UInt64.toNat follows
  rw [UInt64.toNat_ofNat', UInt64.toNat_ofNat'] at remainders
  omega

theorem Numbered.outputBatch {worker : Nat} (stepped : Intake.outputBatch s worker = some next) :
    Numbered config next := by
  obtain ⟨batch, held, swapped⟩ := bind_eq_some_iff.mp stepped
  obtain ⟨follows, moved⟩ := ite_none_right_eq_some.mp swapped
  have same := Option.some.inj moved
  subst same
  have first := numbered.worker_eq_zero config held follows
  subst first
  have number := numbered.id_constructing config held
  have stages := numbered.stages
  have workers := numbered.workers
  cases constructing : s.constructing with
  | nil =>
    rw [constructing] at held
    cases held
  | cons oldest others =>
    rw [constructing] at held stages workers
    have same := Option.some.inj held
    subst same
    refine ⟨numbered.consecutive, numbered.next, ?_, ?_, ?_⟩
    · rw [stages]
      simp
    · rw [length_append, length_singleton]
      exact number
    · exact Nat.le_of_succ_le workers

theorem Numbered.advance
    (lands : WriteLands s .advance) (stepped : Intake.advance config s = some next) :
    Numbered config next := by
  revert stepped
  fun_cases Intake.advance config s with
  | case1 | case2 | case4 =>
    intro stepped
    exact Option.some.inj stepped ▸ numbered.moved config _ _ _ _ _
  | case3 txs rejected position nothing cancelled =>
    have clear := lands cancelled
    rw [position] at clear
    exact absurd clear nothing
  | case5 =>
    intro stepped
    cases stepped

theorem Numbered.step
    (lands : WriteLands s action) (stepped : Intake.step config s action = some next) :
    Numbered config next := by
  revert stepped
  fun_cases Intake.step config s action with
  | case1 | case3 | case5 =>
    intro stepped
    cases stepped
    exact numbered.moved config _ _ _ _ _
  | case4 blk =>
    fun_cases receive s blk with
    | case1 =>
      intro stepped
      cases stepped
      exact numbered.moved config _ _ _ _ _
    | case2 =>
      intro stepped
      cases stepped
  | case7 => exact numbered.advance config lands
  | case8 =>
    intro stepped
    cases stepped
    exact numbered.write config
  | case10 => exact lands.elim
  | case14 free batch rest channel =>
    intro stepped
    cases stepped
    refine ⟨numbered.consecutive, numbered.next, ?_, numbered.last, ?_⟩
    · rw [numbered.stages, channel]
      simp
    · rw [length_append, length_singleton]
      exact free
  | case16 worker => exact numbered.outputBatch config
  | _ =>
    intro stepped
    cases stepped

theorem Numbered.progress : Progress config s := by
  intro unfinished
  have stages := numbered.stages
  cases constructing : s.constructing with
  | nil =>
    right
    refine ⟨rfl, ?_⟩
    have free : ([] : List TransactionBatch).length < config.numOfLocalDepConstructors :=
      config.numOfLocalDepConstructors_pos
    cases channel : s.coordinatorToDepGraphTxs with
    | nil =>
      rw [constructing, channel, append_nil, append_nil] at stages
      rw [stages] at unfinished
      exact absurd unfinished (Nat.lt_irrefl _)
    | cons batch rest =>
      simp only [Intake.step, constructing, channel, if_pos free, isSome_some]
  | cons oldest others =>
    left
    have held : s.constructing[0]? = some oldest := by
      rw [constructing]
      rfl
    have follows : s.lastOutputtedID = oldest.id - 1 := by
      rw [numbered.id_constructing config held, ofNat_succ_sub_one, numbered.last]
    refine ⟨0, ?_⟩
    simp only [Intake.step, Intake.outputBatch, held, bind_some, if_pos follows, isSome_some]

end

structure Sound (s : State) : Prop where
  forwarded : Forwarded s
  numbered : Numbered config s
  pending : SelectPending s

theorem sound_initial : Sound config (intake config).initial where
  forwarded := ⟨rfl, rfl, rfl⟩
  numbered := ⟨rfl, rfl, rfl, rfl, Nat.zero_le _⟩
  pending := fun _ _ impossible => nomatch impossible

theorem Sound.step (sound : Sound config s) (lands : WriteLands s action)
    (stepped : Intake.step config s action = some next) :
    Sound config next := by
  obtain ⟨effect, pending⟩ := effect_step config sound.pending stepped
  have numbered := sound.numbered.step config lands stepped
  have forwarded := sound.forwarded
  refine ⟨⟨?_, ?_, numbered.consecutive⟩, numbered, pending⟩
  · cases effect with
    | unchanged _ countedTxs forwardedTxs _ _ => rw [countedTxs, forwardedTxs, forwarded.txs]
    | received blk _ countedTxs forwardedTxs _ _ => rw [countedTxs, forwardedTxs, forwarded.txs]
    | dropped fails _ _ _ => exact absurd lands fails
  · cases effect with
    | unchanged _ _ _ countedRejected forwardedRejected =>
      rw [countedRejected, forwardedRejected, forwarded.rejected]
    | received blk _ _ _ countedRejected forwardedRejected =>
      rw [countedRejected, forwardedRejected, map_append, forwarded.rejected]
    | dropped fails _ _ _ => exact absurd lands fails

theorem Sound.lost (sound : Sound config s) (fails : ¬ WriteLands s action)
    (stepped : Intake.step config s action = some next) :
    Lost next := by
  obtain ⟨effect, _⟩ := effect_step config sound.pending stepped
  rw [Lost]
  cases effect with
  | unchanged lands _ _ _ _ => exact absurd lands fails
  | received _ lands _ _ _ _ => exact absurd lands fails
  | dropped _ countedTxs countedRejected fewer =>
    have txs := congrArg List.length sound.forwarded.txs
    have rejected := congrArg List.length sound.forwarded.rejected
    rw [length_map] at rejected
    rw [countedTxs, countedRejected]
    omega

/-- All counted transactions are forwarded, with consecutive numbers that let
the constructors make progress, exactly in the runs in which no `Write` finds
its context cancelled. -/
theorem forwarded_iff_writes_land
    {actions : List Action} {s : State} (ran : (intake config).run actions = some s) :
    Forwarded s ∧ Progress config s ↔
      (intake config).Guarded WriteLands (intake config).initial actions := by
  have ends :=
    (intake config).guarded_or_bad WriteLands (Sound config)
      (fun state => Lost state ∧ SelectPending state)
      (fun _ _ _ sound lands stepped => sound.step config lands stepped)
      (fun _ _ _ sound fails stepped =>
        ⟨sound.lost config fails stepped, (effect_step config sound.pending stepped).2⟩)
      (fun _ _ _ lost stepped =>
        ⟨lost.1.step config lost.2 stepped, (effect_step config lost.2 stepped).2⟩)
      (sound_initial config) ran
  constructor
  · intro holds
    rcases ends with ⟨guarded, _⟩ | ⟨_, lost, _⟩
    · exact guarded
    · exact absurd lost holds.1.not_lost
  · intro guarded
    rcases ends with ⟨_, sound⟩ | ⟨unguarded, _⟩
    · exact ⟨sound.forwarded, sound.numbered.progress config⟩
    · exact absurd guarded unguarded

end

def smallConfig : DependencyGraphConfig where
  numOfLocalDepConstructors := 1
  waitingTxsLimit := 1
  chunkSize := 1
  numOfLocalDepConstructors_pos := by decide
  numOfLocalDepConstructors_lt := by decide
  waitingTxsLimit_pos := by decide
  chunkSize_pos := by decide

def emptyTx (txNum : UInt32) : TxWithRef where
  ref := ⟨[], 1, txNum⟩
  content := ⟨[], []⟩

/-- The first stream is cancelled between the receipt of its block and the
write.  A second stream delivers the next block. -/
def cancelledRun : List Action :=
  [.openStream, .advance, .receive ⟨[emptyTx 0], []⟩, .cancel, .advance,
    .advance, .advance, .openStream, .advance, .receive ⟨[emptyTx 1], []⟩,
    .advance, .send, .advance, .readBatch]

/-- The only constructor holds batch 2 and waits for batch 1. -/
def gapState : State where
  position := .check
  numTxsInProgress := 2
  txBatchIDToDepGraph := 3
  constructing := [⟨2, [emptyTx 1]⟩]
  countedTxs := [emptyTx 0, emptyTx 1]
  toDepGraph := [⟨2, [emptyTx 1]⟩]

/-- The first transaction stays counted and is never written, and the
constructors are stuck. -/
theorem cancelled_block_lost :
    (intake smallConfig).run cancelledRun = some gapState ∧
      ¬ Forwarded gapState ∧ ¬ Progress smallConfig gapState := by
  refine ⟨by decide +kernel, ?_, ?_⟩
  · intro forwarded
    have lengths := congrArg List.length forwarded.txs
    exact absurd lengths (by decide)
  · intro progress
    rcases progress (by decide) with ⟨worker, enabled⟩ | ⟨free, _⟩
    · cases worker with
      | zero => exact absurd enabled (by decide +kernel)
      | succ other => cases enabled
    · cases free

/-- A stream that is cancelled after the last write of its block. -/
def completedRun : List Action :=
  [.openStream, .advance,
    .receive ⟨[emptyTx 0, emptyTx 1], [⟨⟨[], 1, 2⟩, .malformedNoWrites⟩]⟩,
    .advance, .send, .advance, .send, .advance, .send, .cancel, .advance,
    .advance, .readBatch]

theorem completed_block_forwarded :
    ∃ s, (intake smallConfig).run completedRun = some s ∧
      s.position = .idle ∧ Forwarded s ∧ Progress smallConfig s := by
  have evaluated : ((intake smallConfig).run completedRun).map State.position = some .idle := by
    decide +kernel
  obtain ⟨s, ran, idle⟩ := map_eq_some_iff.mp evaluated
  have lands :
      (intake smallConfig).Guarded WriteLands (intake smallConfig).initial completedRun := by
    decide +kernel
  exact ⟨s, ran, idle, (forwarded_iff_writes_land smallConfig ran).mpr lands⟩

end FabricXCommitter.Coordinator.Intake
