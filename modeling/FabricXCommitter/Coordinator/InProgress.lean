import FabricXCommitter.Coordinator.StatusQueue
import FabricXCommitter.Library.Counter

/-!
# Transactions in progress

The dependency graph and the verifiers are a pool of received transactions.
-/

namespace FabricXCommitter.Coordinator.InProgress

open Library Coordinator.Failover Coordinator.ValidatorCommitterManager List Option

/-- Who holds `streamActive`, and the next operation on the status queue and on
the counters. -/
inductive Holder where
  | free
  | reading
  | deductRead (batch : TxStatusBatch)
  | deductSent (batch : TxStatusBatch)
  | draining (discarded : Int32)
  | deductDrained (discarded : Int32)
  | deductDiscarded (discarded : Int32)
  | loadNumTxsInProgress
  | loadReadyCount (numTxsInProgress : Int32)
  deriving DecidableEq, Repr

/-- `received` are all nodes of received blocks, and `upstream` those that have
not reached the validator-committer manager.  `report` is the last result of
`NoPendingTransactionProcessing`. -/
structure State (Node : Type) where
  vcm : ValidatorCommitterManager.State Node
  numTxsInProgress : Int32 := 0
  received : List Node := []
  upstream : List Node := []
  holder : Holder := .free
  report : Option Bool := none
  deriving DecidableEq, Repr

inductive Action (Node : Type) where
  | openStream
  | closeStream
  | receive (txsNode : List Node)
  | accept (batch : List Node)
  | worker (index : Nat) (task : Failover.Task Signal)
  | send
  | noPending
  | poll
  deriving DecidableEq, Repr

section

variable {Node : Type}

def State.statusQueue (s : State Node) : TxStatusQueue := s.vcm.shared.extra.txStatusQueue

def State.setStatusQueue (s : State Node) (queue : TxStatusQueue) : State Node :=
  { s with
    vcm :=
      { s.vcm with
        shared :=
          { s.vcm.shared with
            extra := { s.vcm.shared.extra with txStatusQueue := queue } } } }

/-- The next step of `sendTxStatus`. -/
def send (s : State Node) : Option (State Node) :=
  match s.holder with
  | .reading =>
    match s.statusQueue.ch with
    | [] => none
    | batch :: rest =>
      some
        { s.setStatusQueue { s.statusQueue with ch := rest } with
          holder := .deductRead batch }
  | .deductRead batch =>
    some
      { s.setStatusQueue
          { s.statusQueue with
            count := s.statusQueue.count - Int32.ofNat (txCount batch) }
        with
        holder := .deductSent batch }
  | .deductSent batch =>
    some
      { s with
        numTxsInProgress := s.numTxsInProgress - Int32.ofNat (txCount batch)
        holder := .reading }
  | _ => none

/-- The next step of `NoPendingTransactionProcessing`. -/
def poll (s : State Node) : Option (State Node) :=
  match s.holder with
  | .draining discarded =>
    match s.statusQueue.ch with
    | [] => some { s with holder := .deductDrained discarded }
    | batch :: rest =>
      some
        { s.setStatusQueue { s.statusQueue with ch := rest } with
          holder := .draining (discarded + Int32.ofNat (txCount batch)) }
  | .deductDrained discarded =>
    some
      { s.setStatusQueue { s.statusQueue with count := s.statusQueue.count - discarded }
        with
        holder := .deductDiscarded discarded }
  | .deductDiscarded discarded =>
    some
      { s with
        numTxsInProgress := s.numTxsInProgress - discarded
        holder := .loadNumTxsInProgress }
  | .loadNumTxsInProgress => some { s with holder := .loadReadyCount s.numTxsInProgress }
  | .loadReadyCount numTxsInProgress =>
    some
      { s with
        holder := .free
        report := some (numTxsInProgress == s.statusQueue.count) }
  | _ => none

def Holder.isStream : Holder → Bool
  | .reading => true
  | .deductRead _ => true
  | .deductSent _ => true
  | _ => false

variable [DecidableEq Node] (height : Node → Height)

def step (s : State Node) : Action Node → Option (State Node)
  | .openStream =>
    if s.holder = .free then some { s with holder := .reading } else none
  | .closeStream =>
    if s.holder = .reading then some { s with holder := .free } else none
  | .receive txsNode =>
    if s.holder.isStream ∧ (s.received ++ txsNode).Nodup then
      some
        { s with
          numTxsInProgress := s.numTxsInProgress + Int32.ofNat txsNode.length
          received := s.received ++ txsNode
          upstream := s.upstream ++ txsNode }
    else
      none
  | .accept batch =>
    if batch.Subperm s.upstream then
      ((fleet (protocol height)).step s.vcm (.environment batch)).map
        fun vcm => { s with vcm := vcm, upstream := s.upstream.diff batch }
    else
      none
  | .worker index task =>
    ((fleet (protocol height)).step s.vcm (.worker index task)).map fun vcm => { s with vcm := vcm }
  | .send => send s
  | .noPending =>
    if s.holder = .free then
      some { s with holder := .draining 0, report := none }
    else
      none
  | .poll => poll s

/-- The coordinator with the given number of validator-committers. -/
def coordinator (count : Nat) : Machine (State Node) (Action Node) where
  initial := { vcm := initialState {} count }
  step := step height

end

/-- The transactions that the holder has taken from the channel and not yet
from `numTxsInProgress`. -/
def Holder.inProgress : Holder → Int
  | .deductRead batch => txCount batch
  | .deductSent batch => txCount batch
  | .draining discarded => discarded.toInt
  | .deductDrained discarded => discarded.toInt
  | .deductDiscarded discarded => discarded.toInt
  | _ => 0

/-- The transactions that the holder has taken from the channel and not yet
from the count of the status queue. -/
def Holder.ready : Holder → Int
  | .deductRead batch => txCount batch
  | .draining discarded => discarded.toInt
  | .deductDrained discarded => discarded.toInt
  | _ => 0

section

variable {Node : Type} (height : Node → Height)

structure Accounted (s : State Node) : Prop where
  consistent : Consistent height s.vcm
  places : (s.upstream ++ s.vcm.shared.accepted).Perm s.received
  once : s.received.Nodup
  inProgress :
    s.numTxsInProgress.toInt =
      s.received.length - reported s.vcm.shared.extra.forwarded +
        reported s.statusQueue.ch + s.holder.inProgress
  ready :
    s.statusQueue.count.toInt = pendingTotal s.vcm + reported s.statusQueue.ch + s.holder.ready
  held : 0 ≤ s.holder.ready ∧ s.holder.ready ≤ s.holder.inProgress
  nonempty : ∀ batch ∈ s.statusQueue.ch, 0 < txCount batch
  loaded :
    ∀ numTxsInProgress, s.holder = .loadReadyCount numTxsInProgress →
      numTxsInProgress = s.numTxsInProgress

variable {height}

section

variable {s : State Node} (accounted : Accounted height s)

include accounted

theorem Accounted.unreported :
    reported s.vcm.shared.extra.forwarded + pendingTotal s.vcm ≤ s.received.length := by
  have capacity := accounted.consistent.capacity
  have lengths := accounted.places.length_eq
  rw [length_append] at lengths
  omega

theorem Accounted.counters :
    0 ≤ s.statusQueue.count.toInt ∧ s.statusQueue.count.toInt ≤ s.numTxsInProgress.toInt := by
  have unreported := accounted.unreported
  have inProgress := accounted.inProgress
  have ready := accounted.ready
  have held := accounted.held
  omega

theorem Accounted.move (queue : TxStatusQueue) (numTxsInProgress : Int32) {old holder : Holder}
    (isOld : s.holder = old) (report : Option Bool)
    (inProgress :
      numTxsInProgress.toInt - reported queue.ch - holder.inProgress =
        s.numTxsInProgress.toInt - reported s.statusQueue.ch - old.inProgress)
    (ready :
      queue.count.toInt - reported queue.ch - holder.ready =
        s.statusQueue.count.toInt - reported s.statusQueue.ch - old.ready)
    (held : 0 ≤ holder.ready ∧ holder.ready ≤ holder.inProgress)
    (fewer : queue.ch ⊆ s.statusQueue.ch)
    (loaded : ∀ value, holder = .loadReadyCount value → value = numTxsInProgress) :
    Accounted height
      { s.setStatusQueue queue with
        numTxsInProgress := numTxsInProgress
        holder := holder
        report := report } where
  consistent := accounted.consistent.setStatusQueue queue
  places := accounted.places
  once := accounted.once
  inProgress := by
    have before := accounted.inProgress
    rw [isOld] at before
    change
      numTxsInProgress.toInt =
        s.received.length - reported s.vcm.shared.extra.forwarded +
          reported queue.ch + holder.inProgress
    omega
  ready := by
    have before := accounted.ready
    rw [isOld] at before
    change queue.count.toInt = pendingTotal s.vcm + reported queue.ch + holder.ready
    omega
  held := held
  nonempty := fun batch mem => accounted.nonempty batch (fewer mem)
  loaded := loaded

theorem Accounted.pass {old holder : Holder} (isOld : s.holder = old) (report : Option Bool)
    (inProgress : holder.inProgress = old.inProgress) (ready : holder.ready = old.ready)
    (loaded : ∀ value, holder = .loadReadyCount value → value = s.numTxsInProgress) :
    Accounted height { s with holder := holder, report := report } := by
  have held := accounted.held
  rw [isOld, ← ready, ← inProgress] at held
  refine
    accounted.move s.statusQueue s.numTxsInProgress isOld report ?_ ?_ held
      (List.Subset.refl _) loaded
  · rw [inProgress]
  · rw [ready]

theorem Accounted.send {next : State Node} (stepped : InProgress.send s = some next) :
    Accounted height next := by
  have unreported := accounted.unreported
  have inProgress := accounted.inProgress
  have ready := accounted.ready
  revert stepped
  fun_cases InProgress.send s with
  | case2 isReading batch rest channel =>
    intro stepped
    cases stepped
    have fewer : rest ⊆ batch :: rest := subset_cons_self _ _
    refine
      accounted.move { s.statusQueue with ch := rest } s.numTxsInProgress isReading
        s.report ?_ ?_ ?_ (channel ▸ fewer) ?_
    · rw [channel, reported_cons]
      simp only [Holder.inProgress]
      omega
    · rw [channel, reported_cons]
      simp only [Holder.ready]
      omega
    · exact ⟨Int.natCast_nonneg _, Int.le_refl _⟩
    · exact fun _ impossible => nomatch impossible
  | case3 batch isRead =>
    intro stepped
    cases stepped
    rw [isRead] at ready
    have covered : (txCount batch : Int) ≤ s.statusQueue.count.toInt := by
      simp only [Holder.ready] at ready
      omega
    refine
      accounted.move
        { s.statusQueue with
          count := s.statusQueue.count - Int32.ofNat (txCount batch) }
        s.numTxsInProgress isRead s.report rfl ?_ ?_ (List.Subset.refl _) ?_
    · rw [toInt_sub_ofNat covered]
      simp only [Holder.ready]
      omega
    · exact ⟨Int.le_refl _, Int.natCast_nonneg _⟩
    · exact fun _ impossible => nomatch impossible
  | case4 batch isSent =>
    intro stepped
    cases stepped
    rw [isSent] at inProgress
    have covered : (txCount batch : Int) ≤ s.numTxsInProgress.toInt := by
      simp only [Holder.inProgress] at inProgress
      omega
    refine
      accounted.move s.statusQueue (s.numTxsInProgress - Int32.ofNat (txCount batch)) isSent
        s.report ?_ rfl ?_ (List.Subset.refl _) ?_
    · rw [toInt_sub_ofNat covered]
      simp only [Holder.inProgress]
      omega
    · exact ⟨Int.le_refl _, Int.le_refl _⟩
    · exact fun _ impossible => nomatch impossible
  | _ =>
    intro stepped
    cases stepped

theorem Accounted.poll {next : State Node} (stepped : InProgress.poll s = some next) :
    Accounted height next := by
  have unreported := accounted.unreported
  have inProgress := accounted.inProgress
  have ready := accounted.ready
  have held := accounted.held
  rw [InProgress.poll] at stepped
  cases holder : s.holder with
  | draining discarded =>
    cases channel : s.statusQueue.ch with
    | nil =>
      rw [holder, channel] at stepped
      cases stepped
      exact accounted.pass holder s.report rfl rfl fun _ impossible => nomatch impossible
    | cons batch rest =>
      rw [holder, channel] at stepped
      cases stepped
      rw [holder] at ready held
      simp only [Holder.ready, Holder.inProgress] at ready held
      rw [channel, reported_cons] at ready
      have fewer : rest ⊆ batch :: rest := subset_cons_self _ _
      have limit := s.statusQueue.count.toInt_lt
      have sum :
          (discarded + Int32.ofNat (txCount batch)).toInt = discarded.toInt + txCount batch := by
        apply toInt_add_ofNat held.1
        omega
      refine
        accounted.move { s.statusQueue with ch := rest } s.numTxsInProgress holder
          s.report ?_ ?_ ?_ (channel ▸ fewer) ?_
      · rw [channel, reported_cons]
        simp only [Holder.inProgress, sum]
        omega
      · rw [channel, reported_cons]
        simp only [Holder.ready, sum]
        omega
      · simp only [Holder.ready, Holder.inProgress, sum]
        omega
      · exact fun _ impossible => nomatch impossible
  | deductDrained discarded =>
    rw [holder] at stepped
    cases stepped
    rw [holder] at ready held
    simp only [Holder.ready, Holder.inProgress] at ready held
    have covered : discarded.toInt ≤ s.statusQueue.count.toInt := by omega
    refine
      accounted.move { s.statusQueue with count := s.statusQueue.count - discarded }
        s.numTxsInProgress holder s.report rfl ?_ ?_ (List.Subset.refl _) ?_
    · rw [toInt_sub_of_le held.1 covered]
      simp only [Holder.ready]
      omega
    · exact ⟨Int.le_refl _, held.1⟩
    · exact fun _ impossible => nomatch impossible
  | deductDiscarded discarded =>
    rw [holder] at stepped
    cases stepped
    rw [holder] at inProgress held
    simp only [Holder.ready, Holder.inProgress] at inProgress held
    have covered : discarded.toInt ≤ s.numTxsInProgress.toInt := by omega
    refine
      accounted.move s.statusQueue (s.numTxsInProgress - discarded) holder
        s.report ?_ rfl ?_ (List.Subset.refl _) ?_
    · rw [toInt_sub_of_le held.2 covered]
      simp only [Holder.inProgress]
      omega
    · exact ⟨Int.le_refl _, Int.le_refl _⟩
    · exact fun _ impossible => nomatch impossible
  | loadNumTxsInProgress =>
    rw [holder] at stepped
    cases stepped
    refine accounted.pass holder s.report rfl rfl ?_
    intro value same
    cases same
    rfl
  | loadReadyCount numTxsInProgress =>
    rw [holder] at stepped
    cases stepped
    exact accounted.pass holder _ rfl rfl fun _ impossible => nomatch impossible
  | free | reading | deductRead | deductSent =>
    rw [holder] at stepped
    cases stepped

theorem Accounted.worker
    {index : Nat} {inst after : Instance Node (Work Node)} {shared : Shared Node (Extra Node)}
    {task : Failover.Task Signal} (found : s.vcm.workers[index]? = some inst)
    (tracked :
      task = .receiver .proceed →
        feedbackTracked height inst.txBeingValidated inst.phase.work = true)
    (stepped : workerStep (protocol height) s.vcm.shared inst task = some (shared, after)) :
    Accounted height { s with vcm := ⟨shared, s.vcm.workers.set index after⟩ } := by
  obtain ⟨consistent, effect, accepted⟩ := accounted.consistent.worker found tracked stepped
  have inProgress := accounted.inProgress
  have ready := accounted.ready
  have held := accounted.held
  have limit := s.numTxsInProgress.toInt_lt
  have capacity := consistent.capacity
  have places : (s.upstream ++ shared.accepted).Perm s.received := by
    rw [accepted]
    exact accounted.places
  have lengths := places.length_eq
  rw [length_append] at lengths
  rw [State.statusQueue] at inProgress ready
  refine ⟨consistent, places, accounted.once, ?_, ?_, held, ?_, accounted.loaded⟩
  · simp only [State.statusQueue]
    cases effect with
    | unchanged queue forwarded _ _ =>
      rw [queue, forwarded]
      exact inProgress
    | counted batch same _ =>
      rw [same]
      exact inProgress
    | enqueued batch _ ch _ forwarded _ _ =>
      rw [ch, forwarded, reported_append, reported_append, reported_cons, reported_nil]
      omega
  · simp only [State.statusQueue]
    cases effect with
    | unchanged queue _ _ pending =>
      rw [queue, pending]
      exact ready
    | counted batch same pending =>
      rw [same] at capacity ⊢
      simp only [Extra.addCount] at capacity ⊢
      rw [toInt_add_ofNat, ready, pending]
      · omega
      · omega
      · omega
    | enqueued batch _ ch count _ _ pending =>
      rw [ch, count, reported_append, reported_cons, reported_nil]
      omega
  · have nonempty := accounted.nonempty
    simp only [State.statusQueue] at nonempty ⊢
    cases effect with
    | unchanged queue _ _ _ =>
      rw [queue]
      exact nonempty
    | counted batch same _ =>
      rw [same]
      exact nonempty
    | enqueued batch reports ch _ _ _ _ =>
      intro other mem
      rw [ch] at mem
      rcases mem_append.mp mem with old | new
      · exact nonempty other old
      · exact mem_singleton.mp new ▸ reports

end

variable [DecidableEq Node]

variable (height) in
/-- Feedback comes for a transaction that the instance tracks, and fewer than
`2 ^ 31` transactions are in progress. -/
def AnsweredOnce (s : State Node) : Action Node → Prop
  | .receive txsNode => s.numTxsInProgress.toInt + txsNode.length < 2 ^ 31
  | .worker index (.receiver .proceed) =>
    ∀ inst ∈ s.vcm.workers[index]?,
      feedbackTracked height inst.txBeingValidated inst.phase.work = true
  | _ => True

theorem Accounted.accept {s : State Node} (accounted : Accounted height s) {batch : List Node}
    {shared : Shared Node (Extra Node)} (part : batch.Subperm s.upstream)
    (stepped : Failover.accept (protocol height) s.vcm.shared s.vcm.workers batch = some shared) :
    Accounted height
      { s with
        vcm := { s.vcm with shared := shared }
        upstream := s.upstream.diff batch } := by
  obtain ⟨consistent, extra, accepted⟩ := accounted.consistent.accept stepped
  have inProgress := accounted.inProgress
  have ready := accounted.ready
  refine ⟨consistent, ?_, accounted.once, ?_, ?_, accounted.held, ?_, accounted.loaded⟩
  · have split : (batch ++ s.upstream.diff batch).Perm s.upstream :=
      subperm_append_diff_self_of_count_le fun node _ => part.count_le node
    refine List.Perm.trans ?_ accounted.places
    refine List.Perm.trans ?_ (split.append_right _)
    simp only [accepted, ← Multiset.coe_eq_coe, ← Multiset.coe_add]
    abel
  · simp only [State.statusQueue, extra]
    exact inProgress
  · simp only [State.statusQueue, extra]
    exact ready
  · simp only [State.statusQueue, extra]
    exact accounted.nonempty

omit [DecidableEq Node] in
theorem Accounted.receive {s : State Node} (accounted : Accounted height s) {txsNode : List Node}
    (fits : s.numTxsInProgress.toInt + txsNode.length < 2 ^ 31)
    (streaming : s.holder.isStream = true) (once : (s.received ++ txsNode).Nodup) :
    Accounted height
      { s with
        numTxsInProgress := s.numTxsInProgress + Int32.ofNat txsNode.length
        received := s.received ++ txsNode
        upstream := s.upstream ++ txsNode } := by
  have counters := accounted.counters
  have inProgress := accounted.inProgress
  refine
    ⟨accounted.consistent, ?_, once, ?_, accounted.ready, accounted.held, accounted.nonempty, ?_⟩
  · refine List.Perm.trans ?_ (accounted.places.append_right txsNode)
    rw [append_assoc, append_assoc]
    exact List.Perm.append_left _ perm_append_comm
  · have sum := toInt_add_ofNat (by omega) fits
    simp only [State.statusQueue] at inProgress ⊢
    rw [sum, inProgress, length_append]
    omega
  · intro value loading
    rw [loading] at streaming
    cases streaming

theorem Accounted.step {s next : State Node} (accounted : Accounted height s)
    {action : Action Node} (answered : AnsweredOnce height s action)
    (stepped : InProgress.step height s action = some next) :
    Accounted height next := by
  cases action with
  | openStream | closeStream | noPending =>
    obtain ⟨holder, moved⟩ := ite_none_right_eq_some.mp stepped
    cases moved
    exact accounted.pass holder _ rfl rfl fun _ impossible => nomatch impossible
  | receive txsNode =>
    obtain ⟨⟨streaming, once⟩, moved⟩ := ite_none_right_eq_some.mp stepped
    exact Option.some.inj moved ▸ accounted.receive answered streaming once
  | accept batch =>
    obtain ⟨part, moved⟩ := ite_none_right_eq_some.mp stepped
    obtain ⟨vcm, accepts, same⟩ := map_eq_some_iff.mp moved
    subst same
    cases Fleet.stepped_of_step accepts with
    | environment accepted => exact accounted.accept part accepted
  | worker index task =>
    obtain ⟨vcm, works, same⟩ := map_eq_some_iff.mp stepped
    subst same
    cases Fleet.stepped_of_step works with
    | worker found moved =>
      refine accounted.worker found ?_ moved
      intro proceeds
      subst proceeds
      exact answered _ found
  | send => exact accounted.send stepped
  | poll => exact accounted.poll stepped

theorem accounted_initial (count : Nat) : Accounted height (coordinator height count).initial where
  consistent := consistent_initial count
  places := List.Perm.refl _
  once := nodup_nil
  inProgress := rfl
  ready := by
    have idle : pendingTotal (initialState ({} : Extra Node) count) = 0 := by
      simp [pendingTotal, initialState, Phase.work, Work.pending]
    change (0 : Int32).toInt = pendingTotal (initialState {} count) + 0 + 0
    rw [idle]
    rfl
  held := ⟨Int.le_refl _, Int.le_refl _⟩
  nonempty := fun _ impossible => nomatch impossible
  loaded := fun _ impossible => nomatch impossible

theorem accounted_run {count : Nat} {actions : List (Action Node)} {s : State Node}
    (answered :
      (coordinator height count).Guarded (AnsweredOnce height)
        (coordinator height count).initial actions)
    (ran : (coordinator height count).run actions = some s) :
    Accounted height s :=
  (coordinator height count).invariant_guarded (AnsweredOnce height)
    (Accounted height)
    (fun _ _ _ accounted answered stepped => accounted.step answered stepped)
    (accounted_initial count) answered ran

end

section

variable {Node : Type} {height : Node → Height}

/-- Every received transaction has its status or feedback in the status
queue. -/
def AllAnswered (s : State Node) : Prop := ∀ node ∈ s.received, node ∈ s.vcm.shared.extra.settled

/-- The answers have left the status queue and are taken off the counter. -/
def AllConsumed (s : State Node) : Prop := s.statusQueue.ch = [] ∧ s.holder.inProgress = 0

theorem Accounted.reported_eq_of_allAnswered
    {s : State Node} (accounted : Accounted height s) (answered : AllAnswered s) :
    reported s.vcm.shared.extra.forwarded = s.received.length := by
  have bound : s.received.length ≤ s.vcm.shared.extra.settled.length :=
    (accounted.once.subperm answered).length_le
  have unreported := accounted.unreported
  have forwarded := accounted.consistent.forwarded
  omega

variable [DecidableEq Node]

/-- In every run in which each transaction is answered once, the count of the
status queue lies between zero and `numTxsInProgress`, and `numTxsInProgress` is
zero when all answers are consumed. -/
theorem counters_of_answeredOnce {count : Nat} {actions : List (Action Node)} {s : State Node}
    (answered :
      (coordinator height count).Guarded (AnsweredOnce height)
        (coordinator height count).initial actions)
    (ran : (coordinator height count).run actions = some s) :
    0 ≤ s.statusQueue.count ∧
      s.statusQueue.count ≤ s.numTxsInProgress ∧
        (AllAnswered s → AllConsumed s → s.numTxsInProgress = 0) := by
  have accounted := accounted_run answered ran
  obtain ⟨lower, upper⟩ := accounted.counters
  refine ⟨?_, ?_, ?_⟩
  · rw [Int32.le_iff_toInt_le]
    exact lower
  · rw [Int32.le_iff_toInt_le]
    exact upper
  · intro allAnswered consumed
    have reports := accounted.reported_eq_of_allAnswered allAnswered
    have inProgress := accounted.inProgress
    rw [reports, consumed.1, consumed.2, reported_nil] at inProgress
    apply Int32.toInt_inj.mp
    rw [inProgress]
    simp

end

/-! ## Feedback that comes twice -/

instance {Node : Type} [DecidableEq Node] (height : Node → Height)
    (s : State Node) : ∀ action, Decidable (AnsweredOnce height s action)
  | .receive _ => inferInstanceAs (Decidable (_ < _))
  | .worker _ (.receiver .proceed) => inferInstanceAs (Decidable (∀ inst ∈ _, _))
  | .worker _ (.receiver (.respond _))
  | .worker _ .connect | .worker _ .read | .worker _ .store
  | .worker _ .send | .worker _ .senderFails | .worker _ .receiverFails
  | .worker _ .recover | .worker _ .requeue
  | .openStream | .closeStream | .accept _ | .send | .noPending | .poll =>
    inferInstanceAs (Decidable True)

/-- Feedback for the checkpoint transaction of the run. -/
def checkpointHeld : Failover.Task Signal := .receiver (.respond ⟨[], some ⟨some ⟨[], 1, 0⟩⟩⟩)

/-- A checkpoint transaction is resubmitted after a failure of the first
instance; the second one answers with feedback, which the stream consumes. -/
def resubmittedRun : List (Action Nat) :=
  [.openStream, .receive [0], .accept [0]] ++
    (sendTasks 2 ++ failTasks).map (.worker 0) ++
    (sendTasks 2 ++ checkpointHeld :: List.replicate 4 (.receiver .proceed)).map (.worker 1) ++
    List.replicate 3 .send

/-- The first instance is connected again, and its feedback for the same
transaction comes late. -/
def lateFeedback : List (Action Nat) :=
  [Failover.Task.connect, checkpointHeld, .receiver .proceed, .receiver .proceed].map (.worker 0)

/-- The late feedback is counted again: first the count of the status queue
exceeds `numTxsInProgress`, then `numTxsInProgress` is negative. -/
theorem late_feedback_counted :
    (∃ s,
      (coordinator blockOneHeight 2).run (resubmittedRun ++ lateFeedback) = some s ∧
        s.statusQueue.count = 1 ∧ s.numTxsInProgress = 0) ∧
      ∃ s,
        (coordinator blockOneHeight 2).run
              (resubmittedRun ++ lateFeedback ++
                [.worker 0 (.receiver .proceed), .send, .send, .send]) =
            some s ∧
          AllAnswered s ∧ AllConsumed s ∧ s.numTxsInProgress = -1 := by
  constructor
  · have evaluated :
        ((coordinator blockOneHeight 2).run (resubmittedRun ++ lateFeedback)).map
            (fun s => (s.statusQueue.count, s.numTxsInProgress)) =
          some (1, 0) := by
      decide +kernel
    obtain ⟨s, ran, outcome⟩ := map_eq_some_iff.mp evaluated
    obtain ⟨ready, inProgress⟩ := Prod.mk.inj outcome
    exact ⟨s, ran, ready, inProgress⟩
  · have evaluated :
        ((coordinator blockOneHeight 2).run
              (resubmittedRun ++ lateFeedback ++
                [.worker 0 (.receiver .proceed), .send, .send, .send])).map
            (fun s =>
              (s.received, s.vcm.shared.extra.settled, s.statusQueue.ch,
                s.holder, s.numTxsInProgress)) =
          some ([0], [0], [], .reading, -1) := by
      decide +kernel
    obtain ⟨s, ran, outcome⟩ := map_eq_some_iff.mp evaluated
    simp only [Prod.mk.injEq] at outcome
    obtain ⟨received, settled, channel, holder, inProgress⟩ := outcome
    refine ⟨s, ran, ?_, ⟨channel, ?_⟩, inProgress⟩
    · rw [AllAnswered, received, settled]
      exact fun node member => member
    · rw [holder]
      rfl

theorem resubmitted_once_counted :
    ∃ s,
      (coordinator blockOneHeight 2).run resubmittedRun = some s ∧
        s.received = [0] ∧ s.numTxsInProgress = 0 := by
  have evaluated :
      ((coordinator blockOneHeight 2).run resubmittedRun).map
          (fun s => (s.received, s.vcm.shared.extra.settled, s.statusQueue.ch, s.holder)) =
        some ([0], [0], [], .reading) := by
    decide +kernel
  obtain ⟨s, ran, outcome⟩ := map_eq_some_iff.mp evaluated
  simp only [Prod.mk.injEq] at outcome
  obtain ⟨received, settled, channel, holder⟩ := outcome
  have answeredOnce :
      (coordinator blockOneHeight 2).Guarded (AnsweredOnce blockOneHeight)
        (coordinator blockOneHeight 2).initial resubmittedRun := by
    decide +kernel
  obtain ⟨_, _, empty⟩ := counters_of_answeredOnce answeredOnce ran
  refine ⟨s, ran, received, empty ?_ ⟨channel, ?_⟩⟩
  · rw [AllAnswered, received, settled]
    exact fun node member => member
  · rw [holder]
    rfl

end FabricXCommitter.Coordinator.InProgress
