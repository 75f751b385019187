import FabricXCommitter.Coordinator.InProgress

/-!
# The idle report of the coordinator

A receiver counts its batch before it enqueues it, so the two counts can agree while
a batch is on its way.
-/

namespace FabricXCommitter.Coordinator.InProgress

open Library Coordinator.Failover Coordinator.ValidatorCommitterManager List Option

section

variable {Node : Type} {height : Node → Height}

/-- What a step can do to the channel of the status queue. -/
inductive ChannelEffect (s next : State Node) : Prop where
  | fewer
      (ch : next.statusQueue.ch ⊆ s.statusQueue.ch)
      (forwarded : next.vcm.shared.extra.forwarded = s.vcm.shared.extra.forwarded)
  | enqueued (batch : TxStatusBatch)
      (reports : 0 < txCount batch)
      (forwarded : next.vcm.shared.extra.forwarded = s.vcm.shared.extra.forwarded ++ [batch])

theorem channelEffect_holder
    {s next : State Node} (stepped : send s = some next ∨ poll s = some next) :
    ChannelEffect s next ∧ next.received = s.received := by
  have moved :
      next.statusQueue.ch ⊆ s.statusQueue.ch ∧
        next.vcm.shared.extra.forwarded = s.vcm.shared.extra.forwarded ∧
          next.received = s.received := by
    rcases stepped with stepped | stepped
    · revert stepped
      fun_cases send s with
      | case2 _ batch rest channel =>
        intro stepped
        cases stepped
        exact ⟨channel ▸ subset_cons_self batch rest, rfl, rfl⟩
      | _ =>
        intro stepped
        cases stepped <;> exact ⟨List.Subset.refl _, rfl, rfl⟩
    · rw [poll] at stepped
      cases holder : s.holder with
      | draining discarded =>
        cases channel : s.statusQueue.ch with
        | nil =>
          rw [holder, channel] at stepped
          cases stepped
          exact ⟨channel ▸ List.Subset.refl _, rfl, rfl⟩
        | cons batch rest =>
          rw [holder, channel] at stepped
          cases stepped
          exact ⟨channel ▸ subset_cons_self batch rest, rfl, rfl⟩
      | _ =>
        rw [holder] at stepped
        cases stepped <;> exact ⟨List.Subset.refl _, rfl, rfl⟩
  exact ⟨ChannelEffect.fewer moved.1 moved.2.1, moved.2.2⟩

variable [DecidableEq Node]

/-- The step is not the receipt of a block. -/
def NoReceipt : Action Node → Prop
  | .receive _ => False
  | _ => True

theorem channelEffect_step {s next : State Node} (accounted : Accounted height s)
    {action : Action Node} (answered : AnsweredOnce height s action)
    (noReceipt : NoReceipt action) (stepped : step height s action = some next) :
    ChannelEffect s next ∧ next.received = s.received := by
  cases action with
  | receive _ => exact noReceipt.elim
  | openStream | closeStream | noPending =>
    obtain ⟨_, moved⟩ := ite_none_right_eq_some.mp stepped
    have same := Option.some.inj moved
    subst same
    exact ⟨ChannelEffect.fewer (List.Subset.refl _) rfl, rfl⟩
  | accept batch =>
    obtain ⟨_, moved⟩ := ite_none_right_eq_some.mp stepped
    obtain ⟨vcm, accepts, same⟩ := map_eq_some_iff.mp moved
    subst same
    cases Fleet.stepped_of_step accepts with
    | environment accepted =>
      obtain ⟨_, extra, _⟩ := accounted.consistent.accept accepted
      refine ⟨ChannelEffect.fewer ?_ ?_, rfl⟩
      · simp only [State.statusQueue, extra]
        exact List.Subset.refl _
      · simp only [extra]
  | worker index task =>
    obtain ⟨vcm, works, same⟩ := map_eq_some_iff.mp stepped
    subst same
    cases Fleet.stepped_of_step works with
    | @worker _ _ inst after shared found moved =>
      have tracked :
          task = .receiver .proceed →
            feedbackTracked height inst.txBeingValidated inst.phase.work = true := by
        intro proceeds
        subst proceeds
        exact answered _ found
      obtain ⟨_, effect, _⟩ := accounted.consistent.worker found tracked moved
      refine ⟨?_, rfl⟩
      cases effect with
      | unchanged queue forwarded _ _ =>
        refine ChannelEffect.fewer ?_ forwarded
        simp only [State.statusQueue, queue]
        exact List.Subset.refl _
      | counted batch same _ =>
        refine ChannelEffect.fewer ?_ ?_
        · simp only [State.statusQueue, same]
          exact List.Subset.refl _
        · simp only [same]
          rfl
      | enqueued batch reports _ _ forwarded _ _ =>
        exact ChannelEffect.enqueued batch reports forwarded
  | send => exact channelEffect_holder (.inl stepped)
  | poll => exact channelEffect_holder (.inr stepped)

end

section

variable {Node : Type} {height : Node → Height}

/-- The channel is empty and all received transactions are reported. -/
structure Idle (s : State Node) : Prop where
  channel : s.statusQueue.ch = []
  complete : reported s.vcm.shared.extra.forwarded = s.received.length

theorem Accounted.allAnswered_of_complete {s : State Node} (accounted : Accounted height s)
    (complete : reported s.vcm.shared.extra.forwarded = s.received.length) :
    AllAnswered s := by
  have consistent := accounted.consistent
  have settled : s.vcm.shared.extra.settled.Subperm s.vcm.shared.accepted :=
    Multiset.coe_le.mp (settled_le_accepted consistent.owned consistent.answered)
  have accepted : s.vcm.shared.accepted.Subperm s.received :=
    (sublist_append_right s.upstream _).subperm.trans accounted.places.subperm
  have whole : s.vcm.shared.extra.settled.Perm s.received := by
    apply (settled.trans accepted).perm_of_length_le
    rw [← consistent.forwarded, complete]
  intro node mem
  exact whole.mem_iff.mpr mem

/-- If nothing is counted as in progress, the coordinator is idle. -/
theorem Accounted.idle_of_zero
    {s : State Node} (accounted : Accounted height s) (free : s.holder.inProgress = 0)
    (noneInProgress : s.numTxsInProgress = 0) :
    Idle s := by
  have inProgress := accounted.inProgress
  have unreported := accounted.unreported
  rw [noneInProgress, free] at inProgress
  have zero : (0 : Int32).toInt = 0 := rfl
  have empty : reported s.statusQueue.ch = 0 := by omega
  refine ⟨?_, by omega⟩
  cases channel : s.statusQueue.ch with
  | nil => rfl
  | cons batch rest =>
    have positive : 0 < txCount batch := accounted.nonempty batch (channel ▸ mem_cons_self)
    rw [channel, reported_cons] at empty
    omega

variable [DecidableEq Node]

theorem Idle.step {s next : State Node} (idle : Idle s) (accounted : Accounted height s)
    {action : Action Node} (answered : AnsweredOnce height s action)
    (noReceipt : NoReceipt action) (stepped : InProgress.step height s action = some next) :
    Idle next := by
  obtain ⟨effect, received⟩ := channelEffect_step accounted answered noReceipt stepped
  cases effect with
  | fewer ch forwarded =>
    refine ⟨?_, ?_⟩
    · rw [idle.channel] at ch
      exact subset_nil.mp ch
    · rw [forwarded, received]
      exact idle.complete
  | enqueued batch reports forwarded =>
    have unreported := (accounted.step answered stepped).unreported
    rw [forwarded, received, reported_append, reported_cons, reported_nil,
      idle.complete] at unreported
    omega

variable (height) in
/-- The status queue stays empty until the next block is received. -/
def StaysEmpty (count : Nat) (s : State Node) : Prop :=
  ∀ later final,
    (coordinator height count).Guarded
        (fun state action => AnsweredOnce height state action ∧ NoReceipt action) s later →
      (coordinator height count).runFrom s later = some final → final.statusQueue.ch = []

theorem Idle.staysEmpty
    {s : State Node} (idle : Idle s) (accounted : Accounted height s) (count : Nat) :
    StaysEmpty height count s := by
  intro later final guarded ran
  have ends : Accounted height final ∧ Idle final := by
    refine
      (coordinator height count).invariant_guarded _
        (fun state => Accounted height state ∧ Idle state) ?_
        ⟨accounted, idle⟩ guarded ran
    intro state action next holds guard stepped
    exact ⟨holds.1.step guard.1 stepped, holds.2.step holds.1 guard.1 guard.2 stepped⟩
  exact ends.2.channel

omit [DecidableEq Node] in
/-- If transactions are counted for no batch in the channel, a receiver is about
to enqueue a batch. -/
theorem exists_enqueue_of_pendingTotal
    {s : ValidatorCommitterManager.State Node} (pending : pendingTotal s ≠ 0) :
    ∃ (index : Nat) (inst : Instance Node (Work Node))
      (sender : Sender Node) (forwarding : Forwarding Node),
      s.workers[index]? = some inst ∧
        inst.phase = .streaming sender (.busy (.enqueue forwarding)) := by
  have busy : ∃ inst ∈ s.workers, Work.pending inst.phase.work ≠ 0 := by
    by_contra none
    apply pending
    apply sum_eq_zero
    intro amount mem
    obtain ⟨inst, known, same⟩ := List.mem_map.mp mem
    by_contra positive
    exact none ⟨inst, known, same ▸ positive⟩
  obtain ⟨inst, known, positive⟩ := busy
  obtain ⟨index, found⟩ := getElem?_of_mem known
  cases phase : inst.phase with
  | disconnected | recovering _ =>
    rw [phase] at positive
    exact absurd rfl positive
  | streaming sender receiver =>
    rw [phase] at positive
    cases receiver with
    | recv | stopped => exact absurd rfl positive
    | busy work =>
      cases work with
      | lookup _ _ _ | count _ | output _ => exact absurd rfl positive
      | enqueue forwarding => exact ⟨index, inst, sender, forwarding, found, phase⟩

theorem step_enqueue {s : State Node} {index : Nat} {inst : Instance Node (Work Node)}
    {sender : Sender Node} {forwarding : Forwarding Node}
    (found : s.vcm.workers[index]? = some inst)
    (phase : inst.phase = .streaming sender (.busy (.enqueue forwarding))) :
    ∃ next,
      step height s (.worker index (.receiver .proceed)) = some next ∧
        next.statusQueue.ch = s.statusQueue.ch ++ [forwarding.batch] := by
  simp only [step, Fleet.step, fleet, found, bind_some, workerStep,
    phase, protocol, react, map_some]
  exact ⟨_, rfl, rfl⟩

theorem Accounted.not_staysEmpty {s : State Node} (accounted : Accounted height s)
    (free : s.holder.ready = 0) (someReady : s.statusQueue.count ≠ 0) (count : Nat) :
    ¬ StaysEmpty height count s := by
  intro stays
  have empty : s.statusQueue.ch = [] := stays [] s trivial rfl
  have pending : pendingTotal s.vcm ≠ 0 := by
    intro zero
    have ready := accounted.ready
    rw [zero, empty, reported_nil, free] at ready
    exact someReady (Int32.toInt_inj.mp ready)
  obtain ⟨index, inst, sender, forwarding, found, phase⟩ := exists_enqueue_of_pendingTotal pending
  obtain ⟨next, stepped, channel⟩ := step_enqueue found phase
  have tracked : AnsweredOnce height s (.worker index (.receiver .proceed)) := by
    intro other same
    have equal := Option.some.inj (found.symm.trans same)
    subst equal
    rw [phase]
    rfl
  have emptyAfter : next.statusQueue.ch = [] := by
    apply stays [.worker index (.receiver .proceed)] next
    · exact ⟨⟨tracked, trivial⟩, fun _ _ => trivial⟩
    · exact (Machine.runFrom_cons_eq_some _).mpr ⟨next, stepped, rfl⟩
  rw [channel] at emptyAfter
  exact append_ne_nil_of_right_ne_nil _ (cons_ne_nil _ _) emptyAfter

/-- A positive report means that all transactions are answered and that the
status queue stays empty exactly if no batch is counted in the status queue when
its count is loaded. -/
theorem idle_report_iff
    {count : Nat} {actions : List (Action Node)} {s next : State Node} {loaded : Int32}
    (answered :
      (coordinator height count).Guarded (AnsweredOnce height)
        (coordinator height count).initial actions)
    (ran : (coordinator height count).run actions = some s)
    (loads : s.holder = .loadReadyCount loaded)
    (returned : (coordinator height count).step s .poll = some next)
    (reports : next.report = some true) :
    AllAnswered next ∧ StaysEmpty height count next ↔ s.statusQueue.count = 0 := by
  have accounted := accounted_run answered ran
  have after : Accounted height next := accounted.poll returned
  have same := accounted.loaded loaded loads
  have moved :
      next =
        { s with
          holder := .free
          report := some (loaded == s.statusQueue.count) } := by
    simp only [coordinator, step, poll, loads] at returned
    exact (Option.some.inj returned).symm
  rw [moved] at reports
  have equal : loaded = s.statusQueue.count := eq_of_beq (Option.some.inj reports)
  subst moved
  constructor
  · intro holds
    by_contra someReady
    exact after.not_staysEmpty rfl someReady count holds.2
  · intro noneReady
    have noneInProgress : s.numTxsInProgress = 0 := by rw [← same, equal, noneReady]
    have idle : Idle _ := after.idle_of_zero rfl noneInProgress
    exact ⟨after.allAnswered_of_complete idle.complete, idle.staysEmpty after count⟩

end

/-- The status of the transaction of the run. -/
def committedBatch : TxStatusBatch := ⟨[⟨⟨[], 1, 0⟩, .committed⟩], none⟩

def transactionCommitted : Failover.Task Signal := .receiver (.respond committedBatch)

/-- One transaction is received and answered by a validator-committer, whose
receiver is about to count the status.  The stream is closed. -/
def answeredRun : List (Action Nat) :=
  [.openStream, .receive [0], .accept [0], .closeStream] ++
    (sendTasks 2 ++ transactionCommitted :: List.replicate 2 (.receiver .proceed)).map (.worker 0)

/-- The receiver counts its batch between the drain and the comparison. -/
def racingPoll : List (Action Nat) :=
  [.noPending, .poll, .poll, .poll, .poll, .worker 0 (.receiver .proceed), .poll]

/-- The report is positive, and then a status reaches the queue. -/
theorem racing_report :
    ∃ s,
      (coordinator blockOneHeight 1).run (answeredRun ++ racingPoll) = some s ∧
        s.report = some true ∧
          ∃ later,
            (coordinator blockOneHeight 1).runFrom s [.worker 0 (.receiver .proceed)] = some later ∧
              later.statusQueue.ch = [committedBatch] := by
  have evaluated :
      ((coordinator blockOneHeight 1).run (answeredRun ++ racingPoll)).map
          (fun s =>
            (s.report,
              ((coordinator blockOneHeight 1).runFrom s
                [.worker 0 (.receiver .proceed)]).map (fun later => later.statusQueue.ch))) =
        some (some true, some [committedBatch]) := by
    decide +kernel
  obtain ⟨s, ran, outcome⟩ := map_eq_some_iff.mp evaluated
  obtain ⟨reports, continued⟩ := Prod.mk.inj outcome
  obtain ⟨later, continues, channel⟩ := map_eq_some_iff.mp continued
  exact ⟨s, ran, reports, later, continues, channel⟩

/-- The receiver enqueues its batch before the drain. -/
def quietRun : List (Action Nat) :=
  answeredRun ++ List.replicate 3 (.worker 0 (.receiver .proceed)) ++
    .noPending :: List.replicate 5 .poll

theorem quiet_report :
    ∃ s next,
      (coordinator blockOneHeight 1).run quietRun = some s ∧
        (coordinator blockOneHeight 1).step s .poll = some next ∧
          next.report = some true ∧ AllAnswered next ∧ StaysEmpty blockOneHeight 1 next := by
  have evaluated :
      ((coordinator blockOneHeight 1).run quietRun).map
          (fun s =>
            (s.holder, s.statusQueue.count,
              ((coordinator blockOneHeight 1).step s .poll).map State.report)) =
        some (.loadReadyCount 0, 0, some (some true)) := by
    decide +kernel
  obtain ⟨s, ran, outcome⟩ := map_eq_some_iff.mp evaluated
  simp only [Prod.mk.injEq] at outcome
  obtain ⟨loads, noneReady, returns⟩ := outcome
  obtain ⟨next, returned, reports⟩ := map_eq_some_iff.mp returns
  have answeredOnce :
      (coordinator blockOneHeight 1).Guarded (AnsweredOnce blockOneHeight)
        (coordinator blockOneHeight 1).initial quietRun := by
    decide +kernel
  obtain ⟨allAnswered, stays⟩ :=
    (idle_report_iff answeredOnce ran loads returned reports).mpr noneReady
  exact ⟨s, next, ran, returned, reports, allAnswered, stays⟩

end FabricXCommitter.Coordinator.InProgress
