import FabricXCommitter.DeliverOrderer.LosslessDelivery
import Mathlib.Algebra.Order.Ring.Nat

/-!
# When a source is suspected

The delivery runs with a clock that does not go back.
-/

namespace FabricXCommitter.DeliverOrderer

open Library Option

variable {Policy Consenter : Type}

def Stage.err : Stage → Option StreamError
  | .writing _ err | .writingWithSourceID _ err => err
  | .returned err => some err
  | _ => none

def DeliveryAction.reading : DeliveryAction → Option Int
  | .read now | .wake now => some now
  | _ => none

def BlockVerificationStateMachine.Follows (s : BlockVerificationStateMachine Policy Consenter) :
    Prop :=
  s.nextBlockNum = 0 ∨
    ∃ block header, s.lastBlock = some block ∧ block.header = some header ∧
      s.nextBlockNum = header.number + 1

namespace FtDelivery

variable (d : FtDelivery Policy Consenter)

def gap : Nat := d.headerOnlyStream.nextBlockNum.toNat - d.dataStream.nextBlockNum.toNat

def HeaderAhead : Prop :=
  ∃ block header, d.headerOnlyStream.lastBlock = some block ∧ block.header = some header ∧
    d.dataStream.nextBlockNum ≤ header.number

end FtDelivery

structure Watch (Policy Consenter : Type) where
  state : DeliveryState Policy Consenter
  clock : Int
  since : Int
  source : Option UInt32 := none
  gap : Nat := 0

def Watch.observe (w : Watch Policy Consenter) (now : Int) (next : DeliveryState Policy Consenter) :
    Watch Policy Consenter where
  state := next
  clock := now
  source := some next.delivery.curDataBlockSourceID
  since := if w.source = some next.delivery.curDataBlockSourceID then w.since else now
  gap :=
    -- A new target is above the one before.
    if w.state.delivery.targetNextBlockNum < next.delivery.targetNextBlockNum then
      next.delivery.gap
    else
      w.gap

/-- The time from which the source may be suspected. -/
def Watch.due (params : Parameters) (w : Watch Policy Consenter) : Int :=
  w.since + params.suspicionGracePeriodPerBlock.toInt * w.gap

section

variable (fabric : Fabric Policy Consenter) (params : Parameters)
  (parties : ConfigBlockMaterial Policy Consenter → List UInt32)

def watchedDelivery (d : FtDelivery Policy Consenter) (now : Int) :
    Machine (Watch Policy Consenter) (Int × DeliveryAction) where
  initial := { state := (toQueue fabric params parties d).initial, clock := now, since := now }
  step w event :=
    if w.clock ≤ event.1 ∧ ∀ now ∈ event.2.reading, now = event.1 then
      (deliveryStep fabric params parties w.state event.2).map (w.observe event.1)
    else
      none

/-- The number of the data stream does not wrap, the source stays while a block is
awaited, and the grace period for the gap is a duration. -/
def Steady (w : Watch Policy Consenter) (event : Int × DeliveryAction) : Prop :=
  ∀ next ∈ deliveryStep fabric params parties w.state event.2,
    w.state.delivery.dataStream.nextBlockNum ≤ next.delivery.dataStream.nextBlockNum ∧
    (w.state.delivery.dataStream.nextBlockNum < w.state.delivery.targetNextBlockNum →
      w.source = some next.delivery.curDataBlockSourceID) ∧
    params.suspicionGracePeriodPerBlock.toInt * next.delivery.gap < 2 ^ 63

end

variable {fabric : Fabric Policy Consenter} {params : Parameters}
  {parties : ConfigBlockMaterial Policy Consenter → List UInt32}

/-- A step leaves the target alone, or checks the delivery after verification. -/
inductive Checked (params : Parameters) (d : FtDelivery Policy Consenter) (reading : Option Int)
    (err : Option StreamError) (after : FtDelivery Policy Consenter) : Prop
  | quiet
      (target : after.targetNextBlockNum = d.targetNextBlockNum)
      (arrival : after.targetArrivalTime = d.targetArrivalTime)
      (follows : d.headerOnlyStream.Follows → after.headerOnlyStream.Follows)
      (notRaised : err ≠ some .suspicion)
  | check (verified : FtDelivery Policy Consenter) (now : Int)
      (isReading : reading = some now)
      (target : verified.targetNextBlockNum = d.targetNextBlockNum)
      (arrival : verified.targetArrivalTime = d.targetArrivalTime)
      (follows : d.headerOnlyStream.Follows → verified.headerOnlyStream.Follows)
      (checked : verified.checkBlockWithholding params now = (err, after))

section

variable {d : FtDelivery Policy Consenter} {blk : BlockWithSourceID}

theorem verification_follows {s state : BlockVerificationStateMachine Policy Consenter}
    {err : Option VerificationError}
    (verified : s.verificationStepAndUpdateState fabric blk = (err, state))
    (follows : err = none ∨ s.Follows) : state.Follows := by
  rcases verificationStep_cases fabric s blk with
    ⟨_, failed⟩ | ⟨block, header, _, hasHeader, _, _, _, accepted⟩
  · rw [failed] at verified
    cases verified
    exact follows.resolve_left (by simp)
  · rw [accepted] at verified
    cases verified
    exact .inr ⟨block, header, rfl, hasHeader, rfl⟩

theorem setProcessingState_frame {state : BlockVerificationStateMachine Policy Consenter}
    {err : Option VerificationError}
    (verified :
      (d.getProcessingState blk).verificationStepAndUpdateState fabric blk = (err, state)) :
    (d.setProcessingState blk state).targetNextBlockNum = d.targetNextBlockNum ∧
      (d.setProcessingState blk state).targetArrivalTime = d.targetArrivalTime ∧
      (d.headerOnlyStream.Follows → (d.setProcessingState blk state).headerOnlyStream.Follows) := by
  unfold FtDelivery.getProcessingState at verified
  unfold FtDelivery.setProcessingState
  split
  · exact ⟨rfl, rfl, id⟩
  · next isHeader =>
    rw [if_neg isHeader] at verified
    exact ⟨rfl, rfl, fun follows => verification_follows verified (.inr follows)⟩

theorem processBlock_checked {now : Int} {deliverBlock : Option BlockWithSourceID}
    {err : Option StreamError} {after : FtDelivery Policy Consenter}
    (processed : d.processBlock fabric params now blk = (deliverBlock, err, after)) :
    Checked params d (some now) err after := by
  unfold FtDelivery.processBlock at processed
  split at processed
  · next rejected state verified =>
    obtain ⟨target, arrival, follows⟩ := setProcessingState_frame verified
    split at processed <;> cases processed <;> exact .quiet target arrival follows (by simp)
  · next state verified =>
    obtain ⟨target, arrival, follows⟩ := setProcessingState_frame verified
    have checked := (Prod.mk.inj processed).2
    unfold FtDelivery.checkNextStreamAction at checked
    split at checked
    · cases checked
      exact .quiet target arrival follows (by simp)
    · exact .check _ now rfl target arrival follows checked

theorem initStreams_eq {random : Nat} {workers : List Worker} {after : FtDelivery Policy Consenter}
    (started : d.initStreams parties random = some (workers, after)) :
    after = { d with curDataBlockSourceID := after.curDataBlockSourceID } := by
  unfold FtDelivery.initStreams at started
  grind

end

@[grind =]
theorem resume_err (s : DeliveryState Policy Consenter) (err : Option StreamError) :
    (s.resume err).stage.err = err := by
  cases err <;> rfl

theorem deliveryStep_checked {s next : DeliveryState Policy Consenter} {action : DeliveryAction}
    (stepped : deliveryStep fabric params parties s action = some next) :
    next.delivery = s.delivery ∧ next.stage.err = s.stage.err ∨
      Checked params s.delivery action.reading next.stage.err next.delivery := by
  have quiet (same : next.delivery = s.delivery) (notRaised : next.stage.err ≠ some .suspicion) :
      Checked params s.delivery action.reading next.stage.err next.delivery := by
    rw [same]
    exact .quiet rfl rfl id notRaised
  cases action with
  | start random =>
    simp only [deliveryStep] at stepped
    split at stepped
    · obtain ⟨⟨workers, d⟩, started, rfl⟩ := map_eq_some_iff.mp stepped
      rw [initStreams_eq started]
      exact .inr (.quiet rfl rfl id (by simp [Stage.err]))
    · cases stepped
  | read now =>
    right
    simp only [deliveryStep, readStep] at stepped
    split at stepped
    · split at stepped
      · next processed =>
        cases stepped
        rw [resume_err, (resume_frame _ _).1]
        exact processBlock_checked processed
      · next processed =>
        cases stepped
        exact processBlock_checked processed
    · cases stepped
  | wake now =>
    simp only [deliveryStep] at stepped
    split at stepped
    · cases stepped
      rw [resume_err, (resume_frame _ _).1]
      exact .inr (.check _ now rfl rfl rfl id rfl)
    · cases stepped
  | _ =>
    simp only [deliveryStep] at stepped
    grind [Stage.err, resume_frame]

structure Fair (params : Parameters) (w : Watch Policy Consenter) : Prop where
  since : w.since ≤ w.clock
  follows : w.state.delivery.headerOnlyStream.Follows
  awaits :
    w.state.delivery.dataStream.nextBlockNum < w.state.delivery.targetNextBlockNum →
      w.due params ≤ w.state.delivery.targetArrivalTime
  raised :
    w.state.stage.err = some .suspicion →
      w.state.delivery.HeaderAhead ∧ w.source = some w.state.delivery.curDataBlockSourceID ∧
        w.due params ≤ w.clock

theorem headerAhead_of_follows {d : FtDelivery Policy Consenter}
    (follows : d.headerOnlyStream.Follows)
    (behind : d.dataStream.nextBlockNum < d.headerOnlyStream.nextBlockNum) : d.HeaderAhead := by
  rcases follows with start | ⟨block, header, isLast, hasHeader, isNext⟩
  · rw [start] at behind
    exact absurd behind UInt64.not_lt_zero
  · refine ⟨block, header, isLast, hasHeader, ?_⟩
    grind

theorem toInt_gracePeriod {period : Int64} (positive : 0 < period) {gap : Nat}
    (fits : period.toInt * gap < 2 ^ 63) :
    (period * Int64.ofNat (min gap (2 ^ 63 - 1))).toInt = period.toInt * gap := by
  have small :=
    Int.mul_le_mul_of_nonneg_right (Int64.lt_iff_toInt_lt.mp positive) (Int.natCast_nonneg gap)
  rw [Int64.toInt_zero] at small
  rw [Nat.min_eq_left (by omega), Int64.toInt_mul, Int64.toInt_ofNat_of_lt (by omega)]
  exact Int.bmod_eq_of_le (by omega) (by omega)

theorem Fair.step {w next : Watch Policy Consenter} {d : FtDelivery Policy Consenter} {start : Int}
    {event : Int × DeliveryAction} (positive : 0 < params.suspicionGracePeriodPerBlock)
    (fair : Fair params w) (steady : Steady fabric params parties w event)
    (stepped : (watchedDelivery fabric params parties d start).step w event = some next) :
    Fair params next := by
  obtain ⟨⟨later, atReading⟩, observed⟩ := ite_none_right_eq_some.mp stepped
  obtain ⟨after, moved, rfl⟩ := map_eq_some_iff.mp observed
  obtain ⟨noWrap, stays, fits⟩ := steady after moved
  have since := fair.since
  have awaits := fair.awaits
  have raised := fair.raised
  rcases deliveryStep_checked moved with
    ⟨same, err_eq⟩ | ⟨target, arrival, follows, notRaised⟩ |
      ⟨verified, now, isReading, target, arrival, follows, checked⟩
  · refine ⟨?_, same ▸ fair.follows, ?_, ?_⟩ <;> grind [Watch.observe, Watch.due]
  · refine ⟨?_, follows fair.follows, ?_, ?_⟩ <;> grind [Watch.observe, Watch.due]
  · have isNow := atReading now isReading
    have headers_eq := (checkBlockWithholding_streams checked).2
    have ahead := headerAhead_of_follows (follows fair.follows)
    have period := toInt_gracePeriod positive fits
    have gap_eq :=
      UInt64.toNat_sub_of_le verified.headerOnlyStream.nextBlockNum verified.dataStream.nextBlockNum
    refine ⟨?_, ?_, ?_, ?_⟩
    · grind [Watch.observe, Watch.due]
    · exact headers_eq ▸ follows fair.follows
    · grind [Watch.observe, Watch.due, FtDelivery.checkBlockWithholding, FtDelivery.gap]
    · grind [Watch.observe, Watch.due, FtDelivery.checkBlockWithholding, FtDelivery.HeaderAhead]

theorem newFTDelivery_follows {d : FtDelivery Policy Consenter}
    (created : newFTDelivery fabric params = .ok d) :
    d.headerOnlyStream.Follows ∧ d.targetNextBlockNum = 0 := by
  revert created
  fun_cases newFTDelivery fabric params with
  | case5 _ _ _ _ _ state latestConfig opened =>
    intro created
    cases created
    obtain ⟨last, configState, loaded, _, rfl⟩ := newBlockProcessingState_loaded opened
    refine ⟨?_, rfl⟩
    revert loaded
    fun_cases loadLastBlock fabric params.session with
    | case1 =>
      intro loaded
      cases loaded
      exact .inl rfl
    | case2 =>
      intro loaded
      cases loaded
    | case3 header _ started after stepped =>
      intro loaded
      cases loaded
      exact show last.Follows from verification_follows stepped (.inl rfl)
  | _ =>
    intro created
    cases created

/-- A source is suspected only if a verified header is ahead and the source has been the
source for the grace period of the gap, in runs that keep the source while a block is
awaited. -/
theorem suspicion_fair {d : FtDelivery Policy Consenter}
    (created : newFTDelivery fabric params = .ok d)
    (positive : 0 < params.suspicionGracePeriodPerBlock) {start : Int}
    {events : List (Int × DeliveryAction)} {w : Watch Policy Consenter}
    (reached : (watchedDelivery fabric params parties d start).run events = some w)
    (steady :
      (watchedDelivery fabric params parties d start).Guarded (Steady fabric params parties)
        (watchedDelivery fabric params parties d start).initial events)
    (raised : w.state.stage.err = some .suspicion) :
    w.state.delivery.HeaderAhead ∧ w.source = some w.state.delivery.curDataBlockSourceID ∧
      w.due params ≤ w.clock := by
  have fair : Fair params w := by
    obtain ⟨follows, noTarget⟩ := newFTDelivery_follows created
    refine
      (watchedDelivery fabric params parties d start).invariant_guarded _ _
        (fun _ _ _ fair steady stepped => fair.step positive steady stepped) ?_ steady reached
    refine ⟨le_rfl, follows, fun awaits => ?_, fun raised => ?_⟩
    · exact absurd (noTarget ▸ awaits) UInt64.not_lt_zero
    · cases raised
  exact fair.raised raised

instance (w : Watch Policy Consenter) (event : Int × DeliveryAction) :
    Decidable (Steady fabric params parties w event) :=
  inferInstanceAs (Decidable (∀ next ∈ deliveryStep fabric params parties w.state event.2, _))

def watchedTwoParties (d : FtDelivery Unit Unit) :
    Machine (Watch Unit Unit) (Int × DeliveryAction) :=
  watchedDelivery sampleFabric bftParameters twoParties d 0

/-- Party 2 has block 4, which party 1 has to send within a second. -/
def awaitingEvents : List (Int × DeliveryAction) :=
  [(0, .start 0), (0, .receive 1 (some (chainBlock 4 0 2)) true), (0, .iterate), (0, .read 0)]

/-- The streams are restarted with party 2 as the source. -/
def restartEvents : List (Int × DeliveryAction) :=
  [(1, .fail), (1, .iterate), (1, .wait), (999999999, .start 0)]

def deadlineEvents : List (Int × DeliveryAction) :=
  [(1000000000, .iterate), (1000000000, .wake 1000000000)]

theorem new_source_suspected :
    ∃ d ∈ (newFTDelivery sampleFabric bftParameters).toOption,
    ∃ w ∈ (watchedTwoParties d).run (awaitingEvents ++ restartEvents ++ deadlineEvents),
      w.state.stage.err = some .suspicion ∧ w.source = some 2 ∧ w.clock < w.due bftParameters := by
  decide +kernel

theorem silent_source_suspected :
    ∃ d ∈ (newFTDelivery sampleFabric bftParameters).toOption,
    ∃ w ∈ (watchedTwoParties d).run (awaitingEvents ++ deadlineEvents),
      w.state.stage.err = some .suspicion ∧ w.due bftParameters ≤ w.clock := by
  have steady :
      ∃ d ∈ (newFTDelivery sampleFabric bftParameters).toOption,
      ∃ w ∈ (watchedTwoParties d).run (awaitingEvents ++ deadlineEvents),
        w.state.stage.err = some .suspicion ∧
        (watchedTwoParties d).Guarded (Steady sampleFabric bftParameters twoParties)
          (watchedTwoParties d).initial (awaitingEvents ++ deadlineEvents) := by
    decide +kernel
  obtain ⟨d, isNew, w, reached, raised, guarded⟩ := steady
  have created : newFTDelivery sampleFabric bftParameters = .ok d := by
    revert isNew
    cases newFTDelivery sampleFabric bftParameters <;> simp [Except.toOption]
  have fair := suspicion_fair created (by decide) reached guarded raised
  exact ⟨d, isNew, w, reached, raised, fair.2.2⟩

end FabricXCommitter.DeliverOrderer
