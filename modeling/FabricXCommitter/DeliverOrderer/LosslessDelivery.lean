import FabricXCommitter.DeliverOrderer.Delivery
import FabricXCommitter.DeliverOrderer.VerifiedChain

/-!
# What is verified and what is written

The data stream advances when a block passes verification, before it is written.
-/

namespace FabricXCommitter.DeliverOrderer

open Library List Option

variable {Policy Consenter : Type} {fabric : Fabric Policy Consenter}
variable {params : Parameters}
variable {parties : ConfigBlockMaterial Policy Consenter → List UInt32}

/-! ## The end of a chain -/

noncomputable def Tip.after (tip : Tip fabric) : List Block → Tip fabric
  | [] => tip
  | block :: rest =>
    match block.header with
    | none => tip.after rest
    | some header => (tip.advance block header).after rest

theorem VerifiedChain.snoc {block : Block} {header : BlockHeader} {blocks : List Block} :
    ∀ {tip : Tip fabric}, VerifiedChain tip blocks →
      Extends (tip.after blocks) block header →
        VerifiedChain tip (blocks ++ [block]) ∧
          tip.after (blocks ++ [block]) = (tip.after blocks).advance block header := by
  induction blocks with
  | nil =>
    intro tip _ extended
    refine ⟨⟨header, extended, trivial⟩, ?_⟩
    simp [Tip.after, extended.header_eq]
  | cons first rest ih =>
    intro tip chain extended
    obtain ⟨firstHeader, firstExtends, continued⟩ := chain
    simp only [Tip.after, firstExtends.header_eq] at extended
    obtain ⟨longer, ends⟩ := ih continued extended
    refine ⟨⟨firstHeader, firstExtends, longer⟩, ?_⟩
    simpa only [cons_append, Tip.after, firstExtends.header_eq] using ends

def Consecutive : UInt64 → List Block → Prop
  | _, [] => True
  | number, block :: rest =>
    (∃ header, block.header = some header ∧ header.number = number) ∧ Consecutive (number + 1) rest

theorem VerifiedChain.consecutive {blocks : List Block} :
    ∀ {tip : Tip fabric}, VerifiedChain tip blocks → Consecutive tip.number blocks := by
  induction blocks with
  | nil =>
    intro tip _
    trivial
  | cons block rest ih =>
    intro tip chain
    obtain ⟨header, extended, continued⟩ := chain
    have following := ih continued
    simp only [Tip.advance, extended.number_eq] at following
    exact ⟨⟨header, extended.header_eq, extended.number_eq⟩, following⟩

theorem Consecutive.of_append {first second : List Block} :
    ∀ {number : UInt64}, Consecutive number (first ++ second) → Consecutive number first := by
  induction first with
  | nil =>
    intro number _
    trivial
  | cons block rest ih =>
    intro number consecutive
    exact ⟨consecutive.1, ih consecutive.2⟩

/-! ## What a step does -/

/-- The verified block that is not written yet. -/
def DeliveryState.pending (s : DeliveryState Policy Consenter) : List Block :=
  match s.stage with
  | .writing blk _ => blk.block.toList
  | _ => []

/-- The streams have their kinds, and a block is being written. -/
structure Formed (s : DeliveryState Policy Consenter) : Prop where
  data : s.delivery.dataStream.dataBlockStream = true
  headers : s.delivery.headerOnlyStream.dataBlockStream = false
  held : ∀ blk err, s.stage = .writing blk err → ∃ block, blk.block = some block

/-- A step leaves the blocks alone, verifies a data block or writes one. -/
inductive Effect (fabric : Fabric Policy Consenter)
    (s : DeliveryState Policy Consenter) (action : DeliveryAction)
    (next : DeliveryState Policy Consenter) : Prop
  | quiet
      (other : action ≠ .write)
      (data_eq : next.delivery.dataStream = s.delivery.dataStream)
      (verified_eq : next.verified = s.verified)
      (output_eq : next.output = s.output)
      (pending_eq : next.pending = s.pending)
  | accept
      (blk : BlockWithSourceID) (block : Block)
      (other : action ≠ .write)
      (block_eq : blk.block = some block)
      (accepted :
        s.delivery.dataStream.verificationStepAndUpdateState fabric blk =
          (none, next.delivery.dataStream))
      (verified_eq : next.verified = s.verified ++ [block])
      (output_eq : next.output = s.output)
      (idle : s.pending = [])
      (pending_eq : next.pending = [block])
  | write
      (block : Block)
      (isWrite : action = .write)
      (data_eq : next.delivery.dataStream = s.delivery.dataStream)
      (verified_eq : next.verified = s.verified)
      (output_eq : next.output = if s.groupDone then s.output else s.output ++ [block])
      (held : s.pending = [block])
      (pending_eq : next.pending = [])

variable {err : Option StreamError} {now : Int}

theorem checkBlockWithholding_streams {d after : FtDelivery Policy Consenter}
    (checked : d.checkBlockWithholding params now = (err, after)) :
    after.dataStream = d.dataStream ∧ after.headerOnlyStream = d.headerOnlyStream := by
  revert checked
  fun_cases FtDelivery.checkBlockWithholding params d now with
  | case1 | case2 | case3 | case4 | case5 =>
    intro checked
    cases checked
    exact ⟨rfl, rfl⟩

theorem checkNextStreamAction_streams {d after : FtDelivery Policy Consenter}
    {state : BlockVerificationStateMachine Policy Consenter}
    (checked : d.checkNextStreamAction params state now = (err, after)) :
    after.dataStream = d.dataStream ∧ after.headerOnlyStream = d.headerOnlyStream := by
  unfold FtDelivery.checkNextStreamAction at checked
  split at checked
  · cases checked
    exact ⟨rfl, rfl⟩
  · exact checkBlockWithholding_streams checked

theorem processBlock_cases {d after : FtDelivery Policy Consenter}
    {blk : BlockWithSourceID} {deliverBlock : Option BlockWithSourceID}
    (data : d.dataStream.dataBlockStream = true)
    (headers : d.headerOnlyStream.dataBlockStream = false)
    (processed : d.processBlock fabric params now blk = (deliverBlock, err, after)) :
    (after.dataStream.dataBlockStream = true ∧ after.headerOnlyStream.dataBlockStream = false) ∧
    (deliverBlock = none ∧ after.dataStream = d.dataStream ∨
      deliverBlock = some blk ∧
        d.dataStream.verificationStepAndUpdateState fabric blk = (none, after.dataStream)) := by
  have kind := verificationStep_dataBlockStream fabric (d.getProcessingState blk) blk
  unfold FtDelivery.processBlock at processed
  by_cases isData : d.isDataBlock blk = true
  · have state_eq : d.getProcessingState blk = d.dataStream := by
      simp [FtDelivery.getProcessingState, isData]
    rw [state_eq] at processed kind
    split at processed
    · next rejected =>
      rw [rejected_unchanged rejected] at processed
      simp only [data, FtDelivery.setProcessingState, isData, if_true] at processed
      cases processed
      exact ⟨⟨data, headers⟩, .inl ⟨rfl, rfl⟩⟩
    · next state accepted =>
      rw [accepted, data] at kind
      simp only at kind
      simp only [kind, if_true, Prod.mk.injEq] at processed
      obtain ⟨rfl, checked⟩ := processed
      obtain ⟨data_eq, headers_eq⟩ := checkNextStreamAction_streams checked
      simp only [FtDelivery.setProcessingState, isData, if_true] at data_eq headers_eq
      rw [data_eq, headers_eq]
      exact ⟨⟨kind, headers⟩, .inr ⟨rfl, accepted⟩⟩
  · have state_eq : d.getProcessingState blk = d.headerOnlyStream := by
      simp [FtDelivery.getProcessingState, isData]
    rw [state_eq] at processed kind
    split at processed
    · next rejected =>
      rw [rejected_unchanged rejected] at processed
      simp only [headers, FtDelivery.setProcessingState, isData] at processed
      cases processed
      exact ⟨⟨data, headers⟩, .inl ⟨rfl, rfl⟩⟩
    · next state accepted =>
      rw [accepted, headers] at kind
      simp only at kind
      simp only [kind, Prod.mk.injEq] at processed
      obtain ⟨rfl, checked⟩ := processed
      obtain ⟨data_eq, headers_eq⟩ := checkNextStreamAction_streams checked
      simp only [FtDelivery.setProcessingState, isData] at data_eq headers_eq
      rw [data_eq, headers_eq]
      exact ⟨⟨data, kind⟩, .inl ⟨rfl, rfl⟩⟩

theorem initStreams_streams
    {d after : FtDelivery Policy Consenter} {random : Nat} {workers : List Worker}
    (started : d.initStreams parties random = some (workers, after)) :
    after.dataStream = d.dataStream ∧ after.headerOnlyStream = d.headerOnlyStream := by
  unfold FtDelivery.initStreams at started
  split at started
  · cases started
  · dsimp only at started
    split at started
    · cases started
      exact ⟨rfl, rfl⟩
    · cases started
      exact ⟨rfl, rfl⟩

theorem resume_pending (s : DeliveryState Policy Consenter) (err : Option StreamError) :
    (s.resume err).pending = [] := by
  cases err with
  | none => rfl
  | some err => rfl

theorem resume_frame (s : DeliveryState Policy Consenter) (err : Option StreamError) :
    (s.resume err).delivery = s.delivery ∧
      (s.resume err).verified = s.verified ∧
      (s.resume err).output = s.output := by
  cases err with
  | none => exact ⟨rfl, rfl, rfl⟩
  | some err => exact ⟨rfl, rfl, rfl⟩

theorem resume_formed {s : DeliveryState Policy Consenter} (err : Option StreamError)
    (data : s.delivery.dataStream.dataBlockStream = true)
    (headers : s.delivery.headerOnlyStream.dataBlockStream = false) :
    Formed (s.resume err) := by
  cases err with
  | none =>
    refine ⟨data, headers, ?_⟩
    intro blk err writing
    cases writing
  | some err =>
    refine ⟨data, headers, ?_⟩
    intro blk err writing
    cases writing

theorem readStep_effect {s next : DeliveryState Policy Consenter} (formed : Formed s)
    (stepped : readStep fabric params s now = some next) :
    Formed next ∧ Effect fabric s (.read now) next := by
  unfold readStep at stepped
  split at stepped
  · next blk rest reading _ =>
    have idle : s.pending = [] := by simp only [DeliveryState.pending, reading]
    split at stepped
    · next err d processed =>
      obtain ⟨⟨data, headers⟩, ⟨_, data_eq⟩ | ⟨impossible, _⟩⟩ :=
        processBlock_cases formed.data formed.headers processed
      · cases stepped
        obtain ⟨delivery_eq, verified_eq, output_eq⟩ :=
          resume_frame { s with delivery := d, jointOutputBlock := rest } err
        refine ⟨resume_formed err data headers, ?_⟩
        refine .quiet (by simp) ?_ verified_eq output_eq ?_
        · rw [delivery_eq]
          exact data_eq
        · rw [resume_pending, idle]
      · cases impossible
    · next deliverBlock err d processed =>
      obtain ⟨⟨data, headers⟩, ⟨impossible, _⟩ | ⟨same, accepted⟩⟩ :=
        processBlock_cases formed.data formed.headers processed
      · cases impossible
      · cases same
        cases stepped
        rcases verificationStep_cases fabric s.delivery.dataStream blk with
          ⟨_, failed⟩ | ⟨block, _, block_eq, _⟩
        · rw [failed] at accepted
          cases accepted
        · refine ⟨⟨data, headers, ?_⟩, ?_⟩
          · intro other err writing
            cases writing
            exact ⟨block, block_eq⟩
          · refine .accept blk block (by simp) block_eq accepted ?_ rfl idle ?_
            · simp [block_eq]
            · simp [DeliveryState.pending, block_eq]
  · cases stepped

theorem deliveryStep_effect
    {s next : DeliveryState Policy Consenter} {action : DeliveryAction} (formed : Formed s)
    (stepped : deliveryStep fabric params parties s action = some next) :
    Formed next ∧ Effect fabric s action next := by
  cases action with
  | start random =>
    simp only [deliveryStep] at stepped
    split at stepped
    · next idle =>
      obtain ⟨⟨workers, d⟩, started, rfl⟩ := map_eq_some_iff.mp stepped
      obtain ⟨data_eq, headers_eq⟩ := initStreams_streams started
      refine ⟨⟨data_eq ▸ formed.data, headers_eq ▸ formed.headers, ?_⟩, ?_⟩
      · intro blk err writing
        cases writing
      · refine .quiet (by simp) data_eq rfl rfl ?_
        simp [DeliveryState.pending, idle]
    · cases stepped
  | receive index block written =>
    simp only [deliveryStep] at stepped
    split at stepped
    · cases stepped
    · split at stepped
      · cases stepped
        exact ⟨formed, .quiet (by simp) rfl rfl rfl rfl⟩
      · cases stepped
        exact ⟨⟨formed.data, formed.headers, formed.held⟩, .quiet (by simp) rfl rfl rfl rfl⟩
  | fail =>
    simp only [deliveryStep] at stepped
    split at stepped
    · cases stepped
    · cases stepped
      exact ⟨⟨formed.data, formed.headers, formed.held⟩, .quiet (by simp) rfl rfl rfl rfl⟩
  | iterate =>
    simp only [deliveryStep] at stepped
    split at stepped
    · next looping =>
      have idle : s.pending = [] := by simp only [DeliveryState.pending, looping]
      split at stepped
      · cases stepped
        refine ⟨resume_formed _ formed.data formed.headers, ?_⟩
        exact .quiet (by simp) rfl rfl rfl (by rw [resume_pending, idle])
      · cases stepped
        refine ⟨⟨formed.data, formed.headers, ?_⟩, ?_⟩
        · intro blk err writing
          cases writing
        · exact .quiet (by simp) rfl rfl rfl idle.symm
    · cases stepped
  | read now => exact readStep_effect formed stepped
  | wake now =>
    simp only [deliveryStep] at stepped
    split at stepped
    · next waking =>
      have idle : s.pending = [] := by simp only [DeliveryState.pending, waking.1]
      cases stepped
      obtain ⟨data_eq, headers_eq⟩ :=
        checkBlockWithholding_streams (Prod.eta (s.delivery.checkBlockWithholding params now)).symm
      obtain ⟨delivery_eq, verified_eq, output_eq⟩ :=
        resume_frame
          { s with
            delivery := (s.delivery.checkBlockWithholding params now).2 }
          (s.delivery.checkBlockWithholding params now).1
      refine ⟨resume_formed _ (data_eq ▸ formed.data) (headers_eq ▸ formed.headers), ?_⟩
      refine .quiet (by simp) ?_ verified_eq output_eq ?_
      · rw [delivery_eq]
        exact data_eq
      · rw [resume_pending, idle]
    · cases stepped
  | write =>
    simp only [deliveryStep] at stepped
    split at stepped
    · next blk err writing =>
      obtain ⟨block, block_eq⟩ := formed.held blk err writing
      cases stepped
      refine ⟨⟨formed.data, formed.headers, ?_⟩, ?_⟩
      · intro other err writing
        cases writing
      · refine .write block rfl rfl rfl ?_ ?_ rfl
        · simp [block_eq]
        · simp [DeliveryState.pending, writing, block_eq]
    · cases stepped
  | writeWithSourceID =>
    simp only [deliveryStep] at stepped
    split at stepped
    · next blk err writing =>
      have idle : s.pending = [] := by simp only [DeliveryState.pending, writing]
      cases stepped
      refine ⟨resume_formed _ formed.data formed.headers, ?_⟩
      refine .quiet (by simp) ?_ ?_ ?_ (by rw [resume_pending, idle])
      · rw [(resume_frame _ _).1]
      · rw [(resume_frame _ _).2.1]
      · rw [(resume_frame _ _).2.2]
    · cases stepped
  | wait =>
    simp only [deliveryStep] at stepped
    split at stepped
    · next err returned =>
      cases stepped
      refine ⟨⟨formed.data, formed.headers, ?_⟩, ?_⟩
      · intro blk err writing
        cases writing
      · refine .quiet (by simp) rfl rfl rfl ?_
        simp [DeliveryState.pending, returned]
    · cases stepped

/-- What holds in every run: the verified blocks extend the chain of the session
up to the state of the data stream, and the output has some of them in order. -/
structure Progress (start : Tip fabric) (s : DeliveryState Policy Consenter) : Prop where
  formed : Formed s
  chain : VerifiedChain start s.verified
  represents : Represents s.delivery.dataStream (start.after s.verified)
  inOrder : (s.output ++ s.pending).Sublist s.verified

theorem newFTDelivery_progress
    {d : FtDelivery Policy Consenter} (created : newFTDelivery fabric params = .ok d) :
    Progress (sessionTip fabric params.session) (toQueue fabric params parties d).initial := by
  unfold newFTDelivery at created
  split at created
  · cases created
  · split at created
    · cases created
    · split at created
      · cases created
      · next latestKnownConfig _ =>
        split at created
        · cases created
        · next state latestConfig opened =>
          cases created
          have represents := session_represents opened
          refine
            { formed := ⟨rfl, ?_, ?_⟩
              chain := trivial
              represents := openStream_represents represents true
              inOrder := List.Sublist.refl [] }
          · exact session_headers opened
          · intro blk err writing
            cases writing

theorem progress_step
    {start : Tip fabric} {s next : DeliveryState Policy Consenter} {action : DeliveryAction}
    (progress : Progress start s)
    (stepped : deliveryStep fabric params parties s action = some next) :
    Progress start next := by
  obtain ⟨formed, effect⟩ := deliveryStep_effect progress.formed stepped
  cases effect with
  | quiet other data_eq verified_eq output_eq pending_eq =>
    refine ⟨formed, ?_, ?_, ?_⟩
    · rw [verified_eq]
      exact progress.chain
    · rw [data_eq, verified_eq]
      exact progress.represents
    · rw [output_eq, pending_eq, verified_eq]
      exact progress.inOrder
  | accept blk block other block_eq accepted verified_eq output_eq idle
      pending_eq =>
      obtain ⟨accepted, header, accepted_eq, extended, represents⟩ :=
        accepted_extends progress.represents accepted
      have same := accepted_eq.symm.trans block_eq
      cases same
      obtain ⟨chain, ends⟩ := progress.chain.snoc extended
      refine ⟨formed, ?_, ?_, ?_⟩
      · rw [verified_eq]
        exact chain
      · rw [verified_eq, ends]
        exact represents
      · have inOrder := progress.inOrder
        rw [idle, append_nil] at inOrder
        rw [output_eq, pending_eq, verified_eq]
        exact inOrder.append (List.Sublist.refl [block])
  | write block isWrite data_eq verified_eq output_eq held pending_eq =>
    refine ⟨formed, ?_, ?_, ?_⟩
    · rw [verified_eq]
      exact progress.chain
    · rw [data_eq, verified_eq]
      exact progress.represents
    · have inOrder := progress.inOrder
      rw [held] at inOrder
      rw [output_eq, pending_eq, verified_eq, append_nil]
      cases s.groupDone with
      | false => exact inOrder
      | true => exact (sublist_append_left _ _).trans inOrder

/-- A block is written while the context of the group is not cancelled. -/
def WrittenInTime (s : DeliveryState Policy Consenter) (action : DeliveryAction) : Prop :=
  action = .write → s.groupDone = false

instance (s : DeliveryState Policy Consenter) (action : DeliveryAction) :
    Decidable (WrittenInTime s action) :=
  inferInstanceAs (Decidable (action = .write → s.groupDone = false))

/-- Nothing that was verified is missing. -/
def Complete (s : DeliveryState Policy Consenter) : Prop := s.output ++ s.pending = s.verified

/-- A verified block is neither written nor about to be. -/
def Skipped (s : DeliveryState Policy Consenter) : Prop :=
  s.output.length + s.pending.length < s.verified.length

theorem Skipped.not_complete {s : DeliveryState Policy Consenter} (skipped : Skipped s) :
    ¬ Complete s := by
  intro complete
  have lengths := congrArg List.length complete
  rw [length_append] at lengths
  unfold Skipped at skipped
  omega

section

variable {s next : DeliveryState Policy Consenter} {action : DeliveryAction}
  (effect : Effect fabric s action next)

include effect

theorem complete_step (inTime : WrittenInTime s action) (complete : Complete s) :
    Complete next := by
  unfold Complete at complete ⊢
  cases effect with
  | quiet other data_eq verified_eq output_eq pending_eq =>
    rw [output_eq, pending_eq, verified_eq]
    exact complete
  | accept blk block other block_eq accepted verified_eq output_eq idle
      pending_eq =>
      rw [idle, append_nil] at complete
      rw [output_eq, pending_eq, verified_eq, complete]
  | write block isWrite data_eq verified_eq output_eq held pending_eq =>
    rw [held] at complete
    rw [output_eq, pending_eq, verified_eq, inTime isWrite, append_nil]
    exact complete

theorem skipped_of_late (late : ¬ WrittenInTime s action) (complete : Complete s) :
    Skipped next := by
  obtain ⟨isWrite, done⟩ := Classical.not_imp.mp late
  rw [Bool.not_eq_false] at done
  unfold Skipped
  cases effect with
  | quiet other => exact absurd isWrite other
  | accept blk block other => exact absurd isWrite other
  | write block isWrite data_eq verified_eq output_eq held pending_eq =>
    have lengths := congrArg List.length complete
    rw [held, length_append, length_singleton] at lengths
    rw [output_eq, pending_eq, verified_eq, done, if_pos rfl, length_nil]
    omega

theorem skipped_step (skipped : Skipped s) : Skipped next := by
  unfold Skipped at skipped ⊢
  cases effect with
  | quiet other data_eq verified_eq output_eq pending_eq =>
    rw [output_eq, pending_eq, verified_eq]
    exact skipped
  | accept blk block other block_eq accepted verified_eq output_eq idle
      pending_eq =>
      rw [output_eq, pending_eq, verified_eq, length_append, length_singleton]
      omega
  | write block isWrite data_eq verified_eq output_eq held pending_eq =>
    rw [held, length_singleton] at skipped
    rw [output_eq, pending_eq, verified_eq, length_nil]
    split
    · omega
    · rw [length_append, length_singleton]
      omega

end

/-- The output has all verified blocks but the one that is being written, and
their numbers follow on the session. -/
structure Lossless (start : Tip fabric) (s : DeliveryState Policy Consenter) : Prop where
  complete : Complete s
  consecutive : Consecutive start.number s.output

theorem lossless_of_complete {start : Tip fabric} {s : DeliveryState Policy Consenter}
    (progress : Progress start s) (complete : Complete s) :
    Lossless start s := by
  refine ⟨complete, ?_⟩
  have consecutive := progress.chain.consecutive
  rw [← complete] at consecutive
  exact consecutive.of_append

/-- The verified blocks extend the chain of the session and are written in order,
none of them twice.  None is skipped if and only if every block was written while
the context of its group was not cancelled. -/
theorem delivery_lossless_iff
    {d : FtDelivery Policy Consenter} (created : newFTDelivery fabric params = .ok d)
    {actions : List DeliveryAction} {s : DeliveryState Policy Consenter}
    (reached : (toQueue fabric params parties d).run actions = some s) :
    VerifiedChain (sessionTip fabric params.session) s.verified ∧
      s.output.Sublist s.verified ∧
      (Lossless (sessionTip fabric params.session) s ↔
        (toQueue fabric params parties d).Guarded WrittenInTime
          (toQueue fabric params parties d).initial actions) := by
  have initially :
      Progress (sessionTip fabric params.session) (toQueue fabric params parties d).initial :=
    newFTDelivery_progress created
  have progress : Progress (sessionTip fabric params.session) s :=
    (toQueue fabric params parties d).invariant_run _ initially
      (fun _ _ _ progress stepped => progress_step progress stepped) reached
  refine ⟨progress.chain, (sublist_append_left _ _).trans progress.inOrder, ?_⟩
  have outcome :=
    (toQueue fabric params parties d).guarded_or_bad WrittenInTime
      (fun s => Formed s ∧ Complete s) (fun s => Formed s ∧ Skipped s)
      (by
        intro s action next ⟨formed, complete⟩ inTime stepped
        obtain ⟨formedNext, effect⟩ := deliveryStep_effect formed stepped
        exact ⟨formedNext, complete_step effect inTime complete⟩)
      (by
        intro s action next ⟨formed, complete⟩ late stepped
        obtain ⟨formedNext, effect⟩ := deliveryStep_effect formed stepped
        exact ⟨formedNext, skipped_of_late effect late complete⟩)
      (by
        intro s action next ⟨formed, skipped⟩ stepped
        obtain ⟨formedNext, effect⟩ := deliveryStep_effect formed stepped
        exact ⟨formedNext, skipped_step effect skipped⟩)
      ⟨initially.formed, rfl⟩ reached
  rcases outcome with ⟨guarded, _, complete⟩ | ⟨unguarded, _, skipped⟩
  · exact iff_of_true (lossless_of_complete progress complete) guarded
  · exact iff_of_false (fun lossless => skipped.not_complete lossless.complete) unguarded

def twoParties : ConfigBlockMaterial Unit Unit → List UInt32 := fun _ => [1, 2]

def bftParameters : Parameters where
  faultToleranceLevel := "BFT"
  session := chainSession
  hasOutputBlockWithSourceID := false
  suspicionGracePeriodPerBlock := 1000000000

/-- The data worker receives a block, which is verified and about to be
written. -/
def verifyBlock (number : UInt8) : List DeliveryAction :=
  [.receive 0 (some (chainBlock number 0 2)) true, .iterate, .read 0]

def writeBlock : List DeliveryAction := [.write, .writeWithSourceID]

/-- The workers for headers fail while block 5 is about to be written.  The next
group requests block 6. -/
def cancelledActions : List DeliveryAction :=
  [.start 0] ++ verifyBlock 4 ++ writeBlock ++ verifyBlock 5 ++ [.fail] ++
    writeBlock ++ [.iterate, .wait, .start 0] ++ verifyBlock 6 ++ writeBlock

/-- The same run with a failure after the block is written. -/
def restartedActions : List DeliveryAction :=
  [.start 0] ++ verifyBlock 4 ++ writeBlock ++ verifyBlock 5 ++ writeBlock ++
    [.fail, .iterate, .wait, .start 0] ++ verifyBlock 6 ++ writeBlock

def twoPartyRun (actions : List DeliveryAction) : Option (DeliveryState Unit Unit) :=
  (newFTDelivery sampleFabric bftParameters).toOption.bind fun d =>
    (toQueue sampleFabric bftParameters twoParties d).run actions

theorem twoPartyRun_eq_some {actions : List DeliveryAction} {s : DeliveryState Unit Unit}
    (reached : twoPartyRun actions = some s) :
    ∃ d, newFTDelivery sampleFabric bftParameters = .ok d ∧
      (toQueue sampleFabric bftParameters twoParties d).run actions = some s := by
  unfold twoPartyRun at reached
  cases created : newFTDelivery sampleFabric bftParameters with
  | error err =>
    rw [created] at reached
    cases reached
  | ok d =>
    rw [created] at reached
    exact ⟨d, rfl, reached⟩

/-- Block 5 is verified and skipped. -/
theorem cancelled_write_skips :
    ∃ d s,
      newFTDelivery sampleFabric bftParameters = .ok d ∧
      (toQueue sampleFabric bftParameters twoParties d).run cancelledActions = some s ∧
      s.verified = [chainBlock 4 0 2, chainBlock 5 0 2, chainBlock 6 0 2] ∧
      s.output = [chainBlock 4 0 2, chainBlock 6 0 2] := by
  have evaluated :
      (twoPartyRun cancelledActions).map (fun s => (s.verified, s.output)) =
        some
          ([chainBlock 4 0 2, chainBlock 5 0 2, chainBlock 6 0 2],
            [chainBlock 4 0 2, chainBlock 6 0 2]) := by
    decide +kernel
  obtain ⟨s, reached, blocks⟩ := map_eq_some_iff.mp evaluated
  obtain ⟨d, created, run⟩ := twoPartyRun_eq_some reached
  exact ⟨d, s, created, run, congrArg Prod.fst blocks, congrArg Prod.snd blocks⟩

theorem restarted_delivery_lossless :
    ∃ d s,
      newFTDelivery sampleFabric bftParameters = .ok d ∧
      (toQueue sampleFabric bftParameters twoParties d).run restartedActions = some s ∧
      s.output = [chainBlock 4 0 2, chainBlock 5 0 2, chainBlock 6 0 2] ∧
      Lossless (sessionTip sampleFabric bftParameters.session) s := by
  have evaluated :
      (twoPartyRun restartedActions).map DeliveryState.output =
        some [chainBlock 4 0 2, chainBlock 5 0 2, chainBlock 6 0 2] := by
    decide +kernel
  have guarded :
      ∀ d ∈ (newFTDelivery sampleFabric bftParameters).toOption,
        (toQueue sampleFabric bftParameters twoParties d).Guarded
          WrittenInTime
          (toQueue sampleFabric bftParameters twoParties d).initial
          restartedActions := by
    decide +kernel
  obtain ⟨s, reached, output_eq⟩ := map_eq_some_iff.mp evaluated
  obtain ⟨d, created, run⟩ := twoPartyRun_eq_some reached
  have inTime := guarded d (by rw [created]; rfl)
  exact ⟨d, s, created, run, output_eq, (delivery_lossless_iff created run).2.2.mpr inTime⟩

end FabricXCommitter.DeliverOrderer
