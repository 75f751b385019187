import FabricXCommitter.Sidecar.Relay

/-!
# Submitting blocks

Queueing a segment and processing statuses are single steps.
-/

namespace FabricXCommitter.Sidecar

open Library

structure Slots where
  available : Int
  size : Int
  deriving DecidableEq, Repr

namespace Slots

def newSlots (size : Int) : Slots where
  available := size
  size := size

/-- Nothing is returned while the caller has to wait. -/
def acquire (w : Slots) (n : Nat) : Option Slots :=
  if w.available < 1 then none else some { w with available := w.available - n }

def release (w : Slots) (n : Nat) : Slots := { w with available := w.available + n }

/-- Whether a caller of `WaitTillEmpty` goes on. -/
def isEmpty (w : Slots) : Bool := !(w.available < w.size)

end Slots

structure CoordinatorBatch where
  txs : List TxWithRef
  rejected : List TxStatus := []
  deriving DecidableEq, Repr

namespace CoordinatorBatch

def inFlightTxCount (batch : CoordinatorBatch) : Nat := batch.txs.length + batch.rejected.length

def refs (batch : CoordinatorBatch) : List TxRef :=
  batch.txs.map TxWithRef.ref ++ batch.rejected.map TxStatus.ref

end CoordinatorBatch

/-- A mapped block or a part of it; the status object is shared by its place in
the list of all blocks. -/
structure Segment where
  blockNumber : UInt64
  block : CoordinatorBatch
  withStatus : Nat
  deriving DecidableEq, Repr

def Segment.refs (segment : Segment) : List TxRef := segment.block.refs

/-- What the goroutine that maps blocks still has to do for a block. -/
inductive Submission where
  | drain
  | forward (block : Block)
  | queue (segment : Segment)
  deriving DecidableEq

def submitConfigBlock (block : Block) (mapped : MappedBlock) (withStatus : Nat) : List Submission :=
  [.drain, .forward block,
    .queue ⟨mapped.blockNumber, ⟨mapped.txs, mapped.rejected⟩, withStatus⟩,
    .drain]

def submitSnapshotBlock (mapped : MappedBlock) (snapshotTx : TxWithRef) (withStatus : Nat) :
    List Submission :=
  (if 0 < mapped.txs.length ∨ 0 < mapped.rejected.length then
    [.queue ⟨mapped.blockNumber, ⟨mapped.txs, mapped.rejected⟩, withStatus⟩]
  else
    []) ++
    [.drain, .queue ⟨mapped.blockNumber, ⟨[snapshotTx], []⟩, withStatus⟩, .drain]

def submitMappedBlock (block : Block) (mapped : MappedBlock) (withStatus : Nat) : List Submission :=
  if mapped.isConfig then
    submitConfigBlock block mapped withStatus
  else
    match mapped.snapshotTx with
    | some snapshotTx => submitSnapshotBlock mapped snapshotTx withStatus
    | none => [.queue ⟨mapped.blockNumber, ⟨mapped.txs, mapped.rejected⟩, withStatus⟩]

/-- The feedback of a held or halted checkpoint. -/
def TxStatusBatch.stopping (batch : TxStatusBatch) : Option CheckpointFeedback :=
  batch.checkpointFeedback.filter fun feedback => feedback.signal != .unspecified

/-- The transactions that a batch reports on. -/
def TxStatusBatch.refs (batch : TxStatusBatch) : List TxRef :=
  batch.status.map TxStatus.ref ++ (batch.stopping.bind (·.ref)).toList

def tracked
    (inFlight : InFlightBlocks Nat) (blocks : List BlockWithStatus) (ref : TxRef) : Option Nat :=
  match inFlight.get ref.blockNum with
  | none => none
  | some place =>
    match blocks[place]? with
    | none => none
    | some b => if b.holds ref then some place else none

/-- The loop over the statuses of a batch: the blocks after it, the transactions
whose status was set, and whether the loop was completed. -/
def setStatuses (inFlight : InFlightBlocks Nat) :
    List BlockWithStatus → List TxStatus → List BlockWithStatus × List TxRef × Bool
  | blocks, [] => (blocks, [], true)
  | blocks, txStatus :: rest =>
    match tracked inFlight blocks txStatus.ref with
    | none => setStatuses inFlight blocks rest
    | some place =>
      match blocks[place]? with
      | none => setStatuses inFlight blocks rest
      | some b =>
        match b.setFinalStatus txStatus.ref.txNum txStatus.status with
        | .error _ => (blocks, [], false)
        | .ok next =>
          let result := setStatuses inFlight (blocks.set place next) rest
          (result.1, txStatus.ref :: result.2.1, result.2.2)

/-- The state of a session.  The last fields are the blocks that were mapped, the
segments that were sent, the number of blocks that were dropped, the transactions
that got their status, the checkpoint that was held or halted, and all
transactions that the coordinator reported on after they were sent. -/
structure SubmissionState where
  txIDDedup : TxIDDedup := {}
  slots : Slots
  blocks : List BlockWithStatus := []
  inFlight : InFlightBlocks Nat
  todo : List Submission := []
  queue : List Segment := []
  sending : Option Segment := none
  configBlocks : List Block := []
  isMapping : Bool := true
  isSending : Bool := true
  isProcessing : Bool := true
  mapped : List MappedBlock := []
  sent : List Segment := []
  dropped : Nat := 0
  finals : List TxRef := []
  stoppedAt : Option TxRef := none
  reported : List TxRef := []
  deriving DecidableEq

namespace SubmissionState

def sentRefs (s : SubmissionState) : List TxRef := s.sent.flatMap Segment.refs

def queued (s : SubmissionState) : List Segment := s.sent ++ s.sending.toList ++ s.queue

def queuedRefs (s : SubmissionState) : List TxRef := s.queued.flatMap Segment.refs

/-- The transactions with an outcome: a status or the feedback on a checkpoint. -/
def outcomes (s : SubmissionState) : List TxRef := s.finals ++ s.stoppedAt.toList

def waiting (s : SubmissionState) : List TxRef := s.queuedRefs.filter fun ref => ref ∉ s.outcomes

/-- A block arrives and is mapped. -/
def preProcessBlock (wire : Wire) (platform : Platform) (s : SubmissionState) (block : Block) :
    Option SubmissionState :=
  if s.isMapping = false ∨ s.todo ≠ [] then
    none
  else
    let dedup := s.txIDDedup.evictCommittedBelow s.inFlight.nextBlockNumberToCommit
    match mapBlock wire platform block dedup with
    | .error _ => some { s with txIDDedup := dedup, isMapping := false }
    | .ok (mapped, after) =>
      some
        { s with
          txIDDedup := after
          blocks := s.blocks ++ [mapped.withStatus]
          todo := submitMappedBlock block mapped s.blocks.length
          mapped := s.mapped ++ [mapped] }

/-- The next part of the submission of a block. -/
def submit (s : SubmissionState) : Option SubmissionState :=
  match s.todo with
  | [] => none
  | .drain :: rest =>
    if s.slots.isEmpty then some { s with todo := rest } else none
  | .forward block :: rest =>
    some { s with configBlocks := s.configBlocks ++ [block], todo := rest }
  | .queue segment :: rest =>
    match s.slots.acquire segment.block.inFlightTxCount with
    | none => none
    | some slots =>
      some
        { s with
          slots := slots
          queue := s.queue ++ [segment]
          todo := rest }

def register (s : SubmissionState) : Option SubmissionState :=
  if s.isSending = false ∨ s.sending ≠ none then
    none
  else
    match s.queue with
    | [] => none
    | segment :: rest =>
      match s.inFlight.register segment.blockNumber segment.withStatus with
      | .error _ =>
        -- The sender stops; the segment is not sent in this session.
        some { s with isSending := false }
      | .ok (_, inFlight) =>
        some
          { s with
            inFlight := inFlight
            sending := some segment
            queue := rest }

/-- The sender sends the segment to the coordinator. -/
def send (s : SubmissionState) : Option SubmissionState :=
  if s.isSending = false then
    none
  else
    match s.sending with
    | none => none
    | some segment => some { s with sent := s.sent ++ [segment], sending := none }

/-- The sender or the processor drops the first block in flight if nothing is
pending in it. -/
def commit (s : SubmissionState) : Option SubmissionState :=
  match s.inFlight.nextBlockToCommit with
  | none => none
  | some place =>
    match s.blocks[place]? with
    | none => none
    | some b =>
      if 0 < b.pendingCount then
        none
      else
        some
          { s with
            inFlight := s.inFlight.dropCommittedBlock
            dropped := s.dropped + 1 }

def releaseCheckpointSlot (s : SubmissionState) (feedback : CheckpointFeedback) : SubmissionState :=
  match feedback.ref with
  | none => s
  | some ref =>
    match tracked s.inFlight s.blocks ref with
    | none => s
    | some _ => { s with slots := s.slots.release 1, stoppedAt := some ref }

/-- The processor takes a batch.  Feedback stops it before it has looked at the
statuses of the batch. -/
def processStatusBatch (s : SubmissionState) (batch : TxStatusBatch) : Option SubmissionState :=
  if s.isProcessing = false then
    none
  else
    let reported := s.reported ++ batch.refs.filter (· ∈ s.sentRefs)
    match batch.stopping with
    | some feedback =>
      some
        { s.releaseCheckpointSlot feedback with
          reported := reported
          isProcessing := false }
    | none =>
      let result := setStatuses s.inFlight s.blocks batch.status
      some
        { s with
          blocks := result.1
          slots :=
            if result.2.2 then
              s.slots.release result.2.1.length
            else
              s.slots
          finals := s.finals ++ result.2.1
          reported := reported
          isProcessing := result.2.2 }

end SubmissionState

inductive SubmissionAction where
  | arrive (block : Block)
  | submit
  | register
  | send
  | commit
  | receive (batch : TxStatusBatch)

/-- A session that starts with a given block number and number of slots. -/
def submissionSession (wire : Wire) (platform : Platform) (start : UInt64)
    (waitingTxsLimit : Int) : Machine SubmissionState SubmissionAction where
  initial :=
    { slots := Slots.newSlots waitingTxsLimit
      inFlight := InFlightBlocks.reset start }
  step s
    | .arrive block => s.preProcessBlock wire platform block
    | .submit => s.submit
    | .register => s.register
    | .send => s.send
    | .commit => s.commit
    | .receive batch => s.processStatusBatch batch

open List

/-- A configuration or a snapshot request. -/
def isBarrierTx (tx : Tx) : Bool :=
  isSnapshotTx tx || tx.namespaces.any fun ns => ns.nsId == configNamespaceID

def Segment.isBarrier (segment : Segment) : Bool :=
  segment.block.txs.any fun tx => isBarrierTx tx.content

def ParsedTX.isConfig : ParsedTX → Bool
  | .config _ => true
  | _ => false

/-- The ordering service puts a configuration alone into a block. -/
def ConfigAlone (wire : Wire) (platform : Platform) (block : Block) : Prop :=
  ∀ message ∈ parseMessages wire platform block, message.2.isConfig = true →
    (parseMessages wire platform block).length = 1

instance (wire : Wire) (platform : Platform) (block : Block) :
    Decidable (ConfigAlone wire platform block) :=
  inferInstanceAs
    (Decidable
      (∀ message ∈ parseMessages wire platform block,
        message.2.isConfig = true → (parseMessages wire platform block).length = 1))

/-- Only a block with a configuration has a barrier among its accepted
transactions. -/
structure Separated (mapped : MappedBlock) : Prop where
  ordinary : mapped.isConfig = false → ∀ tx ∈ mapped.txs, isBarrierTx tx.content = false
  config : mapped.isConfig = true → mapped.txs ≠ []

/-- The ordinary messages among the parsed ones are no barriers. -/
def ParsedTX.Plain (parsed : ParsedTX) : Prop :=
  ∀ tx, parsed = .accepted tx false → isBarrierTx tx = false

section

variable {m next : BlockMapper} {ref : TxRef} {parsed : ParsedTX}
  (placement : Placement m ref parsed next)

include placement

theorem Placement.separated (plain : parsed.Plain) (separated : Separated m.toMappedBlock) :
    Separated next.toMappedBlock := by
  cases placement with
  | final | snapshot | rejected => exact ⟨separated.ordinary, separated.config⟩
  | accepted tx isFirst isParsed =>
    refine ⟨?_, fun _ => append_ne_nil_of_right_ne_nil _ (cons_ne_nil _ _)⟩
    intro noConfig other mem
    rcases mem_append.mp mem with earlier | isLast
    · exact separated.ordinary noConfig other earlier
    · rw [mem_singleton.mp isLast]
      exact plain tx isParsed
  | config tx isFirst isParsed =>
    refine ⟨?_, fun _ => append_ne_nil_of_right_ne_nil _ (cons_ne_nil _ _)⟩
    intro impossible
    cases impossible

theorem Placement.isConfig (after : next.isConfig = true) :
    m.isConfig = true ∨ parsed.isConfig = true := by
  cases placement with
  | config tx isFirst isParsed =>
    rw [isParsed]
    exact .inr rfl
  | _ => exact .inl after

end

theorem separated_applyParsed
    {messages : List (TxRef × ParsedTX)} (plain : ∀ message ∈ messages, message.2.Plain) :
    ∀ {m final : BlockMapper}, m.applyParsed messages = .ok final →
      Separated m.toMappedBlock → Separated final.toMappedBlock := by
  induction messages with
  | nil =>
    intro m final isFinal separated
    cases isFinal
    exact separated
  | cons message rest ih =>
    intro m final isFinal separated
    obtain ⟨next, placement, isFinal⟩ := applyParsed_cons isFinal
    apply ih _ isFinal
    · exact placement.separated (plain message mem_cons_self) separated
    · intro other mem
      exact plain other (mem_cons_of_mem _ mem)

theorem isConfig_applyParsed {messages : List (TxRef × ParsedTX)} :
    ∀ {m final : BlockMapper}, m.applyParsed messages = .ok final →
      final.isConfig = true →
        m.isConfig = true ∨ ∃ message ∈ messages, message.2.isConfig = true := by
  induction messages with
  | nil =>
    intro m final isFinal after
    cases isFinal
    exact .inl after
  | cons message rest ih =>
    intro m final isFinal after
    obtain ⟨next, placement, isFinal⟩ := applyParsed_cons isFinal
    rcases ih isFinal after with earlier | ⟨other, mem, isConfig⟩
    · rcases placement.isConfig earlier with before | isMessage
      · exact .inl before
      · exact .inr ⟨message, mem_cons_self, isMessage⟩
    · exact .inr ⟨other, mem_cons_of_mem _ mem, isConfig⟩

theorem plain_parseMessage (wire : Wire) (platform : Platform) (msg : Bytes) :
    (parseMessage wire platform msg).2.Plain := by
  intro tx isAccepted
  revert isAccepted
  fun_cases parseMessage wire platform msg with
  | case2 envLite isEnvelope isConfig =>
    intro isAccepted
    rw [parseConfigTx] at isAccepted
    split at isAccepted
    · cases isAccepted
    · split at isAccepted
      · cases isAccepted
      · cases isAccepted
  | case7 envLite isEnvelope notConfig hasId isMessage accepted isTx wellFormed =>
    intro isAccepted
    obtain ⟨same, noSnapshot⟩ := ParsedTX.accepted.inj isAccepted
    subst same
    have form := wellFormed_of_verifyTxForm (not_not.mp wellFormed)
    rw [isBarrierTx, noSnapshot, Bool.false_or, any_eq_false]
    intro ns mem
    simpa using (form.each ns mem).notConfig
  | _ =>
    intro isAccepted
    cases isAccepted

theorem plain_parseFrom
    {wire : Wire} {platform : Platform} {blockNumber : UInt64} {messages : List Bytes} :
    ∀ {start : Nat},
      ∀ message ∈ parseFrom wire platform blockNumber start messages, message.2.Plain := by
  induction messages with
  | nil =>
    intro start message mem
    cases mem
  | cons msg rest ih =>
    intro start message mem
    rcases mem_cons.mp mem with isFirst | later
    · rw [isFirst]
      exact plain_parseMessage wire platform msg
    · exact ih message later

section

variable {wire : Wire} {platform : Platform} {block : Block}
  {dedup after : TxIDDedup} {mapped : MappedBlock}

section

variable (isMapped : mapBlock wire platform block dedup = .ok (mapped, after))

include isMapped

theorem separated_of_mapBlock : Separated mapped := by
  obtain ⟨m, same, _, isFinal⟩ := mapper_of_mapBlock isMapped
  rw [← same]
  refine separated_applyParsed plain_parseFrom isFinal ⟨?_, ?_⟩
  · intro _ tx mem
    cases mem
  · intro impossible
    cases impossible

theorem config_of_mapBlock (isConfig : mapped.isConfig = true) :
    ∃ message ∈ parseMessages wire platform block, message.2.isConfig = true := by
  obtain ⟨m, same, _, isFinal⟩ := mapper_of_mapBlock isMapped
  subst same
  rcases isConfig_applyParsed isFinal isConfig with impossible | found
  · cases impossible
  · exact found

theorem length_pending_le : mapped.pending.length ≤ (parseMessages wire platform block).length := by
  rw [(wellMapped_of_mapBlock isMapped).pending.length_eq, pendingOf,
    length_map, ← length_settle dedup.ids]
  exact length_filter_le _ _

theorem pending_of_config
    (alone : ConfigAlone wire platform block) (isConfig : mapped.isConfig = true) :
    (∃ tx, mapped.txs = [tx]) ∧ mapped.rejected = [] ∧ mapped.snapshotTx = none := by
  obtain ⟨message, mem, messageIsConfig⟩ := config_of_mapBlock isMapped isConfig
  have atMost := length_pending_le isMapped
  rw [alone message mem messageIsConfig, MappedBlock.pending,
    length_append, length_append, length_map, length_map,
    length_map] at atMost
  have some : 0 < mapped.txs.length :=
    length_pos_iff.mpr ((separated_of_mapBlock isMapped).config isConfig)
  refine ⟨length_eq_one_iff.mp (by omega), ?_, ?_⟩
  · exact length_eq_zero_iff.mp (by omega)
  · have noSnapshot : mapped.snapshotTx.toList.length = 0 := by omega
    simpa using noSnapshot

end

end

/-! ## The submission of a block -/

def Submission.segment : Submission → Option Segment
  | .queue segment => some segment
  | _ => none

/-- The segments that are still to be queued. -/
def segmentsOf (todo : List Submission) : List Segment := todo.filterMap Submission.segment

@[simp]
theorem segmentsOf_nil : segmentsOf [] = [] := rfl

@[simp]
theorem segmentsOf_drain (rest : List Submission) : segmentsOf (.drain :: rest) = segmentsOf rest :=
  rfl

@[simp]
theorem segmentsOf_forward (block : Block) (rest : List Submission) :
    segmentsOf (.forward block :: rest) = segmentsOf rest :=
  rfl

@[simp]
theorem segmentsOf_queue (segment : Segment) (rest : List Submission) :
    segmentsOf (.queue segment :: rest) = segment :: segmentsOf rest :=
  rfl

/-- Every barrier stands alone between two drains, of which the first may have
been made already. -/
def WellPlanned : Bool → List Submission → Prop
  | _, [] => True
  | _, .drain :: rest => WellPlanned true rest
  | drained, .forward _ :: rest => WellPlanned drained rest
  | drained, .queue segment :: rest =>
    (segment.isBarrier = true →
      drained = true ∧ segment.refs.length = 1 ∧ rest.head? = some .drain) ∧
      WellPlanned false rest

structure Planned (mapped : MappedBlock) (withStatus : Nat) (todo : List Submission) : Prop where
  barriers : WellPlanned false todo
  refs : ((segmentsOf todo).flatMap Segment.refs).Perm mapped.pending
  segments :
    ∀ segment ∈ segmentsOf todo,
      segment.blockNumber = mapped.blockNumber ∧ segment.withStatus = withStatus

section

variable {mapped : MappedBlock} (withStatus : Nat)

theorem planned_config (block : Block) (alone : ∃ tx, mapped.txs = [tx])
    (noneRejected : mapped.rejected = []) (noSnapshot : mapped.snapshotTx = none) :
    Planned mapped withStatus (submitConfigBlock block mapped withStatus) := by
  obtain ⟨tx, isTx⟩ := alone
  refine ⟨⟨fun _ => ⟨rfl, ?_, rfl⟩, trivial⟩, ?_, ?_⟩
  · simp [Segment.refs, CoordinatorBatch.refs, isTx, noneRejected]
  · simp [submitConfigBlock, Segment.refs, CoordinatorBatch.refs, MappedBlock.pending, noSnapshot]
  · simp [submitConfigBlock]

theorem not_isBarrier
    {segment : Segment} (ordinary : ∀ tx ∈ segment.block.txs, isBarrierTx tx.content = false) :
    ¬ segment.isBarrier = true := by
  intro isBarrier
  rw [Segment.isBarrier, any_eq_true] at isBarrier
  obtain ⟨tx, mem, isTx⟩ := isBarrier
  rw [ordinary tx mem] at isTx
  cases isTx

theorem planned_ordinary (ordinary : ∀ tx ∈ mapped.txs, isBarrierTx tx.content = false)
    (noSnapshot : mapped.snapshotTx = none) :
    Planned mapped withStatus
      [.queue ⟨mapped.blockNumber, ⟨mapped.txs, mapped.rejected⟩, withStatus⟩] := by
  refine ⟨⟨fun isBarrier => absurd isBarrier (not_isBarrier ordinary), trivial⟩, ?_, ?_⟩
  · simp [Segment.refs, CoordinatorBatch.refs, MappedBlock.pending, noSnapshot]
  · simp

theorem planned_snapshot (ordinary : ∀ tx ∈ mapped.txs, isBarrierTx tx.content = false)
    {snapshotTx : TxWithRef} (isSnapshot : mapped.snapshotTx = some snapshotTx) :
    Planned mapped withStatus (submitSnapshotBlock mapped snapshotTx withStatus) := by
  have second :
      WellPlanned false
        [.drain, .queue ⟨mapped.blockNumber, ⟨[snapshotTx], []⟩, withStatus⟩, .drain] :=
    ⟨fun _ => ⟨rfl, rfl, rfl⟩, trivial⟩
  rw [submitSnapshotBlock]
  split
  · refine ⟨⟨fun isBarrier => absurd isBarrier (not_isBarrier ordinary), second⟩, ?_, ?_⟩
    · simp [Segment.refs, CoordinatorBatch.refs, MappedBlock.pending, isSnapshot]
    · simp
  · have noTxs : mapped.txs = [] := length_eq_zero_iff.mp (by omega)
    have noneRejected : mapped.rejected = [] := length_eq_zero_iff.mp (by omega)
    refine ⟨second, ?_, ?_⟩
    · simp [Segment.refs, CoordinatorBatch.refs, MappedBlock.pending, isSnapshot,
        noTxs, noneRejected]
    · simp

end

theorem planned_of_mapBlock {wire : Wire} {platform : Platform} {block : Block}
    {dedup after : TxIDDedup} {mapped : MappedBlock}
    (isMapped : mapBlock wire platform block dedup = .ok (mapped, after))
    (alone : ConfigAlone wire platform block) (withStatus : Nat) :
    Planned mapped withStatus (submitMappedBlock block mapped withStatus) := by
  have separated := separated_of_mapBlock isMapped
  rw [submitMappedBlock]
  split
  · rename_i isConfig
    obtain ⟨single, noneRejected, noSnapshot⟩ := pending_of_config isMapped alone isConfig
    exact planned_config withStatus block single noneRejected noSnapshot
  · rename_i noConfig
    have ordinary := separated.ordinary (Bool.eq_false_iff.mpr noConfig)
    split
    · rename_i snapshotTx isSnapshot
      exact planned_snapshot withStatus ordinary isSnapshot
    · rename_i noSnapshot
      exact planned_ordinary withStatus ordinary noSnapshot

end FabricXCommitter.Sidecar
