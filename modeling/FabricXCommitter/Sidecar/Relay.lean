import FabricXCommitter.Library.Machine
import FabricXCommitter.Sidecar.InFlightBlocks
import FabricXCommitter.Sidecar.Settling

/-!
# The relay

Sender and processor write committed blocks under one lock.  Every access to shared
data is a step.
-/

namespace FabricXCommitter.Sidecar

open Library

inductive FeedbackSignal where
  | unspecified
  | hold
  | halt
  deriving DecidableEq, Repr

structure CheckpointFeedback where
  signal : FeedbackSignal
  ref : Option TxRef
  deriving DecidableEq, Repr

structure TxStatusBatch where
  status : List TxStatus
  checkpointFeedback : Option CheckpointFeedback := none
  deriving DecidableEq, Repr

def TxStatusBatch.endsSession (batch : TxStatusBatch) : Bool :=
  match batch.checkpointFeedback with
  | none => false
  | some feedback => feedback.signal != .unspecified

/-- A mapped block, as the mapping yields it. -/
structure MappedInput where
  mapped : MappedBlock
  settled : List (TxRef × Status)
  wellMapped : WellMapped settled mapped

/-- The goroutines that write committed blocks. -/
inductive Emitter where
  | sender
  | processor
  deriving DecidableEq, Repr

/-- How far the holder of the lock is in `processCommittedBlocksInOrder`. -/
inductive EmitStage where
  | checkContext
  | peek
  | load (ptr : Nat)
  | drop (ptr : Nat)
  | write (ptr : Nat)
  | writeTxs (ptr : Nat)
  deriving DecidableEq, Repr

inductive SenderStage where
  | read
  | load (ptr : Nat)
  | emit
  | stopped
  deriving DecidableEq, Repr

inductive ProcessorStage where
  | read
  | next (rest : List TxStatus)
  | write (ptr : Nat) (status : TxStatus) (rest : List TxStatus)
  | count (ptr : Nat) (rest : List TxStatus)
  | emit
  | stopped
  deriving DecidableEq, Repr

inductive ReporterStage where
  | wait
  | load
  | call (blkNum : UInt64)
  | stopped
  deriving DecidableEq, Repr

/-- The state of a session.  Blocks are referred to by their place in the list
of all blocks.  The last fields are the blocks that were dropped from the window
in their order, the blocks that were written to the two outputs, and the numbers
that were reported. -/
structure RelayState where
  blocks : List BlockWithStatus := []
  inFlight : InFlightBlocks Nat
  queue : List Nat := []
  statuses : List TxStatusBatch := []
  sender : SenderStage := .read
  processor : ProcessorStage := .read
  reporter : ReporterStage := .wait
  expected : UInt64
  lock : Option (Emitter × EmitStage) := none
  cancelled : Bool := false
  dropped : List Nat := []
  committed : List BlockWithStatus := []
  committedWithTxs : List BlockWithStatus := []
  reported : List UInt64 := []
  deriving DecidableEq

namespace RelayState

/-- The lock is released, and its holder goes on with its loop. -/
def release (s : RelayState) : Emitter → RelayState
  | .sender => { s with lock := none, sender := .read }
  | .processor => { s with lock := none, processor := .read }

/-- One step of `processCommittedBlocksInOrder`.  A write to an output fails
only if the context is cancelled. -/
def emitStep (s : RelayState) (owner : Emitter) (written : Bool) : EmitStage → Option RelayState
  | .checkContext =>
    if s.cancelled then
      some (s.release owner)
    else
      some { s with lock := some (owner, .peek) }
  | .peek =>
    match s.inFlight.nextBlockToCommit with
    | none => some (s.release owner)
    | some ptr => some { s with lock := some (owner, .load ptr) }
  | .load ptr =>
    match s.blocks[ptr]? with
    | none => none
    | some b =>
      if 0 < b.pendingCount then
        some (s.release owner)
      else
        some { s with lock := some (owner, .drop ptr) }
  | .drop ptr =>
    some
      { s with
        inFlight := s.inFlight.dropCommittedBlock
        dropped := s.dropped ++ [ptr]
        lock := some (owner, .write ptr) }
  | .write ptr =>
    match s.blocks[ptr]? with
    | none => none
    | some b =>
      if written then
        some
          { s with
            committed := s.committed ++ [b]
            lock := some (owner, .writeTxs ptr) }
      else if s.cancelled then
        some { s with lock := some (owner, .writeTxs ptr) }
      else
        none
  | .writeTxs ptr =>
    match s.blocks[ptr]? with
    | none => none
    | some b =>
      if written then
        some
          { s with
            committedWithTxs := s.committedWithTxs ++ [b]
            lock := some (owner, .checkContext) }
      else if s.cancelled then
        some { s with lock := some (owner, .checkContext) }
      else
        none

/-- A goroutine that has to write blocks waits for the lock. -/
def emit (s : RelayState) (owner : Emitter) (written : Bool) : Option RelayState :=
  match s.lock with
  | none => some { s with lock := some (owner, .checkContext) }
  | some (holder, stage) =>
    if holder = owner then s.emitStep owner written stage else none

/-- One step of `sendBlocksToCoordinator`. -/
def senderStep (s : RelayState) (written : Bool) : Option RelayState :=
  match s.sender with
  | .read =>
    if s.cancelled then
      some { s with sender := .stopped }
    else
      match s.queue with
      | [] => none
      | ptr :: rest =>
        match s.blocks[ptr]? with
        | none => none
        | some b =>
          match s.inFlight.register b.block.number ptr with
          | .error _ => some { s with queue := rest, sender := .stopped }
          | .ok (_, inFlight) =>
            some
              { s with
                queue := rest
                inFlight := inFlight
                sender := .load ptr }
  | .load ptr =>
    match s.blocks[ptr]? with
    | none => none
    | some b =>
      if b.pendingCount = 0 then
        some { s with sender := .emit }
      else
        some { s with sender := .read }
  | .emit => s.emit .sender written
  | .stopped => none

/-- One step of `processStatusBatch`. -/
def processorStep (s : RelayState) (written : Bool) : Option RelayState :=
  match s.processor with
  | .read =>
    if s.cancelled then
      some { s with processor := .stopped }
    else
      match s.statuses with
      | [] => none
      | batch :: rest =>
        if batch.endsSession then
          some { s with statuses := rest, processor := .stopped }
        else
          some { s with statuses := rest, processor := .next batch.status }
  | .next [] => some { s with processor := .emit }
  | .next (status :: rest) =>
    match s.inFlight.get status.ref.blockNum with
    | none => some { s with processor := .next rest }
    | some ptr =>
      match s.blocks[ptr]? with
      | none => none
      | some b =>
        if b.holds status.ref then
          some { s with processor := .write ptr status rest }
        else
          some { s with processor := .next rest }
  | .write ptr status rest =>
    match s.blocks[ptr]? with
    | none => none
    | some b =>
      if b.txStatus[status.ref.txNum.toNat]? = some statusNotYetValidated then
        some
          { s with
            blocks :=
              s.blocks.set ptr
                { b with
                  txStatus := b.txStatus.set status.ref.txNum.toNat status.status }
            processor := .count ptr rest }
      else
        some { s with processor := .stopped }
  | .count ptr rest =>
    match s.blocks[ptr]? with
    | none => none
    | some b =>
      some
        { s with
          blocks := s.blocks.set ptr { b with pendingCount := b.pendingCount - 1 }
          processor := .next rest }
  | .emit => s.emit .processor written
  | .stopped => none

/-- One step of `setLastCommittedBlockNumber`. -/
def reporterStep (s : RelayState) (acknowledged : Bool) : Option RelayState :=
  match s.reporter with
  | .wait =>
    if s.cancelled then
      some { s with reporter := .stopped }
    else if s.inFlight.nextBlockNumberToCommit = s.expected then
      some s
    else
      some { s with reporter := .load }
  | .load => some { s with reporter := .call (s.inFlight.nextBlockNumberToCommit - 1) }
  | .call blkNum =>
    if acknowledged then
      some
        { s with
          reported := s.reported ++ [blkNum]
          expected := blkNum + 1
          reporter := .wait }
    else
      some
        { s with
          reported := s.reported ++ [blkNum]
          reporter := .stopped }
  | .stopped => none

end RelayState

/-- The steps of a session.  A block is mapped once and queued in one segment or
in two; statuses arrive in any order; the context may be cancelled. -/
inductive RelayAction where
  | map (input : MappedInput)
  | queue (ptr : Nat)
  | deliver (batch : TxStatusBatch)
  | cancel
  | sender (written : Bool)
  | processor (written : Bool)
  | reporter (acknowledged : Bool)

def relayStep (s : RelayState) : RelayAction → Option RelayState
  | .map input => some { s with blocks := s.blocks ++ [input.mapped.withStatus] }
  | .queue ptr => some { s with queue := s.queue ++ [ptr] }
  | .deliver batch => some { s with statuses := s.statuses ++ [batch] }
  | .cancel => some { s with cancelled := true }
  | .sender written => s.senderStep written
  | .processor written => s.processorStep written
  | .reporter acknowledged => s.reporterStep acknowledged

def relaySession (start : UInt64) : Machine RelayState RelayAction where
  initial := { inFlight := InFlightBlocks.reset start, expected := start }
  step := relayStep

end FabricXCommitter.Sidecar
