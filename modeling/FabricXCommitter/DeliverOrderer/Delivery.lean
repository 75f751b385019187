import FabricXCommitter.DeliverOrderer.Verification
import FabricXCommitter.Library.Machine

/-!
# Fault tolerant delivery

The environment chooses the blocks, the failures, the clock and the random party.
-/

namespace FabricXCommitter.DeliverOrderer

open Library

inductive FaultToleranceLevel where
  | bft
  | cft
  deriving DecidableEq, Repr

def getFaultToleranceLevel (ftLevel : String) : Except String FaultToleranceLevel :=
  let ftLevel := ftLevel.toUpper
  if ftLevel = "BFT" then
    .ok .bft
  else if ftLevel = "CFT" then
    .ok .cft
  else if ftLevel = "" then
    .ok .bft
  else
    .error ("invalid fault tolerance level: '" ++ ftLevel ++ "'")

/-- The parameters of `ToQueue`.  The first output is set; the output with source
IDs is optional. -/
structure Parameters where
  faultToleranceLevel : String
  session : SessionInfo
  hasOutputBlockWithSourceID : Bool
  suspicionGracePeriodPerBlock : Int64

inductive DeliveryError where
  | faultToleranceLevel (message : String)
  | gracePeriod (message : String)
  | nilHeader
  | session (err : SessionError)
  deriving DecidableEq, Repr

/-- The block with the highest number.  Comparing a block without a header
faults. -/
def maxBlock : List (Option Block) → Option Block → Except DeliveryError (Option Block)
  | [], ret => .ok ret
  | b :: blocks, none => maxBlock blocks b
  | none :: blocks, some ret => maxBlock blocks (some ret)
  | some b :: blocks, some ret =>
    match b.header, ret.header with
    | some header, some retHeader =>
      if header.number > retHeader.number then
        maxBlock blocks (some b)
      else
        maxBlock blocks (some ret)
    | _, _ => .error .nilHeader

structure FtDelivery (Policy Consenter : Type) where
  dataStream : BlockVerificationStateMachine Policy Consenter
  headerOnlyStream : BlockVerificationStateMachine Policy Consenter
  curDataBlockSourceID : UInt32 := 0
  latestConfig : ConfigState Policy Consenter
  monitorBlockWithholding : Bool
  targetNextBlockNum : UInt64 := 0
  targetArrivalTime : Int := 0

/-- What ends a group. -/
inductive StreamError where
  | dataBlock (err : VerificationError)
  | configUpdate
  | suspicion
  | contextEnded
  deriving DecidableEq, Repr

structure Worker where
  nextBlockNum : UInt64
  headerOnly : Bool
  sourceID : UInt32
  deriving DecidableEq, Repr

section

variable {Policy Consenter : Type}
variable (fabric : Fabric Policy Consenter)
variable (params : Parameters)
variable (parties : ConfigBlockMaterial Policy Consenter → List UInt32)

def newFTDelivery : Except DeliveryError (FtDelivery Policy Consenter) :=
  match getFaultToleranceLevel params.faultToleranceLevel with
  | .error message => .error (.faultToleranceLevel message)
  | .ok ftLevel =>
    if ftLevel = .bft ∧ params.suspicionGracePeriodPerBlock ≤ 0 then
      .error (.gracePeriod "SuspicionGracePeriodPerBlock must be positive for BFT")
    else
      match
          maxBlock
            [params.session.latestKnownConfig, params.session.nextBlockVerificationConfig]
            none with
      | .error err => .error err
      | .ok latestKnownConfig =>
        match
            newBlockProcessingState fabric
              { params.session with
                latestKnownConfig := latestKnownConfig } with
        | .error err => .error (.session err)
        | .ok (state, latestConfig) =>
          .ok
            { dataStream := state.cloneAsDataBlockStream
              headerOnlyStream := state
              latestConfig := latestConfig
              monitorBlockWithholding := ftLevel = .bft }

namespace FtDelivery

variable (d : FtDelivery Policy Consenter)

def checkBlockWithholding (now : Int) : Option StreamError × FtDelivery Policy Consenter :=
  if d.monitorBlockWithholding = false then
    (none, d)
  else if d.headerOnlyStream.nextBlockNum ≤ d.dataStream.nextBlockNum then
    -- The data stream has caught up.
    (none, { d with targetNextBlockNum := 0 })
  else if d.targetNextBlockNum ≤ d.dataStream.nextBlockNum then
    let target := d.headerOnlyStream.nextBlockNum
    let gap := min (target - d.dataStream.nextBlockNum).toNat (2 ^ 63 - 1)
    (none,
      { d with
        targetNextBlockNum := target
        targetArrivalTime := now + (params.suspicionGracePeriodPerBlock * Int64.ofNat gap).toInt })
  else if now < d.targetArrivalTime then
    (none, d)
  else
    (some .suspicion, { d with targetNextBlockNum := 0 })

def checkNextStreamAction (state : BlockVerificationStateMachine Policy Consenter) (now : Int) :
    Option StreamError × FtDelivery Policy Consenter :=
  if d.latestConfig.configBlockNumber < state.configState.configBlockNumber then
    (some .configUpdate, { d with latestConfig := state.configState })
  else
    d.checkBlockWithholding params now

def isDataBlock (blk : BlockWithSourceID) : Bool :=
  (blk.block.bind Block.data).isSome && blk.sourceID == d.curDataBlockSourceID

def getProcessingState (blk : BlockWithSourceID) : BlockVerificationStateMachine Policy Consenter :=
  if d.isDataBlock blk then d.dataStream else d.headerOnlyStream

def setProcessingState
    (blk : BlockWithSourceID) (state : BlockVerificationStateMachine Policy Consenter) :
    FtDelivery Policy Consenter :=
  if d.isDataBlock blk then
    { d with dataStream := state }
  else
    { d with headerOnlyStream := state }

def processBlock (now : Int) (blk : BlockWithSourceID) :
    Option BlockWithSourceID × Option StreamError × FtDelivery Policy Consenter :=
  match (d.getProcessingState blk).verificationStepAndUpdateState fabric blk with
  | (some err, state) =>
    let d := d.setProcessingState blk state
    if state.dataBlockStream then
      (none, some (.dataBlock err), d)
    else
      (none, none, d)
  | (none, state) =>
    let deliverBlock := if state.dataBlockStream then some blk else none
    (deliverBlock, (d.setProcessingState blk state).checkNextStreamAction params state now)

def pickDataBlockStreamID (ids : List UInt32) (random : Nat) : UInt32 :=
  if d.monitorBlockWithholding = false ∨ ids.length < 2 then
    0
  else if
      d.dataStream.nextBlockNum < d.headerOnlyStream.nextBlockNum ∧
        d.latestConfig.configBlockNumber = d.headerOnlyStream.configState.configBlockNumber ∧
        d.headerOnlyStream.configState.configBlockNumber < d.headerOnlyStream.nextBlockNum - 1 ∧
        d.headerOnlyStream.updaterSourceID ∈ ids then
    d.headerOnlyStream.updaterSourceID
  else
    ids.getD (random % ids.length) 0

/-- The workers of the next group.  Without a configuration, reading its
endpoints faults. -/
def initStreams (random : Nat) : Option (List Worker × FtDelivery Policy Consenter) :=
  match d.latestConfig.material with
  | none => none
  | some material =>
    let ids := parties material
    let d := { d with curDataBlockSourceID := d.pickDataBlockStreamID ids random }
    let dataWorker : Worker :=
      { nextBlockNum := d.dataStream.nextBlockNum
        headerOnly := false
        sourceID := d.curDataBlockSourceID }
    if d.monitorBlockWithholding = false ∨ ids.length < 2 then
      some ([dataWorker], d)
    else
      let headerWorkers :=
        (ids.filter (· ≠ d.curDataBlockSourceID)).map fun id =>
          { nextBlockNum := d.headerOnlyStream.nextBlockNum
            headerOnly := true
            sourceID := id : Worker }
      some (dataWorker :: headerWorkers, d)

end FtDelivery

/-- A worker receives a block.  It passes on a block with the number it expects
and ends its stream otherwise. -/
def Worker.receive (worker : Worker) (block : Option Block) : Option (Worker × BlockWithSourceID) :=
  match block with
  | none => none
  | some b =>
    match b.header, b.metadata with
    | some header, some _ =>
      if worker.headerOnly = false ∧ b.data = none then
        none
      else if header.number ≠ worker.nextBlockNum then
        none
      else
        some ({ worker with nextBlockNum := worker.nextBlockNum + 1 }, ⟨some b, worker.sourceID⟩)
    | _, _ => none

/-- Where the loop over the blocks stands. -/
inductive Stage where
  | idle
  | looping
  | reading
  | writing (blk : BlockWithSourceID) (err : Option StreamError)
  | writingWithSourceID (blk : BlockWithSourceID) (err : Option StreamError)
  | returned (err : StreamError)
  deriving DecidableEq, Repr

/-- The field `verified` logs the data blocks that passed verification. -/
structure DeliveryState (Policy Consenter : Type) where
  delivery : FtDelivery Policy Consenter
  jointOutputBlock : List BlockWithSourceID := []
  workers : List Worker := []
  groupDone : Bool := false
  stage : Stage := .idle
  output : List Block := []
  outputWithSourceID : List BlockWithSourceID := []
  verified : List Block := []

inductive DeliveryAction where
  | start (random : Nat)
  /-- A worker receives a block and writes it to the joint queue, unless its
  stream has ended meanwhile. -/
  | receive (worker : Nat) (block : Option Block) (written : Bool)
  /-- A worker fails and cancels the context of the group. -/
  | fail
  /-- The loop checks the context. -/
  | iterate
  | read (now : Int)
  /-- The read ends with the context or at the deadline of the target. -/
  | wake (now : Int)
  | write
  | writeWithSourceID
  /-- All goroutines of the group have returned. -/
  | wait
  deriving DecidableEq, Repr

/-- The loop goes on, or returns with an error and ends the group. -/
def DeliveryState.resume (s : DeliveryState Policy Consenter) :
    Option StreamError → DeliveryState Policy Consenter
  | none => { s with stage := .looping }
  | some err => { s with stage := .returned err, groupDone := true }

def readStep (s : DeliveryState Policy Consenter) (now : Int) :
    Option (DeliveryState Policy Consenter) :=
  match s.stage, s.jointOutputBlock with
  | .reading, blk :: rest =>
    match s.delivery.processBlock fabric params now blk with
    | (none, err, d) => some (({ s with delivery := d, jointOutputBlock := rest }).resume err)
    | (some deliverBlock, err, d) =>
      some
        { s with
          delivery := d
          jointOutputBlock := rest
          stage := .writing deliverBlock err
          verified := s.verified ++ deliverBlock.block.toList }
  | _, _ => none

def deliveryStep (s : DeliveryState Policy Consenter) :
    DeliveryAction → Option (DeliveryState Policy Consenter)
  | .start random =>
    if s.stage = .idle then
      (s.delivery.initStreams parties random).map fun (workers, d) =>
        { s with
          delivery := d
          workers := workers
          groupDone := false
          stage := .looping }
    else
      none
  | .receive index block written =>
    match s.workers[index]? with
    | none => none
    | some worker =>
      match worker.receive block with
      | none => some s
      | some (worker, blk) =>
        some
          { s with
            workers := s.workers.set index worker
            jointOutputBlock :=
              if written then
                s.jointOutputBlock ++ [blk]
              else
                s.jointOutputBlock }
  | .fail =>
    if s.stage = .idle then none else some { s with groupDone := true }
  | .iterate =>
    if s.stage = .looping then
      if s.groupDone then
        some (s.resume (some .contextEnded))
      else
        some { s with stage := .reading }
    else
      none
  | .read now => readStep fabric params s now
  | .wake now =>
    if s.stage = .reading ∧
        (s.groupDone ∨
          s.delivery.monitorBlockWithholding ∧
            s.delivery.dataStream.nextBlockNum < s.delivery.targetNextBlockNum) then
      let (err, d) := s.delivery.checkBlockWithholding params now
      some (({ s with delivery := d }).resume err)
    else
      none
  | .write =>
    match s.stage with
    | .writing blk err =>
      -- A cancelled context drops the block.
      let output :=
        if s.groupDone then s.output else s.output ++ blk.block.toList
      some { s with output := output, stage := .writingWithSourceID blk err }
    | _ => none
  | .writeWithSourceID =>
    match s.stage with
    | .writingWithSourceID blk err =>
      let output :=
        if s.groupDone ∨ params.hasOutputBlockWithSourceID = false then
          s.outputWithSourceID
        else
          s.outputWithSourceID ++ [blk]
      some (({ s with outputWithSourceID := output }).resume err)
    | _ => none
  | .wait =>
    match s.stage with
    | .returned _ => some { s with stage := .idle, workers := [] }
    | _ => none

/-- The delivery after `newFTDelivery`. -/
def toQueue (d : FtDelivery Policy Consenter) :
    Machine (DeliveryState Policy Consenter) DeliveryAction where
  initial := { delivery := d }
  step := deliveryStep fabric params parties

end

end FabricXCommitter.DeliverOrderer
