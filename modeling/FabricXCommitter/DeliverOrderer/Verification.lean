import FabricXCommitter.Transaction

/-!
# Verifying the blocks of the ordering service

What belongs to Fabric is a parameter.
-/

namespace FabricXCommitter.DeliverOrderer

structure BlockHeader where
  number : UInt64
  previousHash : Bytes
  dataHash : Bytes
  deriving DecidableEq, Repr

/-- A block, of which every part may be missing. -/
structure Block where
  header : Option BlockHeader
  data : Option (List Bytes)
  metadata : Option (List Bytes)
  deriving DecidableEq, Repr

structure BlockWithSourceID where
  block : Option Block
  sourceID : UInt32
  deriving DecidableEq, Repr

/-- The number of entries of `BlockMetadataIndex_name`. -/
def blockMetadataIndexes : Nat := 5

/-- The result of SHA-256. -/
structure Digest where
  bytes : Bytes
  length_eq : bytes.length = 32

structure OrdererConfig (Consenter : Type) where
  consensusType : String
  consenters : List Consenter

/-- What is read of the configuration in a configuration block. -/
structure Bundle (Policy Consenter : Type) where
  blockValidation : Option Policy
  ordererConfig : Option (OrdererConfig Consenter)

structure ConfigBlockMaterial (Policy Consenter : Type) where
  channelID : String
  bundle : Bundle Policy Consenter
  configBlock : Block

structure BlockSigVerifier (Policy Consenter : Type) where
  policy : Policy
  bft : Bool
  consenters : List Consenter

inductive LoadError where
  | notConfigBlock
  | other (message : String)
  deriving DecidableEq, Repr

structure Fabric (Policy Consenter : Type) where
  blockHeaderHash : BlockHeader → Digest
  computeBlockDataHash : List Bytes → Bytes
  isConfigBlock : Block → Bool
  getLastConfigIndexFromBlock : Block → Except String UInt64
  loadConfigBlockMaterial : Block → Except LoadError (Option (ConfigBlockMaterial Policy Consenter))
  verify : BlockSigVerifier Policy Consenter → BlockHeader → List Bytes → Except String Unit

structure ConfigState (Policy Consenter : Type) where
  material : Option (ConfigBlockMaterial Policy Consenter) := none
  configBlockNumber : UInt64 := 0
  verifier : Option (BlockSigVerifier Policy Consenter) := none

inductive ConfigError where
  | load (err : LoadError)
  | channelMismatch (message : String)
  | noVerifier (message : String)
  | nilHeader
  deriving DecidableEq, Repr

section

variable {Policy Consenter : Type}

def fetchVerifier (bundle : Bundle Policy Consenter) :
    Except String (BlockSigVerifier Policy Consenter) :=
  match bundle.blockValidation with
  | none => .error "no `/Channel/Orderer/BlockValidation` policy in config block"
  | some policy =>
    match bundle.ordererConfig with
    | none => .error "no orderer section in config block"
    | some oc =>
      let bftEnabled := oc.consensusType == "BFT" || oc.consensusType == "arma"
      .ok
        { policy := policy
          bft := bftEnabled
          consenters := if bftEnabled then oc.consenters else [] }

def ConfigState.configBlock (cs : ConfigState Policy Consenter) : Option Block :=
  cs.material.map ConfigBlockMaterial.configBlock

variable (fabric : Fabric Policy Consenter)

/-- The error, if there is one, and the configuration after the call.  Reading
the number of a block without a header faults. -/
def updateIfConfigBlock (cs : ConfigState Policy Consenter) (block : Block) :
    Option ConfigError × ConfigState Policy Consenter :=
  match fabric.loadConfigBlockMaterial block with
  | .error err => (some (.load err), cs)
  | .ok none => (none, cs)
  | .ok (some configMaterial) =>
    match cs.material with
    | some material =>
      if configMaterial.channelID ≠ material.channelID then
        (some
          (.channelMismatch
            ("config block channel ID [" ++ configMaterial.channelID ++
              "] does not match expected [" ++ material.channelID ++ "]")),
          cs)
      else
        load configMaterial
    | none => load configMaterial
where
  load (configMaterial : ConfigBlockMaterial Policy Consenter) :
      Option ConfigError × ConfigState Policy Consenter :=
    match fetchVerifier configMaterial.bundle with
    | .error message => (some (.noVerifier message), cs)
    | .ok verifier =>
      match block.header with
      | none => (some .nilHeader, cs)
      | some header =>
        (none,
          { material := some configMaterial
            configBlockNumber := header.number
            verifier := some verifier })

structure BlockVerificationStateMachine (Policy Consenter : Type) where
  configState : ConfigState Policy Consenter := {}
  dataBlockStream : Bool := false
  nextBlockNum : UInt64 := 0
  lastBlockHeaderHash : Bytes := []
  lastBlock : Option Block := none
  updaterSourceID : UInt32 := 0

inductive VerificationError where
  | malformedBlock
  | duplicateBlock (received expected : UInt64)
  | unexpectedBlockNumber (received expected : UInt64)
  | headerHashMismatch (number : UInt64)
  | dataHashMismatch (number : UInt64)
  | configBlockAhead (number configBlockNumber : UInt64)
  | lastConfigIndexFetch (message : String)
  | lastConfigIndexMismatch (number pointsTo expected : UInt64)
  | configBlockSelfReference (number pointsTo : UInt64)
  | genesisBlockMismatch
  | signatureVerification (number : UInt64) (message : String)
  deriving DecidableEq, Repr

namespace BlockVerificationStateMachine

variable (s : BlockVerificationStateMachine Policy Consenter)

def verifyBlockForm (block : Option Block) : Bool :=
  match block with
  | none => false
  | some block =>
    match block.header, block.metadata with
    | some _, some metadata =>
      if metadata.length < blockMetadataIndexes then
        false
      else
        !s.dataBlockStream || block.data.isSome
    | _, _ => false

def verifyHashes (block : Block) (header : BlockHeader) : Option VerificationError :=
  if s.lastBlockHeaderHash.length ≠ 0 ∧ header.previousHash ≠ s.lastBlockHeaderHash then
    some (.headerHashMismatch header.number)
  else
    match block.data with
    | none => none
    | some data =>
      if fabric.computeBlockDataHash data ≠ header.dataHash then
        some (.dataHashMismatch header.number)
      else
        none

/-- The block points to the configuration in force, or is a configuration block
that points to itself. -/
def verifyLastConfigIndex (block : Block) (header : BlockHeader) (lastConfigBlockIdx : UInt64) :
    Option VerificationError :=
  if s.configState.configBlockNumber ≠ lastConfigBlockIdx then
    if fabric.isConfigBlock block = false then
      some
        (.lastConfigIndexMismatch header.number lastConfigBlockIdx s.configState.configBlockNumber)
    else if lastConfigBlockIdx ≠ header.number then
      some (.configBlockSelfReference header.number lastConfigBlockIdx)
    else
      none
  else
    none

def verifyBlockPolicy (block : Block) (header : BlockHeader) : Option VerificationError :=
  match s.configState.material, s.configState.verifier with
  | some _, some verifier =>
    if header.number < s.configState.configBlockNumber then
      some (.configBlockAhead header.number s.configState.configBlockNumber)
    else
      match fabric.getLastConfigIndexFromBlock block with
      | .error err => some (.lastConfigIndexFetch err)
      | .ok lastConfigBlockIdx =>
        match s.verifyLastConfigIndex fabric block header lastConfigBlockIdx with
        | some err => some err
        | none =>
          if header.number = 0 then
            if some block = s.configState.configBlock then
              none
            else
              some .genesisBlockMismatch
          else
            match fabric.verify verifier header (block.metadata.getD []) with
            | .error err => some (.signatureVerification header.number err)
            | .ok () => none
  | _, _ => none

/-- The state after a block that passed all checks.  An error of the update of
the configuration is only logged. -/
def accept (block : Block) (header : BlockHeader) (sourceID : UInt32) :
    BlockVerificationStateMachine Policy Consenter :=
  let s :=
    { s with
      nextBlockNum := header.number + 1
      lastBlock := some block
      lastBlockHeaderHash := (fabric.blockHeaderHash header).bytes
      updaterSourceID := sourceID }
  { s with configState := (updateIfConfigBlock fabric s.configState block).2 }

def verificationStepAndUpdateState (blk : BlockWithSourceID) :
    Option VerificationError × BlockVerificationStateMachine Policy Consenter :=
  if s.verifyBlockForm blk.block = false then
    (some .malformedBlock, s)
  else
    match blk.block with
    | none => (some .malformedBlock, s)
    | some block =>
      match block.header with
      | none => (some .malformedBlock, s)
      | some header =>
        if header.number ≠ s.nextBlockNum then
          if header.number < s.nextBlockNum then
            (some (.duplicateBlock header.number s.nextBlockNum), s)
          else
            (some (.unexpectedBlockNumber header.number s.nextBlockNum), s)
        else
          match s.verifyHashes fabric block header with
          | some err => (some err, s)
          | none =>
            match s.verifyBlockPolicy fabric block header with
            | some err => (some err, s)
            | none => (none, s.accept fabric block header blk.sourceID)

def cloneAsDataBlockStream : BlockVerificationStateMachine Policy Consenter :=
  { s with dataBlockStream := true }

end BlockVerificationStateMachine

structure SessionInfo where
  latestKnownConfig : Option Block := none
  nextBlockVerificationConfig : Option Block := none
  lastBlock : Option Block := none
  deriving DecidableEq, Repr

inductive SessionError where
  | lastBlock (err : VerificationError)
  | nextBlockVerificationConfig (err : ConfigError)
  | latestKnownConfig (err : ConfigError)
  | configAhead (configBlockNumber nextBlockNum : UInt64)
  deriving DecidableEq, Repr

/-- The state after the last block.  It is processed before a configuration is
set, since it may be signed under an earlier one. -/
def loadLastBlock (session : SessionInfo) :
    Except SessionError (BlockVerificationStateMachine Policy Consenter) :=
  match session.lastBlock.bind Block.header with
  | none => .ok {}
  | some header =>
    let state : BlockVerificationStateMachine Policy Consenter := { nextBlockNum := header.number }
    match
        state.verificationStepAndUpdateState fabric
          ⟨session.lastBlock, UInt32.ofNat 0xFFFFFFFF⟩ with
    | (some err, _) => .error (.lastBlock err)
    | (none, state) => .ok state

/-- The configuration after a given block, if there is one. -/
def loadConfig (cs : ConfigState Policy Consenter) (wrap : ConfigError → SessionError) :
    Option Block → Except SessionError (ConfigState Policy Consenter)
  | none => .ok cs
  | some block =>
    match updateIfConfigBlock fabric cs block with
    | (some err, _) => .error (wrap err)
    | (none, cs) => .ok cs

/-- The state of a stream of headers, and the latest configuration. -/
def newBlockProcessingState (session : SessionInfo) :
    Except SessionError
      (BlockVerificationStateMachine Policy Consenter × ConfigState Policy Consenter) :=
  match loadLastBlock fabric session with
  | .error err => .error err
  | .ok state =>
    match
        loadConfig fabric state.configState .nextBlockVerificationConfig
          session.nextBlockVerificationConfig with
    | .error err => .error err
    | .ok configState =>
      match loadConfig fabric {} .latestKnownConfig session.latestKnownConfig with
      | .error err => .error err
      | .ok latestConfig =>
        let state := { state with configState := configState }
        let latestConfig :=
          if latestConfig.material.isNone ∨
              latestConfig.configBlockNumber < state.configState.configBlockNumber then
            state.configState
          else
            latestConfig
        if state.nextBlockNum < state.configState.configBlockNumber then
          .error (.configAhead state.configState.configBlockNumber state.nextBlockNum)
        else
          .ok (state, latestConfig)

end

end FabricXCommitter.DeliverOrderer
