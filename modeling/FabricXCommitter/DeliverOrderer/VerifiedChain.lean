import FabricXCommitter.DeliverOrderer.Verification

/-!
# The chain of accepted blocks

The blocks that a state machine accepts extend the chain of its session.
-/

namespace FabricXCommitter.DeliverOrderer

open Option

variable {Policy Consenter : Type}
  {block : Block} {s state : BlockVerificationStateMachine Policy Consenter}
  {session : SessionInfo}

/-! ## The configuration in force -/

/-- A block with the configuration that was loaded from it. -/
structure InForce (fabric : Fabric Policy Consenter) where
  block : Block
  header : BlockHeader
  material : ConfigBlockMaterial Policy Consenter
  verifier : BlockSigVerifier Policy Consenter
  header_eq : block.header = some header
  material_eq : fabric.loadConfigBlockMaterial block = .ok (some material)
  verifier_eq : fetchVerifier material.bundle = .ok verifier

variable {fabric : Fabric Policy Consenter}

def Loads (current : Option (InForce fabric)) (block : Block) (loaded : InForce fabric) : Prop :=
  loaded.block = block ∧ ∀ config ∈ current, loaded.material.channelID = config.material.channelID

open Classical in
/-- A block that is not loaded leaves the configuration as it is. -/
noncomputable def inForceAfter (current : Option (InForce fabric)) (block : Block) :
    Option (InForce fabric) :=
  if loads : ∃ loaded, Loads current block loaded then
    some loads.choose
  else
    current

structure Tip (fabric : Fabric Policy Consenter) where
  number : UInt64
  previous : Option BlockHeader
  config : Option (InForce fabric)

noncomputable def Tip.advance
    (tip : Tip fabric) (block : Block) (header : BlockHeader) : Tip fabric where
  number := header.number + 1
  previous := some header
  config := inForceAfter tip.config block

structure Extends (tip : Tip fabric) (block : Block) (header : BlockHeader) : Prop where
  header_eq : block.header = some header
  number_eq : header.number = tip.number
  previousHash_eq :
    ∀ previous ∈ tip.previous, header.previousHash = (fabric.blockHeaderHash previous).bytes
  dataHash_eq : ∀ data ∈ block.data, fabric.computeBlockDataHash data = header.dataHash
  verified :
    ∀ config ∈ tip.config, header.number ≠ 0 →
      fabric.verify config.verifier header (block.metadata.getD []) = .ok ()
  genesis : ∀ config ∈ tip.config, header.number = 0 → block = config.material.configBlock
  lastConfig :
    ∀ config ∈ tip.config, ∃ lastConfigBlockIdx,
      fabric.getLastConfigIndexFromBlock block = .ok lastConfigBlockIdx ∧
        (lastConfigBlockIdx = config.header.number ∨
          fabric.isConfigBlock block = true ∧ lastConfigBlockIdx = header.number)

def VerifiedChain : Tip fabric → List Block → Prop
  | _, [] => True
  | tip, block :: rest =>
    ∃ header, Extends tip block header ∧ VerifiedChain (tip.advance block header) rest

/-- The tip of a session: its last block may hold a configuration, and the given
configuration is loaded after it. -/
noncomputable def sessionTip
    (fabric : Fabric Policy Consenter) (session : SessionInfo) : Tip fabric :=
  let start : Tip fabric := { number := 0, previous := none, config := none }
  let tip :=
    match session.lastBlock with
    | none => start
    | some block =>
      match block.header with
      | none => start
      | some header => start.advance block header
  { tip with
    config := session.nextBlockVerificationConfig.elim tip.config (inForceAfter tip.config) }

/-! ## Runs of the state machine -/

def processAll
    (fabric : Fabric Policy Consenter) (s : BlockVerificationStateMachine Policy Consenter) :
    List BlockWithSourceID → List Block × BlockVerificationStateMachine Policy Consenter
  | [] => ([], s)
  | blk :: rest =>
    match s.verificationStepAndUpdateState fabric blk with
    | (some _, s) => processAll fabric s rest
    | (none, s) =>
      let result := processAll fabric s rest
      (blk.block.toList ++ result.1, result.2)

def configOf : Option (InForce fabric) → ConfigState Policy Consenter
  | none => {}
  | some config =>
    { material := some config.material
      configBlockNumber := config.header.number
      verifier := some config.verifier }

variable {current : Option (InForce fabric)}

theorem updateIfConfigBlock_loads {loaded : InForce fabric} (loads : Loads current block loaded) :
    updateIfConfigBlock fabric (configOf current) block = (none, configOf (some loaded)) := by
  obtain ⟨rfl, sameChannel⟩ := loads
  have fetched :
      updateIfConfigBlock.load (configOf current) loaded.block
          loaded.material = (none, configOf (some loaded)) := by
    simp [updateIfConfigBlock.load, loaded.verifier_eq, loaded.header_eq, configOf]
  unfold updateIfConfigBlock
  rw [loaded.material_eq]
  cases current with
  | none => exact fetched
  | some config =>
    have same := sameChannel config rfl
    simpa [configOf, same] using fetched

theorem updateIfConfigBlock_load_kept
    {cs : ConfigState Policy Consenter} {material : ConfigBlockMaterial Policy Consenter}
    (material_eq : fabric.loadConfigBlockMaterial block = .ok (some material))
    (fails : ∀ loaded : InForce fabric, loaded.block = block → loaded.material ≠ material) :
    (updateIfConfigBlock.load cs block material).2 = cs := by
  fun_cases updateIfConfigBlock.load cs block material with
  | case1 | case2 => rfl
  | case3 verifier verifier_eq header header_eq =>
    exact
      absurd rfl
        (fails ⟨block, header, material, verifier, header_eq, material_eq, verifier_eq⟩ rfl)

theorem updateIfConfigBlock_kept (fails : ∀ loaded, ¬ Loads current block loaded) :
    (updateIfConfigBlock fabric (configOf current) block).2 = configOf current := by
  unfold updateIfConfigBlock
  split
  · rfl
  · rfl
  · next material material_eq =>
    cases current with
    | none =>
      refine updateIfConfigBlock_load_kept material_eq ?_
      intro loaded same _
      exact fails loaded ⟨same, by simp⟩
    | some config =>
      dsimp only [configOf]
      split
      · rfl
      · next sameChannel =>
        refine updateIfConfigBlock_load_kept material_eq ?_
        intro loaded same material_same
        refine fails loaded ⟨same, ?_⟩
        intro other mem
        cases mem
        rw [material_same]
        exact not_not.mp sameChannel

theorem updateIfConfigBlock_inForceAfter (current : Option (InForce fabric)) (block : Block) :
    (updateIfConfigBlock fabric (configOf current) block).2 =
      configOf (inForceAfter current block) := by
  unfold inForceAfter
  split
  · next loads =>
    rw [updateIfConfigBlock_loads loads.choose_spec]
  · next fails =>
    exact updateIfConfigBlock_kept (not_exists.mp fails)

structure Represents
    (s : BlockVerificationStateMachine Policy Consenter) (tip : Tip fabric) : Prop where
  number_eq : s.nextBlockNum = tip.number
  hash_eq :
    s.lastBlockHeaderHash = tip.previous.elim [] fun header => (fabric.blockHeaderHash header).bytes
  config_eq : s.configState = configOf tip.config

variable {tip : Tip fabric} {header : BlockHeader}

theorem verifyHashes_passed
    (represents : Represents s tip) (passed : s.verifyHashes fabric block header = none) :
    (∀ previous ∈ tip.previous, header.previousHash = (fabric.blockHeaderHash previous).bytes) ∧
    (∀ data ∈ block.data, fabric.computeBlockDataHash data = header.dataHash) := by
  revert passed
  fun_cases BlockVerificationStateMachine.verifyHashes fabric s block header with
  | case1 | case3 =>
    intro passed
    cases passed
  | case2 linked | case4 linked =>
    intro _
    constructor
    · intro previous mem
      have hash_eq := represents.hash_eq
      rw [mem_def.mp mem] at hash_eq
      -- A digest is not empty, so the comparison was made.
      have present : s.lastBlockHeaderHash.length ≠ 0 := by
        rw [hash_eq]
        simp [(fabric.blockHeaderHash previous).length_eq]
      by_contra differs
      exact linked ⟨present, fun same => differs (same.trans hash_eq)⟩
    · simp_all

theorem verifyLastConfigIndex_passed {lastConfigBlockIdx : UInt64}
    (passed : s.verifyLastConfigIndex fabric block header lastConfigBlockIdx = none) :
    lastConfigBlockIdx = s.configState.configBlockNumber ∨
      fabric.isConfigBlock block = true ∧ lastConfigBlockIdx = header.number := by
  revert passed
  fun_cases BlockVerificationStateMachine.verifyLastConfigIndex fabric s block header
      lastConfigBlockIdx with
  | case1 | case2 =>
    intro passed
    cases passed
  | case3 _ isConfig self =>
    intro _
    exact .inr ⟨Bool.not_eq_false _ ▸ isConfig, not_not.mp self⟩
  | case4 same =>
    intro _
    exact .inl (not_not.mp same).symm

theorem verifyBlockPolicy_passed
    {config : InForce fabric} (config_eq : s.configState = configOf (some config))
    (passed : s.verifyBlockPolicy fabric block header = none) :
    (∃ lastConfigBlockIdx,
      fabric.getLastConfigIndexFromBlock block = .ok lastConfigBlockIdx ∧
        (lastConfigBlockIdx = config.header.number ∨
          fabric.isConfigBlock block = true ∧ lastConfigBlockIdx = header.number)) ∧
    (header.number = 0 → block = config.material.configBlock) ∧
    (header.number ≠ 0 →
      fabric.verify config.verifier header (block.metadata.getD []) = .ok ()) := by
  unfold BlockVerificationStateMachine.verifyBlockPolicy at passed
  simp only [config_eq, configOf] at passed
  split at passed
  · cases passed
  · split at passed
    · cases passed
    · next lastConfigBlockIdx fetched =>
      split at passed
      · cases passed
      · next indexed =>
        have index := verifyLastConfigIndex_passed indexed
        simp only [config_eq, configOf] at index
        refine ⟨⟨lastConfigBlockIdx, fetched, index⟩, ?_, ?_⟩
        · intro zero
          by_contra differs
          simp [zero, ConfigState.configBlock, differs] at passed
        · intro positive
          rw [if_neg positive] at passed
          split at passed
          · cases passed
          · next verified =>
            exact verified

theorem verificationStep_cases
    (fabric : Fabric Policy Consenter) (s : BlockVerificationStateMachine Policy Consenter)
    (blk : BlockWithSourceID) :
    (∃ err, s.verificationStepAndUpdateState fabric blk = (some err, s)) ∨
    (∃ block header,
      blk.block = some block ∧ block.header = some header ∧
      header.number = s.nextBlockNum ∧
      s.verifyHashes fabric block header = none ∧
      s.verifyBlockPolicy fabric block header = none ∧
      s.verificationStepAndUpdateState fabric blk =
        (none, s.accept fabric block header blk.sourceID)) := by
  fun_cases BlockVerificationStateMachine.verificationStepAndUpdateState fabric s blk with
  | case8 _ block block_eq header header_eq number_eq hashes policy =>
    exact .inr ⟨block, header, block_eq, header_eq, not_not.mp number_eq, hashes, policy, rfl⟩
  | _ => exact .inl ⟨_, rfl⟩

theorem rejected_unchanged {next : BlockVerificationStateMachine Policy Consenter}
    {blk : BlockWithSourceID} {err : VerificationError}
    (rejected : s.verificationStepAndUpdateState fabric blk = (some err, next)) :
    next = s := by
  rcases verificationStep_cases fabric s blk with ⟨_, failed⟩ | ⟨_, _, _, _, _, _, _, accepted⟩
  · rw [failed] at rejected
    cases rejected
    rfl
  · rw [accepted] at rejected
    cases rejected

theorem verificationStep_dataBlockStream
    (fabric : Fabric Policy Consenter) (s : BlockVerificationStateMachine Policy Consenter)
    (blk : BlockWithSourceID) :
    (s.verificationStepAndUpdateState fabric blk).2.dataBlockStream = s.dataBlockStream := by
  rcases verificationStep_cases fabric s blk with ⟨_, failed⟩ | ⟨_, _, _, _, _, _, _, accepted⟩
  · rw [failed]
  · rw [accepted]
    rfl

theorem accept_represents
    (represents : Represents s tip) (block : Block) (header : BlockHeader) (sourceID : UInt32) :
    Represents (s.accept fabric block header sourceID) (tip.advance block header) where
  number_eq := rfl
  hash_eq := rfl
  config_eq := by
    change (updateIfConfigBlock fabric s.configState block).2 = _
    rw [represents.config_eq]
    exact updateIfConfigBlock_inForceAfter tip.config block

theorem accepted_extends {next : BlockVerificationStateMachine Policy Consenter}
    {blk : BlockWithSourceID} (represents : Represents s tip)
    (accepted : s.verificationStepAndUpdateState fabric blk = (none, next)) :
    ∃ block header,
      blk.block = some block ∧ Extends tip block header ∧
        Represents next (tip.advance block header) := by
  rcases verificationStep_cases fabric s blk with
    ⟨_, failed⟩ | ⟨block, header, block_eq, header_eq, number_eq, hashes, policy, stepped⟩
  · rw [failed] at accepted
    cases accepted
  · rw [stepped] at accepted
    cases accepted
    obtain ⟨previousHash_eq, dataHash_eq⟩ := verifyHashes_passed represents hashes
    have checked : ∀ config ∈ tip.config, s.configState = configOf (some config) := by
      intro config mem
      rw [represents.config_eq, mem_def.mp mem]
    refine ⟨block, header, block_eq, ?_, accept_represents represents block header blk.sourceID⟩
    exact
      { header_eq := header_eq
        number_eq := number_eq.trans represents.number_eq
        previousHash_eq := previousHash_eq
        dataHash_eq := dataHash_eq
        verified := fun config mem => (verifyBlockPolicy_passed (checked config mem) policy).2.2
        genesis := fun config mem => (verifyBlockPolicy_passed (checked config mem) policy).2.1
        lastConfig := fun config mem => (verifyBlockPolicy_passed (checked config mem) policy).1 }

theorem loadLastBlock_represents (loaded : loadLastBlock fabric session = .ok state) :
    Represents state (sessionTip fabric { session with nextBlockVerificationConfig := none }) := by
  cases lastBlock_eq : session.lastBlock with
  | none =>
    simp only [loadLastBlock, lastBlock_eq, bind_none] at loaded
    cases loaded
    exact ⟨rfl, rfl, rfl⟩
  | some block =>
    cases header_eq : block.header with
    | none =>
      simp only [loadLastBlock, lastBlock_eq, bind_some, header_eq] at loaded
      cases loaded
      simp only [sessionTip, header_eq]
      exact ⟨rfl, rfl, rfl⟩
    | some header =>
      simp only [loadLastBlock, lastBlock_eq, bind_some, header_eq] at loaded
      split at loaded
      · cases loaded
      · next stepped =>
        cases loaded
        -- No configuration is set yet, so only the form and the hashes
        -- of the last block were checked.
        have started :
            Represents
              ({ nextBlockNum := header.number } : BlockVerificationStateMachine Policy Consenter)
              ({ number := header.number, previous := none, config := none } : Tip fabric) :=
          ⟨rfl, rfl, rfl⟩
        obtain ⟨other, otherHeader, other_eq, extended, represents⟩ :=
          accepted_extends started stepped
        cases other_eq
        have same := extended.header_eq.symm.trans header_eq
        cases same
        simp only [sessionTip, header_eq]
        exact ⟨represents.number_eq, represents.hash_eq, represents.config_eq⟩

theorem loadLastBlock_headers (loaded : loadLastBlock fabric session = .ok state) :
    state.dataBlockStream = false := by
  revert loaded
  fun_cases loadLastBlock fabric session with
  | case1 =>
    intro loaded
    cases loaded
    rfl
  | case2 =>
    intro loaded
    cases loaded
  | case3 header _ started after stepped =>
    intro loaded
    cases loaded
    have kind :=
      verificationStep_dataBlockStream fabric started ⟨session.lastBlock, UInt32.ofNat 0xFFFFFFFF⟩
    rw [stepped] at kind
    exact kind

theorem loadConfig_configOf
    {wrap : ConfigError → SessionError} {given : Option Block} {cs : ConfigState Policy Consenter}
    (loaded : loadConfig fabric (configOf current) wrap given = .ok cs) :
    cs = configOf (given.elim current (inForceAfter current)) := by
  cases given with
  | none =>
    cases loaded
    rfl
  | some block =>
    have after := updateIfConfigBlock_inForceAfter current block
    simp only [loadConfig] at loaded
    split at loaded
    · cases loaded
    · next updated =>
      cases loaded
      rw [updated] at after
      exact after

section

variable {latestConfig : ConfigState Policy Consenter}
  (opened : newBlockProcessingState fabric session = .ok (state, latestConfig))

include opened

theorem newBlockProcessingState_loaded :
    ∃ last configState,
      loadLastBlock fabric session = .ok last ∧
      loadConfig fabric last.configState .nextBlockVerificationConfig
        session.nextBlockVerificationConfig = .ok configState ∧
      state = { last with configState := configState } := by
  revert opened
  fun_cases newBlockProcessingState fabric session with
  | case5 last loaded configState configured =>
    intro opened
    have same := (Prod.mk.inj (Except.ok.inj opened)).1
    exact ⟨last, configState, loaded, configured, same.symm⟩
  | _ =>
    intro opened
    cases opened

theorem session_represents : Represents state (sessionTip fabric session) := by
  obtain ⟨last, configState, loaded, configured, rfl⟩ := newBlockProcessingState_loaded opened
  have represents := loadLastBlock_represents loaded
  rw [represents.config_eq] at configured
  exact
    { represents with
      config_eq := loadConfig_configOf configured }

theorem session_headers : state.dataBlockStream = false := by
  obtain ⟨_, _, loaded, _, rfl⟩ := newBlockProcessingState_loaded opened
  have headers := loadLastBlock_headers loaded
  exact headers

end

theorem processAll_verifiedChain (inputs : List BlockWithSourceID) :
    ∀ {s : BlockVerificationStateMachine Policy Consenter}
      {tip : Tip fabric},
      Represents s tip → VerifiedChain tip (processAll fabric s inputs).1 := by
  induction inputs with
  | nil =>
    intro s tip represents
    trivial
  | cons blk rest ih =>
    intro s tip represents
    rw [processAll]
    split
    · next rejected =>
      rw [rejected_unchanged rejected]
      exact ih represents
    · next accepted =>
      obtain ⟨block, header, block_eq, extended, advanced⟩ := accepted_extends represents accepted
      rw [block_eq]
      exact ⟨header, extended, ih advanced⟩

/-- The stream of headers, or its clone for the stream of data blocks. -/
def openStream (state : BlockVerificationStateMachine Policy Consenter) (dataBlocks : Bool) :
    BlockVerificationStateMachine Policy Consenter :=
  if dataBlocks then state.cloneAsDataBlockStream else state

theorem openStream_represents (represents : Represents state tip) (dataBlocks : Bool) :
    Represents (openStream state dataBlocks) tip := by
  cases dataBlocks with
  | false => exact represents
  | true => exact ⟨represents.number_eq, represents.hash_eq, represents.config_eq⟩

/-! ## A small chain

Configuration blocks hold the single transaction `[1]`, the first entry of the
metadata is the signature, and the second is the number of the last
configuration. -/

def sampleFabric : Fabric Unit Unit where
  blockHeaderHash header :=
    { bytes := List.replicate 32 header.number.toUInt8
      length_eq := List.length_replicate }
  computeBlockDataHash := List.flatten
  isConfigBlock block := block.data == some [[1]]
  getLastConfigIndexFromBlock block :=
    match block.metadata with
    | some (_ :: [number] :: _) => .ok number.toUInt64
    | _ => .error "no last config"
  loadConfigBlockMaterial block :=
    if block.data == some [[1]] then
      .ok
        (some
          { channelID := "channel"
            bundle :=
              { blockValidation := some ()
                ordererConfig := some ⟨"BFT", [()]⟩ }
            configBlock := block })
    else
      .error .notConfigBlock
  verify _ _ metadata :=
    if metadata.head? = some [7] then .ok () else .error "invalid signature"

def chainBlock (number lastConfig transaction : UInt8) : Block where
  header :=
    some
      { number := number.toUInt64
        previousHash := List.replicate 32 (number - 1)
        dataHash := [transaction] }
  data := some [[transaction]]
  metadata := some [[7], [lastConfig], [], [], []]

def chainSession : SessionInfo where
  lastBlock := some (chainBlock 3 0 2)
  nextBlockVerificationConfig := some (chainBlock 0 0 1)

/-- The second block replaces the configuration, the third is received twice, and
the last points to the replaced configuration. -/
def chainInputs : List BlockWithSourceID :=
  [⟨some (chainBlock 4 0 2), 1⟩, ⟨some (chainBlock 5 5 1), 2⟩,
    ⟨some (chainBlock 6 5 2), 1⟩, ⟨some (chainBlock 6 5 2), 2⟩,
    ⟨none, 3⟩, ⟨some (chainBlock 7 0 2), 1⟩]

/-- From every session that opens, whatever blocks arrive, the accepted blocks
extend the chain of the session, and a rejected block changes nothing. -/
theorem accepted_blocks_verified
    {session : SessionInfo} {state : BlockVerificationStateMachine Policy Consenter}
    {latestConfig : ConfigState Policy Consenter}
    (opened : newBlockProcessingState fabric session = .ok (state, latestConfig))
    (dataBlocks : Bool) (inputs : List BlockWithSourceID) :
    VerifiedChain (sessionTip fabric session)
        (processAll fabric (openStream state dataBlocks) inputs).1 ∧
      ∀ (s : BlockVerificationStateMachine Policy Consenter) blk err,
        (s.verificationStepAndUpdateState fabric blk).1 = some err →
          (s.verificationStepAndUpdateState fabric blk).2 = s := by
  constructor
  · exact
      processAll_verifiedChain inputs (openStream_represents (session_represents opened) dataBlocks)
  · intro s blk err rejected
    exact rejected_unchanged (Prod.ext rejected rfl)

theorem chainInputs_verified :
    ∃ state latestConfig,
      newBlockProcessingState sampleFabric chainSession = .ok (state, latestConfig) ∧
      (processAll sampleFabric (openStream state true) chainInputs).1 =
        [chainBlock 4 0 2, chainBlock 5 5 1, chainBlock 6 5 2] ∧
      VerifiedChain (sessionTip sampleFabric chainSession)
        (processAll sampleFabric (openStream state true) chainInputs).1 := by
  refine ⟨_, _, rfl, by decide +kernel, ?_⟩
  exact (accepted_blocks_verified rfl true chainInputs).1

end FabricXCommitter.DeliverOrderer
