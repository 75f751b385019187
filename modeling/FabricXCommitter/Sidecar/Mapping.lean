import FabricXCommitter.Sidecar.Form
import Mathlib.Data.List.Perm.Basic

/-!
# Mapping a block of the ordering service

Each message yields a transaction, a status to reject it with, or an error.
-/

namespace FabricXCommitter.Sidecar

inductive HeaderType where
  | message
  | config
  | unsupported (code : Nat)
  deriving DecidableEq, Repr

structure EnvelopeLite where
  headerType : HeaderType
  txID : Bytes
  data : Bytes
  deriving DecidableEq, Repr

/-- The wire formats that other packages define: envelopes, transactions,
configurations, valid UTF-8, and the bytes of the statuses, among which only the
unspecified status is zero. -/
structure Wire where
  unwrapEnvelopeLite : Bytes → Option EnvelopeLite
  unmarshalTx : Bytes → Option Tx
  validString : Bytes → Bool
  validateConfigTx : Bytes → Except String Unit
  unmarshalConfigEnvelope : Bytes → Except String (Option Bytes)
  parseEnvelope : Bytes → Except String Bytes
  statusByte : Status → UInt8
  statusByte_eq_zero : ∀ status, statusByte status = 0 ↔ status = .unspecified

/-- What is known about a message without the others. -/
inductive ParsedTX where
  | accepted (tx : Tx) (isSnapshot : Bool)
  | config (tx : Tx)
  | rejected (status : Status)
  | failed (err : String)
  deriving DecidableEq, Repr

def isSnapshotTx (tx : Tx) : Bool :=
  match tx.namespaces with
  | [ns] => ns.nsId == snapshotNamespaceID
  | _ => false

/-- The ID of the update in a configuration, or that of the envelope if there
is no update. -/
def configTxID (wire : Wire) (envLite : EnvelopeLite) : Except String Bytes :=
  match wire.unmarshalConfigEnvelope envLite.data with
  | .error err => .error ("error unmarshalling config envelope: " ++ err)
  | .ok none =>
    if envLite.txID = [] then
      .error "no TX ID in the config TX"
    else
      .ok envLite.txID
  | .ok (some lastUpdate) =>
    match wire.parseEnvelope lastUpdate with
    | .error err => .error ("error parsing the config update envelope: " ++ err)
    | .ok txID =>
      if txID = [] then
        .error "no TX ID in the config update"
      else
        .ok txID

def parseConfigTx (wire : Wire) (envLite : EnvelopeLite) (msg : Bytes) : Bytes × ParsedTX :=
  match wire.validateConfigTx msg with
  | .error err => ([], .failed err)
  | .ok () =>
    match configTxID wire envLite with
    | .error err => ([], .failed err)
    | .ok txID => (txID, .config (configTx msg))

def parseMessage (wire : Wire) (platform : Platform) (msg : Bytes) : Bytes × ParsedTX :=
  match wire.unwrapEnvelopeLite msg with
  | none => ([], .rejected .malformedBadEnvelope)
  | some envLite =>
    if envLite.headerType = .config then
      parseConfigTx wire envLite msg
    else if envLite.txID = [] ∨ wire.validString envLite.txID = false then
      ([], .rejected .malformedMissingTxId)
    else if envLite.headerType ≠ .message then
      (envLite.txID, .rejected .malformedUnsupportedEnvelopePayload)
    else
      match wire.unmarshalTx envLite.data with
      | none => (envLite.txID, .rejected .malformedBadEnvelopePayload)
      | some tx =>
        if verifyTxForm platform tx ≠ statusNotYetValidated then
          (envLite.txID, .rejected (verifyTxForm platform tx))
        else
          (envLite.txID, .accepted tx (isSnapshotTx tx))

/-- The index of the transaction statuses in the metadata. -/
def statusIdx : Nat := 2

/-- A block of the ordering service.  A protobuf message has less than 2 GiB and
so has a list in it. -/
structure Block where
  number : UInt64
  data : Option (List Bytes)
  metadata : List Bytes
  bounded : ∀ messages, data = some messages → messages.length < 2 ^ 31
  deriving DecidableEq

/-- A transaction of a block; the content is set once it is accepted. -/
structure BlockTx where
  ref : TxRef
  content : Option Tx := none
  deriving DecidableEq, Repr

structure BlockWithStatus where
  block : Block
  txStatus : List Status
  pendingCount : Int
  txs : List BlockTx
  deriving DecidableEq

namespace BlockWithStatus

/-- The block has the transaction at the position of the reference. -/
def holds (b : BlockWithStatus) (ref : TxRef) : Bool :=
  match b.txs[ref.txNum.toNat]? with
  | none => false
  | some tx => tx.ref.txId == ref.txId

def setFinalStatus (b : BlockWithStatus) (txNum : UInt32) (status : Status) :
    Except String BlockWithStatus :=
  match b.txStatus[txNum.toNat]? with
  | none => .error "index out of range"
  | some current =>
    if current ≠ statusNotYetValidated then
      .error
        ("two results for a TX [blockNum: " ++ toString b.block.number ++
          ", txNum: " ++ toString txNum ++ "]")
    else
      .ok
        { b with
          txStatus := b.txStatus.set txNum.toNat status
          pendingCount := b.pendingCount - 1 }

def setStatusMetadataInBlock (wire : Wire) (b : BlockWithStatus) : Block :=
  { b.block with
    metadata := b.block.metadata.set statusIdx (b.txStatus.map wire.statusByte) }

end BlockWithStatus

structure TxIDDedup where
  ids : List Bytes := []
  blocks : List (UInt64 × List Bytes) := []
  deriving DecidableEq, Repr

namespace TxIDDedup

/-- The set with a new ID, or nothing if the ID is in flight. -/
def add (d : TxIDDedup) (txID : Bytes) : Option TxIDDedup :=
  if txID ∈ d.ids then none else some { d with ids := txID :: d.ids }

def trackBlock (d : TxIDDedup) (blockNumber : UInt64) (txIDs : List Bytes) : TxIDDedup :=
  { d with blocks := d.blocks ++ [(blockNumber, txIDs)] }

def evictCommittedBelow (d : TxIDDedup) (blockNumber : UInt64) : TxIDDedup :=
  let committed := d.blocks.takeWhile fun blk => blk.1 < blockNumber
  { ids := d.ids.filter fun id => !(committed.flatMap Prod.snd).contains id
    blocks := d.blocks.drop committed.length }

end TxIDDedup

/-- `IsStatusStoredInDB`. -/
def isStatusStoredInDB : Status → Bool
  | .malformedBadEnvelope | .malformedMissingTxId | .rejectedDuplicateTxId => false
  | _ => true

/-- An error of the mapping.  The session is restarted after a delay if a
configuration cannot be processed. -/
inductive MappingError where
  | backOff (message : String)
  | bug (message : String)
  deriving DecidableEq, Repr

structure MappedBlock where
  blockNumber : UInt64
  txs : List TxWithRef := []
  rejected : List TxStatus := []
  withStatus : BlockWithStatus
  isConfig : Bool := false
  snapshotTx : Option TxWithRef := none
  deriving DecidableEq

structure BlockMapper extends MappedBlock where
  txIDDedup : TxIDDedup
  txIDs : List Bytes := []
  deriving DecidableEq

namespace BlockMapper

def rejectNonDBStatusTx (m : BlockMapper) (ref : TxRef) (status : Status) :
    Except MappingError BlockMapper :=
  if isStatusStoredInDB status then
    .error
      (.bug
        ("[BUG] status should be stored [blk:" ++ toString m.blockNumber ++
          ",num:" ++ toString ref.txNum ++ "]: " ++ reprStr status))
  else
    match m.withStatus.setFinalStatus ref.txNum status with
    | .error err => .error (.bug err)
    | .ok withStatus => .ok { m with withStatus := withStatus }

/-- The mapper, and whether the ID is in flight already. -/
def addTxIDMapping (m : BlockMapper) (ref : TxRef) : Except MappingError (Bool × BlockMapper) :=
  match m.txIDDedup.add ref.txId with
  | some dedup => .ok (false, { m with txIDDedup := dedup, txIDs := m.txIDs ++ [ref.txId] })
  | none =>
    match m.rejectNonDBStatusTx ref .rejectedDuplicateTxId with
    | .error err => .error err
    | .ok m => .ok (true, m)

def setContent (m : BlockMapper) (ref : TxRef) (tx : Tx) : BlockMapper :=
  { m with
    withStatus :=
      { m.withStatus with
        txs :=
          m.withStatus.txs.modify ref.txNum.toNat fun entry => { entry with content := some tx } } }

/-- Nothing is returned for an ID that is in flight. -/
def prepareTx (m : BlockMapper) (ref : TxRef) (tx : Tx) :
    Except MappingError (Option TxWithRef × BlockMapper) :=
  match m.addTxIDMapping ref with
  | .error err => .error err
  | .ok (true, m) => .ok (none, m)
  | .ok (false, m) => .ok (some ⟨ref, tx⟩, m.setContent ref tx)

def rejectTx (m : BlockMapper) (ref : TxRef) (status : Status) : Except MappingError BlockMapper :=
  if isStatusStoredInDB status = false then
    m.rejectNonDBStatusTx ref status
  else
    match m.addTxIDMapping ref with
    | .error err => .error err
    | .ok (true, m) => .ok m
    | .ok (false, m) => .ok { m with rejected := m.rejected ++ [⟨ref, status⟩] }

def unprocessableConfigTx (m : BlockMapper) (ref : TxRef) (err : String) : MappingError :=
  .backOff
    ("cannot process the config TX [blk:" ++ toString m.blockNumber ++ ",num:" ++
      toString ref.txNum ++ "]: " ++ err)

def appendConfigTx (m : BlockMapper) (ref : TxRef) (tx : Tx) : Except MappingError BlockMapper :=
  match m.prepareTx ref tx with
  | .error err => .error err
  | .ok (none, m) =>
    .error (m.unprocessableConfigTx ref ("duplicate TX ID [" ++ reprStr ref.txId ++ "]"))
  | .ok (some txWithRef, m) => .ok { m with isConfig := true, txs := m.txs ++ [txWithRef] }

def appendTx (m : BlockMapper) (ref : TxRef) (tx : Tx) : Except MappingError BlockMapper :=
  match m.prepareTx ref tx with
  | .error err => .error err
  | .ok (none, m) => .ok m
  | .ok (some txWithRef, m) => .ok { m with txs := m.txs ++ [txWithRef] }

def applyParsedTX (m : BlockMapper) (ref : TxRef) : ParsedTX → Except MappingError BlockMapper
  | .failed err => .error (m.unprocessableConfigTx ref err)
  | .rejected status => m.rejectTx ref status
  | .config tx => m.appendConfigTx ref tx
  | .accepted tx false => m.appendTx ref tx
  | .accepted tx true =>
    if m.snapshotTx = none then
      match m.prepareTx ref tx with
      | .error err => .error err
      | .ok (none, m) => .ok m
      | .ok (some txWithRef, m) => .ok { m with snapshotTx := some txWithRef }
    else
      m.rejectTx ref .rejectedDuplicateSnapshotInBlock

/-- The loop over the messages of a block. -/
def applyParsed (m : BlockMapper) : List (TxRef × ParsedTX) → Except MappingError BlockMapper
  | [] => .ok m
  | (ref, parsed) :: rest =>
    match m.applyParsedTX ref parsed with
    | .error err => .error err
    | .ok m => applyParsed m rest

end BlockMapper

/-- The references and the classifications of messages, with the number of the
first one. -/
def parseFrom (wire : Wire) (platform : Platform) (blockNumber : UInt64) :
    Nat → List Bytes → List (TxRef × ParsedTX)
  | _, [] => []
  | msgIndex, msg :: rest =>
    (⟨(parseMessage wire platform msg).1, blockNumber, UInt32.ofNat msgIndex⟩,
        (parseMessage wire platform msg).2) ::
      parseFrom wire platform blockNumber (msgIndex + 1) rest

def parseMessages (wire : Wire) (platform : Platform) (block : Block) : List (TxRef × ParsedTX) :=
  parseFrom wire platform block.number 0 (block.data.getD [])

def prepareMetadata (block : Block) : Block :=
  { block with
    metadata := block.metadata ++ List.replicate (statusIdx + 1 - block.metadata.length) [] }

def newBlockMapper (wire : Wire) (platform : Platform) (block : Block) (dedup : TxIDDedup) :
    BlockMapper where
  blockNumber := block.number
  withStatus :=
    { block := prepareMetadata block
      txStatus := List.replicate (parseMessages wire platform block).length statusNotYetValidated
      pendingCount := (parseMessages wire platform block).length
      txs := (parseMessages wire platform block).map fun message => { ref := message.1 } }
  txIDDedup := dedup

/-- The mapped block and the IDs in flight after it. -/
def mapBlock (wire : Wire) (platform : Platform) (block : Block) (dedup : TxIDDedup) :
    Except MappingError (MappedBlock × TxIDDedup) :=
  let mapper := newBlockMapper wire platform block dedup
  if block.data = none then
    .ok (mapper.toMappedBlock, dedup)
  else
    match mapper.applyParsed (parseMessages wire platform block) with
    | .error err => .error err
    | .ok m => .ok (m.toMappedBlock, m.txIDDedup.trackBlock block.number m.txIDs)

/-- A wire format for small blocks: a message is a header, an ID of one byte and
a transaction. -/
def sampleWire : Wire where
  unwrapEnvelopeLite
    | header :: id :: data =>
      some
        ⟨if header = 0 then .message
          else if header = 1 then .config
          else .unsupported header.toNat,
          [id], data⟩
    | _ => none
  unmarshalTx
    | [0] => some ⟨[], []⟩
    | [1] => some ⟨[{ nsId := [0x61], readWrites := [⟨[1], none, [1]⟩] }], [some [some [1]]]⟩
    | [2] => some ⟨[{ nsId := snapshotNamespaceID }], [some [some [1]]]⟩
    | _ => none
  validString := fun _ => true
  validateConfigTx := fun _ => .ok ()
  unmarshalConfigEnvelope := fun _ => .ok none
  parseEnvelope := fun _ => .error "no update"
  statusByte := fun status => UInt8.ofNat status.ctorIdx
  statusByte_eq_zero := by
    intro status
    cases status <;> decide

def sampleBlock (messages : List Bytes) (bounded : messages.length < 2 ^ 31) : Block where
  number := 5
  data := some messages
  metadata := []
  bounded := by
    intro others same
    cases same
    exact bounded

end FabricXCommitter.Sidecar
