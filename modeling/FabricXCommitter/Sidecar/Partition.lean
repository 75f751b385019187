import FabricXCommitter.Library.SlotFill
import FabricXCommitter.Sidecar.Settling
import Mathlib.Data.List.Infix

/-!
# The mapping partitions a block

The messages are parsed by several goroutines and applied one by one.
-/

namespace FabricXCommitter.Sidecar

open Library List

structure TxParsingConfig where
  maxWorkers : Int
  minBatchSize : Int

def parsingWorkers (cfg : TxParsingConfig) (count : Nat) : Int :=
  min cfg.maxWorkers (count / max cfg.minBatchSize 1)

/-- The indices of `[count * worker / workers, count * (worker + 1) / workers)`. -/
def parseRange (count workers worker : Nat) : List Nat :=
  List.range' (count * worker / workers) (count * (worker + 1) / workers - count * worker / workers)

section

variable (wire : Wire) (platform : Platform) (cfg : TxParsingConfig) (block : Block)

/-- The reference and the classification of one message. -/
def messageAt (msgIndex : Nat) : TxRef × ParsedTX :=
  let parsed := parseMessage wire platform ((block.data.getD []).getD msgIndex [])
  (⟨parsed.1, block.number, UInt32.ofNat msgIndex⟩, parsed.2)

/-- The parsed messages, given the order in which the goroutines proceed.  There is no
result as long as one of them is not done. -/
def parseMessagesWith (schedule : List Nat) : Option (List (Option (TxRef × ParsedTX))) :=
  let count := (block.data.getD []).length
  let workers := parsingWorkers cfg count
  let todo :=
    if workers < 2 then [List.range count]
    else (List.range workers.toNat).map (parseRange count workers.toNat)
  ((SlotFill.fill (messageAt wire platform block) count todo).run schedule).bind
    SlotFill.State.result

def mapBlockWith (schedule : List Nat) (dedup : TxIDDedup) :
    Option (Except MappingError (MappedBlock × TxIDDedup)) :=
  (parseMessagesWith wire platform cfg block schedule).map fun parsed =>
    let messages := parsed.filterMap id
    let mapper : BlockMapper :=
      { blockNumber := block.number
        withStatus :=
          { block := prepareMetadata block
            txStatus := List.replicate messages.length statusNotYetValidated
            pendingCount := messages.length
            txs := messages.map fun message => { ref := message.1 } }
        txIDDedup := dedup }
    if block.data = none then
      .ok (mapper.toMappedBlock, dedup)
    else
      match mapper.applyParsed messages with
      | .error err => .error err
      | .ok m => .ok (m.toMappedBlock, m.txIDDedup.trackBlock block.number m.txIDs)

theorem getElem?_parseFrom (blockNumber : UInt64) (messages : List Bytes) :
    ∀ start index : Nat,
      (parseFrom wire platform blockNumber start messages)[index]? =
        messages[index]?.map fun msg =>
          (⟨(parseMessage wire platform msg).1, blockNumber, UInt32.ofNat (start + index)⟩,
            (parseMessage wire platform msg).2) := by
  induction messages with
  | nil => simp [parseFrom]
  | cons msg rest ih =>
    intro start index
    cases index with
    | zero => simp [parseFrom]
    | succ index =>
      rw [parseFrom, getElem?_cons_succ, getElem?_cons_succ, ih, Nat.add_assoc, Nat.add_comm 1]

theorem parseMessages_eq :
    parseMessages wire platform block =
      (List.range (block.data.getD []).length).map (messageAt wire platform block) := by
  apply ext_getElem?
  intro index
  rw [parseMessages, getElem?_parseFrom, getElem?_map]
  by_cases below : index < (block.data.getD []).length
  · rw [getElem?_range below, getElem?_eq_getElem below]
    simp [messageAt, List.getD, getElem?_eq_getElem below]
  · rw [getElem?_eq_none (by omega), getElem?_eq_none (by simp; omega)]
    rfl

theorem exists_step_between (bound : Nat → Nat) {index steps : Nat} (start : bound 0 ≤ index)
    (below : index < bound steps) :
    ∃ step < steps, bound step ≤ index ∧ index < bound (step + 1) := by
  induction steps with
  | zero => omega
  | succ steps ih =>
    by_cases earlier : index < bound steps
    · obtain ⟨step, before, between⟩ := ih earlier
      exact ⟨step, by omega, between⟩
    · exact ⟨steps, by omega, by omega, below⟩

theorem parseRange_covers {count workers : Nat} (positive : 0 < workers) :
    ∀ index < count,
      ∃ indices ∈ (List.range workers).map (parseRange count workers), index ∈ indices := by
  intro index below
  have last : index < count * workers / workers := by rwa [Nat.mul_div_cancel _ positive]
  obtain ⟨worker, isWorker, between⟩ :=
    exists_step_between (fun worker => count * worker / workers) (by simp) last
  refine ⟨_, mem_map.mpr ⟨worker, mem_range.mpr isWorker, rfl⟩, ?_⟩
  rw [parseRange, mem_range'_1]
  omega

theorem parseMessagesWith_eq_some {schedule : List Nat} {parsed : List (Option (TxRef × ParsedTX))}
    (isParsed : parseMessagesWith wire platform cfg block schedule = some parsed) :
    parsed.filterMap id = parseMessages wire platform block := by
  obtain ⟨s, ran, isResult⟩ := Option.bind_eq_some_iff.mp isParsed
  have filled :
      parsed =
        (List.range (block.data.getD []).length).map fun index =>
          some (messageAt wire platform block index) := by
    refine SlotFill.result_eq_some _ ?_ ran isResult
    intro index below
    split
    · exact ⟨_, mem_singleton_self _, mem_range.mpr below⟩
    · exact parseRange_covers (by omega) index below
  rw [filled, parseMessages_eq, filterMap_map]
  change List.filterMap (some ∘ messageAt wire platform block) _ = _
  rw [filterMap_eq_map]

theorem mapBlockWith_eq_some {schedule : List Nat} {dedup : TxIDDedup}
    {result : Except MappingError (MappedBlock × TxIDDedup)}
    (isResult : mapBlockWith wire platform cfg block schedule dedup = some result) :
    result = mapBlock wire platform block dedup := by
  obtain ⟨parsed, isParsed, same⟩ := Option.map_eq_some_iff.mp isResult
  rw [← same, parseMessagesWith_eq_some wire platform cfg block isParsed]
  rfl

theorem exists_mapBlockWith (dedup : TxIDDedup) :
    ∃ schedule, (mapBlockWith wire platform cfg block schedule dedup).isSome = true := by
  obtain ⟨schedule, final, ran, finished⟩ :=
    SlotFill.exists_schedule (messageAt wire platform block) _ _ (SlotFill.fill _ _ _).initial
  refine ⟨schedule, ?_⟩
  rw [mapBlockWith, Option.isSome_map, parseMessagesWith, Machine.run, ran]
  exact finished

end

/-! ## The IDs of a block -/

section

variable {ids : List Bytes} {ref : TxRef} {parsed : ParsedTX}

theorem fresh_of_firstStatus (isFirst : firstStatus ids ref parsed = .unspecified) :
    ref.txId ∉ ids := by
  intro inFlight
  rw [firstStatus] at isFirst
  split at isFirst
  · rename_i atOnce
    exact statusAtOnce_ne_unspecified atOnce isFirst
  · rw [if_pos inFlight] at isFirst
    cases isFirst

theorem unstored_of_statusAtOnce {status : Status} (atOnce : statusAtOnce parsed = some status) :
    isStatusStoredInDB status = false := by
  cases parsed with
  | rejected given =>
    rw [statusAtOnce] at atOnce
    split at atOnce
    · cases atOnce
    · rename_i unstored
      cases atOnce
      exact Bool.eq_false_iff.mpr unstored
  | _ => cases atOnce

theorem unstored_of_firstStatus (specified : firstStatus ids ref parsed ≠ .unspecified) :
    isStatusStoredInDB (firstStatus ids ref parsed) = false := by
  cases atOnce : statusAtOnce parsed with
  | some status =>
    rw [firstStatus, atOnce]
    exact unstored_of_statusAtOnce atOnce
  | none =>
    by_cases inFlight : ref.txId ∈ ids
    · rw [firstStatus_duplicate atOnce inFlight]
      rfl
    · exact absurd (firstStatus_fresh atOnce inFlight) specified

end

/-- The IDs of the transactions that stay pending. -/
def recordedIDs (ids : List Bytes) (messages : List (TxRef × ParsedTX)) : List Bytes :=
  (pendingOf (settle ids messages)).map TxRef.txId

theorem recordedIDs_cons
    (ids : List Bytes) (ref : TxRef) (parsed : ParsedTX) (rest : List (TxRef × ParsedTX)) :
    recordedIDs ids ((ref, parsed) :: rest) =
      if firstStatus ids ref parsed = .unspecified then
        ref.txId :: recordedIDs (ref.txId :: ids) rest
      else
        recordedIDs ids rest := by
  rw [recordedIDs, settle, pendingOf_cons, idsAfter]
  split
  · rfl
  · rfl

theorem unstored_settle (messages : List (TxRef × ParsedTX)) :
    ∀ (ids : List Bytes), ∀ entry ∈ settle ids messages,
      entry.2 ≠ .unspecified → isStatusStoredInDB entry.2 = false := by
  induction messages with
  | nil =>
    intro ids entry mem
    cases mem
  | cons message rest ih =>
    intro ids entry mem specified
    rcases mem_cons.mp mem with same | later
    · subst same
      exact unstored_of_firstStatus specified
    · exact ih _ entry later specified

theorem fresh_recordedIDs (messages : List (TxRef × ParsedTX)) :
    ∀ ids : List Bytes,
      (recordedIDs ids messages).Nodup ∧ ∀ id ∈ recordedIDs ids messages, id ∉ ids := by
  induction messages with
  | nil =>
    intro ids
    simp [recordedIDs, settle, pendingOf]
  | cons message rest ih =>
    intro ids
    rw [recordedIDs_cons]
    by_cases isFirst : firstStatus ids message.1 message.2 = .unspecified
    · have later := ih (message.1.txId :: ids)
      rw [if_pos isFirst]
      refine ⟨nodup_cons.mpr ⟨?_, later.1⟩, ?_⟩
      · intro again
        exact later.2 _ again mem_cons_self
      · intro id mem
        rcases mem_cons.mp mem with same | recorded
        · subst same
          exact fresh_of_firstStatus isFirst
        · exact fun inFlight => later.2 id recorded (mem_cons_of_mem _ inFlight)
    · rw [if_neg isFirst]
      exact ih ids

/-! ## The places of the messages -/

/-- Indices in the order of the block, all below a given one. -/
def Ascending (bound : Nat) (indices : List Nat) : Prop :=
  indices.Pairwise (· < ·) ∧ ∀ index ∈ indices, index < bound

theorem Ascending.succ {bound : Nat} {indices : List Nat} (ascending : Ascending bound indices) :
    Ascending (bound + 1) indices :=
  ⟨ascending.1, fun index mem => Nat.lt_succ_of_lt (ascending.2 index mem)⟩

theorem Ascending.snoc {bound : Nat} {indices : List Nat} (ascending : Ascending bound indices) :
    Ascending (bound + 1) (indices ++ [bound]) := by
  refine ⟨pairwise_append.mpr ⟨ascending.1, pairwise_singleton _ _, ?_⟩, ?_⟩
  · intro index mem last isLast
    rw [mem_singleton.mp isLast]
    exact ascending.2 index mem
  · intro index mem
    rcases mem_append.mp mem with earlier | isLast
    · exact Nat.lt_succ_of_lt (ascending.2 index earlier)
    · rw [mem_singleton.mp isLast]
      exact Nat.lt_succ_self bound

/-- The index of the message of a transaction. -/
def msgIndex (ref : TxRef) : Nat := ref.txNum.toNat

namespace MappedBlock

def accepted (mapped : MappedBlock) : List Nat := mapped.txs.map fun tx => msgIndex tx.ref

def rejectedStored (mapped : MappedBlock) : List Nat := mapped.rejected.map fun tx => msgIndex tx.ref

def snapshot (mapped : MappedBlock) : List Nat :=
  mapped.snapshotTx.toList.map fun tx => msgIndex tx.ref

def isPending (mapped : MappedBlock) (index : Nat) : Bool :=
  mapped.withStatus.txStatus[index]? == some statusNotYetValidated

def withoutStatus (mapped : MappedBlock) (count : Nat) : List Nat :=
  (List.range count).filter mapped.isPending

def finalAtOnce (mapped : MappedBlock) (count : Nat) : List Nat :=
  (List.range count).filter fun index => !mapped.isPending index

end MappedBlock

/-- A message is taken for a snapshot request exactly if it is one. -/
def Classified : ParsedTX → Prop
  | .accepted tx isSnapshot => isSnapshot = isSnapshotTx tx
  | .config tx => isSnapshotTx tx = false
  | _ => True

theorem classified_parseMessage (wire : Wire) (platform : Platform) (msg : Bytes) :
    Classified (parseMessage wire platform msg).2 := by
  rw [parseMessage]
  split
  · trivial
  split
  · rw [parseConfigTx]
    split
    · trivial
    split
    · trivial
    · exact (by decide : (configNamespaceID == snapshotNamespaceID) = false)
  split
  · trivial
  split
  · trivial
  split
  · trivial
  split
  · trivial
  · rfl

/-- What the mapper keeps about the messages before a given one. -/
structure InPlace (bound : Nat) (m : BlockMapper) : Prop where
  accepted : Ascending bound m.accepted
  rejected : Ascending bound m.rejectedStored
  stored : ∀ entry ∈ m.rejected, isStatusStoredInDB entry.status = true
  regular : ∀ entry ∈ m.txs, isSnapshotTx entry.content = false

section

variable {m next : BlockMapper} {ref : TxRef} {parsed : ParsedTX}

theorem InPlace.append_tx
    {tx : Tx} (kept : InPlace (msgIndex ref) m) (isRegular : isSnapshotTx tx = false)
    (txs : next.txs = m.txs ++ [⟨ref, tx⟩]) (rejected : next.rejected = m.rejected) :
    InPlace (msgIndex ref + 1) next where
  accepted := by
    rw [MappedBlock.accepted, txs, map_append]
    exact kept.accepted.snoc
  rejected := by
    rw [MappedBlock.rejectedStored, rejected]
    exact kept.rejected.succ
  stored := by
    rw [rejected]
    exact kept.stored
  regular := by
    intro entry mem
    rw [txs] at mem
    rcases mem_append.mp mem with earlier | isLast
    · exact kept.regular entry earlier
    · rw [mem_singleton.mp isLast]
      exact isRegular

theorem Placement.inPlace (placement : Placement m ref parsed next) (classified : Classified parsed)
    (kept : InPlace (msgIndex ref) m) :
    InPlace (msgIndex ref + 1) next := by
  cases placement with
  | final status isFirst unstored =>
    exact ⟨kept.accepted.succ, kept.rejected.succ, kept.stored, kept.regular⟩
  | accepted tx isFirst isParsed =>
    subst isParsed
    exact kept.append_tx classified.symm rfl rfl
  | config tx isFirst isParsed =>
    subst isParsed
    exact kept.append_tx classified rfl rfl
  | snapshot tx isFirst isParsed isOnly =>
    exact ⟨kept.accepted.succ, kept.rejected.succ, kept.stored, kept.regular⟩
  | rejected status isFirst stored =>
    refine ⟨kept.accepted.succ, ?_, ?_, kept.regular⟩
    · rw [MappedBlock.rejectedStored, map_append]
      exact kept.rejected.snoc
    · intro entry mem
      rcases mem_append.mp mem with earlier | isLast
      · exact kept.stored entry earlier
      · rw [mem_singleton.mp isLast]
        exact stored

theorem Placement.recorded (placement : Placement m ref parsed next) :
    next.txIDDedup.blocks = m.txIDDedup.blocks ∧
      if firstStatus m.txIDDedup.ids ref parsed = .unspecified then
        next.txIDDedup.ids = ref.txId :: m.txIDDedup.ids ∧ next.txIDs = m.txIDs ++ [ref.txId]
      else
        next.txIDDedup.ids = m.txIDDedup.ids ∧ next.txIDs = m.txIDs := by
  cases placement with
  | final status isFirst unstored =>
    have specified : status ≠ .unspecified := by
      rintro rfl
      cases unstored
    rw [isFirst, if_neg specified]
    exact ⟨rfl, rfl, rfl⟩
  | accepted tx isFirst isParsed =>
    rw [if_pos isFirst]
    exact ⟨rfl, rfl, rfl⟩
  | config tx isFirst isParsed =>
    rw [if_pos isFirst]
    exact ⟨rfl, rfl, rfl⟩
  | snapshot tx isFirst isParsed isOnly =>
    rw [if_pos isFirst]
    exact ⟨rfl, rfl, rfl⟩
  | rejected status isFirst stored =>
    rw [if_pos isFirst]
    exact ⟨rfl, rfl, rfl⟩

end

structure Recorded
    (m : BlockMapper) (messages : List (TxRef × ParsedTX)) (final : BlockMapper) : Prop where
  ids : final.txIDDedup.ids = (recordedIDs m.txIDDedup.ids messages).reverse ++ m.txIDDedup.ids
  txIDs : final.txIDs = m.txIDs ++ recordedIDs m.txIDDedup.ids messages
  blocks : final.txIDDedup.blocks = m.txIDDedup.blocks

theorem recorded_applyParsed {messages : List (TxRef × ParsedTX)} :
    ∀ {m final : BlockMapper}, m.applyParsed messages = .ok final → Recorded m messages final := by
  induction messages with
  | nil =>
    intro m final isFinal
    cases isFinal
    exact ⟨rfl, (append_nil _).symm, rfl⟩
  | cons message rest ih =>
    intro m final isFinal
    obtain ⟨ref, parsed⟩ := message
    obtain ⟨next, placement, isFinal⟩ := applyParsed_cons isFinal
    have later := ih isFinal
    obtain ⟨blocks, first⟩ := placement.recorded
    have sameBlocks := later.blocks.trans blocks
    by_cases isFirst : firstStatus m.txIDDedup.ids ref parsed = .unspecified
    · rw [if_pos isFirst] at first
      refine ⟨?_, ?_, sameBlocks⟩
      · rw [later.ids, first.1, recordedIDs_cons, if_pos isFirst]
        simp
      · rw [later.txIDs, first.1, first.2, recordedIDs_cons, if_pos isFirst]
        simp
    · rw [if_neg isFirst] at first
      refine ⟨?_, ?_, sameBlocks⟩
      · rw [later.ids, first.1, recordedIDs_cons, if_neg isFirst]
      · rw [later.txIDs, first.1, first.2, recordedIDs_cons, if_neg isFirst]

theorem inPlace_applyParsed {blockNumber : UInt64} {messages : List (TxRef × ParsedTX)} :
    ∀ {m final : BlockMapper} {start : Nat},
      m.applyParsed messages = .ok final → Numbered blockNumber start messages →
        (∀ message ∈ messages, Classified message.2) → InPlace start m →
          InPlace (start + messages.length) final := by
  induction messages with
  | nil =>
    intro m final start isFinal _ _ kept
    cases isFinal
    exact kept
  | cons message rest ih =>
    intro m final start isFinal numbered classified kept
    obtain ⟨ref, parsed⟩ := message
    obtain ⟨⟨_, number⟩, numberedRest⟩ := numbered
    obtain ⟨next, placement, isFinal⟩ := applyParsed_cons isFinal
    have isIndex : msgIndex ref = start := number
    subst isIndex
    have keptNext := placement.inPlace (classified _ mem_cons_self) kept
    have later :=
      ih isFinal numberedRest
        (fun message mem => classified message (mem_cons_of_mem _ mem)) keptNext
    rw [length_cons, Nat.add_comm rest.length, ← Nat.add_assoc]
    exact later

theorem map_msgIndex_pending (mapped : MappedBlock) :
    mapped.pending.map msgIndex = mapped.accepted ++ mapped.rejectedStored ++ mapped.snapshot := by
  simp only [MappedBlock.pending, MappedBlock.accepted, MappedBlock.rejectedStored,
    MappedBlock.snapshot, map_append, map_map]
  rfl

namespace WellMapped

variable {settled : List (TxRef × Status)} {mapped : MappedBlock}

section

variable (wellMapped : WellMapped settled mapped)

include wellMapped

theorem isPending_eq {entry : TxRef × Status} (mem : entry ∈ settled) :
    mapped.isPending (msgIndex entry.1) = decide (entry.2 = .unspecified) := by
  have isStatus : mapped.withStatus.txStatus[entry.1.txNum.toNat]? = some entry.2 := by
    rw [wellMapped.statuses, getElem?_map, (wellMapped.position_of_mem mem).1]
    rfl
  rw [MappedBlock.isPending, msgIndex, isStatus]
  rfl

theorem withoutStatus_eq :
    mapped.withoutStatus settled.length = (pendingOf settled).map msgIndex := by
  rw [MappedBlock.withoutStatus, ← wellMapped.positions, filter_map, pendingOf, map_map]
  congr 1
  exact filter_congr fun entry mem => wellMapped.isPending_eq mem

theorem pending_perm :
    (mapped.accepted ++ mapped.rejectedStored ++ mapped.snapshot).Perm
      (mapped.withoutStatus settled.length) := by
  rw [← map_msgIndex_pending, wellMapped.withoutStatus_eq]
  exact wellMapped.pending.map msgIndex

theorem partition_perm :
    (mapped.accepted ++ mapped.rejectedStored ++ mapped.snapshot ++
      mapped.finalAtOnce settled.length).Perm (List.range settled.length) :=
  (wellMapped.pending_perm.append_right _).trans (filter_append_perm _ _)

end

end WellMapped

/-- The messages of a block by the place that the mapping gives them. -/
structure Partitioned (count : Nat) (dedup after : TxIDDedup) (mapped : MappedBlock) : Prop where
  once :
    (mapped.accepted ++ mapped.rejectedStored ++ mapped.snapshot ++
      mapped.finalAtOnce count).Perm (List.range count)
  refs : ∀ ref ∈ mapped.pending, (mapped.withStatus.txs.map BlockTx.ref)[msgIndex ref]? = some ref
  stored : ∀ entry ∈ mapped.rejected, isStatusStoredInDB entry.status = true
  unstored :
    ∀ index ∈ mapped.finalAtOnce count, ∃ status,
      mapped.withStatus.txStatus[index]? = some status ∧ isStatusStoredInDB status = false
  acceptedOrder : mapped.accepted.Pairwise (· < ·)
  rejectedOrder : mapped.rejectedStored.Pairwise (· < ·)
  pendingCount : mapped.withStatus.pendingCount = (mapped.withoutStatus count).length
  pending :
    (mapped.accepted ++ mapped.rejectedStored ++ mapped.snapshot).Perm (mapped.withoutStatus count)
  distinct : (mapped.pending.map TxRef.txId).Nodup
  fresh : ∀ ref ∈ mapped.pending, ref.txId ∉ dedup.ids
  added : ∀ id, id ∈ after.ids ↔ id ∈ dedup.ids ∨ id ∈ mapped.pending.map TxRef.txId
  oneSnapshot :
    ((mapped.txs ++ mapped.snapshotTx.toList).filter fun tx => isSnapshotTx tx.content).length ≤ 1

section

variable {wire : Wire} {platform : Platform} {block : Block} {dedup after : TxIDDedup}
  {mapped : MappedBlock}

theorem classified_parseMessages :
    ∀ message ∈ parseMessages wire platform block, Classified message.2 := by
  intro message mem
  rw [parseMessages_eq] at mem
  obtain ⟨index, _, same⟩ := mem_map.mp mem
  subst same
  exact classified_parseMessage wire platform _

theorem inPlace_of_mapBlock {m : BlockMapper}
    (isFinal :
      (newBlockMapper wire platform block dedup).applyParsed
        (parseMessages wire platform block) = .ok m) :
    InPlace (0 + (parseMessages wire platform block).length) m := by
  refine
    inPlace_applyParsed isFinal (numbered_parseMessages wire platform block)
      classified_parseMessages ⟨?_, ?_, ?_, ?_⟩
  · simp [Ascending, MappedBlock.accepted, newBlockMapper]
  · simp [Ascending, MappedBlock.rejectedStored, newBlockMapper]
  · simp [newBlockMapper]
  · simp [newBlockMapper]

theorem partitioned_of_mapBlock
    (isMapped : mapBlock wire platform block dedup = .ok (mapped, after)) :
    Partitioned (block.data.getD []).length dedup after mapped := by
  have wellMapped := wellMapped_of_mapBlock isMapped
  obtain ⟨m, same, sameIds, isFinal⟩ := mapper_of_mapBlock isMapped
  have kept := inPlace_of_mapBlock isFinal
  have recorded := recorded_applyParsed isFinal
  have freshIDs := fresh_recordedIDs (parseMessages wire platform block) dedup.ids
  have isLength :
      (settle dedup.ids (parseMessages wire platform block)).length =
        (block.data.getD []).length := by
    rw [length_settle, parseMessages_eq, length_map, length_range]
  have pendingIDs :
      (mapped.pending.map TxRef.txId).Perm
        (recordedIDs dedup.ids (parseMessages wire platform block)) :=
    wellMapped.pending.map TxRef.txId
  rw [← isLength]
  subst same
  exact
    { once := wellMapped.partition_perm
      refs := by
        intro ref mem
        obtain ⟨entry, isEntry, sameRef⟩ := mem_map.mp (wellMapped.pending.mem_iff.mp mem)
        obtain ⟨index, found⟩ := getElem?_of_mem (mem_filter.mp isEntry).1
        subst sameRef
        rw [wellMapped.refs, msgIndex, (wellMapped.numbered index entry found).2,
          getElem?_map, found]
        rfl
      stored := kept.stored
      unstored := by
        intro index mem
        obtain ⟨within, notPending⟩ := mem_filter.mp mem
        have below := mem_range.mp within
        have found := getElem?_eq_getElem below
        have isStatus := congrArg (Option.map Prod.snd) found
        rw [← getElem?_map, ← wellMapped.statuses] at isStatus
        refine ⟨_, isStatus, unstored_settle _ _ _ (getElem_mem below) ?_⟩
        intro unspecified
        rw [MappedBlock.isPending, isStatus] at notPending
        simp [unspecified, statusNotYetValidated] at notPending
      acceptedOrder := kept.accepted.1
      rejectedOrder := kept.rejected.1
      pendingCount := by
        rw [wellMapped.pendingCount, wellMapped.withoutStatus_eq, length_map]
      pending := wellMapped.pending_perm
      distinct := pendingIDs.nodup_iff.mpr freshIDs.1
      fresh := by
        intro ref mem
        exact freshIDs.2 _ (pendingIDs.mem_iff.mp (mem_map_of_mem mem))
      added := by
        intro id
        rw [sameIds, recorded.ids, mem_append, mem_reverse, pendingIDs.mem_iff]
        exact Or.comm
      oneSnapshot := by
        have none : m.txs.filter (fun tx => isSnapshotTx tx.content) = [] := by
          rw [filter_eq_nil_iff]
          intro tx mem
          rw [kept.regular tx mem]
          exact Bool.false_ne_true
        rw [filter_append, none, nil_append]
        refine Nat.le_trans (length_filter_le _ _) ?_
        cases m.snapshotTx with
        | none => exact Nat.zero_le 1
        | some tx => exact Nat.le_refl 1 }

end

/-- However the parsing is split, a mapped block is partitioned as by the sequential mapping. -/
theorem mapBlock_partitions
    (wire : Wire) (platform : Platform) (cfg : TxParsingConfig) (block : Block)
    (dedup : TxIDDedup) :
    (∃ schedule, (mapBlockWith wire platform cfg block schedule dedup).isSome = true) ∧
      ∀ schedule result, mapBlockWith wire platform cfg block schedule dedup = some result →
        result = mapBlock wire platform block dedup ∧
          ∀ mapped after, result = .ok (mapped, after) →
            Partitioned (block.data.getD []).length dedup after mapped := by
  refine ⟨exists_mapBlockWith wire platform cfg block dedup, ?_⟩
  intro schedule result isResult
  have sequential := mapBlockWith_eq_some wire platform cfg block isResult
  refine ⟨sequential, ?_⟩
  intro mapped after isMapped
  exact partitioned_of_mapBlock (sequential.symm.trans isMapped)

/-- A block with a message for every place. -/
def variedBlock : Block := sampleBlock [[0, 1, 1], [], [0, 2, 0], [0, 3, 2], [0, 1, 1]] (by decide)

theorem varied_block_partitioned :
    ∃ mapped after,
      mapBlockWith sampleWire permissivePlatform ⟨2, 1⟩ variedBlock [1, 0, 1, 0, 1] {} =
          some (.ok (mapped, after)) ∧
        (mapped.accepted, mapped.rejectedStored, mapped.snapshot, mapped.finalAtOnce 5) =
            ([0], [2], [3], [1, 4]) ∧
          Partitioned 5 {} after mapped := by
  have places :
      ((mapBlockWith sampleWire permissivePlatform ⟨2, 1⟩ variedBlock
            [1, 0, 1, 0, 1] {}).bind Except.toOption).map
          (fun entry =>
            (entry.1.accepted, entry.1.rejectedStored, entry.1.snapshot, entry.1.finalAtOnce 5)) =
        some ([0], [2], [3], [1, 4]) := by
    decide +kernel
  obtain ⟨⟨mapped, after⟩, isEntry, isPlaced⟩ := Option.map_eq_some_iff.mp places
  obtain ⟨result, isResult, isOk⟩ := Option.bind_eq_some_iff.mp isEntry
  cases result with
  | error err => cases isOk
  | ok entry =>
    cases isOk
    exact
      ⟨mapped, after, isResult, isPlaced,
        ((mapBlock_partitions _ _ _ _ _).2 _ _ isResult).2 mapped after rfl⟩

end FabricXCommitter.Sidecar
