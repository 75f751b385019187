import FabricXCommitter.Sidecar.Settling
import FabricXCommitter.VC.Database

/-!
# Recovering missing blocks

The rejected transactions and the snapshot request are not in the batch whose statuses
are asked for, and an empty query is refused.
-/

namespace FabricXCommitter.Sidecar

open Library VC List

def getTransactionsStatus (db : Database) (txIDs : List Bytes) : Except String (List TxStatus) :=
  if txIDs.length = 0 then
    .error "query is empty"
  else
    .ok (readStatusWithHeight db txIDs)

def areSameHeight (ref other : TxRef) : Bool :=
  ref.blockNum == other.blockNum && ref.txNum == other.txNum

/-- The loop of `fillStatuses` over the expected heights. -/
def fillFrom (statusMap : Bytes → Option TxStatus) :
    List Status → List TxRef → Except String (List Status)
  | finalStatuses, [] => .ok finalStatuses
  | finalStatuses, ref :: rest =>
    match statusMap ref.txId with
    | none =>
      .error
        ("committer should have the status of txID [" ++ reprStr ref.txId ++ "] but it does not")
    | some s =>
      fillFrom statusMap
        (finalStatuses.set ref.txNum.toNat
          (if areSameHeight ref s.ref then
            s.status
          else
            .rejectedDuplicateTxId))
        rest

def fillStatuses (finalStatuses : List Status) (statuses : List TxStatus)
    (expectedHeight : List TxRef) : Except String (List Status) :=
  fillFrom
    (overlay (statuses.map fun s => (s.ref.txId, s)) fun _ => none)
    finalStatuses expectedHeight

inductive RecoveryError where
  | mapping (err : MappingError)
  | coordinator (message : String)
  | statuses (message : String)
  deriving DecidableEq, Repr

def appendMissingBlock (wire : Wire) (platform : Platform) (db : Database) (block : Block) :
    Except RecoveryError Block :=
  match mapBlock wire platform block {} with
  | .error err => .error (.mapping err)
  | .ok (mapped, _) =>
    let expectedHeight := mapped.txs.map TxWithRef.ref
    match getTransactionsStatus db (expectedHeight.map TxRef.txId) with
    | .error err =>
      .error (.coordinator ("failed to get transaction status from coordinator: " ++ err))
    | .ok statuses =>
      match fillStatuses mapped.withStatus.txStatus statuses expectedHeight with
      | .error err => .error (.statuses err)
      | .ok txStatus =>
        .ok
          ({ mapped.withStatus with
              txStatus := txStatus }.setStatusMetadataInBlock wire)

/-! ## The statuses of the relay -/

/-- The relay's loop over statuses that arrive, for one block. -/
def takeStatuses (b : BlockWithStatus) : List TxStatus → Except String BlockWithStatus
  | [] => .ok b
  | s :: rest =>
    if b.holds s.ref then
      match b.setFinalStatus s.ref.txNum s.status with
      | .error err => .error err
      | .ok b => takeStatuses b rest
    else
      takeStatuses b rest

def relayBlock (wire : Wire) (mapped : MappedBlock) (arrived : List TxStatus) :
    Except String Block :=
  (takeStatuses mapped.withStatus arrived).map (BlockWithStatus.setStatusMetadataInBlock wire)

/-- The status that the committer reports on a transaction: the recorded one if
it was recorded at the height of the transaction, and else a duplicate. -/
def reportedOn (db : Database) (ref : TxRef) : Status :=
  match db.txStatus ref.txId with
  | some (status, height) =>
    if height = ref.height then status else .rejectedDuplicateTxId
  | none => .unspecified

/-- The transactions of a block are processed: all that were submitted are
recorded, those in flight before the block are recorded elsewhere, and the relay
has received the status of each submitted transaction. -/
structure Processed (db : Database) (dedup : TxIDDedup) (block : Block) (live : MappedBlock)
    (arrived : List TxStatus) : Prop where
  recorded :
    ∀ ref ∈ live.pending, ∃ status height,
      db.txStatus ref.txId = some (status, height) ∧ status ≠ .unspecified
  elsewhere :
    ∀ id ∈ dedup.ids, ∃ status height,
      db.txStatus id = some (status, height) ∧ height.blockNum ≠ block.number
  complete : (arrived.map TxStatus.ref).Perm live.pending
  reports : ∀ s ∈ arrived, s.status = reportedOn db s.ref

/-- The recovery writes the block that the relay would write, with a status for
every transaction. -/
def Recovered (wire : Wire) (platform : Platform) (db : Database) (block : Block)
    (live : MappedBlock) (arrived : List TxStatus) : Prop :=
  ∃ written,
    appendMissingBlock wire platform db block = .ok written ∧
      relayBlock wire live arrived = .ok written ∧ 0 ∉ written.metadata.getD statusIdx []

/-- The block has transactions for the batch, and none beside it. -/
def Plain (wire : Wire) (platform : Platform) (block : Block) : Prop :=
  ∃ mapped after,
    mapBlock wire platform block {} = .ok (mapped, after) ∧
      mapped.txs ≠ [] ∧ mapped.rejected = [] ∧ mapped.snapshotTx = none

def completed (report : TxRef → Status) (settled : List (TxRef × Status)) : List Status :=
  settled.map fun entry =>
    if entry.2 = .unspecified then report entry.1 else entry.2

variable {refs : List TxRef} {report : TxRef → Status}

section

variable {settled : List (TxRef × Status)} {mapped : MappedBlock}
  (wellMapped : WellMapped settled mapped)

include wellMapped

theorem overwrite_eq_completed (complete : refs.Perm mapped.pending) :
    overwrite (refs.map fun ref => (ref.txNum.toNat, report ref)) (settled.map Prod.snd) =
      completed report settled := by
  have positions :
      (refs.map fun ref => (ref.txNum.toNat, report ref)).map Prod.fst =
        refs.map fun ref => ref.txNum.toNat := by
    rw [map_map]
    rfl
  have distinct : ((refs.map fun ref => (ref.txNum.toNat, report ref)).map Prod.fst).Nodup := by
    rw [positions]
    exact (complete.map _).nodup_iff.mpr wellMapped.pending_positions
  apply ext_getElem?
  intro index
  rw [completed, getElem?_map]
  cases found : settled[index]? with
  | none =>
    have outside := List.getElem?_eq_none_iff.mp found
    rw [Option.map_none, List.getElem?_eq_none_iff, length_overwrite, length_map]
    exact outside
  | some entry =>
    have isIndex := (wellMapped.numbered index entry found).2
    have within : index < (settled.map Prod.snd).length := by
      rw [length_map]
      exact (List.getElem?_eq_some_iff.mp found).1
    rw [Option.map_some]
    by_cases unspecified : entry.2 = .unspecified
    · have pending : entry.1 ∈ mapped.pending := by
        rw [wellMapped.pending.mem_iff, mem_pendingOf, ← unspecified]
        exact mem_of_getElem? found
      have listed : (index, report entry.1) ∈ refs.map fun ref => (ref.txNum.toNat, report ref) :=
        mem_map.mpr ⟨entry.1, complete.mem_iff.mpr pending, by rw [isIndex]⟩
      rw [if_pos unspecified]
      exact getElem?_overwrite_of_mem distinct listed within
    · rw [if_neg unspecified, getElem?_overwrite_of_not_mem, getElem?_map, found, Option.map_some]
      rw [positions]
      intro inside
      obtain ⟨ref, mem, sameIndex⟩ := mem_map.mp inside
      have atPosition := (wellMapped.entry_of_pending (complete.mem_iff.mp mem)).1
      rw [sameIndex, found] at atPosition
      cases atPosition
      exact unspecified rfl

end

/-! ## What the relay writes -/

theorem takeStatuses_eq {arrived : List TxStatus} :
    ∀ {b : BlockWithStatus},
      (∀ s ∈ arrived, b.holds s.ref = true) →
        (∀ s ∈ arrived,
          b.txStatus[s.ref.txNum.toNat]? = some .unspecified) →
          (arrived.map fun s => s.ref.txNum.toNat).Nodup →
            takeStatuses b arrived =
              .ok
                { b with
                  txStatus :=
                    overwrite
                      (arrived.map fun s => (s.ref.txNum.toNat, s.status))
                      b.txStatus
                  pendingCount := b.pendingCount - arrived.length } := by
  induction arrived with
  | nil =>
    intro b _ _ _
    simp [takeStatuses, overwrite]
  | cons s rest ih =>
    intro b held unset distinct
    rw [map_cons, nodup_cons] at distinct
    rw [takeStatuses, if_pos (held s mem_cons_self),
      BlockWithStatus.setFinalStatus, unset s mem_cons_self]
    dsimp only
    rw [if_neg (by simp [statusNotYetValidated])]
    dsimp only
    rw [ih]
    · simp only [overwrite, map_cons, foldl_cons, length_cons]
      congr 2
      omega
    · intro later mem
      exact held later (mem_cons_of_mem s mem)
    · intro later mem
      have different : s.ref.txNum.toNat ≠ later.ref.txNum.toNat := by
        intro same
        exact distinct.1 (mem_map.mpr ⟨later, mem, same.symm⟩)
      rw [getElem?_set_ne different]
      exact unset later (mem_cons_of_mem s mem)
    · exact distinct.2

variable {ref : TxRef}

section

variable {settled : List (TxRef × Status)} {mapped : MappedBlock}
  (wellMapped : WellMapped settled mapped)

include wellMapped

theorem takeStatuses_of_complete
    {arrived : List TxStatus} (complete : (arrived.map TxStatus.ref).Perm mapped.pending)
    (reports : ∀ s ∈ arrived, s.status = report s.ref) :
    ∃ b, takeStatuses mapped.withStatus arrived = .ok b ∧
      b.block = mapped.withStatus.block ∧ b.txStatus = completed report settled := by
  have isPending : ∀ s ∈ arrived, s.ref ∈ mapped.pending := by
    intro s mem
    exact complete.mem_iff.mp (mem_map_of_mem mem)
  have distinct : (arrived.map fun s => s.ref.txNum.toNat).Nodup := by
    have positions :=
      (complete.map fun ref => ref.txNum.toNat).nodup_iff.mpr wellMapped.pending_positions
    rw [map_map] at positions
    exact positions
  have writes :
      (arrived.map fun s => (s.ref.txNum.toNat, s.status)) =
        (arrived.map TxStatus.ref).map fun ref => (ref.txNum.toNat, report ref) := by
    rw [map_map]
    apply map_congr_left
    intro s mem
    rw [reports s mem]
    rfl
  refine
    ⟨_,
      takeStatuses_eq
        (fun s mem => wellMapped.holds_of_pending (isPending s mem))
        (fun s mem => wellMapped.unset_of_pending (isPending s mem))
        distinct,
      rfl, ?_⟩
  rw [writes, wellMapped.statuses]
  exact overwrite_eq_completed wellMapped complete

theorem unspecified_of_outside
    (report : TxRef → Status) (among : ∀ ref ∈ refs, ref ∈ mapped.pending)
    (mem : ref ∈ mapped.pending) (outside : ref ∉ refs) :
    .unspecified ∈
      overwrite (refs.map fun ref => (ref.txNum.toNat, report ref)) (settled.map Prod.snd) := by
  have atPosition := (wellMapped.entry_of_pending mem).1
  apply mem_of_getElem? (i := ref.txNum.toNat)
  rw [getElem?_overwrite_of_not_mem, getElem?_map, atPosition]
  · rfl
  rw [map_map]
  intro inside
  obtain ⟨other, isOther, sameNumber⟩ := mem_map.mp inside
  have atOther := (wellMapped.entry_of_pending (among other isOther)).1
  have same : other.txNum.toNat = ref.txNum.toNat := sameNumber
  rw [same, atPosition] at atOther
  cases atOther
  exact outside isOther

end

theorem eq_nil_of_mem_left {α : Type*} {first second : List α} (once : (first ++ second).Nodup)
    (inFirst : ∀ item ∈ first ++ second, item ∈ first) :
    second = [] := by
  apply eq_nil_iff_forall_not_mem.mpr
  intro item mem
  exact (nodup_append.mp once).2.2 item (inFirst item (mem_append_right first mem)) item mem rfl

/-! ## What the recovery writes -/

theorem fillFrom_eq {statusMap : Bytes → Option TxStatus} :
    ∀ {finalStatuses : List Status},
      (∀ ref ∈ refs, ∃ s, statusMap ref.txId = some s ∧
        (if areSameHeight ref s.ref then s.status else .rejectedDuplicateTxId) = report ref) →
        fillFrom statusMap finalStatuses refs =
          .ok (overwrite (refs.map fun ref => (ref.txNum.toNat, report ref)) finalStatuses) := by
  induction refs with
  | nil =>
    intro finalStatuses _
    rfl
  | cons ref rest ih =>
    intro finalStatuses known
    obtain ⟨s, found, same⟩ := known ref mem_cons_self
    rw [fillFrom, found]
    dsimp only
    rw [same, ih fun later mem => known later (mem_cons_of_mem ref mem)]
    rfl

theorem statusMap_eq {db : Database} {txIDs : List Bytes} {id : Bytes} (mem : id ∈ txIDs)
    {status : Status} {height : Height} (recorded : db.txStatus id = some (status, height)) :
    overlay
        ((readStatusWithHeight db txIDs).map fun s => (s.ref.txId, s))
        (fun _ => none) id =
      some ⟨⟨id, height.blockNum, height.txNum⟩, status⟩ := by
  have keys :
      ((readStatusWithHeight db txIDs).map fun s => (s.ref.txId, s)).map Prod.fst =
        txIDs.dedup.filter fun id => (db.txStatus id).isSome := by
    rw [readStatusWithHeight, map_map, map_filterMap]
    rw [← filterMap_eq_filter]
    apply filterMap_congr
    intro other _
    cases isEntry : db.txStatus other with
    | none => simp [Option.guard, isEntry]
    | some entry => simp [Option.guard, isEntry]
  have listed :
      (id, (⟨⟨id, height.blockNum, height.txNum⟩, status⟩ : TxStatus)) ∈
        (readStatusWithHeight db txIDs).map fun s => (s.ref.txId, s) := by
    apply mem_map.mpr
    refine ⟨⟨⟨id, height.blockNum, height.txNum⟩, status⟩, ?_, rfl⟩
    apply mem_filterMap.mpr
    refine ⟨id, mem_dedup.mpr mem, ?_⟩
    rw [recorded]
    rfl
  have distinct :
      (((readStatusWithHeight db txIDs).map fun s => (s.ref.txId, s)).map Prod.fst).Nodup := by
    rw [keys]
    exact (nodup_dedup txIDs).filter _
  exact overlay_of_mem distinct listed

theorem filled_eq_reportedOn {db : Database} {status : Status} {height : Height}
    (recorded : db.txStatus ref.txId = some (status, height)) :
    (if areSameHeight ref ⟨ref.txId, height.blockNum, height.txNum⟩ then
        status
      else
        .rejectedDuplicateTxId) =
      reportedOn db ref := by
  rw [reportedOn, recorded]
  dsimp only
  by_cases same : height = ref.height
  · subst same
    rw [if_pos rfl, if_pos (by simp [areSameHeight, TxRef.height])]
  · rw [if_neg same, if_neg]
    intro sameHeight
    apply same
    simp only [areSameHeight, Bool.and_eq_true, beq_iff_eq] at sameHeight
    rw [TxRef.height, sameHeight.1, sameHeight.2]

theorem fillStatuses_eq {db : Database} {finalStatuses : List Status}
    (recorded : ∀ ref ∈ refs, ∃ status height, db.txStatus ref.txId = some (status, height)) :
    fillStatuses finalStatuses (readStatusWithHeight db (refs.map TxRef.txId)) refs =
      .ok
        (overwrite
          (refs.map fun ref => (ref.txNum.toNat, reportedOn db ref))
          finalStatuses) := by
  apply fillFrom_eq
  intro ref mem
  obtain ⟨status, height, isRecorded⟩ := recorded ref mem
  exact ⟨_, statusMap_eq (mem_map_of_mem mem) isRecorded, filled_eq_reportedOn isRecorded⟩

/-! ## The two mappings of a block -/

theorem settle_aligned {inFlight : List Bytes} {messages : List (TxRef × ParsedTX)} :
    ∀ {liveIds ids : List Bytes},
      (∀ id, id ∈ liveIds ↔ id ∈ inFlight ∨ id ∈ ids) →
        List.Forall₂
          (fun live second =>
            live = second ∨
              live = (second.1, .rejectedDuplicateTxId) ∧
                second.2 = .unspecified ∧ second.1.txId ∈ inFlight)
          (settle liveIds messages) (settle ids messages) := by
  induction messages with
  | nil =>
    intro liveIds ids _
    exact List.Forall₂.nil
  | cons message rest ih =>
    intro liveIds ids aligned
    obtain ⟨ref, parsed⟩ := message
    cases atOnce : statusAtOnce parsed with
    | some status =>
      rw [settle_atOnce rest atOnce, settle_atOnce rest atOnce]
      exact List.Forall₂.cons (.inl rfl) (ih aligned)
    | none =>
      by_cases repeated : ref.txId ∈ ids
      · have live : ref.txId ∈ liveIds := (aligned _).mpr (.inr repeated)
        rw [settle_duplicate rest atOnce live, settle_duplicate rest atOnce repeated]
        exact List.Forall₂.cons (.inl rfl) (ih aligned)
      rw [settle_fresh rest atOnce repeated]
      by_cases elsewhere : ref.txId ∈ inFlight
      · have live : ref.txId ∈ liveIds := (aligned _).mpr (.inl elsewhere)
        rw [settle_duplicate rest atOnce live]
        refine List.Forall₂.cons (.inr ⟨rfl, rfl, elsewhere⟩) (ih ?_)
        intro id
        rw [aligned, mem_cons]
        constructor
        · rintro (inside | inside)
          · exact .inl inside
          · exact .inr (.inr inside)
        · rintro (inside | same | inside)
          · exact .inl inside
          · exact .inl (same ▸ elsewhere)
          · exact .inr inside
      · have notLive : ref.txId ∉ liveIds := by
          rw [aligned]
          exact not_or.mpr ⟨elsewhere, repeated⟩
        rw [settle_fresh rest atOnce notLive]
        refine List.Forall₂.cons (.inl rfl) (ih ?_)
        intro id
        rw [mem_cons, mem_cons, aligned]
        exact or_left_comm

section

variable {wire : Wire} {platform : Platform} {db : Database} {block : Block}
  {dedup after : TxIDDedup} {live : MappedBlock} {arrived : List TxStatus}
  (isLive : mapBlock wire platform block dedup = .ok (live, after))
  (processed : Processed db dedup block live arrived)

include processed

theorem reportedOn_inFlight
    (sameBlock : ref.blockNum = block.number) (inFlight : ref.txId ∈ dedup.ids) :
    reportedOn db ref = .rejectedDuplicateTxId := by
  obtain ⟨status, height, recorded, other⟩ := processed.elsewhere ref.txId inFlight
  rw [reportedOn, recorded]
  dsimp only
  rw [if_neg]
  rintro rfl
  exact other sameBlock

theorem reportedOn_pending (pending : ref ∈ live.pending) : reportedOn db ref ≠ .unspecified := by
  obtain ⟨status, height, recorded, specified⟩ := processed.recorded ref pending
  rw [reportedOn, recorded]
  dsimp only
  split
  · exact specified
  · decide

include isLive

theorem unspecified_not_mem_completed :
    .unspecified ∉
      completed (reportedOn db) (settle dedup.ids (parseMessages wire platform block)) := by
  have wellMapped := wellMapped_of_mapBlock isLive
  intro mem
  obtain ⟨entry, inside, same⟩ := mem_map.mp mem
  split at same
  · rename_i unspecified
    apply reportedOn_pending processed _ same
    apply wellMapped.pending.mem_iff.mpr
    rw [mem_pendingOf, ← unspecified]
    exact inside
  · rename_i specified
    exact specified same

theorem relayBlock_eq :
    relayBlock wire live arrived =
      .ok
        { prepareMetadata block with
          metadata :=
            (prepareMetadata block).metadata.set statusIdx
              ((completed (reportedOn db)
                (settle dedup.ids (parseMessages wire platform block))).map
                wire.statusByte) } := by
  have wellMapped := wellMapped_of_mapBlock isLive
  obtain ⟨b, taken, sameBlock, statuses⟩ :=
    takeStatuses_of_complete wellMapped processed.complete processed.reports
  rw [relayBlock, taken]
  change Except.ok (b.setStatusMetadataInBlock wire) = _
  rw [BlockWithStatus.setStatusMetadataInBlock, sameBlock, statuses, block_of_mapBlock isLive]

omit isLive processed in
theorem aligned_mappings (wire : Wire) (platform : Platform) (block : Block) (dedup : TxIDDedup) :
    List.Forall₂
      (fun live second =>
        live = second ∨
          live = (second.1, .rejectedDuplicateTxId) ∧
            second.2 = .unspecified ∧ second.1.txId ∈ dedup.ids)
      (settle dedup.ids (parseMessages wire platform block))
      (settle [] (parseMessages wire platform block)) :=
  settle_aligned fun id => by simp

theorem recorded_of_second
    (pending : ref ∈ pendingOf (settle [] (parseMessages wire platform block))) :
    ∃ status height, db.txStatus ref.txId = some (status, height) := by
  have wellMapped := wellMapped_of_mapBlock isLive
  obtain ⟨index, found⟩ := getElem?_of_mem (mem_pendingOf.mp pending)
  have aligned := aligned_mappings wire platform block dedup
  obtain ⟨within, isEntry⟩ := List.getElem?_eq_some_iff.mp found
  have withinLive : index < (settle dedup.ids (parseMessages wire platform block)).length := by
    rw [aligned.length_eq]
    exact within
  have related := aligned.get withinLive within
  rw [get_eq_getElem, get_eq_getElem, isEntry] at related
  rcases related with same | ⟨_, _, inFlight⟩
  · have isPending : ref ∈ live.pending := by
      rw [wellMapped.pending.mem_iff, mem_pendingOf, ← same]
      exact getElem_mem withinLive
    obtain ⟨status, height, recorded, _⟩ := processed.recorded ref isPending
    exact ⟨status, height, recorded⟩
  · obtain ⟨status, height, recorded, _⟩ := processed.elsewhere ref.txId inFlight
    exact ⟨status, height, recorded⟩

theorem completed_second :
    completed (reportedOn db) (settle [] (parseMessages wire platform block)) =
      completed (reportedOn db) (settle dedup.ids (parseMessages wire platform block)) := by
  have wellMapped := wellMapped_of_mapBlock isLive
  have aligned := aligned_mappings wire platform block dedup
  apply ext_getElem
  · rw [completed, completed, length_map, length_map, aligned.length_eq]
  · intro index within withinLive
    rw [completed, length_map] at within withinLive
    have related := aligned.get withinLive within
    rw [get_eq_getElem, get_eq_getElem] at related
    simp only [completed, getElem_map]
    rcases related with same | ⟨isSecond, unspecified, inFlight⟩
    · rw [same]
    · have number := (wellMapped.numbered index _ (getElem?_eq_getElem withinLive)).1
      rw [isSecond] at number
      rw [isSecond, if_pos unspecified, if_neg (fun same => nomatch same)]
      apply reportedOn_inFlight processed _ inFlight
      rw [← blockNumber_of_mapBlock isLive]
      exact number

theorem appendMissingBlock_eq {mapped : MappedBlock} {afterMapping : TxIDDedup}
    (isMapped : mapBlock wire platform block {} = .ok (mapped, afterMapping))
    (nonempty : mapped.txs ≠ []) :
    appendMissingBlock wire platform db block =
      .ok
        { prepareMetadata block with
          metadata :=
            (prepareMetadata block).metadata.set statusIdx
              ((overwrite
                ((mapped.txs.map TxWithRef.ref).map fun ref => (ref.txNum.toNat, reportedOn db ref))
                ((settle [] (parseMessages wire platform block)).map Prod.snd)).map
                wire.statusByte) } := by
  have wellMapped := wellMapped_of_mapBlock isMapped
  have asked : ((mapped.txs.map TxWithRef.ref).map TxRef.txId).length ≠ 0 := by
    simpa using nonempty
  have recorded :
      ∀ ref ∈ mapped.txs.map TxWithRef.ref, ∃ status height,
        db.txStatus ref.txId = some (status, height) := by
    intro ref mem
    apply recorded_of_second isLive processed
    apply wellMapped.pending.mem_iff.mp
    exact mem_append_left _ (mem_append_left _ mem)
  rw [appendMissingBlock, isMapped]
  dsimp only
  rw [getTransactionsStatus, if_neg asked]
  dsimp only
  rw [fillStatuses_eq recorded]
  dsimp only
  rw [BlockWithStatus.setStatusMetadataInBlock, block_of_mapBlock isMapped, wellMapped.statuses]

omit isLive processed in
theorem statusIdx_lt_metadata (block : Block) :
    statusIdx < (prepareMetadata block).metadata.length := by
  rw [prepareMetadata]
  simp only [length_append, length_replicate]
  omega

end

/-- A block is recovered as the relay would write it exactly if all its pending
transactions are in the batch, and there is one. -/
theorem recovered_iff_plain {wire : Wire} {platform : Platform} {db : Database} {block : Block}
    {dedup after : TxIDDedup} {live : MappedBlock} {arrived : List TxStatus}
    (isLive : mapBlock wire platform block dedup = .ok (live, after))
    (processed : Processed db dedup block live arrived) :
    Recovered wire platform db block live arrived ↔ Plain wire platform block := by
  have relayed := relayBlock_eq isLive processed
  have within := statusIdx_lt_metadata block
  constructor
  · intro recovered
    obtain ⟨written, isWritten, isRelayed, _⟩ := recovered
    cases isMapped : mapBlock wire platform block {} with
    | error err =>
      rw [appendMissingBlock, isMapped] at isWritten
      cases isWritten
    | ok result =>
      obtain ⟨mapped, afterMapping⟩ := result
      have wellMapped := wellMapped_of_mapBlock isMapped
      have nonempty : mapped.txs ≠ [] := by
        intro empty
        rw [appendMissingBlock, isMapped] at isWritten
        dsimp only at isWritten
        rw [empty] at isWritten
        cases isWritten
      rw [appendMissingBlock_eq isLive processed isMapped nonempty] at isWritten
      rw [relayed] at isRelayed
      cases isWritten
      have sameMetadata := congrArg Block.metadata (Except.ok.inj isRelayed)
      have sameBytes := congrArg (fun entries => entries[statusIdx]?) sameMetadata
      rw [getElem?_set_self within, getElem?_set_self within] at sameBytes
      have inBatch : ∀ ref ∈ mapped.pending, ref ∈ mapped.txs.map TxWithRef.ref := by
        intro ref member
        by_contra outside
        apply unspecified_not_mem_completed isLive processed
        have kept :=
          unspecified_of_outside wellMapped (reportedOn db)
            (fun ref isTx => mem_append_left _ (mem_append_left _ isTx))
            member outside
        have zero := mem_map_of_mem (f := wire.statusByte) kept
        rw [(wire.statusByte_eq_zero _).mpr rfl, ← Option.some.inj sameBytes] at zero
        obtain ⟨status, isStatus, isZero⟩ := mem_map.mp zero
        rw [wire.statusByte_eq_zero] at isZero
        rw [← isZero]
        exact isStatus
      have once : mapped.pending.Nodup := List.Nodup.of_map _ wellMapped.pending_positions
      rw [MappedBlock.pending, append_assoc] at once inBatch
      have nothing := eq_nil_of_mem_left once inBatch
      rw [append_eq_nil_iff, map_eq_nil_iff, map_eq_nil_iff, Option.toList_eq_nil_iff] at nothing
      exact ⟨mapped, afterMapping, isMapped, nonempty, nothing.1, nothing.2⟩
  · intro plain
    obtain ⟨mapped, afterMapping, isMapped, nonempty, noRejected, noSnapshot⟩ := plain
    have wellMapped := wellMapped_of_mapBlock isMapped
    have complete : (mapped.txs.map TxWithRef.ref).Perm mapped.pending := by
      simp [MappedBlock.pending, noRejected, noSnapshot]
    refine ⟨_, appendMissingBlock_eq isLive processed isMapped nonempty, ?_, ?_⟩
    · rw [relayed, overwrite_eq_completed wellMapped complete, completed_second isLive processed]
    · rw [overwrite_eq_completed wellMapped complete, completed_second isLive processed]
      rw [getD_eq_getElem?_getD, getElem?_set_self within, Option.getD_some]
      intro zero
      obtain ⟨status, member, isZero⟩ := mem_map.mp zero
      rw [wire.statusByte_eq_zero] at isZero
      rw [isZero] at member
      exact unspecified_not_mem_completed isLive processed member

/-- The block of an ordinary transaction and a message without an ID. -/
def ordinaryBlock : Block := sampleBlock [[0, 1, 1], []] (by decide)

/-- The block of an ordinary transaction and one without namespaces. -/
def mixedBlock : Block := sampleBlock [[0, 1, 1], [0, 2, 0]] (by decide)

def requestBlock : Block := sampleBlock [[0, 3, 2]] (by decide)

/-- All transactions of the blocks are processed. -/
def processedDatabase : Database where
  hasTable := fun _ => false
  row := fun _ _ => none
  txStatus := fun id =>
    if id = [1] then
      some (.committed, ⟨5, 0⟩)
    else if id = [2] then
      some (.malformedEmptyNamespaces, ⟨5, 1⟩)
    else if id = [3] then
      some (.committed, ⟨5, 0⟩)
    else
      none
  latestSnapshotKey := []
  snapshotDatabases := fun _ => false
  rowsInTables := fun _ _ _ => rfl

/-- What the relay and the recovery write for a block. -/
def bothBlocks (block : Block) (arrived : List TxStatus) :
    Option (List Bytes) × Option (List Bytes) :=
  (match mapBlock sampleWire permissivePlatform block {} with
    | .error _ => none
    | .ok (live, _) => (relayBlock sampleWire live arrived).toOption.map Block.metadata,
    (appendMissingBlock sampleWire permissivePlatform processedDatabase block).toOption.map
      Block.metadata)

theorem ordinaryBlock_recovered :
    ∃ live after,
      mapBlock sampleWire permissivePlatform ordinaryBlock {} = .ok (live, after) ∧
        Recovered sampleWire permissivePlatform processedDatabase ordinaryBlock
          live [⟨⟨[1], 5, 0⟩, .committed⟩] := by
  have mapping :
      (mapBlock sampleWire permissivePlatform ordinaryBlock {}).toOption.map
          (fun result =>
            (result.1.pending, result.1.txs.isEmpty, result.1.rejected, result.1.snapshotTx)) =
        some ([⟨[1], 5, 0⟩], false, [], none) := by
    decide +kernel
  obtain ⟨⟨live, after⟩, isMapped, facts⟩ := Option.map_eq_some_iff.mp mapping
  cases isLive : mapBlock sampleWire permissivePlatform ordinaryBlock {} with
  | error err =>
    rw [isLive] at isMapped
    cases isMapped
  | ok result =>
    rw [isLive] at isMapped
    cases isMapped
    obtain ⟨pending, nonempty, noRejected, noSnapshot⟩ :=
      (by simpa using facts :
        live.pending = [⟨[1], 5, 0⟩] ∧ live.txs ≠ [] ∧ live.rejected = [] ∧ live.snapshotTx = none)
    refine ⟨live, after, rfl, ?_⟩
    refine (recovered_iff_plain isLive ⟨?_, ?_, ?_, ?_⟩).mpr ?_
    · intro ref member
      rw [pending] at member
      rw [mem_singleton.mp member]
      exact ⟨.committed, ⟨5, 0⟩, rfl, by decide⟩
    · intro id member
      cases member
    · rw [pending]
      exact List.Perm.refl _
    · intro s member
      rw [mem_singleton.mp member]
      decide +kernel
    · exact ⟨live, after, isLive, nonempty, noRejected, noSnapshot⟩

/-- The rejected transaction keeps a zero, and the snapshot request is not
recovered. -/
theorem mixedBlock_not_recovered :
    bothBlocks mixedBlock [⟨⟨[1], 5, 0⟩, .committed⟩, ⟨⟨[2], 5, 1⟩, .malformedEmptyNamespaces⟩] =
        (some [[], [], [1, 10]], some [[], [], [1, 0]]) ∧
      bothBlocks requestBlock [⟨⟨[3], 5, 0⟩, .committed⟩] = (some [[], [], [1]], none) ∧
        appendMissingBlock sampleWire permissivePlatform processedDatabase requestBlock =
          .error
            (.coordinator
              ("failed to get transaction status from coordinator: " ++ "query is empty")) := by
  refine ⟨by decide +kernel, by decide +kernel, ?_⟩
  decide +kernel

end FabricXCommitter.Sidecar
