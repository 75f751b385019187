import FabricXCommitter.Sidecar.Mapping

/-!
# What a mapped block settles
-/

namespace FabricXCommitter.Sidecar

open List Option

variable {status : Status}

/-- The status that a message gets without its ID. -/
def statusAtOnce : ParsedTX → Option Status
  | .rejected status => if isStatusStoredInDB status then none else some status
  | _ => none

/-- The status of a message after its mapping. -/
def firstStatus (ids : List Bytes) (ref : TxRef) (parsed : ParsedTX) : Status :=
  match statusAtOnce parsed with
  | some status => status
  | none => if ref.txId ∈ ids then .rejectedDuplicateTxId else .unspecified

def idsAfter (ids : List Bytes) (ref : TxRef) (parsed : ParsedTX) : List Bytes :=
  if firstStatus ids ref parsed = .unspecified then ref.txId :: ids else ids

/-- The statuses of messages after their mapping. -/
def settle (ids : List Bytes) : List (TxRef × ParsedTX) → List (TxRef × Status)
  | [] => []
  | (ref, parsed) :: rest =>
    (ref, firstStatus ids ref parsed) :: settle (idsAfter ids ref parsed) rest

/-- The transactions among them that stay pending. -/
def pendingOf (settled : List (TxRef × Status)) : List TxRef :=
  (settled.filter fun entry => entry.2 = .unspecified).map Prod.fst

def MappedBlock.pending (mapped : MappedBlock) : List TxRef :=
  mapped.txs.map TxWithRef.ref ++ mapped.rejected.map TxStatus.ref ++
    mapped.snapshotTx.toList.map TxWithRef.ref

theorem statusAtOnce_ne_unspecified
    {parsed : ParsedTX} (atOnce : statusAtOnce parsed = some status) :
    status ≠ .unspecified := by
  rintro rfl
  cases parsed with
  | rejected given =>
    rw [statusAtOnce] at atOnce
    split at atOnce
    · cases atOnce
    · rename_i unstored
      cases atOnce
      exact unstored rfl
  | _ => cases atOnce

section

variable {ids : List Bytes} {ref : TxRef} {parsed : ParsedTX}

theorem firstStatus_duplicate (noStatus : statusAtOnce parsed = none) (inFlight : ref.txId ∈ ids) :
    firstStatus ids ref parsed = .rejectedDuplicateTxId := by
  rw [firstStatus, noStatus]
  exact if_pos inFlight

theorem firstStatus_fresh (noStatus : statusAtOnce parsed = none) (fresh : ref.txId ∉ ids) :
    firstStatus ids ref parsed = .unspecified := by
  rw [firstStatus, noStatus]
  exact if_neg fresh

variable (rest : List (TxRef × ParsedTX))

theorem settle_atOnce (atOnce : statusAtOnce parsed = some status) :
    settle ids ((ref, parsed) :: rest) = (ref, status) :: settle ids rest := by
  have same : firstStatus ids ref parsed = status := by rw [firstStatus, atOnce]
  rw [settle, idsAfter, same, if_neg (statusAtOnce_ne_unspecified atOnce)]

theorem settle_duplicate (noStatus : statusAtOnce parsed = none) (inFlight : ref.txId ∈ ids) :
    settle ids ((ref, parsed) :: rest) = (ref, .rejectedDuplicateTxId) :: settle ids rest := by
  rw [settle, idsAfter, firstStatus_duplicate noStatus inFlight, if_neg (by decide)]

theorem settle_fresh (noStatus : statusAtOnce parsed = none) (fresh : ref.txId ∉ ids) :
    settle ids ((ref, parsed) :: rest) = (ref, .unspecified) :: settle (ref.txId :: ids) rest := by
  rw [settle, idsAfter, firstStatus_fresh noStatus fresh, if_pos rfl]

end

def recordID (m : BlockMapper) (ref : TxRef) : BlockMapper :=
  { m with
    txIDDedup := { m.txIDDedup with ids := ref.txId :: m.txIDDedup.ids }
    txIDs := m.txIDs ++ [ref.txId] }

/-- The mapper after a message got its final status. -/
def finishTx (m : BlockMapper) (ref : TxRef) (status : Status) : BlockMapper :=
  { m with
    withStatus :=
      { m.withStatus with
        txStatus := m.withStatus.txStatus.set ref.txNum.toNat status
        pendingCount := m.withStatus.pendingCount - 1 } }

/-- Everything that the mapping of one message can do. -/
inductive Placement (m : BlockMapper) (ref : TxRef) (parsed : ParsedTX) : BlockMapper → Prop where
  | final (status : Status)
      (isFirst : firstStatus m.txIDDedup.ids ref parsed = status)
      (unstored : isStatusStoredInDB status = false) :
      Placement m ref parsed (finishTx m ref status)
  | accepted (tx : Tx)
      (isFirst : firstStatus m.txIDDedup.ids ref parsed = .unspecified)
      (isParsed : parsed = .accepted tx false) :
      Placement m ref parsed
        { (recordID m ref).setContent ref tx with
          txs := m.txs ++ [⟨ref, tx⟩] }
  | config (tx : Tx)
      (isFirst : firstStatus m.txIDDedup.ids ref parsed = .unspecified)
      (isParsed : parsed = .config tx) :
      Placement m ref parsed
        { (recordID m ref).setContent ref tx with
          isConfig := true
          txs := m.txs ++ [⟨ref, tx⟩] }
  | snapshot (tx : Tx)
      (isFirst : firstStatus m.txIDDedup.ids ref parsed = .unspecified)
      (isParsed : parsed = .accepted tx true) (isOnly : m.snapshotTx = none) :
      Placement m ref parsed
        { (recordID m ref).setContent ref tx with
          snapshotTx := some ⟨ref, tx⟩ }
  | rejected (status : Status)
      (isFirst : firstStatus m.txIDDedup.ids ref parsed = .unspecified)
      (stored : isStatusStoredInDB status = true) :
      Placement m ref parsed { recordID m ref with rejected := m.rejected ++ [⟨ref, status⟩] }

section

variable {m next : BlockMapper} {ref : TxRef} {parsed : ParsedTX}

theorem rejectNonDBStatusTx_eq (rejected : m.rejectNonDBStatusTx ref status = .ok next) :
    isStatusStoredInDB status = false ∧ next = finishTx m ref status := by
  revert rejected
  fun_cases BlockMapper.rejectNonDBStatusTx m ref status with
  | case1 | case2 =>
    intro rejected
    cases rejected
  | case3 unstored withStatus isSet =>
    intro rejected
    cases rejected
    revert isSet
    fun_cases BlockWithStatus.setFinalStatus m.withStatus ref.txNum status with
    | case1 | case2 =>
      intro isSet
      cases isSet
    | case3 =>
      intro isSet
      cases isSet
      exact ⟨Bool.eq_false_iff.mpr unstored, rfl⟩

theorem addTxIDMapping_true (added : m.addTxIDMapping ref = .ok (true, next)) :
    ref.txId ∈ m.txIDDedup.ids ∧ next = finishTx m ref .rejectedDuplicateTxId := by
  revert added
  fun_cases BlockMapper.addTxIDMapping m ref with
  | case1 | case2 =>
    intro added
    cases added
  | case3 notAdded rejected isRejected =>
    intro added
    cases added
    refine ⟨?_, (rejectNonDBStatusTx_eq isRejected).2⟩
    by_contra fresh
    rw [TxIDDedup.add, if_neg fresh] at notAdded
    cases notAdded

theorem addTxIDMapping_false (added : m.addTxIDMapping ref = .ok (false, next)) :
    ref.txId ∉ m.txIDDedup.ids ∧ next = recordID m ref := by
  revert added
  fun_cases BlockMapper.addTxIDMapping m ref with
  | case1 dedup isAdded =>
    intro added
    cases added
    obtain ⟨fresh, same⟩ := ite_none_left_eq_some.mp isAdded
    cases same
    exact ⟨fresh, rfl⟩
  | case2 | case3 =>
    intro added
    cases added

theorem prepareTx_none {tx : Tx} (isPrepared : m.prepareTx ref tx = .ok (none, next)) :
    ref.txId ∈ m.txIDDedup.ids ∧ next = finishTx m ref .rejectedDuplicateTxId := by
  revert isPrepared
  fun_cases BlockMapper.prepareTx m ref tx with
  | case2 after added =>
    intro isPrepared
    cases isPrepared
    exact addTxIDMapping_true added
  | case1 | case3 =>
    intro isPrepared
    cases isPrepared

theorem prepareTx_some {tx : Tx} {txWithRef : TxWithRef}
    (isPrepared : m.prepareTx ref tx = .ok (some txWithRef, next)) :
    txWithRef = ⟨ref, tx⟩ ∧ ref.txId ∉ m.txIDDedup.ids ∧
      next = (recordID m ref).setContent ref tx := by
  revert isPrepared
  fun_cases BlockMapper.prepareTx m ref tx with
  | case3 after added =>
    intro isPrepared
    cases isPrepared
    obtain ⟨fresh, same⟩ := addTxIDMapping_false added
    rw [same]
    exact ⟨rfl, fresh, rfl⟩
  | case1 | case2 =>
    intro isPrepared
    cases isPrepared

theorem placement_duplicate
    (noStatus : statusAtOnce parsed = none) (inFlight : ref.txId ∈ m.txIDDedup.ids) :
    Placement m ref parsed (finishTx m ref .rejectedDuplicateTxId) :=
  .final _ (firstStatus_duplicate noStatus inFlight) rfl

theorem placement_rejectTx
    (isStatus :
      parsed = .rejected status ∨ statusAtOnce parsed = none ∧ isStatusStoredInDB status = true)
    (rejected : m.rejectTx ref status = .ok next) :
    Placement m ref parsed next := by
  rw [BlockMapper.rejectTx] at rejected
  by_cases unstored : isStatusStoredInDB status = false
  · rw [if_pos unstored] at rejected
    rw [(rejectNonDBStatusTx_eq rejected).2]
    rcases isStatus with isParsed | ⟨_, stored⟩
    · subst isParsed
      exact .final _ (by simp [firstStatus, statusAtOnce, unstored]) unstored
    · rw [stored] at unstored
      cases unstored
  rw [if_neg unstored] at rejected
  have stored : isStatusStoredInDB status = true := by simpa using unstored
  have noStatus : statusAtOnce parsed = none := by
    rcases isStatus with isParsed | ⟨noStatus, _⟩
    · rw [isParsed, statusAtOnce, if_pos stored]
    · exact noStatus
  split at rejected
  · cases rejected
  · rename_i added
    cases rejected
    obtain ⟨inFlight, same⟩ := addTxIDMapping_true added
    rw [same]
    exact placement_duplicate noStatus inFlight
  · rename_i added
    cases rejected
    obtain ⟨fresh, same⟩ := addTxIDMapping_false added
    rw [same]
    exact .rejected status (firstStatus_fresh noStatus fresh) stored

theorem placement_of_applyParsedTX (isNext : m.applyParsedTX ref parsed = .ok next) :
    Placement m ref parsed next := by
  revert isNext
  fun_cases BlockMapper.applyParsedTX m ref parsed with
  | case1 | case5 =>
    intro isNext
    cases isNext
  | case2 status => exact placement_rejectTx (Or.inl rfl)
  | case3 tx =>
    fun_cases BlockMapper.appendConfigTx m ref tx with
    | case1 | case2 =>
      intro isNext
      cases isNext
    | case3 txWithRef after isPrepared =>
      intro isNext
      cases isNext
      obtain ⟨rfl, fresh, rfl⟩ := prepareTx_some isPrepared
      exact .config tx (firstStatus_fresh rfl fresh) rfl
  | case4 tx =>
    fun_cases BlockMapper.appendTx m ref tx with
    | case1 =>
      intro isNext
      cases isNext
    | case2 after isPrepared =>
      intro isNext
      cases isNext
      obtain ⟨inFlight, rfl⟩ := prepareTx_none isPrepared
      exact placement_duplicate rfl inFlight
    | case3 txWithRef after isPrepared =>
      intro isNext
      cases isNext
      obtain ⟨rfl, fresh, rfl⟩ := prepareTx_some isPrepared
      exact .accepted tx (firstStatus_fresh rfl fresh) rfl
  | case6 tx noSnapshot after isPrepared =>
    intro isNext
    cases isNext
    obtain ⟨inFlight, rfl⟩ := prepareTx_none isPrepared
    exact placement_duplicate rfl inFlight
  | case7 tx noSnapshot txWithRef after isPrepared =>
    intro isNext
    cases isNext
    obtain ⟨rfl, fresh, rfl⟩ := prepareTx_some isPrepared
    exact .snapshot tx (firstStatus_fresh rfl fresh) rfl noSnapshot
  | case8 => exact placement_rejectTx (Or.inr ⟨rfl, rfl⟩)

/-- A mapper after one message, given the status that the message gets. -/
structure Applied (m : BlockMapper) (ref : TxRef) (status : Status) (next : BlockMapper) :
    Prop where
  statuses : next.withStatus.txStatus = m.withStatus.txStatus.set ref.txNum.toNat status
  pendingCount :
    next.withStatus.pendingCount =
      m.withStatus.pendingCount - if status = .unspecified then 0 else 1
  ids :
    next.txIDDedup.ids =
      if status = .unspecified then
        ref.txId :: m.txIDDedup.ids
      else
        m.txIDDedup.ids
  pending : next.pending.Perm (if status = .unspecified then ref :: m.pending else m.pending)
  refs : next.withStatus.txs.map BlockTx.ref = m.withStatus.txs.map BlockTx.ref
  block : next.withStatus.block = m.withStatus.block
  blockNumber : next.blockNumber = m.blockNumber

theorem applied_finishTx (unstored : isStatusStoredInDB status = false) :
    Applied m ref status (finishTx m ref status) := by
  have specified : status ≠ .unspecified := by
    rintro rfl
    cases unstored
  exact
    { statuses := rfl
      pendingCount := by
        rw [if_neg specified]
        rfl
      ids := by
        rw [if_neg specified]
        rfl
      pending := by
        rw [if_neg specified]
        exact List.Perm.refl _
      refs := rfl
      block := rfl
      blockNumber := rfl }

theorem applied_pending (unset : m.withStatus.txStatus[ref.txNum.toNat]? = some .unspecified)
    (statuses : next.withStatus.txStatus = m.withStatus.txStatus)
    (pendingCount : next.withStatus.pendingCount = m.withStatus.pendingCount)
    (ids : next.txIDDedup.ids = ref.txId :: m.txIDDedup.ids)
    (pending : next.pending.Perm (ref :: m.pending))
    (refs : next.withStatus.txs.map BlockTx.ref = m.withStatus.txs.map BlockTx.ref)
    (block : next.withStatus.block = m.withStatus.block)
    (blockNumber : next.blockNumber = m.blockNumber) :
    Applied m ref .unspecified next where
  statuses := by
    rw [statuses]
    apply ext_getElem?
    intro index
    rw [getElem?_set]
    split
    · rename_i same
      obtain ⟨within, isStatus⟩ := List.getElem?_eq_some_iff.mp unset
      rw [← same, if_pos within, unset]
    · rfl
  pendingCount := by
    rw [if_pos rfl, pendingCount, Int.sub_zero]
  ids := by rw [if_pos rfl, ids]
  pending := by
    exact pending
  refs := refs
  block := block
  blockNumber := blockNumber

theorem map_ref_modify (txs : List BlockTx) (index : Nat) (tx : Tx) :
    (txs.modify index fun entry => { entry with content := some tx }).map BlockTx.ref =
      txs.map BlockTx.ref := by
  induction txs generalizing index with
  | nil => cases index <;> rfl
  | cons first rest ih =>
    cases index with
    | zero => rfl
    | succ index => simp only [modify_succ_cons, map_cons, ih]

theorem Placement.applied (placement : Placement m ref parsed next)
    (unset : m.withStatus.txStatus[ref.txNum.toNat]? = some .unspecified) :
    Applied m ref (firstStatus m.txIDDedup.ids ref parsed) next := by
  cases placement with
  | final status isFirst unstored =>
    rw [isFirst]
    exact applied_finishTx unstored
  | accepted tx isFirst isParsed =>
    rw [isFirst]
    refine applied_pending unset rfl rfl rfl ?_ (map_ref_modify _ _ _) rfl rfl
    simp only [MappedBlock.pending, map_append, map_cons, map_nil, append_assoc, singleton_append]
    exact perm_middle
  | config tx isFirst isParsed =>
    rw [isFirst]
    refine applied_pending unset rfl rfl rfl ?_ (map_ref_modify _ _ _) rfl rfl
    simp only [MappedBlock.pending, map_append, map_cons, map_nil, append_assoc, singleton_append]
    exact perm_middle
  | snapshot tx isFirst isParsed isOnly =>
    rw [isFirst]
    refine applied_pending unset rfl rfl rfl ?_ (map_ref_modify _ _ _) rfl rfl
    simp only [MappedBlock.pending, isOnly, toList_some, toList_none, map_cons, map_nil, append_nil]
    exact perm_append_singleton _ _
  | rejected status isFirst stored =>
    rw [isFirst]
    refine applied_pending unset rfl rfl rfl ?_ rfl rfl rfl
    simp only [MappedBlock.pending, map_append, map_cons, map_nil, append_assoc, singleton_append]
    rw [← append_assoc, ← append_assoc]
    exact perm_middle

end

def Numbered (blockNumber : UInt64) (start : Nat) : List (TxRef × ParsedTX) → Prop
  | [] => True
  | (ref, _) :: rest =>
    (ref.blockNum = blockNumber ∧ ref.txNum.toNat = start) ∧ Numbered blockNumber (start + 1) rest

variable {blockNumber : UInt64}

theorem numbered_parseFrom {wire : Wire} {platform : Platform} {messages : List Bytes} :
    ∀ {start : Nat}, start + messages.length < 2 ^ 32 →
      Numbered blockNumber start (parseFrom wire platform blockNumber start messages) := by
  induction messages with
  | nil =>
    intro start _
    trivial
  | cons msg rest ih =>
    intro start bounded
    rw [length_cons] at bounded
    refine ⟨⟨rfl, ?_⟩, ih (by omega)⟩
    apply UInt32.toNat_ofNat_of_lt'
    change start < 2 ^ 32
    omega

theorem numbered_parseMessages (wire : Wire) (platform : Platform) (block : Block) :
    Numbered block.number 0 (parseMessages wire platform block) := by
  apply numbered_parseFrom
  cases isData : block.data with
  | none => decide
  | some messages =>
    have bounded := block.bounded messages isData
    rw [getD_some]
    omega

theorem length_settle (ids : List Bytes) (messages : List (TxRef × ParsedTX)) :
    (settle ids messages).length = messages.length := by
  induction messages generalizing ids with
  | nil => rfl
  | cons message rest ih =>
    rw [settle, length_cons, length_cons, ih]

theorem map_fst_settle (ids : List Bytes) (messages : List (TxRef × ParsedTX)) :
    (settle ids messages).map Prod.fst = messages.map Prod.fst := by
  induction messages generalizing ids with
  | nil => rfl
  | cons message rest ih =>
    rw [settle, map_cons, map_cons, ih]

theorem number_of_getElem? {messages : List (TxRef × ParsedTX)} :
    ∀ {start index : Nat} {message : TxRef × ParsedTX},
      Numbered blockNumber start messages →
        messages[index]? = some message →
          message.1.blockNum = blockNumber ∧ message.1.txNum.toNat = start + index := by
  induction messages with
  | nil =>
    intro start index message _ found
    cases found
  | cons first rest ih =>
    intro start index message numbered found
    cases index with
    | zero =>
      cases found
      exact numbered.1
    | succ index =>
      have result := ih numbered.2 found
      refine ⟨result.1, ?_⟩
      omega

/-- A mapper after messages, given what they settle. -/
structure AppliedAll
    (m : BlockMapper) (settled : List (TxRef × Status)) (final : BlockMapper) : Prop where
  pendingCount :
    final.withStatus.pendingCount =
      m.withStatus.pendingCount - settled.length + (pendingOf settled).length
  pending : final.pending.Perm (pendingOf settled ++ m.pending)
  refs : final.withStatus.txs.map BlockTx.ref = m.withStatus.txs.map BlockTx.ref
  block : final.withStatus.block = m.withStatus.block
  blockNumber : final.blockNumber = m.blockNumber

theorem pendingOf_cons (ref : TxRef) (status : Status) (settled : List (TxRef × Status)) :
    pendingOf ((ref, status) :: settled) =
      if status = .unspecified then
        ref :: pendingOf settled
      else
        pendingOf settled := by
  by_cases unspecified : status = .unspecified
  · simp [pendingOf, unspecified]
  · simp [pendingOf, unspecified]

theorem Applied.followed {m next final : BlockMapper} {ref : TxRef}
    {settled : List (TxRef × Status)} (first : Applied m ref status next)
    (rest : AppliedAll next settled final) :
    AppliedAll m ((ref, status) :: settled) final where
  pendingCount := by
    rw [rest.pendingCount, first.pendingCount, pendingOf_cons]
    split
    · simp only [length_cons]
      omega
    · simp only [length_cons]
      omega
  pending := by
    rw [pendingOf_cons]
    refine rest.pending.trans ?_
    refine (first.pending.append_left (pendingOf settled)).trans ?_
    split
    · exact perm_middle
    · exact List.Perm.refl _
  refs := rest.refs.trans first.refs
  block := rest.block.trans first.block
  blockNumber := rest.blockNumber.trans first.blockNumber

theorem applyParsed_cons
    {m final : BlockMapper} {ref : TxRef} {parsed : ParsedTX} {rest : List (TxRef × ParsedTX)}
    (isFinal : m.applyParsed ((ref, parsed) :: rest) = .ok final) :
    ∃ next, Placement m ref parsed next ∧ next.applyParsed rest = .ok final := by
  rw [BlockMapper.applyParsed] at isFinal
  split at isFinal
  · cases isFinal
  · rename_i next isNext
    exact ⟨next, placement_of_applyParsedTX isNext, isFinal⟩

theorem applyParsed_spec {messages : List (TxRef × ParsedTX)} :
    ∀ {m final : BlockMapper} (earlier : List Status),
      m.applyParsed messages = .ok final →
        Numbered blockNumber earlier.length messages →
          m.withStatus.txStatus = earlier ++ List.replicate messages.length statusNotYetValidated →
            AppliedAll m (settle m.txIDDedup.ids messages) final ∧
              final.withStatus.txStatus =
                earlier ++ (settle m.txIDDedup.ids messages).map Prod.snd := by
  induction messages with
  | nil =>
    intro m final earlier isFinal _ statuses
    cases isFinal
    refine ⟨⟨?_, List.Perm.refl _, rfl, rfl, rfl⟩, statuses⟩
    simp [settle, pendingOf]
  | cons message rest ih =>
    intro m final earlier isFinal numbered statuses
    obtain ⟨ref, parsed⟩ := message
    obtain ⟨⟨_, number⟩, numberedRest⟩ := numbered
    obtain ⟨next, placement, isFinal⟩ := applyParsed_cons isFinal
    have unset : m.withStatus.txStatus[ref.txNum.toNat]? = some .unspecified := by
      rw [statuses, number, getElem?_append_right (Nat.le_refl _), Nat.sub_self]
      rfl
    have applied := placement.applied unset
    have statusesNext :
        next.withStatus.txStatus =
          (earlier ++ [firstStatus m.txIDDedup.ids ref parsed]) ++
            List.replicate rest.length statusNotYetValidated := by
      rw [applied.statuses, statuses, number, set_append_right _ _
        (Nat.le_refl _), Nat.sub_self, append_assoc]
      rfl
    have sameIds : next.txIDDedup.ids = idsAfter m.txIDDedup.ids ref parsed := applied.ids
    obtain ⟨appliedRest, finalStatuses⟩ :=
      ih _ isFinal
        (by
          rw [length_append, length_singleton]
          exact numberedRest)
        statusesNext
    rw [sameIds] at appliedRest finalStatuses
    refine ⟨applied.followed appliedRest, ?_⟩
    rw [finalStatuses, append_assoc]
    rfl

/-- The statuses and the submitted transactions of a mapped block are those of
the list of its transactions. -/
structure WellMapped (settled : List (TxRef × Status)) (mapped : MappedBlock) : Prop where
  statuses : mapped.withStatus.txStatus = settled.map Prod.snd
  refs : mapped.withStatus.txs.map BlockTx.ref = settled.map Prod.fst
  numbered :
    ∀ (index : Nat) (entry : TxRef × Status), settled[index]? = some entry →
      entry.1.blockNum = mapped.blockNumber ∧ entry.1.txNum.toNat = index
  pendingCount : mapped.withStatus.pendingCount = (pendingOf settled).length
  pending : mapped.pending.Perm (pendingOf settled)
  number : mapped.withStatus.block.number = mapped.blockNumber

theorem mem_pendingOf {settled : List (TxRef × Status)} {ref : TxRef} :
    ref ∈ pendingOf settled ↔ (ref, .unspecified) ∈ settled := by
  simp [pendingOf]

section

variable {settled : List (TxRef × Status)} {mapped : MappedBlock}
  (wellMapped : WellMapped settled mapped)

include wellMapped

theorem WellMapped.positions :
    settled.map (fun entry => entry.1.txNum.toNat) = List.range settled.length := by
  apply ext_getElem?
  intro index
  rw [getElem?_map]
  by_cases below : index < settled.length
  · have found := getElem?_eq_getElem below
    rw [getElem?_range below, found, map_some, (wellMapped.numbered index _ found).2]
  · rw [getElem?_eq_none (by omega), getElem?_eq_none (by simp; omega)]
    rfl

theorem WellMapped.position_of_mem {entry : TxRef × Status} (mem : entry ∈ settled) :
    settled[entry.1.txNum.toNat]? = some entry ∧ entry.1.blockNum = mapped.blockNumber := by
  obtain ⟨index, found⟩ := getElem?_of_mem mem
  obtain ⟨sameBlock, number⟩ := wellMapped.numbered index entry found
  rw [number]
  exact ⟨found, sameBlock⟩

theorem WellMapped.pending_positions : (mapped.pending.map fun ref => ref.txNum.toNat).Nodup := by
  have distinct : (settled.map fun entry => entry.1.txNum.toNat).Nodup := by
    rw [wellMapped.positions]
    exact nodup_range
  rw [(wellMapped.pending.map _).nodup_iff, pendingOf, List.map_map]
  exact (filter_sublist.map _).nodup distinct

section

variable {ref : TxRef} (mem : ref ∈ mapped.pending)

include mem

theorem WellMapped.entry_of_pending :
    settled[ref.txNum.toNat]? = some (ref, .unspecified) ∧ ref.blockNum = mapped.blockNumber :=
  wellMapped.position_of_mem (mem_pendingOf.mp (wellMapped.pending.mem_iff.mp mem))

theorem WellMapped.unset_of_pending :
    mapped.withStatus.txStatus[ref.txNum.toNat]? = some .unspecified := by
  rw [wellMapped.statuses, getElem?_map, (wellMapped.entry_of_pending mem).1]
  rfl

theorem WellMapped.holds_of_pending : mapped.withStatus.holds ref = true := by
  have found : (mapped.withStatus.txs.map BlockTx.ref)[ref.txNum.toNat]? = some ref := by
    rw [wellMapped.refs, getElem?_map, (wellMapped.entry_of_pending mem).1]
    rfl
  rw [getElem?_map] at found
  obtain ⟨tx, isTx, same⟩ := map_eq_some_iff.mp found
  rw [BlockWithStatus.holds, isTx]
  simp [same]

end

end

section

variable {wire : Wire} {platform : Platform} {block : Block}
  {dedup after : TxIDDedup} {mapped : MappedBlock}

section

variable (isMapped : mapBlock wire platform block dedup = .ok (mapped, after))

include isMapped

theorem mapper_of_mapBlock :
    ∃ m : BlockMapper, m.toMappedBlock = mapped ∧ after.ids = m.txIDDedup.ids ∧
      (newBlockMapper wire platform block dedup).applyParsed
        (parseMessages wire platform block) = .ok m := by
  simp only [mapBlock] at isMapped
  split at isMapped
  · rename_i noData
    cases isMapped
    refine ⟨_, rfl, rfl, ?_⟩
    rw [parseMessages, noData]
    rfl
  · split at isMapped
    · cases isMapped
    · rename_i m isFinal
      cases isMapped
      exact ⟨m, rfl, rfl, isFinal⟩

theorem appliedAll_of_mapBlock :
    ∃ m, m.toMappedBlock = mapped ∧
      AppliedAll (newBlockMapper wire platform block dedup)
        (settle dedup.ids (parseMessages wire platform block)) m ∧
      m.withStatus.txStatus =
        (settle dedup.ids (parseMessages wire platform block)).map Prod.snd := by
  obtain ⟨m, same, _, isFinal⟩ := mapper_of_mapBlock isMapped
  exact ⟨m, same, applyParsed_spec [] isFinal (numbered_parseMessages wire platform block) rfl⟩

theorem wellMapped_of_mapBlock :
    WellMapped (settle dedup.ids (parseMessages wire platform block)) mapped := by
  obtain ⟨m, same, applied, statuses⟩ := appliedAll_of_mapBlock isMapped
  subst same
  exact
    { statuses := statuses
      refs := by
        rw [applied.refs, map_fst_settle]
        simp [newBlockMapper]
      numbered := by
        intro index entry found
        have isRef : ((parseMessages wire platform block).map Prod.fst)[index]? = some entry.1 := by
          rw [← map_fst_settle dedup.ids, getElem?_map, found]
          rfl
        rw [getElem?_map] at isRef
        obtain ⟨message, isMessage, sameRef⟩ := map_eq_some_iff.mp isRef
        obtain ⟨sameBlock, number⟩ :=
          number_of_getElem? (numbered_parseMessages wire platform block) isMessage
        rw [← sameRef, applied.blockNumber]
        refine ⟨sameBlock, ?_⟩
        omega
      pendingCount := by
        rw [applied.pendingCount, length_settle]
        simp [newBlockMapper]
      pending := by
        simpa [newBlockMapper, MappedBlock.pending] using applied.pending
      number := by
        rw [applied.block, applied.blockNumber]
        rfl }

theorem blockNumber_of_mapBlock : mapped.blockNumber = block.number := by
  obtain ⟨m, same, applied, _⟩ := appliedAll_of_mapBlock isMapped
  rw [← same, applied.blockNumber]
  rfl

theorem block_of_mapBlock : mapped.withStatus.block = prepareMetadata block := by
  obtain ⟨m, same, applied, _⟩ := appliedAll_of_mapBlock isMapped
  rw [← same, applied.block]
  rfl

end

end

end FabricXCommitter.Sidecar
