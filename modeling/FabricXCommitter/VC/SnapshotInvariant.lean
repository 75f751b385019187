import FabricXCommitter.VC.BatchEquivalence
import FabricXCommitter.VC.SnapshotCommit

/-!
# The invariant of snapshot commits

It holds provided that no copy merged into the batch of a request still has a new write.
-/

namespace FabricXCommitter.VC

open Library Sidecar List Option Function

variable {db after : Database} {tx : VcTx} {dead : Invalidated}

/-! ## Copies in the way -/

/-- The rows that a transaction inserts because it expects them to be absent. -/
def insertsOf (codec : SnapshotCodec) (tx : VcTx) : List WriteEntry :=
  (preparedNamespaces (expandTx codec tx)).flatMap newEntries

def blindWritesOf (codec : SnapshotCodec) (tx : VcTx) : List WriteEntry :=
  (preparedNamespaces (expandTx codec tx)).flatMap blindEntries

/-- The transaction has no new write when the gate looks for them. -/
def PassesGate (codec : SnapshotCodec) (db : Database) (batch : List VcTx) (tx : VcTx) : Prop :=
  Refuted codec db batch tx ∨ insertsOf codec tx = []

def PassesCreation (codec : SnapshotCodec) (db : Database) (batch : List VcTx) (tx : VcTx) : Prop :=
  Refuted codec db batch tx ∨
    insertsOf codec tx = [] ∧
      ∀ entry ∈ blindWritesOf codec tx, (db.row entry.nsId entry.key).isSome = true

/-- The transactions of a batch besides the request are out of the way: none
has a new write at the gate and, if the gate lets the request pass, none has
one when the snapshot database is created. -/
def OutOfTheWay
    (codec : SnapshotCodec) (db : Database) (batch : List VcTx) (request : VcTx) : Prop :=
  ∀ tx ∈ batch, tx ≠ request →
    PassesGate codec db batch tx ∧ (PriorClosed codec db → PassesCreation codec db batch tx)

theorem RequestAmongCopies.others_iff
    {batch : List VcTx} {request : VcTx} (copies : RequestAmongCopies db batch request)
    {writes : TransactionToWrites} {passes : VcTx → Prop}
    (each : ∀ tx ∈ batch, writes tx.ref.txId = [] ↔ passes tx) :
    (∀ other ∈ batch.map fun tx => tx.ref.txId, other ≠ request.ref.txId → writes other = []) ↔
      ∀ tx ∈ batch, tx ≠ request → passes tx := by
  constructor
  · intro all tx mem other
    rw [← each tx mem]
    apply all _ (List.mem_map_of_mem (f := fun tx : VcTx => tx.ref.txId) mem)
    intro sameId
    exact other (inj_on_of_nodup_map copies.distinct mem copies.member sameId)
  · intro all id inside other
    obtain ⟨tx, mem, sameId⟩ := List.mem_map.mp inside
    subst sameId
    rw [each tx mem]
    apply all tx mem
    intro same
    exact other (by rw [same])

/-! ## From the validator to the commit loop -/

section

variable {codec : SnapshotCodec} {platform : Platform} {db : Database}
  {batch : List VcTx} {request : VcTx} {p : PreparedTransactions}

section

variable (preparedAs : PreparedAs codec batch p)

include preparedAs

theorem masked_writes (dead : Invalidated) (mem : tx ∈ batch) (alive : dead tx.ref.txId = none) :
    (masked (.ofPrepared p) dead).newWrites tx.ref.txId = insertsOf codec tx ∧
      (masked (.ofPrepared p) dead).validTxBlindWrites tx.ref.txId = blindWritesOf codec tx := by
  simp only [masked, TransactionToWrites.without, alive, isSome_none,
    Bool.false_eq_true, if_false, ValidatedTransactions.ofPrepared]
  rw [preparedAs.news, preparedAs.blinds, preparedAs.entries_of_mem _ mem,
    preparedAs.entries_of_mem _ mem]
  exact ⟨rfl, rfl⟩

omit preparedAs in
theorem masked_writes_dead {id : Bytes} (invalidated : (dead id).isSome = true) :
    (masked (.ofPrepared p) dead).newWrites id = [] ∧
      (masked (.ofPrepared p) dead).validTxBlindWrites id = [] ∧
        (masked (.ofPrepared p) dead).validTxNonBlindWrites id = [] := by
  simp [masked, TransactionToWrites.without, invalidated]

theorem passesGate_iff (mem : tx ∈ batch)
    (refuted : (dead tx.ref.txId).isSome = true ↔ Refuted codec db batch tx) :
    (masked (.ofPrepared p) dead).newWrites tx.ref.txId = [] ↔ PassesGate codec db batch tx := by
  rw [PassesGate, ← refuted]
  cases invalidated : dead tx.ref.txId with
  | some status => simp [masked, TransactionToWrites.without, invalidated]
  | none =>
    rw [(masked_writes preparedAs dead mem invalidated).1]
    simp

theorem passesCreation_iff {state : Bytes → Bytes → Option UInt64} (mem : tx ∈ batch)
    (refuted : (dead tx.ref.txId).isSome = true ↔ Refuted codec db batch tx)
    (queried :
      ∀ entry ∈ (masked (.ofPrepared p) dead).validTxBlindWrites tx.ref.txId,
        state entry.nsId entry.key = queriedVersion db entry.nsId entry.key) :
    (categorizeBlindWrites state (masked (.ofPrepared p) dead)).newWrites tx.ref.txId = [] ↔
      PassesCreation codec db batch tx := by
  rw [PassesCreation, ← refuted]
  cases invalidated : dead tx.ref.txId with
  | some status =>
    have isDead : (dead tx.ref.txId).isSome = true := by
      rw [invalidated]
      rfl
    obtain ⟨noNews, noBlinds, _⟩ := masked_writes_dead (p := p) isDead
    simp [categorizeBlindWrites, noNews, noBlinds]
  | none =>
    obtain ⟨news, blinds⟩ := masked_writes preparedAs dead mem invalidated
    rw [blinds] at queried
    simp only [categorizeBlindWrites, news, blinds, append_eq_nil_iff,
      filterMap_eq_nil_iff, isSome_none, Bool.false_eq_true,
      false_or]
    apply and_congr_right
    intro _
    constructor
    · intro resolved entry isBlind
      have noInsert := resolved entry isBlind
      rw [queried entry isBlind, queriedVersion] at noInsert
      cases present : db.row entry.nsId entry.key with
      | none =>
        rw [present] at noInsert
        cases noInsert
      | some row => rfl
    · intro present entry isBlind
      rw [queried entry isBlind, queriedVersion, isSome_map, present entry isBlind]
      rfl

end

variable (submitted : ∀ tx ∈ batch, Submitted platform tx)
  (isRequest : IsRequest request)
  (copies : RequestAmongCopies db batch request)
  (preparedAs : PreparedAs codec batch p)

include submitted isRequest copies preparedAs

omit preparedAs in
theorem alive_request
    (refuted : ∀ tx ∈ batch, ((dead tx.ref.txId).isSome = true ↔ Refuted codec db batch tx)) :
    dead request.ref.txId = none := by
  rw [← not_isSome_iff_eq_none, refuted request copies.member]
  exact not_refuted_request submitted isRequest copies.member

theorem rejectCheckpoint_copies {attempts : Nat} :
    rejectCheckpointIfNotVerified codec attempts db (masked (.ofPrepared p) dead) =
      some (masked (.ofPrepared p) dead, db) := by
  rw [rejectCheckpointIfNotVerified]
  split
  · rfl
  · rename_i cp isCheckpoint
    have source : p.checkpoint = some cp := (filter_eq_some_iff.mp isCheckpoint).1
    exact if_pos (recorded_checkpoint submitted isRequest copies preparedAs source).2

theorem gate_of_masked {v : ValidatedTransactions} (named : request.ref.txId ≠ [])
    (refuted : ∀ tx ∈ batch, ((dead tx.ref.txId).isSome = true ↔ Refuted codec db batch tx))
    (gated : rejectSnapshotIfPriorNotCheckpointed codec db (masked (.ofPrepared p) dead) = some v) :
    ((∀ tx ∈ batch, tx ≠ request → PassesGate codec db batch tx) ∧
        (PriorClosed codec db ∧ v = masked (.ofPrepared p) dead ∨
          ¬ PriorClosed codec db ∧
            ∃ status, status ≠ .committed ∧
              status ≠ .rejectedDuplicateTxId ∧
                v = masked (.ofPrepared p) (kill [request.ref.txId] status dead))) ∨
      (¬ (∀ tx ∈ batch, tx ≠ request → PassesGate codec db batch tx) ∧
        v = masked (.ofPrepared p) dead) := by
  have alive := alive_request submitted isRequest copies refuted
  have isEntry :
      (masked (.ofPrepared p) dead).newWrites request.ref.txId =
        [requestEntry codec request.ref] := by
    rw [(masked_writes preparedAs dead copies.member alive).1]
    exact ((submitted request copies.member).requestEntries isRequest codec).1
  have idsDistinct : p.txIDs.Nodup := by
    rw [preparedAs.ids]
    exact copies.distinct
  have isId : request.ref.txId ∈ p.txIDs := by
    rw [preparedAs.ids]
    exact List.mem_map_of_mem (f := fun tx : VcTx => tx.ref.txId) copies.member
  have sameCondition :
      (∀ other ∈ p.txIDs, other ≠ request.ref.txId →
          (masked (.ofPrepared p) dead).newWrites other = []) ↔
        ∀ tx ∈ batch, tx ≠ request → PassesGate codec db batch tx := by
    rw [preparedAs.ids]
    exact copies.others_iff fun tx mem => passesGate_iff preparedAs mem (refuted tx mem)
  rw [rejectSnapshotIfPriorNotCheckpointed] at gated
  have sameIds : (masked (.ofPrepared p) dead).txIDs = p.txIDs := rfl
  rw [sameIds] at gated
  rcases loneSnapshotRequest_eq idsDistinct isId isEntry with ⟨alone, found⟩ | ⟨crowded, missing⟩
  · left
    refine ⟨sameCondition.mp alone, ?_⟩
    rw [found] at gated
    simp only [if_neg named, copies.unrecorded, isSome_none, Bool.false_eq_true, if_false] at gated
    obtain ⟨status, determined, same⟩ := map_eq_some_iff.mp gated
    split at same
    · rename_i accepts
      left
      rw [accepts] at determined
      exact ⟨priorClosed_iff.mpr determined, same.symm⟩
    · rename_i rejects
      right
      obtain ⟨notCommitted, notDuplicate⟩ := determineSnapshotStatus_rejection determined rejects
      refine ⟨?_, status, notCommitted, notDuplicate, ?_⟩
      · intro closed
        rw [priorClosed_iff, determined] at closed
        exact rejects (Option.some.inj closed)
      · rw [← same, updateInvalidTxs_masked]
  · right
    rw [missing] at gated
    exact ⟨fun all => crowded (sameCondition.mpr all), (Option.some.inj gated).symm⟩

theorem validated_cases (named : request.ref.txId ≠ []) {attempts : Nat} {v : ValidatedTransactions}
    (validated : validate codec attempts db p = some (v, after)) :
    ∃ dead,
      Accounted batch v ∧ after = db ∧
        (∀ tx ∈ batch, ((dead tx.ref.txId).isSome = true ↔ Refuted codec db batch tx)) ∧
        (((∀ tx ∈ batch, tx ≠ request → PassesGate codec db batch tx) ∧
            (PriorClosed codec db ∧ v = masked (.ofPrepared p) dead ∨
              ¬ PriorClosed codec db ∧
                ∃ status, status ≠ .committed ∧
                  status ≠ .rejectedDuplicateTxId ∧
                    v = masked (.ofPrepared p) (kill [request.ref.txId] status dead))) ∨
          (¬ (∀ tx ∈ batch, tx ≠ request → PassesGate codec db batch tx) ∧
            v = masked (.ofPrepared p) dead)) := by
  rw [validate] at validated
  split at validated
  · cases validated
  rename_i conflicts compared
  split at validated
  · cases validated
  rename_i afterReads invalidated
  split at validated
  · cases validated
  rename_i afterGate gated
  obtain ⟨readsAccounted, sameFeedback⟩ :=
    accounted_comparedReads (accounted_ofPrepared submitted preparedAs) invalidated
  obtain ⟨gateAccounted, _⟩ := accounted_rejectSnapshot readsAccounted sameFeedback gated
  obtain ⟨dead, isMasked, refuted⟩ := masked_of_validated preparedAs compared invalidated
  subst isMasked
  have decided := gate_of_masked submitted isRequest copies preparedAs named refuted gated
  have isGated : ∃ given, afterGate = masked (.ofPrepared p) given := by
    rcases decided with ⟨_, ⟨_, same⟩ | ⟨_, status, _, _, same⟩⟩ | ⟨_, same⟩
    · exact ⟨_, same⟩
    · exact ⟨_, same⟩
    · exact ⟨_, same⟩
  obtain ⟨given, same⟩ := isGated
  rw [same, rejectCheckpoint_copies submitted isRequest copies preparedAs] at validated
  rw [← same] at validated
  cases validated
  exact ⟨dead, gateAccounted, rfl, refuted, decided⟩

omit submitted isRequest copies in
theorem cleared_masked
    (dead : Invalidated) (state : Bytes → Bytes → Option UInt64) (mem : tx ∈ batch)
    (invalid : (masked (.ofPrepared p) dead).invalidTxStatus tx.ref.txId ≠ none) :
    (categorizeBlindWrites state (masked (.ofPrepared p) dead)).validTxNonBlindWrites tx.ref.txId =
        [] ∧
      (categorizeBlindWrites state (masked (.ofPrepared p) dead)).newWrites tx.ref.txId = [] := by
  have nothing :
      (masked (.ofPrepared p) dead).newWrites tx.ref.txId = [] ∧
        (masked (.ofPrepared p) dead).validTxBlindWrites tx.ref.txId = [] ∧
          (masked (.ofPrepared p) dead).validTxNonBlindWrites tx.ref.txId = [] := by
    cases invalidated : dead tx.ref.txId with
    | some status =>
      apply masked_writes_dead
      rw [invalidated]
      rfl
    | none =>
      have rejected : tx.prelimInvalidTxStatus.isNone = false := by
        rw [← preparedAs.prelim tx mem, isNone_eq_false_iff, isSome_iff_ne_none]
        simpa [masked, invalidated, ValidatedTransactions.ofPrepared] using invalid
      have noNamespaces : preparedNamespaces (expandTx codec tx) = [] :=
        preparedNamespaces_of_invalid rejected
      simp [masked, TransactionToWrites.without, invalidated,
        ValidatedTransactions.ofPrepared, preparedAs.news, preparedAs.blinds,
        preparedAs.updates, preparedAs.entries_of_mem _ mem, noNamespaces]
  simp [categorizeBlindWrites, nothing]

theorem pending_masked (accounted : Accounted batch (masked (.ofPrepared p) dead))
    (state : Bytes → Bytes → Option UInt64) :
    (dead request.ref.txId = none →
        Pending batch request .committed [requestEntry codec request.ref]
          (categorizeBlindWrites state (masked (.ofPrepared p) dead))) ∧
      ∀ status, dead request.ref.txId = some status →
        Pending batch request status []
          (categorizeBlindWrites state (masked (.ofPrepared p) dead)) := by
  obtain ⟨news, updates, blinds⟩ := prepared_request submitted isRequest copies preparedAs
  have valid : (ValidatedTransactions.ofPrepared p).invalidTxStatus request.ref.txId = none :=
    (preparedAs.prelim request copies.member).trans isRequest.1
  have checkpointApart :
      ∀ cp, (masked (.ofPrepared p) dead).checkpoint = some cp → cp.txID ≠ request.ref.txId := by
    intro cp isCheckpoint
    have source : p.checkpoint = some cp := (filter_eq_some_iff.mp isCheckpoint).1
    exact (recorded_checkpoint submitted isRequest copies preparedAs source).1
  constructor
  · intro alive
    have isNews :
        (categorizeBlindWrites state (masked (.ofPrepared p) dead)).newWrites request.ref.txId =
          [requestEntry codec request.ref] := by
      simp [categorizeBlindWrites, masked, TransactionToWrites.without, alive,
        ValidatedTransactions.ofPrepared, news, blinds]
    exact
      { accounted := accounted_categorizeBlindWrites accounted state
        noFeedback := rfl
        resolved := fun _ => rfl
        cleared := fun tx mem => cleared_masked preparedAs dead state mem
        noUpdates := by
          simp [categorizeBlindWrites, masked, TransactionToWrites.without,
            alive, ValidatedTransactions.ofPrepared, updates, blinds]
        isNews := isNews
        isStatus := by
          have stillValid :
              (categorizeBlindWrites state (masked (.ofPrepared p) dead)).invalidTxStatus
                  request.ref.txId = none := by
            simpa [categorizeBlindWrites, masked, alive] using valid
          rw [reportedStatus, stillValid, isNews]
          simp
        noCheckpoint := checkpointApart }
  · intro status invalidated
    have isDead : (dead request.ref.txId).isSome = true := by
      rw [invalidated]
      rfl
    obtain ⟨noNews, noBlinds, noUpdates⟩ := masked_writes_dead (p := p) isDead
    exact
      { accounted := accounted_categorizeBlindWrites accounted state
        noFeedback := rfl
        resolved := fun _ => rfl
        cleared := fun tx mem => cleared_masked preparedAs dead state mem
        noUpdates := by
          simp [categorizeBlindWrites, noUpdates, noBlinds]
        isNews := by
          simp [categorizeBlindWrites, noNews, noBlinds]
        isStatus := by
          simp [reportedStatus, categorizeBlindWrites, masked, invalidated]
        noCheckpoint := checkpointApart }

end

def pendingEntry (codec : SnapshotCodec) (ref : TxRef) : WriteEntry :=
  { requestEntry codec ref with
    value :=
      codec.encode
        { txRef := some ref
          status := .pending
          cloneDatabase := snapshotDatabaseName ref } }

def withSnapshotDatabase (db : Database) (ref : TxRef) : Database :=
  { db with
    snapshotDatabases := fun other =>
      other == snapshotDatabaseName ref || db.snapshotDatabases other }

theorem RequestAmongCopies.withSnapshotDatabase {batch : List VcTx} {request : VcTx}
    (copies : RequestAmongCopies db batch request) (ref : TxRef) :
    RequestAmongCopies (VC.withSnapshotDatabase db ref) batch request :=
  ⟨copies.distinct, copies.member, copies.recorded, copies.unrecorded, copies.noRecord⟩

section

variable {codec : SnapshotCodec} {db : Database} {batch : List VcTx}
  {request : VcTx} {v : ValidatedTransactions}

theorem createSnapshot_request (distinct : v.txIDs.Nodup) (isId : request.ref.txId ∈ v.txIDs)
    (unrecorded : db.txStatus request.ref.txId = none)
    (isEntry : v.newWrites request.ref.txId = [requestEntry codec request.ref]) :
    ((∀ other ∈ v.txIDs, other ≠ request.ref.txId → v.newWrites other = []) ∧
        createSnapshotIfPresent codec db v =
          some
            ({ v with
                newWrites := update v.newWrites request.ref.txId [pendingEntry codec request.ref] },
              withSnapshotDatabase db request.ref)) ∨
      (¬ (∀ other ∈ v.txIDs, other ≠ request.ref.txId → v.newWrites other = []) ∧
        createSnapshotIfPresent codec db v = some (v, db)) := by
  rcases loneSnapshotRequest_eq distinct isId isEntry with ⟨alone, found⟩ | ⟨crowded, missing⟩
  · left
    refine ⟨alone, ?_⟩
    rw [createSnapshotIfPresent, found]
    simp only [requestEntry, codec.decode_encode, unrecorded,
      isSome_none, Bool.false_eq_true, if_false]
    rw [isEntry]
    simp only [requestEntry, map_singleton, if_true]
    rfl
  · right
    refine ⟨crowded, ?_⟩
    rw [createSnapshotIfPresent, missing]

theorem pending_created
    (pending : Pending batch request .committed [requestEntry codec request.ref] v)
    (created :
      createSnapshotIfPresent codec db v =
        some
          ({ v with
              newWrites := update v.newWrites request.ref.txId [pendingEntry codec request.ref] },
            after)) :
    Pending batch request .committed [pendingEntry codec request.ref]
      { v with
        newWrites := update v.newWrites request.ref.txId [pendingEntry codec request.ref] } where
  accounted := accounted_createSnapshot pending.accounted created
  noFeedback := pending.noFeedback
  resolved := pending.resolved
  cleared := by
    intro tx mem invalid
    obtain ⟨noUpdates, noNews⟩ := pending.cleared tx mem invalid
    refine ⟨noUpdates, ?_⟩
    by_cases same : tx.ref.txId = request.ref.txId
    · rw [same, pending.isNews] at noNews
      cases noNews
    · simpa [same] using noNews
  noUpdates := pending.noUpdates
  isNews := update_self _ _ _
  isStatus := by
    rw [← pending.isStatus, reportedStatus, reportedStatus, pending.isNews]
    simp
  noCheckpoint := pending.noCheckpoint

theorem createSnapshot_rejected
    {status : Status} (pending : Pending batch request status [] v) {next : ValidatedTransactions}
    (created : createSnapshotIfPresent codec db v = some (next, after)) :
    Pending batch request status [] next ∧ after.row = db.row ∧ after.txStatus = db.txStatus := by
  have accounted := accounted_createSnapshot pending.accounted created
  obtain ⟨⟨names, rfl⟩, rfl | ⟨id, write, value, isLone, rfl⟩⟩ := createSnapshot_cases created
  · exact ⟨pending, rfl, rfl⟩
  have other : request.ref.txId ≠ id := by
    intro same
    rw [loneSnapshotRequest] at isLone
    split at isLone
    · obtain ⟨found, first, isFound⟩ := map_eq_some_iff.mp isLone
      cases isFound
      rw [← same, pending.isNews] at first
      cases first
    · cases isLone
  refine ⟨?_, rfl, rfl⟩
  exact
    { pending with
      accounted := accounted
      cleared := by
        intro tx mem invalid
        obtain ⟨noUpdates, noNews⟩ := pending.cleared tx mem invalid
        refine ⟨noUpdates, ?_⟩
        by_cases same : tx.ref.txId = id
        · rw [same] at noNews
          simp [same, noNews]
        · simpa [same] using noNews
      isNews := (update_of_ne other _ _).trans pending.isNews
      isStatus := by
        rw [← pending.isStatus, reportedStatus, reportedStatus]
        simp [update_of_ne other] }

end

def PendingRecord (codec : SnapshotCodec) (db : Database) (ref : TxRef) : Prop :=
  ∃ row state,
    db.row snapshotNamespaceID ref.txId = some row ∧
      codec.decode row.value = some state ∧ state.status = .pending ∧
        state.cloneDatabase = snapshotDatabaseName ref

structure SnapshotInvariant (codec : SnapshotCodec) (db : Database) (request : VcTx)
    (statuses : List TxStatus) (after : Database) : Prop where
  committed_iff :
    ⟨request.ref, .committed⟩ ∈ statuses ↔
      after.snapshotDatabases (snapshotDatabaseName request.ref) = true ∧
        PendingRecord codec after request.ref
  priorClosed : ⟨request.ref, .committed⟩ ∈ statuses → PriorClosed codec db

theorem not_pendingRecord {codec : SnapshotCodec} {ref : TxRef}
    (record :
      db.row snapshotNamespaceID ref.txId = none ∨
        db.row snapshotNamespaceID ref.txId = some ⟨codec.encode { txRef := some ref }, 0⟩) :
    ¬ PendingRecord codec db ref := by
  intro pending
  obtain ⟨row, state, isRow, decoded, isPending, _⟩ := pending
  rcases record with missing | unspecified
  · rw [missing] at isRow
    cases isRow
  · rw [unspecified] at isRow
    cases isRow
    rw [codec.decode_encode] at decoded
    cases decoded
    cases isPending

theorem queried_of_queryBlindVersions
    {entries : List WriteEntry} {state : Bytes → Bytes → Option UInt64}
    (succeeded : queryBlindVersions db entries = some state) :
    ∀ entry ∈ entries, state entry.nsId entry.key = queriedVersion db entry.nsId entry.key := by
  have tables : ∀ entry ∈ entries, db.hasTable entry.nsId = true := by
    intro entry mem
    by_contra missing
    have failed : queryBlindVersions db entries = none := by
      apply foldlM_eq_none (mem_writeNamespaces.mpr ⟨entry, mem, rfl⟩)
      intro current
      rw [queryVersionsIfPresent, if_neg missing]
      rfl
    rw [failed] at succeeded
    cases succeeded
  obtain ⟨found, same, queried⟩ := queryBlindVersions_eq tables
  rw [succeeded] at same
  obtain rfl : state = found := Option.some.inj same
  exact queried

section

variable {codec : SnapshotCodec} {platform : Platform} {db : Database}
  {batch : List VcTx} {request : VcTx} {p : PreparedTransactions}
  (submitted : ∀ tx ∈ batch, Submitted platform tx)
  (isRequest : IsRequest request)
  (copies : RequestAmongCopies db batch request)
  (preparedAs : PreparedAs codec batch p)

include submitted isRequest copies preparedAs

/-- A request that the gate lets pass is committed, with its snapshot database
exactly if no copy is in the way of the creation. -/
theorem commit_live (accounted : Accounted batch (masked (.ofPrepared p) dead))
    (alive : dead request.ref.txId = none)
    (refuted : ∀ tx ∈ batch, ((dead tx.ref.txId).isSome = true ↔ Refuted codec db batch tx))
    {statuses : List TxStatus} {feedback : Option CheckpointFeedback} {after : Database}
    (committed :
      commitTransactions codec db (masked (.ofPrepared p) dead) =
        some (statuses, feedback, after)) :
    ⟨request.ref, .committed⟩ ∈ statuses ∧
      ((after.snapshotDatabases (snapshotDatabaseName request.ref) = true ∧
          PendingRecord codec after request.ref) ↔
        ∀ tx ∈ batch, tx ≠ request → PassesCreation codec db batch tx) := by
  rw [commitTransactions, populateVersionsAndCategorizeBlindWrites] at committed
  cases queried :
      queryBlindVersions db
        (groupWrites (masked (.ofPrepared p) dead).txIDs
          (masked (.ofPrepared p) dead).validTxBlindWrites) with
  | none =>
    rw [queried] at committed
    cases committed
  | some state =>
    rw [queried] at committed
    simp only [map_some] at committed
    have pending := (pending_masked submitted isRequest copies preparedAs accounted state).1 alive
    have sameIds :
        (categorizeBlindWrites state (masked (.ofPrepared p) dead)).txIDs =
          batch.map fun tx => tx.ref.txId :=
      pending.accounted.ids
    have passes :
        (∀ other ∈ (categorizeBlindWrites state (masked (.ofPrepared p) dead)).txIDs,
            other ≠ request.ref.txId →
              (categorizeBlindWrites state (masked (.ofPrepared p) dead)).newWrites other = []) ↔
          ∀ tx ∈ batch, tx ≠ request → PassesCreation codec db batch tx := by
      rw [sameIds]
      apply copies.others_iff
      intro tx mem
      apply passesCreation_iff preparedAs mem (refuted tx mem)
      intro entry isBlind
      apply queried_of_queryBlindVersions queried
      exact
        mem_flatMap.mpr
          ⟨tx.ref.txId,
            accounted.ids ▸ List.mem_map_of_mem (f := fun tx : VcTx => tx.ref.txId) mem,
            isBlind⟩
    rw [← passes]
    rcases
      createSnapshot_request (sameIds ▸ copies.distinct)
        (sameIds ▸ List.mem_map_of_mem (f := fun tx : VcTx => tx.ref.txId) copies.member)
        copies.unrecorded pending.isNews with
      ⟨alone, created⟩ | ⟨crowded, unchanged⟩
    · rw [created] at committed
      obtain ⟨reported, record, snapshots⟩ :=
        commitLoop_pending (copies.withSnapshotDatabase request.ref)
          (by decide) (.inr ⟨_, rfl, rfl, rfl⟩)
          (pending_created pending created) committed
      refine ⟨(reported .committed).mpr rfl, iff_of_true ⟨?_, ?_⟩ alone⟩
      · rw [snapshots]
        simp [withSnapshotDatabase]
      · exact ⟨_, _, record, codec.decode_encode _, rfl, rfl⟩
    · rw [unchanged] at committed
      obtain ⟨reported, record, _⟩ :=
        commitLoop_pending copies (by decide) (.inr ⟨_, rfl, rfl, rfl⟩) pending committed
      refine ⟨(reported .committed).mpr rfl, iff_of_false ?_ crowded⟩
      intro facts
      exact not_pendingRecord (.inr record) facts.2

theorem commit_rejected (accounted : Accounted batch (masked (.ofPrepared p) dead))
    {status : Status} (rejected : dead request.ref.txId = some status)
    (notCommitted : status ≠ .committed) (notDuplicate : status ≠ .rejectedDuplicateTxId)
    {statuses : List TxStatus} {feedback : Option CheckpointFeedback}
    (committed :
      commitTransactions codec db (masked (.ofPrepared p) dead) =
        some (statuses, feedback, after)) :
    ⟨request.ref, .committed⟩ ∉ statuses ∧ ¬ PendingRecord codec after request.ref := by
  rw [commitTransactions, populateVersionsAndCategorizeBlindWrites] at committed
  cases queried :
      queryBlindVersions db
        (groupWrites (masked (.ofPrepared p) dead).txIDs
          (masked (.ofPrepared p) dead).validTxBlindWrites) with
  | none =>
    rw [queried] at committed
    cases committed
  | some state =>
    rw [queried] at committed
    simp only [map_some] at committed
    split at committed
    · cases committed
    rename_i next created isCreated
    obtain ⟨pending, sameRows, sameStatuses⟩ :=
      createSnapshot_rejected
        ((pending_masked submitted isRequest copies preparedAs accounted state).2 status rejected)
        isCreated
    have stillCopies : RequestAmongCopies created batch request :=
      { copies with
        recorded := sameStatuses ▸ copies.recorded
        unrecorded := sameStatuses ▸ copies.unrecorded
        noRecord := sameRows ▸ copies.noRecord }
    obtain ⟨reported, record, _⟩ :=
      commitLoop_pending stillCopies notDuplicate (.inl rfl) pending committed
    exact
      ⟨fun isCommitted => notCommitted ((reported .committed).mp isCommitted).symm,
        not_pendingRecord (.inl record)⟩

end

def RecordsRecorded (db : Database) : Prop :=
  ∀ key, (db.row snapshotNamespaceID key).isSome = true → (db.txStatus key).isSome = true

/-- A batch of a new snapshot request and copies of recorded transactions keeps
the invariant exactly if the copies are out of the way. -/
theorem snapshotInvariant_iff_outOfTheWay
    {codec : SnapshotCodec} {platform : Platform} {attempts : Nat}
    {db after : Database} {batch : List VcTx} {request : VcTx}
    (submitted : ∀ tx ∈ batch, Submitted platform tx)
    (member : request ∈ batch) (isRequest : IsRequest request) (named : request.ref.txId ≠ [])
    (unrecorded : db.txStatus request.ref.txId = none)
    (recorded : ∀ tx ∈ batch, tx ≠ request → (db.txStatus tx.ref.txId).isSome = true)
    (records : RecordsRecorded db) {statuses : List TxStatus} {feedback : Option CheckpointFeedback}
    (processed : processBatch codec attempts db batch = some (statuses, feedback, after)) :
    SnapshotInvariant codec db request statuses after ↔
      OutOfTheWay codec db (firstCopies batch) request := by
  have copies : RequestAmongCopies db (firstCopies batch) request := by
    refine
      { distinct := firstCopies_distinct batch
        member := ?_
        recorded := fun tx inside => recorded tx (firstCopies_subset inside)
        unrecorded := unrecorded
        noRecord := ?_ }
    · obtain ⟨first, isFirst, sameId⟩ := exists_firstCopy member
      by_cases same : first = request
      · exact same ▸ isFirst
      · have isRecorded := recorded first (firstCopies_subset isFirst) same
        rw [sameId, unrecorded] at isRecorded
        cases isRecorded
    · rw [← not_isSome_iff_eq_none]
      intro present
      have isRecorded := records _ present
      rw [unrecorded] at isRecorded
      cases isRecorded
  have copiesSubmitted : ∀ tx ∈ firstCopies batch, Submitted platform tx :=
    fun tx inside => submitted tx (firstCopies_subset inside)
  rw [processBatch] at processed
  split at processed
  · cases processed
  rename_i p prepared
  have preparedAs := preparedAs_of_prepare prepared
  split at processed
  · cases processed
  rename_i validated validatedDb isValidated
  obtain ⟨dead, accounted, sameDb, refuted, gated⟩ :=
    validated_cases copiesSubmitted isRequest copies preparedAs named isValidated
  subst sameDb
  rcases gated with ⟨passes, ⟨closed, same⟩ | ⟨isOpen, rejected⟩⟩ | ⟨blocked, same⟩
  · subst same
    have alive := alive_request copiesSubmitted isRequest copies refuted
    obtain ⟨isCommitted, created⟩ :=
      commit_live copiesSubmitted isRequest copies preparedAs accounted alive refuted processed
    constructor
    · intro invariant tx inside other
      exact
        ⟨passes tx inside other, fun _ =>
          created.mp (invariant.committed_iff.mp isCommitted) tx inside other⟩
    · intro outOfTheWay
      refine
        ⟨iff_of_true isCommitted
            (created.mpr fun tx inside other => (outOfTheWay tx inside other).2 closed),
          fun _ => closed⟩
  · obtain ⟨status, notCommitted, notDuplicate, same⟩ := rejected
    subst same
    obtain ⟨isRejected, noRecord⟩ :=
      commit_rejected copiesSubmitted isRequest copies preparedAs accounted
        (kill_of_mem (mem_singleton_self _) status dead) notCommitted
        notDuplicate processed
    apply iff_of_true
    · exact
        ⟨iff_of_false isRejected fun facts => noRecord facts.2,
          fun isCommitted => absurd isCommitted isRejected⟩
    · intro tx inside other
      exact ⟨passes tx inside other, fun closed => absurd closed isOpen⟩
  · subst same
    have alive := alive_request copiesSubmitted isRequest copies refuted
    obtain ⟨isCommitted, created⟩ :=
      commit_live copiesSubmitted isRequest copies preparedAs accounted alive refuted processed
    apply iff_of_false
    · intro invariant
      apply blocked
      intro tx inside other
      rcases
        created.mp (invariant.committed_iff.mp isCommitted) tx inside other with
        isRefuted | ⟨noInserts, _⟩
      · exact .inl isRefuted
      · exact .inr noInserts
    · intro outOfTheWay
      exact blocked fun tx inside other => (outOfTheWay tx inside other).1

instance (codec : SnapshotCodec) (db : Database) (batch : List VcTx) (tx : VcTx) :
    Decidable (PassesGate codec db batch tx) := by
  unfold PassesGate
  infer_instance

instance (codec : SnapshotCodec) (db : Database) (batch : List VcTx) (tx : VcTx) :
    Decidable (PassesCreation codec db batch tx) := by
  unfold PassesCreation
  infer_instance

/-- A database after the setup, with one namespace and one recorded
transaction. -/
def systemDatabase : Database where
  hasTable := fun nsId =>
    decide
      (nsId = metaNamespaceID ∨ nsId = configNamespaceID ∨
        nsId = snapshotNamespaceID ∨ nsId = checkpointNamespaceID ∨ nsId = [0x61])
  row := fun nsId key =>
    if nsId = metaNamespaceID ∧ key = [0x61] then
      some ⟨[], 0⟩
    else if nsId = [0x61] ∧ key = [2] then
      some ⟨[2], 0⟩
    else
      none
  txStatus := fun id => if id = [1] then some (.committed, ⟨1, 1⟩) else none
  latestSnapshotKey := []
  snapshotDatabases := fun _ => false
  rowsInTables := by
    intro nsId key missing
    simp only [decide_eq_false_iff_not, not_or] at missing
    simp [missing]

theorem systemDatabase_records : RecordsRecorded systemDatabase := by
  intro key present
  simp [systemDatabase, snapshotNamespaceID, metaNamespaceID] at present

def snapshotTx : VcTx where
  ref := ⟨[9], 7, 0⟩
  namespaces := [{ nsId := snapshotNamespaceID }]

def requestOutcome (copy : VcTx) : Option (List TxStatus × Bool × Option SnapshotState) :=
  (processBatch fieldCodec 1 systemDatabase [copy, snapshotTx]).map
    fun result =>
      (result.1, result.2.2.snapshotDatabases "snapshot_7",
        (result.2.2.row snapshotNamespaceID [9]).bind fun row => fieldCodec.decode row.value)

theorem submitted_copy_and_request {copy : VcTx}
    (accepted :
      verifyTxForm permissivePlatform ⟨copy.namespaces, [some [some [1]]]⟩ =
        statusNotYetValidated) :
    ∀ tx ∈ [copy, snapshotTx], Submitted permissivePlatform tx := by
  intro tx mem _
  left
  refine ⟨[some [some [1]]], ?_⟩
  rcases mem_pair.mp mem with same | same
  · rw [same]
    exact accepted
  · rw [same]
    decide +kernel

theorem updateCopy_outOfTheWay :
    ∃ statuses feedback after,
      processBatch fieldCodec 1 systemDatabase [readWriteTx 1 [2] (some 0), snapshotTx] =
        some (statuses, feedback, after) ∧
      SnapshotInvariant fieldCodec systemDatabase snapshotTx statuses after ∧
      ⟨snapshotTx.ref, .committed⟩ ∈ statuses := by
  have evaluated :
      requestOutcome (readWriteTx 1 [2] (some 0)) =
        some
          ([⟨⟨[1], 1, 1⟩, .committed⟩, ⟨⟨[9], 7, 0⟩, .committed⟩], true,
            some
              { txRef := some ⟨[9], 7, 0⟩
                status := .pending
                cloneDatabase := "snapshot_7" }) := by
    decide +kernel
  obtain ⟨⟨statuses, feedback, after⟩, processed, outcome⟩ := map_eq_some_iff.mp evaluated
  obtain ⟨isStatuses, _⟩ := Prod.mk.inj outcome
  subst isStatuses
  refine ⟨_, feedback, after, processed, ?_, by decide⟩
  refine
    (snapshotInvariant_iff_outOfTheWay
      (submitted_copy_and_request (by decide +kernel))
      (mem_cons_of_mem _ mem_cons_self)
      ⟨rfl, _, mem_cons_self, rfl⟩ (by decide) (by decide) ?_
      systemDatabase_records processed).mpr ?_
  · intro tx member other
    rcases mem_pair.mp member with same | same
    · subst same
      decide
    · exact absurd same other
  · intro tx member other
    rcases mem_pair.mp member with same | same
    · subst same
      exact ⟨by decide +kernel, fun _ => by decide +kernel⟩
    · exact absurd same other

/-- With a copy of an insertion in its batch, the request is committed without
a snapshot database. -/
theorem insertCopy_breaks_invariant :
    (∀ tx ∈ [readWriteTx 1 [2] none, snapshotTx], Submitted permissivePlatform tx) ∧
      systemDatabase.txStatus [1] = some (.committed, ⟨1, 1⟩) ∧
      systemDatabase.txStatus snapshotTx.ref.txId = none ∧
      RecordsRecorded systemDatabase ∧
      ∃ statuses feedback after,
        processBatch fieldCodec 1 systemDatabase [readWriteTx 1 [2] none, snapshotTx] =
          some (statuses, feedback, after) ∧
        ⟨snapshotTx.ref, .committed⟩ ∈ statuses ∧
        after.snapshotDatabases "snapshot_7" = false ∧
        ¬ SnapshotInvariant fieldCodec systemDatabase snapshotTx statuses after := by
  have evaluated :
      requestOutcome (readWriteTx 1 [2] none) =
        some
          ([⟨⟨[1], 1, 1⟩, .committed⟩, ⟨⟨[9], 7, 0⟩, .committed⟩], false,
            some { txRef := some ⟨[9], 7, 0⟩ }) := by
    decide +kernel
  obtain ⟨⟨statuses, feedback, after⟩, processed, outcome⟩ := map_eq_some_iff.mp evaluated
  obtain ⟨isStatuses, rest⟩ := Prod.mk.inj outcome
  obtain ⟨noDatabase, _⟩ := Prod.mk.inj rest
  subst isStatuses
  refine
    ⟨submitted_copy_and_request (by decide +kernel), rfl, rfl,
      systemDatabase_records, _, feedback, after, processed, by decide,
      noDatabase, ?_⟩
  intro invariant
  have created := (invariant.committed_iff.mp (by decide)).1
  have sameName : snapshotDatabaseName snapshotTx.ref = "snapshot_7" := by decide +kernel
  exact absurd (created.symm.trans noDatabase) (by decide)

end FabricXCommitter.VC
