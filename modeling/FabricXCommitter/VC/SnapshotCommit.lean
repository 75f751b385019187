import FabricXCommitter.VC.Accounting

/-!
# Committing a snapshot request

A copy that still has a new write lets the request be committed without a snapshot
database.
-/

namespace FabricXCommitter.VC

open Library Sidecar List

/-! ## The reads and writes of a request -/

def requestEntry (codec : SnapshotCodec) (ref : TxRef) : WriteEntry :=
  ⟨snapshotNamespaceID, ref.txId, codec.encode { txRef := some ref }, 0⟩

def IsRequest (tx : VcTx) : Prop :=
  tx.prelimInvalidTxStatus = none ∧ ∃ ns ∈ tx.namespaces, ns.nsId = snapshotNamespaceID

variable {tx : VcTx}

theorem Submitted.requestAlone
    {platform : Platform} (submitted : Submitted platform tx) (request : IsRequest tx) :
    ∃ ns, tx.namespaces = [ns] ∧ ns.nsId = snapshotNamespaceID := by
  obtain ⟨unspoiled, ns, mem, snapshot⟩ := request
  rcases submitted unspoiled with ⟨endorsements, accepted⟩ | ⟨value, config⟩
  · exact ⟨ns, (wellFormed_of_verifyTxForm accepted).alone mem (.inl snapshot), snapshot⟩
  · rw [config] at mem
    have isConfig : ns.nsId = configNamespaceID := by rw [mem_singleton.mp mem]
    rw [snapshot] at isConfig
    exact absurd isConfig (by decide)

theorem Submitted.requestEntries {platform : Platform} (submitted : Submitted platform tx)
    (request : IsRequest tx) (codec : SnapshotCodec) :
    (preparedNamespaces (expandTx codec tx)).flatMap newEntries = [requestEntry codec tx.ref] ∧
      (preparedNamespaces (expandTx codec tx)).flatMap updateEntries = [] ∧
        (preparedNamespaces (expandTx codec tx)).flatMap blindEntries = [] := by
  obtain ⟨ns, alone, snapshot⟩ := submitted.requestAlone request
  have all :
      preparedNamespaces (expandTx codec tx) = tx.namespaces.map (expandNamespace codec tx.ref) :=
    preparedNamespaces_of_valid request.1
  rw [all, alone, map_singleton, expandNamespace, if_pos snapshot]
  exact ⟨rfl, rfl, rfl⟩

theorem versionRead_namespace {nsId : Bytes} {nsVersion : UInt64} {entry : Bytes × Read}
    (found : versionRead nsId nsVersion = some entry) :
    entry.1 = configNamespaceID ∨ entry.1 = metaNamespaceID := by
  rw [versionRead] at found
  split at found
  · cases found
    exact .inl rfl
  split at found
  · cases found
  · cases found
    exact .inr rfl

theorem namespace_of_event
    {id : Bytes} {ns : TxNamespace} {event : ReadEvent} (mem : event ∈ namespaceEvents id ns) :
    event.nsId = ns.nsId ∨ event.nsId = configNamespaceID ∨ event.nsId = metaNamespaceID := by
  rcases mem_append.mp mem with readOnly | rest
  · obtain ⟨read, _, same⟩ := mem_map.mp readOnly
    left
    rw [← same]
  rcases mem_append.mp rest with readWrite | version
  · obtain ⟨rw, _, same⟩ := mem_map.mp readWrite
    left
    rw [← same]
  · obtain ⟨entry, isVersion, same⟩ := mem_map.mp version
    right
    rw [← same]
    exact versionRead_namespace (Option.mem_toList.mp isVersion)

theorem unvalidated_of_snapshot {codec : SnapshotCodec} {event : ReadEvent}
    (mem : event ∈ expandedTxEvents (expandTx codec tx))
    (snapshot : event.nsId = snapshotNamespaceID) :
    event.validated = false := by
  obtain ⟨ns, nsMem, inside⟩ := mem_flatMap.mp mem
  rw [preparedNamespaces] at nsMem
  split at nsMem
  · obtain ⟨source, _, same⟩ := mem_map.mp nsMem
    subst same
    by_cases isSnapshot : source.nsId = snapshotNamespaceID
    · rw [expandNamespace, if_pos isSnapshot, expandedEvents, if_pos rfl] at inside
      rw [mem_singleton.mp inside]
      rfl
    · rw [expandNamespace, if_neg isSnapshot, expandedEvents, if_neg isSnapshot] at inside
      exfalso
      rcases namespace_of_event inside with own | isConfig | isMeta
      · exact isSnapshot (own.symm.trans snapshot)
      · exact absurd (isConfig.symm.trans snapshot) (by decide)
      · exact absurd (isMeta.symm.trans snapshot) (by decide)
  · cases nsMem

/-! ## What the validator leaves of the batch -/

/-- The validator finds a conflict of a read that the transaction made. -/
def Refuted (codec : SnapshotCodec) (db : Database) (batch : List VcTx) (tx : VcTx) : Prop :=
  ∃ entry ∈ (indexOf ((batch.map (expandTx codec)).flatMap expandedTxEvents)).1,
    readMismatch db entry.1 entry.2 = true ∧
      ∃ event ∈ expandedTxEvents (expandTx codec tx), event.cmp = newCmpRead entry.1 entry.2

instance (codec : SnapshotCodec) (db : Database) (batch : List VcTx) (tx : VcTx) :
    Decidable (Refuted codec db batch tx) := by
  unfold Refuted
  infer_instance

theorem readsServed_of_validateReads {db : Database} {nsToReads conflicts : List (Bytes × Read)}
    (succeeded : validateReads db nsToReads = some conflicts) :
    ReadsServed db nsToReads := by
  have served :
      ∀ entry ∈ nsToReads, db.hasTable entry.1 = true ∧ entry.2.version.all fitsBigint = true := by
    intro entry mem
    by_contra unserved
    have refused :
        validateNamespaceReads db entry.1 (readsOfNamespace nsToReads entry.1) = none := by
      rw [validateNamespaceReads, if_neg]
      intro all
      rw [Bool.and_eq_true, all_eq_true] at all
      exact unserved ⟨all.1, all.2 entry.2 (mem_readsOfNamespace.mpr mem)⟩
    have failed : validateReads db nsToReads = none := by
      apply foldlM_eq_none (mem_readNamespaces mem)
      intro current
      rw [refused]
      rfl
    rw [failed] at succeeded
    cases succeeded
  exact ⟨fun entry mem => (served entry mem).1, fun entry mem => (served entry mem).2⟩

theorem masked_of_validated {codec : SnapshotCodec} {db : Database} {batch : List VcTx}
    {p : PreparedTransactions} (preparedAs : PreparedAs codec batch p)
    {conflicts : List (Bytes × Read)} (compared : validateReads db p.nsToReads = some conflicts)
    {v : ValidatedTransactions}
    (invalidated : invalidateTxsOnReadConflicts (.ofPrepared p) conflicts = some v) :
    ∃ dead,
      v = masked (.ofPrepared p) dead ∧
        ∀ tx ∈ batch, (dead tx.ref.txId).isSome = true ↔ Refuted codec db batch tx := by
  obtain ⟨found, same, foundIff⟩ := validateReads_eq (readsServed_of_validateReads compared)
  rw [compared] at same
  obtain rfl : conflicts = found := Option.some.inj same
  have readers :
      ∀ conflict ∈ conflicts,
        (ValidatedTransactions.ofPrepared p).readToTxIDs
            (newCmpRead conflict.1 conflict.2) ≠ [] := by
    intro conflict mem
    have listed := ((foundIff conflict).mp mem).1
    rw [preparedAs.listed] at listed
    obtain ⟨event, inEvents, _, isConflict⟩ := listed_indexOf listed
    apply ne_nil_of_mem (a := event.id)
    change event.id ∈ p.readToTxIDs _
    rw [preparedAs.readers, mem_readers_indexOf]
    refine ⟨event, inEvents, ?_, rfl⟩
    rw [← isConflict]
    rfl
  have evaluated := invalidateTxsOnReadConflicts_masked (fun _ => none) readers
  rw [masked_none, invalidated] at evaluated
  refine ⟨_, Option.some.inj evaluated, ?_⟩
  intro tx mem
  have isDead :
      (kill
            (conflicts.flatMap fun conflict =>
              (ValidatedTransactions.ofPrepared p).readToTxIDs (newCmpRead conflict.1 conflict.2))
            .abortedMvccConflict (fun _ => none) tx.ref.txId).isSome = true ↔
        tx.ref.txId ∈
          conflicts.flatMap fun conflict =>
            (ValidatedTransactions.ofPrepared p).readToTxIDs
              (newCmpRead conflict.1 conflict.2) := by
    rw [kill]
    split <;> simp_all
  rw [isDead, mem_flatMap, Refuted, ← preparedAs.listed]
  constructor
  · intro facts
    obtain ⟨conflict, isConflict, isReader⟩ := facts
    obtain ⟨listed, mismatch⟩ := (foundIff conflict).mp isConflict
    obtain ⟨other, otherMem, sameId, event, inside, sameCmp⟩ := preparedAs.mem_readers.mp isReader
    have sameTx := inj_on_of_nodup_map preparedAs.distinct otherMem mem sameId
    subst sameTx
    exact ⟨conflict, listed, mismatch, event, inside, sameCmp⟩
  · intro facts
    obtain ⟨entry, listed, mismatch, event, inside, sameCmp⟩ := facts
    exact
      ⟨entry, (foundIff entry).mpr ⟨listed, mismatch⟩,
        preparedAs.mem_readers.mpr ⟨tx, mem, rfl, event, inside, sameCmp⟩⟩

/-- A batch in the commit loop: besides the request, which has the given status
and new writes, it holds only recorded transactions. -/
structure Pending (batch : List VcTx) (request : VcTx) (status : Status)
    (news : List WriteEntry) (v : ValidatedTransactions) : Prop where
  accounted : Accounted batch v
  noFeedback : v.checkpointFeedback = none
  resolved : ∀ id, v.validTxBlindWrites id = []
  cleared :
    ∀ tx ∈ batch, v.invalidTxStatus tx.ref.txId ≠ none →
      v.validTxNonBlindWrites tx.ref.txId = [] ∧ v.newWrites tx.ref.txId = []
  noUpdates : v.validTxNonBlindWrites request.ref.txId = []
  isNews : v.newWrites request.ref.txId = news
  isStatus : reportedStatus v request.ref.txId = some status
  noCheckpoint : ∀ cp, v.checkpoint = some cp → cp.txID ≠ request.ref.txId

/-- The new request and the recorded transactions. -/
structure RequestAmongCopies (db : Database) (batch : List VcTx) (request : VcTx) : Prop where
  distinct : (batch.map fun tx => tx.ref.txId).Nodup
  member : request ∈ batch
  recorded : ∀ tx ∈ batch, tx ≠ request → (db.txStatus tx.ref.txId).isSome = true
  unrecorded : db.txStatus request.ref.txId = none
  noRecord : db.row snapshotNamespaceID request.ref.txId = none

section

variable {db : Database} {batch : List VcTx} {request : VcTx}
  {status : Status} {news : List WriteEntry} {v : ValidatedTransactions}

theorem pending_duplicates (pending : Pending batch request status news v) {txIDs : List Bytes}
    (outside : request.ref.txId ∉ txIDs) :
    Pending batch request status news (updateInvalidTxs v txIDs .rejectedDuplicateTxId) where
  accounted := by
    apply accounted_updateInvalidTxs pending.accounted
    intro feedback isFeedback
    rw [pending.noFeedback] at isFeedback
    cases isFeedback
  noFeedback := pending.noFeedback
  resolved := by
    intro id
    simp [updateInvalidTxs, TransactionToWrites.deleteAll, pending.resolved]
  cleared := by
    intro tx mem
    by_cases inside : tx.ref.txId ∈ txIDs
    · simp [updateInvalidTxs, TransactionToWrites.deleteAll, inside]
    · simpa [updateInvalidTxs, TransactionToWrites.deleteAll, inside] using pending.cleared tx mem
  noUpdates := (if_neg outside).trans pending.noUpdates
  isNews := (if_neg outside).trans pending.isNews
  isStatus := by
    rw [reportedStatus_updateInvalidTxs_of_not_mem outside]
    exact pending.isStatus
  noCheckpoint := by
    intro cp found
    exact pending.noCheckpoint cp (Option.filter_eq_some_iff.mp found).1

theorem reported_of_pending (pending : Pending batch request status news v) (mem : tx ∈ batch) :
    ∃ given, reportedStatus v tx.ref.txId = some given := by
  cases reported : reportedStatus v tx.ref.txId with
  | some given => exact ⟨given, rfl⟩
  | none =>
    obtain ⟨feedback, isFeedback, _⟩ := pending.accounted.answered tx mem reported
    rw [pending.noFeedback] at isFeedback
    cases isFeedback

theorem mem_statusEntries (accounted : Accounted batch v) {entry : Bytes × Status × Height} :
    entry ∈ statusEntries (statesOf v).batchStatus ↔
      ∃ tx ∈ batch, ∃ given, reportedStatus v tx.ref.txId = some given ∧
        given ≠ .rejectedDuplicateTxId ∧ entry = (tx.ref.txId, given, tx.ref.height) := by
  change entry ∈ statusEntries (prepareStatusForCommit v) ↔ _
  rw [statusEntries, mem_map, prepareStatusForCommit_eq accounted]
  constructor
  · intro found
    obtain ⟨s, mem, same⟩ := found
    obtain ⟨inside, notDuplicate⟩ := mem_filter.mp mem
    obtain ⟨tx, inBatch, isStatus⟩ := mem_filterMap.mp inside
    obtain ⟨given, reported, isEntry⟩ := Option.map_eq_some_iff.mp isStatus
    subst isEntry
    exact ⟨tx, inBatch, given, reported, by simpa using notDuplicate, same.symm⟩
  · intro found
    obtain ⟨tx, inBatch, given, reported, notDuplicate, same⟩ := found
    refine ⟨⟨tx.ref, given⟩, ?_, same.symm⟩
    rw [mem_filter]
    refine ⟨mem_filterMap.mpr ⟨tx, inBatch, ?_⟩, by simpa using notDuplicate⟩
    rw [reported]
    rfl

theorem groupWrites_of_alone {txIDs : List Bytes} {writes : TransactionToWrites} {id : Bytes}
    (distinct : txIDs.Nodup) (mem : id ∈ txIDs)
    (others : ∀ other ∈ txIDs, other ≠ id → writes other = []) :
    groupWrites txIDs writes = writes id := by
  induction txIDs with
  | nil => cases mem
  | cons first rest ih =>
    obtain ⟨fresh, restDistinct⟩ := nodup_cons.mp distinct
    rw [groupWrites, flatMap_cons]
    by_cases same : first = id
    · subst same
      have nothing : rest.flatMap writes = [] := by
        rw [flatMap_eq_nil_iff]
        intro other inRest
        apply others other (mem_cons_of_mem first inRest)
        intro equal
        exact fresh (equal ▸ inRest)
      rw [nothing, append_nil]
    · rw [others first mem_cons_self same, nil_append]
      apply ih restDistinct
      · exact (mem_cons.mp mem).resolve_left (Ne.symm same)
      · intro other inRest
        exact others other (mem_cons_of_mem first inRest)

theorem invalid_of_reported
    {id : Bytes} {given : Status} (reported : reportedStatus v id = some given)
    (notCommitted : given ≠ .committed) :
    v.invalidTxStatus id = some given := by
  rw [reportedStatus] at reported
  split at reported
  · rename_i invalid
    rw [invalid]
    exact reported
  · split at reported
    · cases reported
    · exact absurd (Option.some.inj reported).symm notCommitted

theorem alone_of_duplicates
    (copies : RequestAmongCopies db batch request) (pending : Pending batch request status news v)
    (duplicates :
      ∀ tx ∈ batch, tx ≠ request → reportedStatus v tx.ref.txId = some .rejectedDuplicateTxId) :
    (statesOf v).newWrites = news ∧ (statesOf v).updateWrites = [] ∧
      (statesOf v).checkpoint = none := by
  have invalid :
      ∀ tx ∈ batch, tx ≠ request → v.invalidTxStatus tx.ref.txId = some .rejectedDuplicateTxId :=
    fun tx mem other => invalid_of_reported (duplicates tx mem other) (by decide)
  have others :
      ∀ id ∈ v.txIDs, id ≠ request.ref.txId →
        v.validTxNonBlindWrites id = [] ∧ v.newWrites id = [] := by
    intro id isId other
    rw [pending.accounted.ids] at isId
    obtain ⟨tx, mem, sameId⟩ := mem_map.mp isId
    subst sameId
    apply pending.cleared tx mem
    rw [invalid tx mem (fun same => other (same ▸ rfl))]
    exact Option.some_ne_none _
  have idsDistinct : v.txIDs.Nodup := by
    rw [pending.accounted.ids]
    exact copies.distinct
  have isId : request.ref.txId ∈ v.txIDs := by
    rw [pending.accounted.ids]
    exact mem_map_of_mem (f := fun tx : VcTx => tx.ref.txId) copies.member
  refine ⟨?_, ?_, ?_⟩
  · refine
      (groupWrites_of_alone idsDistinct isId fun id inside other =>
        (others id inside other).2).trans ?_
    exact pending.isNews
  · refine
      (groupWrites_of_alone idsDistinct isId fun id inside other =>
        (others id inside other).1).trans ?_
    exact pending.noUpdates
  · cases isCheckpoint : v.checkpoint with
    | none => exact isCheckpoint
    | some cp =>
      have facts := pending.accounted.checkpoint cp isCheckpoint
      obtain ⟨tx, mem, sameId, _⟩ := facts.source
      have other : tx ≠ request := by
        intro same
        apply pending.noCheckpoint cp isCheckpoint
        rw [sameId, same]
      have valid := facts.valid
      rw [sameId, invalid tx mem other] at valid
      cases valid

def RecordOnly (request : VcTx) (news : List WriteEntry) : Prop :=
  news = [] ∨
    ∃ entry, news = [entry] ∧ entry.nsId = snapshotNamespaceID ∧ entry.key = request.ref.txId

theorem commit_alone {codec : SnapshotCodec} {states : StatesToBeCommitted}
    (copies : RequestAmongCopies db batch request) (consistent : ConsistentStates states)
    (listed :
      ∃ given, (request.ref.txId, given, request.ref.height) ∈ statusEntries states.batchStatus)
    (unrecorded : ∀ entry ∈ statusEntries states.batchStatus, db.txStatus entry.1 = none)
    (isNews : states.newWrites = news) (recordOnly : RecordOnly request news)
    (noUpdates : states.updateWrites = [])
    (noCheckpoint : states.checkpoint = none) {result : CommitResult}
    (attempted : commit codec db states = some result) :
    ∃ after, result = .committed after ∧
      after.row snapshotNamespaceID request.ref.txId =
          news.head?.map (fun entry => ⟨entry.value, 0⟩) ∧
        after.snapshotDatabases = db.snapshotDatabases := by
  obtain ⟨given, isListed⟩ := listed
  have notEmpty := not_empty_of_statuses isListed
  have tables : ∀ entry ∈ news, db.hasTable entry.nsId = true := by
    intro entry mem
    rw [commit, notEmpty, insertTxStatus_fresh consistent unrecorded] at attempted
    simp only [Bool.false_eq_true, if_false, isNews] at attempted
    cases inserted : insertStates (db.recordAll (statusEntries states.batchStatus)) news with
    | none =>
      rw [inserted] at attempted
      cases attempted
    | some found =>
      have tableExists := tables_of_insertStates inserted entry mem
      rw [Database.recordAll_eq] at tableExists
      exact tableExists
  have fresh : Fresh db states := by
    refine ⟨unrecorded, ?_⟩
    rw [isNews]
    rcases recordOnly with nothing | ⟨entry, single, inNamespace, isKey⟩
    · subst nothing
      exact ⟨tables, nodup_nil, forall_mem_nil _⟩
    · subst single
      refine ⟨tables, nodup_singleton _, ?_⟩
      intro other mem
      rw [mem_singleton.mp mem, inNamespace, isKey]
      exact copies.noRecord
  rw [commit_fresh_consistent codec consistent noCheckpoint fresh notEmpty, noUpdates] at attempted
  have done : updateStates (beforeUpdates db states) [] = some (beforeUpdates db states) := rfl
  refine ⟨_, (Option.some.inj attempted).symm, ?_, ?_⟩
  · rw [(setLatestSnapshotKey_other _ _).2.1, beforeUpdates,
      (Database.createAll_other _ _).1, StatesToBeCommitted.insertedRows,
      isNews, Database.recordAll_eq]
    rcases recordOnly with nothing | ⟨entry, single, inNamespace, isKey⟩
    · subst nothing
      exact copies.noRecord
    · subst single
      have tableExists := tables entry (mem_singleton_self entry)
      rw [inNamespace] at tableExists
      simp [writeNamespaces, writesOfNamespace, WriteEntry.newRow,
        Database.applyRows, Database.writeRow, inNamespace, isKey, tableExists]
  · rw [(setLatestSnapshotKey_other _ _).2.2.2, beforeUpdates,
      (Database.createAll_other _ _).2.2.2,
      (Database.applyRows_other _ _).2.2.2, Database.recordAll_eq]

theorem commit_pending {codec : SnapshotCodec} (copies : RequestAmongCopies db batch request)
    (pending : Pending batch request status news v) (notDuplicate : status ≠ .rejectedDuplicateTxId)
    (recordOnly : RecordOnly request news) {result : CommitResult}
    (attempted : commit codec db (statesOf v) = some result) :
    (∃ txIDs, result = .duplicates txIDs ∧ request.ref.txId ∉ txIDs) ∨
      ∃ after, result = .committed after ∧
        after.row snapshotNamespaceID request.ref.txId =
            news.head?.map (fun entry => ⟨entry.value, 0⟩) ∧
          after.snapshotDatabases = db.snapshotDatabases := by
  have consistent := consistent_of_accounted copies.distinct pending.accounted
  have listed :
      (request.ref.txId, status, request.ref.height) ∈ statusEntries (statesOf v).batchStatus :=
    (mem_statusEntries pending.accounted).mpr
      ⟨request, copies.member, status, pending.isStatus, notDuplicate, rfl⟩
  by_cases marked :
      ∀ tx ∈ batch, tx ≠ request → reportedStatus v tx.ref.txId = some .rejectedDuplicateTxId
  · right
    obtain ⟨isNews, noUpdates, noCheckpoint⟩ := alone_of_duplicates copies pending marked
    have unrecorded :
        ∀ entry ∈ statusEntries (statesOf v).batchStatus, db.txStatus entry.1 = none := by
      intro entry mem
      obtain ⟨tx, inBatch, given, reported, notGiven, same⟩ :=
        (mem_statusEntries pending.accounted).mp mem
      subst same
      by_cases isRequest : tx = request
      · rw [isRequest]
        exact copies.unrecorded
      · rw [marked tx inBatch isRequest] at reported
        exact absurd (Option.some.inj reported).symm notGiven
    exact
      commit_alone copies consistent ⟨status, listed⟩ unrecorded isNews
        recordOnly noUpdates noCheckpoint attempted
  · left
    push Not at marked
    obtain ⟨tx, mem, other, unmarked⟩ := marked
    obtain ⟨given, reported⟩ := reported_of_pending pending mem
    have isListed :
        (tx.ref.txId, given, tx.ref.height) ∈ statusEntries (statesOf v).batchStatus := by
      apply (mem_statusEntries pending.accounted).mpr
      refine ⟨tx, mem, given, reported, ?_, rfl⟩
      intro same
      rw [same] at reported
      exact unmarked reported
    obtain ⟨txIDs, isDuplicates, found⟩ :=
      commit_duplicates codec consistent isListed (copies.recorded tx mem other)
    rw [isDuplicates] at attempted
    refine ⟨txIDs, (Option.some.inj attempted).symm, ?_⟩
    intro inside
    have isRecorded := ((found request.ref.txId).mp inside).2
    rw [copies.unrecorded] at isRecorded
    cases isRecorded

theorem mem_corrected_iff (distinct : (batch.map fun tx => tx.ref.txId).Nodup)
    (accounted : Accounted batch v) (mem : tx ∈ batch)
    (reported : reportedStatus v tx.ref.txId = some status)
    (notDuplicate : status ≠ .rejectedDuplicateTxId) (after : Database) (given : Status) :
    ⟨tx.ref, given⟩ ∈
        setCorrectStatusForDuplicateTxID after (prepareStatusForCommit v) v.txIDToHeight ↔
      given = status := by
  have kept : ⟨tx.ref, status⟩ ∈ prepareStatusForCommit v := by
    rw [prepareStatusForCommit_eq accounted]
    refine mem_filterMap.mpr ⟨tx, mem, ?_⟩
    rw [reported]
    rfl
  rw [setCorrectStatusForDuplicateTxID, mem_map]
  constructor
  · intro found
    obtain ⟨s, isStatus, same⟩ := found
    have sameId : s.ref.txId = tx.ref.txId := by
      rw [← congrArg (fun s : TxStatus => s.ref.txId) same]
      split
      · split
        · split <;> rfl
        · rfl
      · rfl
    rw [prepareStatusForCommit_eq accounted] at isStatus
    obtain ⟨source, inBatch, isEntry⟩ := mem_filterMap.mp isStatus
    obtain ⟨own, ownReported, isOwn⟩ := Option.map_eq_some_iff.mp isEntry
    subst isOwn
    have isTx := inj_on_of_nodup_map distinct inBatch mem sameId
    subst isTx
    rw [reported] at ownReported
    obtain rfl : status = own := Option.some.inj ownReported
    rw [if_neg notDuplicate] at same
    exact (congrArg TxStatus.status same).symm
  · intro same
    subst same
    exact ⟨_, kept, if_neg notDuplicate⟩

theorem commitLoop_pending {codec : SnapshotCodec} (copies : RequestAmongCopies db batch request)
    (notDuplicate : status ≠ .rejectedDuplicateTxId)
    (recordOnly : RecordOnly request news) {retries : Nat}
    {statuses : List TxStatus} {feedback : Option CheckpointFeedback} {after : Database} :
    ∀ {v : ValidatedTransactions}, Pending batch request status news v →
      commitLoop codec db retries v = some (statuses, feedback, after) →
        (∀ given, ⟨request.ref, given⟩ ∈ statuses ↔ given = status) ∧
          after.row snapshotNamespaceID request.ref.txId =
              news.head?.map (fun entry => ⟨entry.value, 0⟩) ∧
            after.snapshotDatabases = db.snapshotDatabases := by
  induction retries with
  | zero =>
    intro v _ looped
    cases looped
  | succ retries ih =>
    intro v pending looped
    rw [commitLoop] at looped
    split at looped
    · cases looped
    · rename_i committed attempted
      cases looped
      rcases
        commit_pending copies pending notDuplicate recordOnly attempted with
        ⟨_, same, _⟩ | ⟨found, same, record, snapshots⟩
      · cases same
      · cases same
        exact
          ⟨mem_corrected_iff copies.distinct pending.accounted copies.member
              pending.isStatus notDuplicate after,
            record, snapshots⟩
    · rename_i txIDs attempted
      rcases
        commit_pending copies pending notDuplicate recordOnly attempted with
        ⟨_, same, outside⟩ | ⟨_, same, _⟩
      · cases same
        exact ih (pending_duplicates pending outside) looped
      · cases same
    · rename_i reads attempted
      rcases
        commit_pending copies pending notDuplicate recordOnly attempted with
        ⟨_, same, _⟩ | ⟨_, same, _⟩
      · cases same
      · cases same

end

def PriorClosed (codec : SnapshotCodec) (db : Database) : Prop :=
  ∃ latest, readLatest codec db = some latest ∧
    ∀ state, latest = some state → state.status = .checkpointed ∨ state.status = .aborted

theorem priorClosed_iff {codec : SnapshotCodec} {db : Database} :
    PriorClosed codec db ↔ determineSnapshotStatus codec db = some .unspecified := by
  rw [PriorClosed, determineSnapshotStatus, Option.map_eq_some_iff]
  apply exists_congr
  intro latest
  apply and_congr_right
  intro _
  cases latest with
  | none => simp
  | some state =>
    obtain ⟨ref, status, _, _, _⟩ := state
    cases status <;> simp

theorem determineSnapshotStatus_rejection {codec : SnapshotCodec} {db : Database} {status : Status}
    (determined : determineSnapshotStatus codec db = some status)
    (rejects : status ≠ .unspecified) :
    status ≠ .committed ∧ status ≠ .rejectedDuplicateTxId := by
  obtain ⟨latest, _, same⟩ := Option.map_eq_some_iff.mp determined
  cases latest with
  | none => exact absurd same.symm rejects
  | some state =>
    obtain ⟨ref, stateStatus, _, _, _⟩ := state
    cases stateStatus <;> subst same <;> simp at rejects ⊢

section

variable {txIDs : List Bytes} {writes : TransactionToWrites} {id : Bytes}

theorem writers_of_alone (distinct : txIDs.Nodup) (mem : id ∈ txIDs) (isWriter : writes id ≠ [])
    (others : ∀ other ∈ txIDs, other ≠ id → writes other = []) :
    writers txIDs writes = [id] := by
  have sameTest :
      txIDs.filter (fun other => !(writes other).isEmpty) =
        txIDs.filter fun other => other == id := by
    apply filter_congr
    intro other inside
    by_cases same : other = id
    · subst same
      simp [isWriter]
    · simp [same, others other inside same]
  rw [writers, sameTest, filter_beq, count_eq_one_of_mem distinct mem]
  rfl

theorem loneSnapshotRequest_eq {codec : SnapshotCodec} {ref : TxRef} (distinct : txIDs.Nodup)
    (mem : id ∈ txIDs) (isEntry : writes id = [requestEntry codec ref]) :
    ((∀ other ∈ txIDs, other ≠ id → writes other = []) ∧
        loneSnapshotRequest txIDs writes = some (id, requestEntry codec ref)) ∨
      (¬ (∀ other ∈ txIDs, other ≠ id → writes other = []) ∧
        loneSnapshotRequest txIDs writes = none) := by
  have isWriter : writes id ≠ [] := by
    rw [isEntry]
    exact cons_ne_nil _ _
  by_cases alone : ∀ other ∈ txIDs, other ≠ id → writes other = []
  · left
    refine ⟨alone, ?_⟩
    rw [loneSnapshotRequest, writers_of_alone distinct mem isWriter alone]
    simp only [isEntry, firstWriteIn]
    rfl
  · right
    refine ⟨alone, ?_⟩
    push Not at alone
    obtain ⟨other, isOther, different, otherWrites⟩ := alone
    rw [loneSnapshotRequest]
    split
    · rename_i only single
      have isId : id ∈ writers txIDs writes := mem_filter.mpr ⟨mem, by simp [isWriter]⟩
      have isOtherId : other ∈ writers txIDs writes :=
        mem_filter.mpr ⟨isOther, by simp [otherWrites]⟩
      rw [single, mem_singleton] at isId isOtherId
      exact absurd (isOtherId.trans isId.symm) different
    · rfl

end

section

variable {codec : SnapshotCodec} {platform : Platform} {db : Database}
  {batch : List VcTx} {request : VcTx} {p : PreparedTransactions}
  (submitted : ∀ tx ∈ batch, Submitted platform tx)
  (isRequest : IsRequest request)
  (copies : RequestAmongCopies db batch request)
  (preparedAs : PreparedAs codec batch p)

include submitted isRequest copies preparedAs

theorem prepared_request :
    p.txIDToNsNewWrites request.ref.txId = [requestEntry codec request.ref] ∧
      p.txIDToNsNonBlindWrites request.ref.txId = [] ∧
        p.txIDToNsBlindWrites request.ref.txId = [] := by
  obtain ⟨news, updates, blinds⟩ := (submitted request copies.member).requestEntries isRequest codec
  refine ⟨?_, ?_, ?_⟩
  · rw [preparedAs.news, preparedAs.entries_of_mem _ copies.member, news]
  · rw [preparedAs.updates, preparedAs.entries_of_mem _ copies.member, updates]
  · rw [preparedAs.blinds, preparedAs.entries_of_mem _ copies.member, blinds]

omit copies preparedAs in
theorem not_refuted_request (mem : request ∈ batch) : ¬ Refuted codec db batch request := by
  intro refuted
  obtain ⟨entry, listed, _, event, inside, sameCmp⟩ := refuted
  obtain ⟨ns, alone, snapshot⟩ := (submitted request mem).requestAlone isRequest
  have all :
      preparedNamespaces (expandTx codec request) =
        request.namespaces.map (expandNamespace codec request.ref) :=
    preparedNamespaces_of_valid isRequest.1
  rw [expandedTxEvents, all, alone, map_singleton, expandNamespace,
    if_pos snapshot, flatMap_singleton, expandedEvents, if_pos rfl,
    map_singleton, mem_singleton] at inside
  have inNamespace : entry.1 = snapshotNamespaceID := by
    have sameNs := congrArg CmpRead.nsId sameCmp
    rw [inside] at sameNs
    rw [newCmpRead] at sameNs
    split at sameNs <;> exact sameNs.symm
  obtain ⟨source, isSource, validated, isEntry⟩ := listed_indexOf listed
  obtain ⟨expanded, isExpanded, ofExpanded⟩ := mem_flatMap.mp isSource
  obtain ⟨tx, _, same⟩ := mem_map.mp isExpanded
  subst same
  have sourceNs : source.nsId = snapshotNamespaceID := by rw [← inNamespace, ← isEntry]
  rw [unvalidated_of_snapshot ofExpanded sourceNs] at validated
  cases validated

theorem recorded_checkpoint {cp : CheckpointTx} (isCheckpoint : p.checkpoint = some cp) :
    cp.txID ≠ request.ref.txId ∧ (db.txStatus cp.txID).isSome = true := by
  obtain ⟨isId, _, write, first, _⟩ := preparedAs.checkpoint.fields cp isCheckpoint
  have other : cp.txID ≠ request.ref.txId := by
    intro same
    have news := (prepared_request submitted isRequest copies preparedAs).1
    rw [same, news] at first
    cases first
  refine ⟨other, ?_⟩
  rw [preparedAs.ids] at isId
  obtain ⟨tx, mem, sameId⟩ := mem_map.mp isId
  rw [← sameId]
  apply copies.recorded tx mem
  intro same
  exact other (by rw [← sameId, same])

end

end FabricXCommitter.VC
