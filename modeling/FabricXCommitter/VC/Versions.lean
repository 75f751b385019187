import FabricXCommitter.VC.Answers
import FabricXCommitter.VC.SnapshotCommit

/-!
# The versions a batch hands to the database

The driver refuses a list with a version of `2 ^ 63` or more, so the batch fails.
-/

namespace FabricXCommitter.VC.Instances

open Library Sidecar List Option

/-! ## The versions of a transaction -/

/-- The versions that the preparer takes from a transaction are `BIGINT`
values. -/
def Representable (tx : VcTx) : Prop :=
  tx.prelimInvalidTxStatus = none →
    ∀ ns ∈ tx.namespaces, ns.nsId ≠ snapshotNamespaceID →
      (∀ read ∈ ns.readsOnly, read.version.all fitsBigint = true) ∧
        (∀ rw ∈ ns.readWrites, rw.version.all fitsBigint = true) ∧
          (ns.nsId ≠ configNamespaceID → ns.nsId ≠ checkpointNamespaceID →
            fitsBigint ns.nsVersion = true)

instance (tx : VcTx) : Decidable (Representable tx) := by
  unfold Representable
  infer_instance

theorem fits_versionRead_iff (ns : TxNamespace) :
    (∀ entry ∈ (versionRead ns.nsId ns.nsVersion).toList, entry.2.version.all fitsBigint = true) ↔
      (ns.nsId ≠ configNamespaceID → ns.nsId ≠ checkpointNamespaceID →
        fitsBigint ns.nsVersion = true) := by
  by_cases isMeta : ns.nsId = metaNamespaceID
  · have notConfig : ns.nsId ≠ configNamespaceID := by
      rw [isMeta]
      decide
    have notCheckpoint : ns.nsId ≠ checkpointNamespaceID := by
      rw [isMeta]
      decide
    rw [versionRead, if_pos isMeta]
    simp [notConfig, notCheckpoint]
  · rw [versionRead, if_neg isMeta]
    by_cases unread : ns.nsId = configNamespaceID ∨ ns.nsId = checkpointNamespaceID
    · rcases unread with isConfig | isCheckpoint
      · simp [isConfig]
      · simp [isCheckpoint]
    · rw [not_or] at unread
      simp [unread.1, unread.2]

theorem fits_namespaceEvents_iff (id : Bytes) (ns : TxNamespace) :
    (∀ event ∈ namespaceEvents id ns, event.read.version.all fitsBigint = true) ↔
      (∀ read ∈ ns.readsOnly, read.version.all fitsBigint = true) ∧
        (∀ rw ∈ ns.readWrites, rw.version.all fitsBigint = true) ∧
          (ns.nsId ≠ configNamespaceID → ns.nsId ≠ checkpointNamespaceID →
            fitsBigint ns.nsVersion = true) := by
  rw [← fits_versionRead_iff, namespaceEvents, forall_mem_append,
    forall_mem_append, List.forall_mem_map, List.forall_mem_map,
    List.forall_mem_map]
  rfl

theorem representable_iff (codec : SnapshotCodec) (tx : VcTx) :
    Representable tx ↔
      ∀ event ∈ expandedTxEvents (expandTx codec tx), event.read.version.all fitsBigint = true := by
  by_cases unspoiled : tx.prelimInvalidTxStatus = none
  · have all :
        preparedNamespaces (expandTx codec tx) = tx.namespaces.map (expandNamespace codec tx.ref) :=
      preparedNamespaces_of_valid unspoiled
    rw [Representable, expandedTxEvents, all, forall_mem_flatMap, List.forall_mem_map]
    have each :
        ∀ ns : TxNamespace,
          (∀ event ∈
              expandedEvents tx.ref.txId (expandNamespace codec tx.ref ns),
              event.read.version.all fitsBigint = true) ↔
            (ns.nsId ≠ snapshotNamespaceID →
              ∀ event ∈ namespaceEvents tx.ref.txId ns,
                event.read.version.all fitsBigint = true) := by
      intro ns
      by_cases snapshot : ns.nsId = snapshotNamespaceID
      · rw [expandNamespace, if_pos snapshot, expandedEvents, if_pos rfl]
        simp [snapshot, readOf]
      · rw [expandNamespace, if_neg snapshot, expandedEvents, if_neg snapshot]
        simp only [ne_eq, snapshot, not_false_eq_true, forall_true_left]
    simp only [unspoiled, forall_true_left, expandTx_ref, each, fits_namespaceEvents_iff]
  · have nothing : preparedNamespaces (expandTx codec tx) = [] := by
      rw [preparedNamespaces, if_neg]
      intro isNone
      exact unspoiled (isNone_iff_eq_none.mp isNone)
    rw [Representable, expandedTxEvents, nothing]
    simp [unspoiled]

/-- A representable version read together with an unrepresentable one is that of
an absent key. -/
theorem version_none_of_sameCmp
    {nsId otherNs : Bytes} {read other : Read} (fits : read.version.all fitsBigint = true)
    (otherUnfit : other.version.all fitsBigint ≠ true)
    (equal : newCmpRead nsId read = newCmpRead otherNs other) :
    read.version = none := by
  obtain ⟨key, version⟩ := read
  obtain ⟨otherKey, otherVersion⟩ := other
  cases version with
  | none => rfl
  | some number =>
    cases otherVersion with
    | none => exact absurd rfl otherUnfit
    | some otherNumber =>
      simp only [newCmpRead, CmpRead.mk.injEq] at equal
      have signed := toInt_eq_toNat fits
      have large : ¬ otherNumber.toNat < 2 ^ 63 := by
        intro small
        exact otherUnfit (decide_eq_true small)
      have negative : otherNumber.toBitVec.toInt < 0 := by
        have asNat : otherNumber.toBitVec.toNat = otherNumber.toNat := rfl
        rw [BitVec.toInt_eq_toNat_cond, asNat]
        split
        · omega
        · omega
      omega

def Incrementable (version : UInt64) : Prop := version.toNat + 1 < bigintLimit

variable {version : UInt64}

theorem fits_succ (incrementable : Incrementable version) : fitsBigint (version + 1) = true := by
  have small : version.toNat + 1 < 2 ^ 63 := incrementable
  have one : (1 : UInt64).toNat = 1 := rfl
  apply decide_eq_true
  rw [bigintLimit, UInt64.toNat_add, one]
  omega

/-- Every row of the database can be written once more. -/
def Unsaturated (db : Database) : Prop :=
  ∀ nsId key row, db.row nsId key = some row → row.version + 1 < bigintLimit

variable {db : Database}

theorem incrementable_of_match (unsaturated : Unsaturated db) {nsId : Bytes} {read : Read}
    (matched : readMismatch db nsId read = false) (isVersion : read.version = some version) :
    Incrementable version := by
  rw [readMismatch, isVersion] at matched
  split at matched
  · contradiction
  · rename_i row number stored same
    cases same
    have sameVersion : row.version = version.toNat := by simpa using matched
    rw [Incrementable, ← sameVersion]
    exact unsaturated nsId read.key row stored
  · cases matched

theorem incrementable_of_queried (unsaturated : Unsaturated db) {nsId : Bytes}
    {queryKeys : List Bytes} {versions : Bytes → Option UInt64}
    (queried : queryVersionsIfPresent db nsId queryKeys = some versions)
    {key : Bytes} (isVersion : versions key = some version) :
    Incrementable version := by
  rw [queryVersionsIfPresent] at queried
  split at queried
  · cases queried
    dsimp only at isVersion
    split at isVersion
    · obtain ⟨row, stored, same⟩ := map_eq_some_iff.mp isVersion
      have bounded := unsaturated nsId key row stored
      rw [bigintLimit] at bounded
      rw [← same, Incrementable, UInt64.toNat_ofNat', bigintLimit]
      omega
    · cases isVersion
  · cases queried

/-! ## Updates are only dropped -/

def FewerUpdates (v next : ValidatedTransactions) : Prop :=
  ∀ id entry, entry ∈ next.validTxNonBlindWrites id → entry ∈ v.validTxNonBlindWrites id

def UpdatesFit (v : ValidatedTransactions) : Prop :=
  ∀ id, ∀ entry ∈ v.validTxNonBlindWrites id, fitsBigint entry.version = true

variable {conflicts : List (Bytes × Read)} {entry : WriteEntry}

section

variable {codec : SnapshotCodec} {attempts : Nat}
  {v next : ValidatedTransactions}

theorem UpdatesFit.of_fewer (fit : UpdatesFit v) (fewer : FewerUpdates v next) : UpdatesFit next :=
  fun id entry mem => fit id entry (fewer id entry mem)

theorem mem_updates_updateInvalidTxs {txIDs : List Bytes} {status : Status} {id : Bytes}
    (mem : entry ∈ (updateInvalidTxs v txIDs status).validTxNonBlindWrites id) :
    id ∉ txIDs ∧ entry ∈ v.validTxNonBlindWrites id := by
  simp only [updateInvalidTxs, TransactionToWrites.deleteAll] at mem
  split at mem
  · cases mem
  · rename_i outside
    exact ⟨outside, mem⟩

theorem fewer_updateInvalidTxs (v : ValidatedTransactions) (txIDs : List Bytes) (status : Status) :
    FewerUpdates v (updateInvalidTxs v txIDs status) :=
  fun _ _ mem => (mem_updates_updateInvalidTxs mem).2

theorem mem_updates_invalidateTxsOnReadConflicts
    (invalidated : invalidateTxsOnReadConflicts v conflicts = some next)
    {id : Bytes} (mem : entry ∈ next.validTxNonBlindWrites id) :
    entry ∈ v.validTxNonBlindWrites id ∧
      ∀ conflict ∈ conflicts, id ∉ v.readToTxIDs (newCmpRead conflict.1 conflict.2) := by
  induction conflicts generalizing v with
  | nil =>
    cases invalidated
    exact ⟨mem, fun _ inside => nomatch inside⟩
  | cons conflict rest ih =>
    obtain ⟨current, stepped, continued⟩ := bind_eq_some_iff.mp invalidated
    dsimp only at stepped
    split at stepped
    · cases stepped
    · cases stepped
      obtain ⟨inCurrent, outside⟩ := ih continued
      obtain ⟨unread, before⟩ := mem_updates_updateInvalidTxs inCurrent
      exact ⟨before, forall_mem_cons.mpr ⟨unread, outside⟩⟩

theorem fewer_invalidateTxsOnReadConflicts
    (invalidated : invalidateTxsOnReadConflicts v conflicts = some next) :
    FewerUpdates v next :=
  fun _ _ mem => (mem_updates_invalidateTxsOnReadConflicts invalidated mem).1

theorem fewer_rejectSnapshot (gated : rejectSnapshotIfPriorNotCheckpointed codec db v = some next) :
    FewerUpdates v next := by
  rcases rejectSnapshot_cases gated with rfl | ⟨id, write, status, _, rfl⟩
  · exact fun _ _ mem => mem
  · exact fewer_updateInvalidTxs v _ _

theorem fewer_rejectCheckpoint {after : Database}
    (verified : rejectCheckpointIfNotVerified codec attempts db v = some (next, after)) :
    FewerUpdates v next := by
  rcases rejectCheckpoint_cases verified with rfl | ⟨cp, verdict, _, _, rfl | ⟨feedback, _, rfl⟩⟩
  · exact fun _ _ mem => mem
  · exact fewer_updateInvalidTxs v _ _
  · exact fun _ _ mem => mem

theorem updates_createSnapshot
    {after : Database} (created : createSnapshotIfPresent codec db v = some (next, after)) :
    next.validTxNonBlindWrites = v.validTxNonBlindWrites := by
  obtain ⟨_, rfl | ⟨id, write, value, _, rfl⟩⟩ := createSnapshot_cases created
  · rfl
  · rfl

theorem updatesFit_categorizeBlindWrites
    {state : Bytes → Bytes → Option UInt64} (fit : UpdatesFit v)
    (incrementable : ∀ nsId key version, state nsId key = some version → Incrementable version) :
    UpdatesFit (categorizeBlindWrites state v) := by
  intro id entry mem
  rcases mem_append.mp mem with before | blind
  · exact fit id entry before
  · obtain ⟨source, _, isEntry⟩ := mem_filterMap.mp blind
    obtain ⟨version, present, same⟩ := map_eq_some_iff.mp isEntry
    rw [← same]
    exact fits_succ (incrementable _ _ _ present)

end

/-! ## The versions along the passage of a batch -/

section

variable {codec : SnapshotCodec} {attempts : Nat} {batch : List VcTx}
  {p : PreparedTransactions}

/-- The reads compared so far conflict or state a version that can be
incremented, and the updates are `BIGINT` values from then on. -/
def VersionsBelow (p : PreparedTransactions) : Stage → Prop
  | .validating q pending conflicts =>
    q = p ∧
      ∀ entry ∈ p.nsToReads,
        entry.1 ∈ pending ∨ entry ∈ conflicts ∨
          ∀ version, entry.2.version = some version → Incrementable version
  | .resolving v _ state =>
    UpdatesFit v ∧ ∀ nsId key version, state nsId key = some version → Incrementable version
  | .committing v _ => UpdatesFit v
  | .correcting _ => True

variable {event : ReadEvent}

theorem validated_of_version {id : Bytes} {ns : TxNamespace} (mem : event ∈ expandedEvents id ns)
    (versioned : event.read.version ≠ none) :
    event.validated = true := by
  have ofReadWrites :
      event ∈
          ns.readWrites.map (fun rw => (⟨id, ns.nsId, readOf rw, rw.version.isSome⟩ : ReadEvent)) →
        event.validated = true := by
    intro inside
    obtain ⟨rw, _, same⟩ := List.mem_map.mp inside
    rw [← same] at versioned ⊢
    exact isSome_iff_ne_none.mpr versioned
  rw [expandedEvents] at mem
  split at mem
  · exact ofReadWrites mem
  · rcases mem_append.mp mem with readOnly | rest
    · obtain ⟨read, _, same⟩ := List.mem_map.mp readOnly
      rw [← same]
    · rcases mem_append.mp rest with readWrite | version
      · exact ofReadWrites readWrite
      · obtain ⟨entry, _, same⟩ := List.mem_map.mp version
        rw [← same]

theorem event_of_update (id : Bytes) {ns : TxNamespace} (mem : entry ∈ updateEntries ns) :
    ∃ event ∈ expandedEvents id ns, ∃ version,
      event.read.version = some version ∧ entry.version = version + 1 := by
  obtain ⟨rw, inside, isEntry⟩ := mem_filterMap.mp mem
  obtain ⟨version, isVersion, same⟩ := map_eq_some_iff.mp isEntry
  refine ⟨⟨id, ns.nsId, readOf rw, rw.version.isSome⟩, ?_, version, isVersion,
    by rw [← same]⟩
  have inReadWrites := List.mem_map_of_mem (f := fun rw =>
    (⟨id, ns.nsId, readOf rw, rw.version.isSome⟩ : ReadEvent)) inside
  rw [expandedEvents]
  split
  · exact inReadWrites
  · exact mem_append_right _ (mem_append_left _ inReadWrites)

theorem fits_of_event (representable : ∀ tx ∈ batch, Representable tx)
    (mem : event ∈ (batch.map (expandTx codec)).flatMap expandedTxEvents) :
    event.read.version.all fitsBigint = true := by
  obtain ⟨expanded, isExpanded, inside⟩ := mem_flatMap.mp mem
  obtain ⟨tx, inBatch, same⟩ := List.mem_map.mp isExpanded
  subst same
  exact (representable_iff codec tx).mp (representable tx inBatch) event inside

section

variable (preparedAs : PreparedAs codec batch p)
  (representable : ∀ tx ∈ batch, Representable tx)

include preparedAs representable

theorem fits_of_listed {entry : Bytes × Read} (listed : entry ∈ p.nsToReads) :
    entry.2.version.all fitsBigint = true := by
  rw [preparedAs.listed] at listed
  obtain ⟨event, inEvents, _, isEntry⟩ := listed_indexOf listed
  rw [← isEntry]
  exact fits_of_event representable inEvents

theorem listed_of_event (mem : event ∈ (batch.map (expandTx codec)).flatMap expandedTxEvents)
    (isVersion : event.read.version = some version) :
    (event.nsId, event.read) ∈ p.nsToReads := by
  rw [preparedAs.listed]
  rcases covered_indexOf mem with ⟨entry, listed, sameCmp⟩ | isHidden
  · have fits := fits_of_listed preparedAs representable (preparedAs.listed ▸ listed)
    obtain ⟨sameNs, sameRead⟩ := newCmpRead_injective fits (fits_of_event representable mem) sameCmp
    rw [← sameNs, ← sameRead]
    exact listed
  · obtain ⟨first, isFirst, unvalidated⟩ := hidden_iff.mp isHidden
    obtain ⟨firstMem, sameCmp⟩ := mem_of_firstEvent isFirst
    obtain ⟨_, sameRead⟩ :=
      newCmpRead_injective
        (fits_of_event representable firstMem)
        (fits_of_event representable mem) sameCmp
    have validated : first.validated = true := by
      obtain ⟨source, _, inSource⟩ := mem_flatMap.mp firstMem
      obtain ⟨ns, _, inNs⟩ := mem_flatMap.mp inSource
      apply validated_of_version inNs
      rw [sameRead, isVersion]
      exact some_ne_none version
    rw [validated] at unvalidated
    cases unvalidated

end

theorem updatesFit_of_conflicts
    (preparedAs : PreparedAs codec batch p) (representable : ∀ tx ∈ batch, Representable tx)
    (compared :
      ∀ entry ∈ p.nsToReads,
        entry ∈ conflicts ∨ ∀ version, entry.2.version = some version → Incrementable version)
    {v : ValidatedTransactions}
    (invalidated : invalidateTxsOnReadConflicts (.ofPrepared p) conflicts = some v) :
    UpdatesFit v := by
  intro id entry mem
  obtain ⟨before, unread⟩ := mem_updates_invalidateTxsOnReadConflicts invalidated mem
  change entry ∈ p.txIDToNsNonBlindWrites id at before
  rw [preparedAs.updates] at before
  obtain ⟨expanded, isExpanded, inside⟩ := mem_flatMap.mp before
  obtain ⟨tx, inBatch, same⟩ := List.mem_map.mp isExpanded
  subst same
  split at inside
  · rename_i sameId
    obtain ⟨ns, nsMem, entryMem⟩ := mem_flatMap.mp inside
    obtain ⟨event, eventMem, version, isVersion, isEntry⟩ :=
      event_of_update (expandTx codec tx).ref.txId entryMem
    have inTx : event ∈ expandedTxEvents (expandTx codec tx) :=
      mem_flatMap.mpr ⟨ns, nsMem, eventMem⟩
    have listed :=
      listed_of_event preparedAs representable
        (mem_flatMap.mpr ⟨_, List.mem_map_of_mem inBatch, inTx⟩) isVersion
    rcases compared _ listed with conflicting | incrementable
    · refine absurd ?_ (unread _ conflicting)
      exact preparedAs.mem_readers.mpr ⟨tx, inBatch, sameId, event, inTx, rfl⟩
    · rw [isEntry]
      exact fits_succ (incrementable version isVersion)
  · cases inside

theorem updatesFit_finishValidation {after : Database} {v : ValidatedTransactions}
    (fit :
      ∀ current,
        invalidateTxsOnReadConflicts (.ofPrepared p) conflicts = some current → UpdatesFit current)
    (finished : finishValidation codec attempts db p conflicts = some (v, after)) :
    UpdatesFit v := by
  rw [finishValidation] at finished
  split at finished
  · cases finished
  rename_i first invalidated
  split at finished
  · cases finished
  rename_i second gated
  exact
    ((fit first invalidated).of_fewer (fewer_rejectSnapshot gated)).of_fewer
      (fewer_rejectCheckpoint finished)

theorem versionsBelow_of_advanced
    (preparedAs : PreparedAs codec batch p) (representable : ∀ tx ∈ batch, Representable tx)
    {store after : Store} {stage next : Stage} {access : Access}
    (unsaturated : Unsaturated store.db) (below : VersionsBelow p stage)
    (advanced : Advanced codec attempts store stage access after (some next)) :
    VersionsBelow p next := by
  cases advanced with
  | @validateNamespace q nsId pending conflicts found queried =>
    obtain ⟨isPrepared, compared⟩ := below
    subst isPrepared
    refine ⟨rfl, ?_⟩
    intro entry listed
    rcases compared entry listed with isPending | conflicting | fine
    · rcases mem_cons.mp isPending with isThis | later
      · right
        rw [validateNamespaceReads] at queried
        split at queried
        · cases queried
          cases mismatch : readMismatch store.db nsId entry.2 with
          | true =>
            left
            apply mem_append_right
            refine List.mem_map.mpr ⟨entry.2, ?_, by rw [← isThis]⟩
            apply mem_filter.mpr
            exact ⟨mem_readsOfNamespace.mpr (isThis ▸ listed), mismatch⟩
          | false =>
            right
            intro version isVersion
            exact incrementable_of_match unsaturated mismatch isVersion
        · cases queried
      · exact .inl later
    · exact .inr (.inl (mem_append_left _ conflicting))
    · exact .inr (.inr fine)
  | finishValidation finished =>
    obtain ⟨isPrepared, compared⟩ := below
    subst isPrepared
    constructor
    · apply updatesFit_finishValidation _ finished
      intro current invalidated
      apply updatesFit_of_conflicts preparedAs representable _ invalidated
      intro entry listed
      rcases compared entry listed with isPending | rest
      · cases isPending
      · exact rest
    · intro nsId key version absent
      cases absent
  | @queryNamespace v nsId pending state versions queried =>
    refine ⟨below.1, ?_⟩
    intro otherNs key version present
    by_cases same : otherNs = nsId
    · rw [same, Function.update_self] at present
      exact incrementable_of_queried unsaturated queried present
    · rw [Function.update_of_ne same] at present
      exact below.2 otherNs key version present
  | categorize created =>
    intro id entry mem
    rw [updates_createSnapshot created] at mem
    exact updatesFit_categorizeBlindWrites below.1 below.2 id entry mem
  | committed attempted =>
    split
    · trivial
    · exact below
  | duplicates attempted => exact UpdatesFit.of_fewer below (fewer_updateInvalidTxs _ _ _)
  | conflicts attempted invalidated =>
    exact UpdatesFit.of_fewer below (fewer_invalidateTxsOnReadConflicts invalidated)

theorem versionsBelow_pass (preparedAs : PreparedAs codec batch p)
    (representable : ∀ tx ∈ batch, Representable tx) {accesses : List (Database × Access)}
    (unsaturated : ∀ access ∈ accesses, Unsaturated access.1) :
    ∀ {stage final : Stage}, VersionsBelow p stage →
      pass codec attempts stage accesses = some final → VersionsBelow p final := by
  induction accesses with
  | nil =>
    intro stage final below passed
    cases passed
    exact below
  | cons entry rest ih =>
    intro stage final below passed
    obtain ⟨result, advanced, continued⟩ := bind_eq_some_iff.mp passed
    obtain ⟨next, isNext, remainder⟩ := bind_eq_some_iff.mp continued
    have inverted := advanced_of_advance advanced
    rw [isNext] at inverted
    obtain ⟨first, later⟩ := forall_mem_cons.mp unsaturated
    exact
      ih later
        (versionsBelow_of_advanced preparedAs representable first below inverted)
        remainder

end

/-! ## Versions that stop a batch -/

/-- What a prepared batch hands to the database.  The comparison of its reads
is answered, a read of a version that no row can have is found in conflict and
its transaction aborted, and every commit attempt updates rows to `BIGINT`
versions, whatever other batches do in between, as long as each row can be
written once more. -/
structure Harmless (codec : SnapshotCodec) (attempts : Nat) (batch : List VcTx)
    (p : PreparedTransactions) : Prop where
  compared : ∀ entry ∈ p.nsToReads, entry.2.version.all fitsBigint = true
  refuted :
    ∀ db conflicts, validateReads db p.nsToReads = some conflicts →
      ∀ tx ∈ batch, ∀ event ∈ expandedTxEvents (expandTx codec tx),
        event.read.version.all fitsBigint ≠ true →
          (∃ conflict ∈ conflicts, newCmpRead conflict.1 conflict.2 = event.cmp) ∧
            ∀ v,
              invalidateTxsOnReadConflicts (.ofPrepared p) conflicts = some v →
                v.invalidTxStatus tx.ref.txId = some .abortedMvccConflict
  updated :
    ∀ accesses v retries,
      (∀ access ∈ accesses, Unsaturated access.1) →
        pass codec attempts (startValidation p) accesses = some (.committing v retries) →
          ∀ entry ∈ (statesOf v).updateWrites, fitsBigint entry.version = true

def emptyDatabase : Database where
  hasTable := fun _ => true
  row := fun _ _ => none
  txStatus := fun _ => none
  latestSnapshotKey := []
  snapshotDatabases := fun _ => false
  rowsInTables := fun _ _ _ => rfl

/-- The reads of a prepared batch and its updates are harmless exactly if the
versions of its transactions are `BIGINT` values. -/
theorem harmless_iff_representable (codec : SnapshotCodec) (attempts : Nat) {batch : List VcTx}
    {p : PreparedTransactions} (prepared : prepare codec batch = some p) :
    Harmless codec attempts (firstCopies batch) p ↔ ∀ tx ∈ firstCopies batch, Representable tx := by
  have preparedAs := preparedAs_of_prepare prepared
  constructor
  · intro harmless tx member
    rw [representable_iff codec]
    intro event inside
    by_contra unfit
    have served : ReadsServed emptyDatabase p.nsToReads := ⟨fun _ _ => rfl, harmless.compared⟩
    obtain ⟨conflicts, isConflicts, conflictsIff⟩ := validateReads_eq served
    obtain ⟨⟨conflict, isConflict, sameCmp⟩, _⟩ :=
      harmless.refuted emptyDatabase conflicts isConflicts tx member event inside unfit
    obtain ⟨listed, mismatch⟩ := (conflictsIff conflict).mp isConflict
    have absent := version_none_of_sameCmp (harmless.compared conflict listed) unfit sameCmp
    rw [readMismatch, absent] at mismatch
    cases mismatch
  · intro representable
    refine
      { compared := fun entry => fits_of_listed preparedAs representable
        refuted := ?_
        updated := ?_ }
    · intro db conflicts _ tx member event inside unfit
      exact
        absurd
          ((representable_iff codec tx).mp (representable tx member) event inside)
          unfit
    · intro accesses v retries unsaturated passed entry member
      have start : VersionsBelow p (startValidation p) :=
        ⟨rfl, fun entry listed => .inl (mem_readNamespaces listed)⟩
      have fit := versionsBelow_pass preparedAs representable unsaturated start passed
      obtain ⟨id, _, inside⟩ := mem_flatMap.mp member
      exact fit id entry inside

theorem update_of_row_harmless :
    ∃ p,
      prepare countingCodec [readWriteTx 1 [1] (some 5)] = some p ∧
        Harmless countingCodec 1 (firstCopies [readWriteTx 1 [1] (some 5)]) p := by
  have succeeds : (prepare countingCodec [readWriteTx 1 [1] (some 5)]).isSome = true := by
    decide +kernel
  obtain ⟨p, prepared⟩ := isSome_iff_exists.mp succeeds
  exact ⟨p, prepared, (harmless_iff_representable countingCodec 1 prepared).mpr (by decide +kernel)⟩

/-- An accepted read-write of the version `2 ^ 63` makes the batch fail, together
with an insertion that would be committed. -/
theorem unrepresentable_version_stops_batch :
    (∀ tx ∈ [readWriteTx 1 [2] none, readWriteTx 2 [1] (some (2 ^ 63))],
        verifyTxForm permissivePlatform
            ⟨tx.namespaces, [some [some [1]]]⟩ = statusNotYetValidated) ∧
      outcome (singleRowDatabase 5) (readWriteTx 1 [2] none) = .committed ∧
        outcome (singleRowDatabase 5) (readWriteTx 2 [1] (some (2 ^ 63))) = .abortedMvccConflict ∧
          (prepare countingCodec [readWriteTx 1 [2] none, readWriteTx 2 [1] (some (2 ^ 63))]).bind
              (fun p => validateReads (singleRowDatabase 5) p.nsToReads) =
            none ∧
            processBatch countingCodec 1 (singleRowDatabase 5)
                [readWriteTx 1 [2] none, readWriteTx 2 [1] (some (2 ^ 63))] = none := by
  refine ⟨by decide +kernel, by decide +kernel, by decide +kernel,
    by decide +kernel, ?_⟩
  decide +kernel

end FabricXCommitter.VC.Instances
