import FabricXCommitter.VC.DistinctReads
import FabricXCommitter.VC.SnapshotInvariant

/-!
# The rounds of a commit

If the reader of an inserted key is always its writer, the third attempt is not rejected.
-/

namespace FabricXCommitter.VC

open Library List Function

/-- The database after an attempt; a rejected one is rolled back. -/
def CommitResult.after (db : Database) : CommitResult → Database
  | .committed next => next
  | .duplicates _ => db
  | .conflicts _ => db

def CommitResult.isRejected : CommitResult → Bool
  | .committed _ => false
  | .duplicates _ => true
  | .conflicts _ => true

section

variable (codec : SnapshotCodec)

/-- The results of the attempts of `commitLoop` with the databases after them.
A missing result is an error of the database. -/
def attempts : Nat → Database → ValidatedTransactions → List (Option CommitResult × Database)
  | 0, _, _ => []
  | retries + 1, db, v =>
    match commit codec db (statesOf v) with
    | none => [(none, db)]
    | some (.committed next) => [(some (.committed next), next)]
    | some (.duplicates txIDs) =>
      let db := (CommitResult.duplicates txIDs).after db
      (some (.duplicates txIDs), db) ::
        attempts retries db (updateInvalidTxs v txIDs .rejectedDuplicateTxId)
    | some (.conflicts reads) =>
      let db := (CommitResult.conflicts reads).after db
      (some (.conflicts reads), db) ::
        match invalidateTxsOnReadConflicts v reads with
        | none => []
        | some v => attempts retries db v

def commitAttempts (db : Database) (v : ValidatedTransactions) :
    Option (List (Option CommitResult × Database)) :=
  match populateVersionsAndCategorizeBlindWrites db v with
  | none => none
  | some v =>
    match createSnapshotIfPresent codec db v with
    | none => none
    | some (v, db) => some (attempts codec maxRetriesToRemoveAllInvalidTxs db v)

/-- The attempts end with a commit after a bounded number of rejected ones, each
of which leaves the database as it was. -/
structure CommitsWithin (bound : Nat) (db next : Database)
    (results : List (Option CommitResult × Database)) : Prop where
  shape :
    ∃ rejected, results = rejected ++ [(some (.committed next), next)] ∧
      rejected.length ≤ bound ∧
        ∀ attempt ∈ rejected, ∃ result, attempt = (some result, db) ∧ result.isRejected = true

/-- The loop ends within some rejected attempts, unless the database returns an
error. -/
def EndsWithin (bound retries : Nat) (db : Database) (v : ValidatedTransactions) : Prop :=
  (∃ attempt ∈ attempts codec retries db v, attempt.1 = none) ∨
    ∃ next statuses feedback,
      CommitsWithin bound db next (attempts codec retries db v) ∧
        commitLoop codec db retries v = some (statuses, feedback, next)

end

theorem CommitsWithin.cons
    {bound : Nat} {db next : Database} {results : List (Option CommitResult × Database)}
    (within : CommitsWithin bound db next results) {result : CommitResult}
    (isRejected : result.isRejected = true) :
    CommitsWithin (bound + 1) db next ((some result, db) :: results) := by
  obtain ⟨rejected, isResults, fewer, each⟩ := within.shape
  refine ⟨(some result, db) :: rejected, ?_, ?_, ?_⟩
  · rw [isResults, cons_append]
  · rw [length_cons]
    omega
  · intro attempt mem
    rcases mem_cons.mp mem with isFirst | later
    · exact ⟨result, isFirst, isRejected⟩
    · exact each attempt later

theorem CommitsWithin.mono
    {bound larger : Nat} {db next : Database} {results : List (Option CommitResult × Database)}
    (within : CommitsWithin bound db next results) (atMost : bound ≤ larger) :
    CommitsWithin larger db next results := by
  obtain ⟨rejected, isResults, fewer, each⟩ := within.shape
  exact ⟨rejected, isResults, Nat.le_trans fewer atMost, each⟩

section

variable {codec : SnapshotCodec} {bound retries : Nat} {db : Database}
  {v next : ValidatedTransactions}
  {txIDs : List Bytes} {reads : List (Bytes × Read)} {id : Bytes} {entry : WriteEntry}
  {after : Database}

theorem EndsWithin.mono {larger : Nat} (ends : EndsWithin codec bound retries db v)
    (atMost : bound ≤ larger) : EndsWithin codec larger retries db v := by
  rcases ends with failed | ⟨after, statuses, feedback, within, looped⟩
  · exact .inl failed
  · exact .inr ⟨after, statuses, feedback, within.mono atMost, looped⟩

theorem endsWithin_duplicates (attempted : commit codec db (statesOf v) = some (.duplicates txIDs))
    (ends : EndsWithin codec bound retries db (updateInvalidTxs v txIDs .rejectedDuplicateTxId)) :
    EndsWithin codec (bound + 1) (retries + 1) db v := by
  rw [EndsWithin, attempts, commitLoop, attempted]
  rcases ends with ⟨attempt, mem, failed⟩ | ⟨after, statuses, feedback, within, looped⟩
  · exact .inl ⟨attempt, mem_cons_of_mem _ mem, failed⟩
  · exact .inr ⟨after, statuses, feedback, within.cons rfl, looped⟩

theorem endsWithin_conflicts (attempted : commit codec db (statesOf v) = some (.conflicts reads))
    (invalidated : invalidateTxsOnReadConflicts v reads = some next)
    (ends : EndsWithin codec bound retries db next) :
    EndsWithin codec (bound + 1) (retries + 1) db v := by
  rw [EndsWithin, attempts, commitLoop, attempted]
  dsimp only
  rw [invalidated]
  rcases ends with ⟨attempt, mem, failed⟩ | ⟨after, statuses, feedback, within, looped⟩
  · exact .inl ⟨attempt, mem_cons_of_mem _ mem, failed⟩
  · exact .inr ⟨after, statuses, feedback, within.cons rfl, looped⟩

theorem endsWithin_committed {committed : Database}
    (attempted : commit codec db (statesOf v) = some (.committed committed)) :
    EndsWithin codec 0 (retries + 1) db v := by
  rw [EndsWithin, attempts, commitLoop, attempted]
  refine .inr ⟨committed, _, _, ⟨[], rfl, Nat.le_refl 0, ?_⟩, rfl⟩
  intro attempt mem
  cases mem

theorem endsWithin_failed (attempted : commit codec db (statesOf v) = none) :
    EndsWithin codec 0 (retries + 1) db v := by
  rw [EndsWithin, attempts, attempted]
  exact .inl ⟨(none, db), mem_singleton_self _, rfl⟩

/-! ## What an attempt reports -/

theorem consistent_of_nodup (distinct : v.txIDs.Nodup) : ConsistentStates (statesOf v) where
  heights := by
    intro s mem
    obtain ⟨id, _, found⟩ := mem_filterMap.mp mem
    split at found
    · rename_i status height _ known
      cases found
      exact known
    · cases found
  distinct := by
    have sublist : ((prepareStatusForCommit v).map fun s => s.ref.txId).Sublist v.txIDs := by
      rw [prepareStatusForCommit]
      induction v.txIDs with
      | nil => exact List.Sublist.refl _
      | cons id rest ih =>
        cases reported : reportedStatus v id with
        | none => simpa [reported] using ih.cons id
        | some status =>
          cases known : v.txIDToHeight id with
          | none => simpa [reported, known] using ih.cons id
          | some height =>
            simpa [reported, known] using List.Sublist.cons_cons id ih
    exact distinct.sublist sublist

/-- The attempt inserts a status for the transaction. -/
structure Enters (v : ValidatedTransactions) (id : Bytes) : Prop where
  listed : id ∈ v.txIDs
  known : (v.txIDToHeight id).isSome = true
  reported : ∃ status, reportedStatus v id = some status ∧ status ≠ .rejectedDuplicateTxId

theorem enters_iff : Enters v id ↔ id ∈ (statusEntries (statesOf v).batchStatus).map Prod.fst := by
  simp only [statusEntries, statesOf, prepareStatusForCommit, mem_map, mem_filter, mem_filterMap]
  constructor
  · intro enters
    obtain ⟨status, reported, other⟩ := enters.reported
    obtain ⟨height, known⟩ := Option.isSome_iff_exists.mp enters.known
    refine
      ⟨_, ⟨⟨⟨id, height.blockNum, height.txNum⟩, status⟩,
        ⟨⟨id, enters.listed, ?_⟩, by simpa using other⟩, rfl⟩, rfl⟩
    rw [reported, known]
  · intro found
    obtain ⟨entry, ⟨s, ⟨⟨other, listed, made⟩, kept⟩, isEntry⟩, isId⟩ := found
    split at made
    · rename_i status height reported known
      cases made
      subst isEntry
      subst isId
      exact ⟨listed, by rw [known]; rfl, status, reported, by simpa using kept⟩
    · cases made

/-- No inserted status is that of a recorded transaction. -/
def Unrecorded (db : Database) (v : ValidatedTransactions) : Prop :=
  ∀ id, Enters v id → db.txStatus id = none

theorem Unrecorded.entries (unrecorded : Unrecorded db v) :
    ∀ entry ∈ statusEntries (statesOf v).batchStatus, db.txStatus entry.1 = none := by
  intro entry mem
  exact unrecorded entry.1 (enters_iff.mpr (mem_map_of_mem mem))

/-- No inserted row exists. -/
def Absent (db : Database) (v : ValidatedTransactions) : Prop :=
  ∀ id ∈ v.txIDs, ∀ entry ∈ v.newWrites id, db.row entry.nsId entry.key = none

theorem mem_newWrites_iff :
    entry ∈ (statesOf v).newWrites ↔ ∃ id ∈ v.txIDs, entry ∈ v.newWrites id :=
  mem_flatMap

theorem not_duplicates_of_unrecorded (distinct : v.txIDs.Nodup) (unrecorded : Unrecorded db v) :
    commit codec db (statesOf v) ≠ some (.duplicates txIDs) := by
  intro attempted
  obtain ⟨someId, recorded, inserted⟩ := commit_eq_duplicates attempted
  rw [insertTxStatus_fresh (consistent_of_nodup distinct) unrecorded.entries] at inserted
  cases inserted
  exact someId rfl

theorem conflicts_iff (distinct : v.txIDs.Nodup) (unrecorded : Unrecorded db v)
    (attempted : commit codec db (statesOf v) = some (.conflicts reads)) :
    ∀ read, read ∈ reads ↔
      ∃ id ∈ v.txIDs, ∃ entry ∈ v.newWrites id,
        read = (entry.nsId, ⟨entry.key, none⟩) ∧ (db.row entry.nsId entry.key).isSome = true := by
  obtain ⟨someRead, recorded, found, next, isRecorded, inserted, same⟩ :=
    commit_eq_conflicts attempted
  rw [insertTxStatus_fresh (consistent_of_nodup distinct) unrecorded.entries,
    Database.recordAll_eq] at isRecorded
  cases isRecorded
  have tables := tables_of_insertStates inserted
  obtain ⟨_, _, specified, foundIff⟩ := insertStates_spec tables
  rw [inserted] at specified
  cases specified
  intro read
  rw [same, mem_map]
  constructor
  · intro listed
    obtain ⟨pair, isPair, isRead⟩ := listed
    obtain ⟨written, present⟩ := (foundIff pair).mp isPair
    obtain ⟨entry, isEntry, samePair⟩ := mem_map.mp written
    obtain ⟨id, isId, ofId⟩ := mem_newWrites_iff.mp isEntry
    rw [← samePair] at isRead present
    exact ⟨id, isId, entry, ofId, isRead.symm, present⟩
  · intro listed
    obtain ⟨id, isId, entry, ofId, isRead, present⟩ := listed
    refine ⟨entry.pair, (foundIff entry.pair).mpr ⟨?_, present⟩, isRead.symm⟩
    exact mem_map_of_mem (mem_newWrites_iff.mpr ⟨id, isId, ofId⟩)

/-! ## Readers of inserted keys -/

/-- The transaction that inserts a key is the only reader of its absence, as far
as the key may exist, and invalidated transactions insert nothing. -/
structure Insertions (present : Bytes → Bytes → Prop) (v : ValidatedTransactions) : Prop where
  distinct : v.txIDs.Nodup
  readers :
    ∀ id, ∀ entry ∈ v.newWrites id, present entry.nsId entry.key →
      ∀ other, other ∈ v.readToTxIDs (newCmpRead entry.nsId ⟨entry.key, none⟩) ↔ other = id
  valid :
    ∀ id, ∀ entry ∈ v.newWrites id ++ v.validTxBlindWrites id,
      id ∈ v.txIDs ∧ v.invalidTxStatus id = none

def Database.Present (db : Database) (nsId key : Bytes) : Prop := (db.row nsId key).isSome = true

variable {present : Bytes → Bytes → Prop}

theorem mem_deleteAll {writes : TransactionToWrites} :
    entry ∈ writes.deleteAll txIDs id ↔ id ∉ txIDs ∧ entry ∈ writes id := by
  by_cases mem : id ∈ txIDs <;> simp [TransactionToWrites.deleteAll, mem]

theorem Insertions.updateInvalidTxs
    (insertions : Insertions present v) (txIDs : List Bytes) (status : Status) :
    Insertions present (updateInvalidTxs v txIDs status) where
  distinct := insertions.distinct
  readers := by
    intro id entry mem
    exact insertions.readers id entry (mem_deleteAll.mp mem).2
  valid := by
    intro id entry mem
    have kept : id ∉ txIDs ∧ entry ∈ v.newWrites id ++ v.validTxBlindWrites id := by
      rcases mem_append.mp mem with isNew | isBlind
      · obtain ⟨outside, before⟩ := mem_deleteAll.mp isNew
        exact ⟨outside, mem_append_left _ before⟩
      · obtain ⟨outside, before⟩ := mem_deleteAll.mp isBlind
        exact ⟨outside, mem_append_right _ before⟩
    obtain ⟨listed, valid⟩ := insertions.valid id entry kept.2
    exact ⟨listed, (if_neg kept.1).trans valid⟩

theorem Insertions.reported (insertions : Insertions present v) (mem : entry ∈ v.newWrites id) :
    reportedStatus v id = some .committed := by
  have nonempty : (v.newWrites id).isEmpty = false := isEmpty_eq_false_iff.mpr (ne_nil_of_mem mem)
  rw [reportedStatus, (insertions.valid id entry (mem_append_left _ mem)).2]
  simp [nonempty]

theorem Enters.before {status : Status} (enters : Enters (VC.updateInvalidTxs v txIDs status) id)
    (outside : id ∉ txIDs) : Enters v id where
  listed := enters.listed
  known := enters.known
  reported := by
    obtain ⟨given, isGiven, other⟩ := enters.reported
    rw [reportedStatus_updateInvalidTxs_of_not_mem outside] at isGiven
    exact ⟨given, isGiven, other⟩

section

variable (insertions : Insertions db.Present v)

include insertions

theorem endsWithin_last
    (unrecorded : Unrecorded db v) (absent : Absent db v) : EndsWithin codec 0 (retries + 1) db v := by
  cases attempted : commit codec db (statesOf v) with
  | none => exact endsWithin_failed attempted
  | some result =>
    cases result with
    | committed next => exact endsWithin_committed attempted
    | duplicates txIDs =>
      exact absurd attempted (not_duplicates_of_unrecorded insertions.distinct unrecorded)
    | conflicts reads =>
      obtain ⟨read, mem⟩ := exists_mem_of_ne_nil _ (commit_eq_conflicts attempted).1
      obtain ⟨id, isId, entry, ofId, _, present⟩ :=
        (conflicts_iff insertions.distinct unrecorded attempted read).mp mem
      rw [absent id isId entry ofId] at present
      cases present

theorem Insertions.invalidate (unrecorded : Unrecorded db v)
    (attempted : commit codec db (statesOf v) = some (.conflicts reads)) :
    ∃ aborted,
      invalidateTxsOnReadConflicts v reads =
          some (VC.updateInvalidTxs v aborted .abortedMvccConflict) ∧
        ∀ id, id ∈ aborted ↔
          id ∈ v.txIDs ∧ ∃ entry ∈ v.newWrites id, (db.row entry.nsId entry.key).isSome = true := by
  have readsIff := conflicts_iff insertions.distinct unrecorded attempted
  have readers : ∀ read ∈ reads, v.readToTxIDs (newCmpRead read.1 read.2) ≠ [] := by
    intro read mem
    obtain ⟨id, _, entry, ofId, isRead, present⟩ := (readsIff read).mp mem
    subst isRead
    exact ne_nil_of_mem ((insertions.readers id entry ofId present id).mpr rfl)
  have invalidated := invalidateTxsOnReadConflicts_masked (fun _ => none) readers
  rw [← updateInvalidTxs_masked, masked_none] at invalidated
  refine ⟨_, invalidated, ?_⟩
  intro id
  rw [mem_flatMap]
  constructor
  · intro found
    obtain ⟨read, mem, isReader⟩ := found
    obtain ⟨owner, isOwner, entry, ofOwner, isRead, present⟩ := (readsIff read).mp mem
    subst isRead
    rw [(insertions.readers owner entry ofOwner present id).mp isReader]
    exact ⟨isOwner, entry, ofOwner, present⟩
  · intro found
    obtain ⟨isId, entry, ofId, present⟩ := found
    exact
      ⟨(entry.nsId, ⟨entry.key, none⟩),
        (readsIff _).mpr ⟨id, isId, entry, ofId, rfl, present⟩,
        (insertions.readers id entry ofId present id).mpr rfl⟩

theorem endsWithin_second (unrecorded : Unrecorded db v) :
    EndsWithin codec 1 (retries + 2) db v := by
  cases attempted : commit codec db (statesOf v) with
  | none => exact (endsWithin_failed attempted).mono (Nat.zero_le 1)
  | some result =>
    cases result with
    | committed next => exact (endsWithin_committed attempted).mono (Nat.zero_le 1)
    | duplicates txIDs =>
      exact absurd attempted (not_duplicates_of_unrecorded insertions.distinct unrecorded)
    | conflicts reads =>
      obtain ⟨aborted, invalidated, abortedIff⟩ := insertions.invalidate unrecorded attempted
      apply endsWithin_conflicts attempted invalidated
      apply endsWithin_last (insertions.updateInvalidTxs _ _)
      · intro id enters
        by_cases isAborted : id ∈ aborted
        · obtain ⟨isId, entry, ofId, _⟩ := (abortedIff id).mp isAborted
          exact
            unrecorded id
              ⟨isId, enters.known, .committed, insertions.reported ofId,
                by decide⟩
        · exact unrecorded id (enters.before isAborted)
      · intro id isId entry mem
        obtain ⟨outside, before⟩ := mem_deleteAll.mp mem
        by_contra found
        apply outside
        exact (abortedIff id).mpr ⟨isId, entry, before, Option.isSome_iff_ne_none.mpr found⟩

theorem endsWithin_first : EndsWithin codec 2 (retries + 3) db v := by
  by_cases unrecorded : Unrecorded db v
  · exact (endsWithin_second insertions unrecorded).mono (by omega)
  · rw [Unrecorded] at unrecorded
    push Not at unrecorded
    obtain ⟨id, enters, isRecorded⟩ := unrecorded
    obtain ⟨entry, mem, isId⟩ := mem_map.mp (enters_iff.mp enters)
    subst isId
    obtain ⟨txIDs, attempted, reported⟩ :=
      commit_duplicates codec (consistent_of_nodup insertions.distinct) mem
        (Option.isSome_iff_ne_none.mpr isRecorded)
    apply endsWithin_duplicates attempted
    apply endsWithin_second (insertions.updateInvalidTxs _ _)
    intro other entersAfter
    by_cases isReported : other ∈ txIDs
    · obtain ⟨status, given, notDuplicate⟩ := entersAfter.reported
      rw [reportedStatus_updateInvalidTxs_of_mem isReported] at given
      exact absurd (Option.some.inj given).symm notDuplicate
    · by_contra found
      apply isReported
      exact
        (reported other).mpr
          ⟨enters_iff.mp (entersAfter.before isReported), Option.isSome_iff_ne_none.mpr found⟩

end

/-! ## From the prepared batch to the commit -/

/-- No transaction reads a key that another one inserts in place of an absent
one. -/
def ReadsApart (codec : SnapshotCodec) (batch : List VcTx) : Prop :=
  ∀ tx ∈ batch, ∀ other ∈ batch, tx ≠ other →
    ∀ event ∈ expandedTxEvents (expandTx codec tx),
      ∀ ns ∈ preparedNamespaces (expandTx codec other),
        ∀ entry ∈ newEntries ns, (event.nsId, event.read.key) ≠ (entry.nsId, entry.key)

theorem event_of_newEntry {tx : VcTx} {ns : TxNamespace} (nsMem : ns ∈ preparedNamespaces tx)
    (mem : entry ∈ newEntries ns) :
    ∃ event ∈ expandedTxEvents tx, event.cmp = newCmpRead entry.nsId ⟨entry.key, none⟩ := by
  obtain ⟨rw, inside, made⟩ := mem_filterMap.mp mem
  cases version : rw.version with
  | some number =>
    rw [version] at made
    cases made
  | none =>
    rw [version] at made
    cases made
    refine
      ⟨⟨tx.ref.txId, ns.nsId, readOf rw, rw.version.isSome⟩, mem_flatMap.mpr ⟨ns, nsMem, ?_⟩, ?_⟩
    · rw [expandedEvents]
      split
      · exact mem_map_of_mem inside
      · exact mem_namespaceEvents_readWrite inside
    · rw [ReadEvent.cmp, readOf, version]

theorem key_of_newCmpRead {nsId otherNsId : Bytes} {read other : Read}
    (same : newCmpRead nsId read = newCmpRead otherNsId other) :
    (nsId, read.key) = (otherNsId, other.key) := by
  obtain ⟨sameNs, sameRead | collide⟩ := newCmpRead_eq_iff.mp same
  · rw [sameNs, sameRead]
  · rw [sameNs, collide.1]

theorem insertions_ofPrepared {batch : List VcTx} {p : PreparedTransactions}
    (preparedAs : PreparedAs codec batch p) (apart : ReadsApart codec batch) :
    Insertions (fun _ _ => True) (.ofPrepared p) where
  distinct := by
    rw [ValidatedTransactions.ofPrepared, preparedAs.ids]
    exact preparedAs.distinct
  readers := by
    intro id entry mem _ other
    change entry ∈ p.txIDToNsNewWrites id at mem
    rw [preparedAs.news] at mem
    obtain ⟨tx, inBatch, sameId, _⟩ := of_mem_expandedEntries nsId_of_mem_newEntries mem
    subst sameId
    rw [preparedAs.entries_of_mem _ inBatch] at mem
    obtain ⟨ns, nsMem, inside⟩ := mem_flatMap.mp mem
    refine preparedAs.mem_readers.trans ⟨?_, ?_⟩
    · intro found
      obtain ⟨reader, isReader, sameId, event, isEvent, sameCmp⟩ := found
      by_contra different
      refine
        apart reader isReader tx inBatch ?_ event isEvent ns nsMem entry
          inside (key_of_newCmpRead sameCmp)
      intro same
      exact different (sameId.symm.trans (by rw [same]))
    · intro same
      obtain ⟨event, isEvent, sameCmp⟩ := event_of_newEntry nsMem inside
      exact ⟨tx, inBatch, same.symm, event, isEvent, sameCmp⟩
  valid := by
    intro id entry mem
    have source : ∃ tx ∈ batch, tx.ref.txId = id ∧ tx.prelimInvalidTxStatus = none := by
      rcases mem_append.mp mem with isNew | isBlind
      · change entry ∈ p.txIDToNsNewWrites id at isNew
        rw [preparedAs.news] at isNew
        obtain ⟨tx, inBatch, sameId, unspoiled, _⟩ :=
          of_mem_expandedEntries nsId_of_mem_newEntries isNew
        exact ⟨tx, inBatch, sameId, unspoiled⟩
      · change entry ∈ p.txIDToNsBlindWrites id at isBlind
        rw [preparedAs.blinds] at isBlind
        obtain ⟨tx, inBatch, sameId, unspoiled, _⟩ :=
          of_mem_expandedEntries nsId_of_mem_blindEntries isBlind
        exact ⟨tx, inBatch, sameId, unspoiled⟩
    obtain ⟨tx, inBatch, sameId, unspoiled⟩ := source
    subst sameId
    refine ⟨?_, (preparedAs.prelim tx inBatch).trans unspoiled⟩
    rw [ValidatedTransactions.ofPrepared, preparedAs.ids]
    exact mem_map_of_mem (f := fun tx : VcTx => tx.ref.txId) inBatch

section

variable (insertions : Insertions present v)

include insertions

theorem Insertions.invalidateTxsOnReadConflicts {conflicts : List (Bytes × Read)}
    (invalidated : VC.invalidateTxsOnReadConflicts v conflicts = some next) :
    Insertions present next := by
  refine foldlM_invariant (Insertions present) insertions ?_ invalidated
  intro conflict _ current after holds stepped
  dsimp only at stepped
  split at stepped
  · cases stepped
  · cases stepped
    exact holds.updateInvalidTxs _ _

theorem Insertions.rejectSnapshot
    (gated : rejectSnapshotIfPriorNotCheckpointed codec db v = some next) :
    Insertions present next := by
  rcases rejectSnapshot_cases gated with rfl | ⟨id, write, status, _, rfl⟩
  · exact insertions
  · exact insertions.updateInvalidTxs _ _

theorem Insertions.hold (id : Bytes) (feedback : Option CheckpointFeedback) :
    Insertions present
      { v with
        newWrites := v.newWrites.deleteAll [id]
        checkpoint := none
        checkpointFeedback := feedback } where
  distinct := insertions.distinct
  readers := by
    intro other entry mem
    exact insertions.readers other entry (mem_deleteAll.mp mem).2
  valid := by
    intro other entry mem
    apply insertions.valid other entry
    rcases mem_append.mp mem with isNew | isBlind
    · exact mem_append_left _ (mem_deleteAll.mp isNew).2
    · exact mem_append_right _ isBlind

theorem Insertions.rejectCheckpoint {retries : Nat}
    (gated : rejectCheckpointIfNotVerified codec retries db v = some (next, after)) :
    Insertions present next := by
  rcases rejectCheckpoint_cases gated with rfl | ⟨cp, verdict, _, _, rfl | ⟨feedback, _, rfl⟩⟩
  · exact insertions
  · exact insertions.updateInvalidTxs _ _
  · exact insertions.hold _ _

end

theorem Insertions.validate
    {p : PreparedTransactions} (insertions : Insertions present (.ofPrepared p)) {retries : Nat}
    (validated : VC.validate codec retries db p = some (next, after)) :
    Insertions present next := by
  rw [VC.validate] at validated
  split at validated
  · cases validated
  split at validated
  · cases validated
  rename_i compared
  split at validated
  · cases validated
  rename_i gated
  exact
    ((insertions.invalidateTxsOnReadConflicts compared).rejectSnapshot
      gated).rejectCheckpoint validated

theorem Insertions.populate (insertions : Insertions (fun _ _ => True) v)
    (populated : populateVersionsAndCategorizeBlindWrites db v = some next) :
    Insertions db.Present next := by
  obtain ⟨state, isState, same⟩ := Option.map_eq_some_iff.mp populated
  have queried := queried_of_queryBlindVersions isState
  subst same
  have categorized :
      ∀ id, ∀ entry ∈ (categorizeBlindWrites state v).newWrites id,
        entry ∈ v.newWrites id ∨
          ∃ blind ∈ v.validTxBlindWrites id, db.row entry.nsId entry.key = none := by
    intro id entry mem
    rcases mem_append.mp mem with kept | added
    · exact .inl kept
    · obtain ⟨blind, isBlind, made⟩ := mem_filterMap.mp added
      have listed := (insertions.valid id blind (mem_append_right _ isBlind)).1
      rw [queried blind (mem_flatMap.mpr ⟨id, listed, isBlind⟩)] at made
      split at made
      · cases made
      · rename_i missing
        cases made
        refine .inr ⟨blind, isBlind, ?_⟩
        simpa [queriedVersion] using missing
  refine
    { distinct := insertions.distinct
      readers := ?_
      valid := ?_ }
  · intro id entry mem isPresent
    rcases categorized id entry mem with kept | ⟨_, _, missing⟩
    · exact insertions.readers id entry kept trivial
    · rw [Database.Present, missing] at isPresent
      cases isPresent
  · intro id entry mem
    have isNew : entry ∈ (categorizeBlindWrites state v).newWrites id := by
      simpa [categorizeBlindWrites] using mem
    rcases categorized id entry isNew with kept | ⟨blind, isBlind, _⟩
    · exact insertions.valid id entry (mem_append_left _ kept)
    · exact insertions.valid id blind (mem_append_right _ isBlind)

theorem Insertions.replace
    (insertions : Insertions present v) (id : Bytes) {replacement : WriteEntry → WriteEntry}
    (sameKey : ∀ entry, (replacement entry).pair = entry.pair) :
    Insertions present
      { v with
        newWrites := update v.newWrites id ((v.newWrites id).map replacement) } := by
  have source :
      ∀ other entry,
        entry ∈ update v.newWrites id ((v.newWrites id).map replacement) other →
          ∃ before ∈ v.newWrites other, before.pair = entry.pair := by
    intro other entry mem
    by_cases same : other = id
    · subst same
      rw [update_self] at mem
      obtain ⟨before, isBefore, replaced⟩ := mem_map.mp mem
      rw [← replaced]
      exact ⟨before, isBefore, (sameKey before).symm⟩
    · rw [update_of_ne same] at mem
      exact ⟨entry, mem, rfl⟩
  refine
    { distinct := insertions.distinct
      readers := ?_
      valid := ?_ }
  · intro other entry mem isPresent
    obtain ⟨before, isBefore, same⟩ := source other entry mem
    obtain ⟨sameNs, sameKey⟩ := Prod.mk.inj same
    rw [← sameNs, ← sameKey] at isPresent ⊢
    exact insertions.readers other before isBefore isPresent
  · intro other entry mem
    rcases mem_append.mp mem with isNew | isBlind
    · obtain ⟨before, isBefore, _⟩ := source other entry isNew
      exact insertions.valid other before (mem_append_left _ isBefore)
    · exact insertions.valid other entry (mem_append_right _ isBlind)

theorem Insertions.createSnapshot (insertions : Insertions db.Present v)
    (created : createSnapshotIfPresent codec db v = some (next, after)) :
    Insertions after.Present next := by
  obtain ⟨⟨names, rfl⟩, rfl | ⟨id, write, value, _, rfl⟩⟩ := createSnapshot_cases created
  · exact insertions
  apply insertions.replace
  intro entry
  split
  · rename_i isWrite
    rw [isWrite]
    rfl
  · rfl

end

/-- What the attempts of a validated batch come to. -/
structure Converges (codec : SnapshotCodec) (db : Database) (v : ValidatedTransactions)
    (results : List (Option CommitResult × Database)) : Prop where
  commits :
    ∃ names next statuses feedback,
      CommitsWithin 2 { db with snapshotDatabases := names } next results ∧
        commitTransactions codec db v = some (statuses, feedback, next)

instance (codec : SnapshotCodec) (batch : List VcTx) : Decidable (ReadsApart codec batch) := by
  unfold ReadsApart
  infer_instance

/-- Whether each attempt for a batch was rejected; an error is `none`. -/
def rejections (batch : List VcTx) : Option (List (Option Bool)) :=
  (prepare fieldCodec batch).bind fun p =>
    (validate fieldCodec 1 systemDatabase p).bind fun validated =>
      (commitAttempts fieldCodec systemDatabase validated.1).map fun results =>
        results.map fun attempt => attempt.1.map CommitResult.isRejected

/-- A transaction that inserts the existing key of `systemDatabase`. -/
def existingInserter : VcTx where
  ref := ⟨[7], 9, 0⟩
  namespaces := [{ nsId := [0x61], readWrites := [⟨[2], none, [0]⟩] }]

/-- A transaction whose ID is recorded in `systemDatabase`. -/
def recordedWriter (readsOnly : List Read) : VcTx where
  ref := ⟨[1], 9, 1⟩
  namespaces :=
    [{ nsId := [0x61], readsOnly := readsOnly, blindWrites := [⟨[3], [0]⟩] }]

end FabricXCommitter.VC
