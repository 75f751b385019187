import FabricXCommitter.VC.Instances
import FabricXCommitter.VC.PreparedBatch

/-!
# The transactions of a batch are accounted for

Each first copy has a status to be reported, or is the checkpoint of the feedback.
-/

namespace FabricXCommitter.VC

open Library Sidecar List Option Function

section

variable {v : ValidatedTransactions} {txIDs : List Bytes} {id : Bytes}

theorem reportedStatus_updateInvalidTxs_of_mem (mem : id ∈ txIDs) (status : Status) :
    reportedStatus (updateInvalidTxs v txIDs status) id = some status := by
  simp [reportedStatus, updateInvalidTxs, mem]

theorem reportedStatus_updateInvalidTxs_of_not_mem (outside : id ∉ txIDs) (status : Status) :
    reportedStatus (updateInvalidTxs v txIDs status) id = reportedStatus v id := by
  simp [reportedStatus, updateInvalidTxs, TransactionToWrites.deleteAll, outside]

theorem reportedStatus_eq_none :
    reportedStatus v id = none ↔
      v.invalidTxStatus id = none ∧ v.validTxNonBlindWrites id = [] ∧
        v.validTxBlindWrites id = [] ∧ v.newWrites id = [] := by
  rw [reportedStatus]
  cases v.invalidTxStatus id with
  | some status => simp
  | none => simp [and_assoc]

theorem reported_of_mem_statuses {s : TxStatus} (mem : s ∈ prepareStatusForCommit v) :
    reportedStatus v s.ref.txId = some s.status := by
  obtain ⟨id, _, found⟩ := mem_filterMap.mp mem
  split at found
  · rename_i status height reported known
    rw [← Option.some.inj found]
    exact reported
  · cases found

end

variable {reads : List (Bytes × Read)}

section

variable {codec : SnapshotCodec} {db : Database}
  {states : StatesToBeCommitted}

theorem commit_eq_duplicates
    {txIDs : List Bytes} (attempted : commit codec db states = some (.duplicates txIDs)) :
    txIDs ≠ [] ∧ ∃ recorded, insertTxStatus db states = some (txIDs, recorded) := by
  revert attempted
  fun_cases commit codec db states with
  | case3 _ duplicate rest recorded inserted =>
    intro attempted
    cases attempted
    exact ⟨cons_ne_nil _ _, recorded, inserted⟩
  | case7 =>
    intro attempted
    obtain ⟨_, _, same⟩ := map_eq_some_iff.mp attempted
    cases same
  | _ =>
    intro attempted
    cases attempted

theorem commit_eq_conflicts (attempted : commit codec db states = some (.conflicts reads)) :
    reads ≠ [] ∧
      ∃ recorded found next,
        insertTxStatus db states = some ([], recorded) ∧
          insertStates recorded states.newWrites = some (found, next) ∧
            reads = found.map fun pair => (pair.1, ⟨pair.2, none⟩) := by
  revert attempted
  fun_cases commit codec db states with
  | case5 _ recorded isRecorded conflict rest next inserted =>
    intro attempted
    cases attempted
    exact ⟨cons_ne_nil _ _, recorded, conflict :: rest, next, isRecorded, inserted, rfl⟩
  | case7 =>
    intro attempted
    obtain ⟨_, _, same⟩ := map_eq_some_iff.mp attempted
    cases same
  | _ =>
    intro attempted
    cases attempted

end

/-! ## The account of a batch -/

def ReadsCheckpoints (v : ValidatedTransactions) (id : Bytes) : Prop :=
  ∀ cr, id ∈ v.readToTxIDs cr → cr.nsId = checkpointNamespaceID

structure CheckpointOf (batch : List VcTx) (v : ValidatedTransactions) (cp : CheckpointTx) :
    Prop where
  source : ∃ tx ∈ batch, cp.txID = tx.ref.txId ∧ cp.ref = tx.ref
  valid : v.invalidTxStatus cp.txID = none
  noUpdates : v.validTxNonBlindWrites cp.txID = []
  noBlinds : v.validTxBlindWrites cp.txID = []
  reads : ReadsCheckpoints v cp.txID

structure HeldBy
    (batch : List VcTx) (v : ValidatedTransactions) (feedback : CheckpointFeedback) : Prop where
  noCheckpoint : v.checkpoint = none
  source : ∃ tx ∈ batch, feedback.ref = tx.ref
  unreported : reportedStatus v feedback.ref.txId = none
  reads : ReadsCheckpoints v feedback.ref.txId

/-- Each transaction has a status to be reported or is named by the feedback.
Besides the transaction of the checkpoint nothing writes to the checkpoint
namespace. -/
structure Accounted (batch : List VcTx) (v : ValidatedTransactions) : Prop where
  ids : v.txIDs = batch.map fun tx => tx.ref.txId
  heights : ∀ tx ∈ batch, v.txIDToHeight tx.ref.txId = some tx.ref.height
  answered :
    ∀ tx ∈ batch, reportedStatus v tx.ref.txId = none →
      ∃ feedback, v.checkpointFeedback = some feedback ∧ feedback.ref.txId = tx.ref.txId
  checkpoint : ∀ cp, v.checkpoint = some cp → CheckpointOf batch v cp
  held : ∀ feedback, v.checkpointFeedback = some feedback → HeldBy batch v feedback
  checkpointWrites :
    ∀ id, ∀ entry ∈ v.newWrites id ++ v.validTxBlindWrites id,
      entry.nsId = checkpointNamespaceID → ∃ cp, v.checkpoint = some cp ∧ cp.txID = id

section

variable {codec : SnapshotCodec} {batch : List VcTx}
  {v : ValidatedTransactions}
  {p : PreparedTransactions} {txIDs : List Bytes} {conflicts : List (Bytes × Read)}
  {db after : Database} {attempts : Nat}

theorem accounted_ofPrepared {platform : Platform} (submitted : ∀ tx ∈ batch, Submitted platform tx)
    (preparedAs : PreparedAs codec batch p) :
    Accounted batch (.ofPrepared p) := by
  have checkpointTx :
      ∀ tx ∈ batch, tx.prelimInvalidTxStatus = none →
        ∀ ns ∈ tx.namespaces, ns.nsId = checkpointNamespaceID →
          p.txIDToNsNonBlindWrites tx.ref.txId = [] ∧
            p.txIDToNsBlindWrites tx.ref.txId = [] ∧
              ReadsCheckpoints (.ofPrepared p) tx.ref.txId := by
    intro tx mem unspoiled ns nsMem checkpoint
    obtain ⟨all, noUpdates, noBlinds, reads⟩ :=
      (submitted tx mem).checkpointEntries codec unspoiled nsMem checkpoint
    refine ⟨?_, ?_, ?_⟩
    · rw [preparedAs.updates, preparedAs.entries_of_mem _ mem, all, flatMap_singleton, noUpdates]
    · rw [preparedAs.blinds, preparedAs.entries_of_mem _ mem, all, flatMap_singleton, noBlinds]
    · intro cr isReader
      obtain ⟨other, otherMem, sameId, event, inside, sameCmp⟩ := preparedAs.mem_readers.mp isReader
      have same := inj_on_of_nodup_map preparedAs.distinct otherMem mem sameId
      rw [same] at inside
      have inNamespace := reads event inside
      rw [← sameCmp, ReadEvent.cmp, newCmpRead]
      split <;> exact inNamespace
  refine
    { preparedAs with
      answered := ?_
      checkpoint := ?_
      held := ?_
      checkpointWrites := ?_ }
  · intro tx mem nothing
    obtain ⟨valid, noUpdates, noBlinds, noNews⟩ := reportedStatus_eq_none.mp nothing
    have unspoiled : tx.prelimInvalidTxStatus = none := by
      rw [← preparedAs.prelim tx mem]
      exact valid
    simp only [ValidatedTransactions.ofPrepared, preparedAs.updates,
      preparedAs.blinds, preparedAs.news, preparedAs.entries_of_mem _ mem,
      flatMap_eq_nil_iff] at noUpdates noBlinds noNews
    obtain ⟨ns, nsMem, updates | news | blinds⟩ := (submitted tx mem).writesSome codec unspoiled
    · exact absurd (noUpdates ns nsMem) updates
    · exact absurd (noNews ns nsMem) news
    · exact absurd (noBlinds ns nsMem) blinds
  · intro cp found
    obtain ⟨inIds, ⟨height, known, isRef⟩, write, first, _⟩ := preparedAs.checkpoint.fields cp found
    have isWrite : write ∈ p.txIDToNsNewWrites cp.txID := mem_of_find?_eq_some first
    have inNamespace : write.nsId = checkpointNamespaceID := eq_of_beq (find?_some first :)
    rw [preparedAs.news] at isWrite
    obtain ⟨tx, mem, sameId, unspoiled, ns, nsMem, sameNs, _⟩ :=
      of_mem_expandedEntries nsId_of_mem_newEntries isWrite
    obtain ⟨noUpdates, noBlinds, reads⟩ :=
      checkpointTx tx mem unspoiled ns nsMem (sameNs.symm.trans inNamespace)
    rw [← sameId, preparedAs.heights tx mem] at known
    refine
      { source := ⟨tx, mem, sameId.symm, ?_⟩
        valid := ?_
        noUpdates := sameId ▸ noUpdates
        noBlinds := sameId ▸ noBlinds
        reads := sameId ▸ reads }
    · rw [isRef, ← sameId, ← Option.some.inj known]
      rfl
    · rw [← sameId]
      exact (preparedAs.prelim tx mem).trans unspoiled
  · intro feedback isFeedback
    cases isFeedback
  · intro id entry mem inNamespace
    rcases mem_append.mp mem with isNew | isBlind
    · apply preparedAs.checkpoint.writer id
      · change entry ∈ p.txIDToNsNewWrites id at isNew
        rw [preparedAs.news] at isNew
        obtain ⟨tx, inBatch, sameId, _⟩ := of_mem_expandedEntries nsId_of_mem_newEntries isNew
        rw [preparedAs.ids, ← sameId]
        exact List.mem_map_of_mem (f := fun tx : VcTx => tx.ref.txId) inBatch
      · intro missing
        exact find?_eq_none.mp missing entry isNew (by simpa using inNamespace)
    · change entry ∈ p.txIDToNsBlindWrites id at isBlind
      rw [preparedAs.blinds] at isBlind
      obtain ⟨tx, inBatch, sameId, unspoiled, ns, nsMem, sameNs, _⟩ :=
        of_mem_expandedEntries nsId_of_mem_blindEntries isBlind
      obtain ⟨_, noBlinds, _⟩ :=
        checkpointTx tx inBatch unspoiled ns nsMem (sameNs.symm.trans inNamespace)
      rw [sameId, preparedAs.blinds] at noBlinds
      rw [noBlinds] at isBlind
      cases isBlind

theorem accounted_updateInvalidTxs (accounted : Accounted batch v)
    (unheld : ∀ feedback, v.checkpointFeedback = some feedback → feedback.ref.txId ∉ txIDs)
    (status : Status) :
    Accounted batch (updateInvalidTxs v txIDs status) where
  ids := accounted.ids
  heights := accounted.heights
  answered := by
    intro tx mem nothing
    by_cases invalidated : tx.ref.txId ∈ txIDs
    · rw [reportedStatus_updateInvalidTxs_of_mem invalidated] at nothing
      cases nothing
    · rw [reportedStatus_updateInvalidTxs_of_not_mem invalidated] at nothing
      exact accounted.answered tx mem nothing
  checkpoint := by
    intro cp found
    obtain ⟨isCheckpoint, kept⟩ := filter_eq_some_iff.mp found
    have outside : cp.txID ∉ txIDs := of_decide_eq_true kept
    have facts := accounted.checkpoint cp isCheckpoint
    exact
      { facts with
        valid := (if_neg outside).trans facts.valid
        noUpdates := (if_neg outside).trans facts.noUpdates
        noBlinds := (if_neg outside).trans facts.noBlinds }
  held := by
    intro feedback isFeedback
    have facts := accounted.held feedback isFeedback
    exact
      { facts with
        noCheckpoint := by
          rw [updateInvalidTxs, facts.noCheckpoint]
          rfl
        unreported := by
          rw [reportedStatus_updateInvalidTxs_of_not_mem (unheld feedback isFeedback)]
          exact facts.unreported }
  checkpointWrites := by
    intro id entry mem inNamespace
    have outside : id ∉ txIDs := by
      intro inside
      simp [updateInvalidTxs, TransactionToWrites.deleteAll, inside] at mem
    have before : entry ∈ v.newWrites id ++ v.validTxBlindWrites id := by
      simpa [updateInvalidTxs, TransactionToWrites.deleteAll, outside] using mem
    obtain ⟨cp, found, sameId⟩ := accounted.checkpointWrites id entry before inNamespace
    refine ⟨cp, ?_, sameId⟩
    rw [updateInvalidTxs, found, filter_some, sameId]
    exact if_pos (decide_eq_true outside)

variable {next : ValidatedTransactions}

theorem accounted_invalidateTxsOnReadConflicts (accounted : Accounted batch v)
    (unheld :
      ∀ conflict ∈ conflicts, ∀ feedback,
        v.checkpointFeedback = some feedback →
          feedback.ref.txId ∉ v.readToTxIDs (newCmpRead conflict.1 conflict.2))
    (invalidated : invalidateTxsOnReadConflicts v conflicts = some next) :
    Accounted batch next ∧ next.checkpointFeedback = v.checkpointFeedback := by
  have all :
      Accounted batch next ∧
        next.checkpointFeedback = v.checkpointFeedback ∧ next.readToTxIDs = v.readToTxIDs := by
    refine
      foldlM_invariant
        (fun current : ValidatedTransactions =>
          Accounted batch current ∧
            current.checkpointFeedback = v.checkpointFeedback ∧ current.readToTxIDs = v.readToTxIDs)
        ⟨accounted, rfl, rfl⟩ ?_ invalidated
    intro conflict mem current next holds stepped
    obtain ⟨currentAccounted, sameFeedback, sameReaders⟩ := holds
    dsimp only at stepped
    split at stepped
    · cases stepped
    · cases stepped
      refine ⟨?_, sameFeedback, sameReaders⟩
      apply accounted_updateInvalidTxs currentAccounted
      intro feedback isFeedback
      rw [sameReaders]
      exact unheld conflict mem feedback (sameFeedback ▸ isFeedback)
  exact ⟨all.1, all.2.1⟩

theorem accounted_comparedReads (accounted : Accounted batch (.ofPrepared p))
    (invalidated : invalidateTxsOnReadConflicts (.ofPrepared p) conflicts = some next) :
    Accounted batch next ∧ next.checkpointFeedback = none := by
  apply accounted_invalidateTxsOnReadConflicts accounted _ invalidated
  intro conflict _ feedback isFeedback
  cases isFeedback

theorem accounted_rejectSnapshot
    (accounted : Accounted batch v) (noFeedback : v.checkpointFeedback = none)
    (gated : rejectSnapshotIfPriorNotCheckpointed codec db v = some next) :
    Accounted batch next ∧ next.checkpointFeedback = none := by
  rcases rejectSnapshot_cases gated with rfl | ⟨id, write, status, _, rfl⟩
  · exact ⟨accounted, noFeedback⟩
  · refine ⟨accounted_updateInvalidTxs accounted ?_ _, noFeedback⟩
    intro feedback isFeedback
    rw [noFeedback] at isFeedback
    cases isFeedback

theorem feedback_of_verifyCheckpoint
    {next : Database} {cp : CheckpointTx} {verdict : CheckpointVerdict}
    (verified : verifyCheckpoint codec attempts db cp = some (verdict, next))
    {feedback : CheckpointFeedback} (isFeedback : verdict.feedback = some feedback) :
    feedback.ref = cp.ref := by
  induction attempts generalizing db with
  | zero => cases verified
  | succ attempts ih =>
    rw [verifyCheckpoint] at verified
    split at verified
    · cases verified
    · cases verified
      cases isFeedback
    split at verified
    · cases verified
      cases isFeedback
    split at verified
    · cases verified
      cases isFeedback
    split at verified
    · cases verified
      cases isFeedback
    split at verified
    · cases verified
      cases isFeedback
    split at verified
    · cases verified
      cases isFeedback
      rfl
    split at verified
    · cases verified
      cases isFeedback
    dsimp only at verified
    split at verified
    · cases verified
      cases isFeedback
      rfl
    · exact ih verified
    · cases verified

theorem accounted_hold (accounted : Accounted batch v) (noFeedback : v.checkpointFeedback = none)
    {cp : CheckpointTx} (isCheckpoint : v.checkpoint = some cp)
    {feedback : CheckpointFeedback} (named : feedback.ref = cp.ref) :
    Accounted batch
      { v with
        newWrites := v.newWrites.deleteAll [cp.txID]
        checkpoint := none
        checkpointFeedback := some feedback } := by
  have facts := accounted.checkpoint cp isCheckpoint
  obtain ⟨source, inBatch, sameId, sameRef⟩ := facts.source
  have heldId : feedback.ref.txId = cp.txID := by rw [named, sameRef, sameId]
  refine
    { accounted with
      answered := ?_
      checkpoint := ?_
      held := ?_
      checkpointWrites := ?_ }
  · intro tx mem nothing
    refine ⟨feedback, rfl, ?_⟩
    by_contra other
    have kept : tx.ref.txId ∉ [cp.txID] := by
      rw [mem_singleton, ← heldId]
      exact Ne.symm other
    obtain ⟨valid, noUpdates, noBlinds, noNews⟩ := reportedStatus_eq_none.mp nothing
    have before : v.newWrites tx.ref.txId = [] := (if_neg kept).symm.trans noNews
    obtain ⟨earlier, isEarlier, _⟩ :=
      accounted.answered tx mem (reportedStatus_eq_none.mpr ⟨valid, noUpdates, noBlinds, before⟩)
    rw [noFeedback] at isEarlier
    cases isEarlier
  · intro other isOther
    cases isOther
  · intro given same
    cases same
    refine
      { noCheckpoint := rfl
        source := ⟨source, inBatch, named.trans sameRef⟩
        unreported := ?_
        reads := heldId ▸ facts.reads }
    rw [heldId]
    apply reportedStatus_eq_none.mpr
    exact ⟨facts.valid, facts.noUpdates, facts.noBlinds, if_pos (mem_singleton_self cp.txID)⟩
  · intro id entry mem inNamespace
    have outside : id ≠ cp.txID := by
      intro same
      simp [TransactionToWrites.deleteAll, same, facts.noBlinds] at mem
    have before : entry ∈ v.newWrites id ++ v.validTxBlindWrites id := by
      simpa [TransactionToWrites.deleteAll, outside] using mem
    obtain ⟨found, isFound, foundId⟩ := accounted.checkpointWrites id entry before inNamespace
    rw [isCheckpoint] at isFound
    cases isFound
    exact absurd foundId.symm outside

theorem accounted_rejectCheckpoint
    (accounted : Accounted batch v) (noFeedback : v.checkpointFeedback = none)
    (gated : rejectCheckpointIfNotVerified codec attempts db v = some (next, after)) :
    Accounted batch next := by
  rcases rejectCheckpoint_cases gated with
    rfl | ⟨cp, verdict, isCheckpoint, isVerified, rfl | ⟨feedback, isFeedback, rfl⟩⟩
  · exact accounted
  · apply accounted_updateInvalidTxs accounted
    intro feedback isFeedback
    rw [noFeedback] at isFeedback
    cases isFeedback
  · exact
      accounted_hold accounted noFeedback isCheckpoint
        (feedback_of_verifyCheckpoint isVerified isFeedback)

theorem accounted_finishValidation (accounted : Accounted batch (.ofPrepared p))
    (finished : Instances.finishValidation codec attempts db p conflicts = some (next, after)) :
    Accounted batch next := by
  rw [Instances.finishValidation] at finished
  split at finished
  · cases finished
  rename_i compared isCompared
  split at finished
  · cases finished
  rename_i gated isGated
  obtain ⟨comparedAccounted, sameFeedback⟩ := accounted_comparedReads accounted isCompared
  obtain ⟨gatedAccounted, noFeedback⟩ :=
    accounted_rejectSnapshot comparedAccounted sameFeedback isGated
  exact accounted_rejectCheckpoint gatedAccounted noFeedback finished

theorem categorized_eq_nil_iff {state : Bytes → Bytes → Option UInt64} {blinds : List WriteEntry} :
    ((blinds.filterMap fun entry =>
          (state entry.nsId entry.key).map fun version =>
            ({ entry with version := version + 1 } : WriteEntry)) = [] ∧
        (blinds.filterMap fun entry =>
          if (state entry.nsId entry.key).isSome then
            none
          else
            some ({ entry with version := 0 } : WriteEntry)) = []) ↔
      blinds = [] := by
  constructor
  · intro nothing
    rw [filterMap_eq_nil_iff, filterMap_eq_nil_iff] at nothing
    rw [eq_nil_iff_forall_not_mem]
    intro entry mem
    have noUpdate := nothing.1 entry mem
    have noNew := nothing.2 entry mem
    cases version : state entry.nsId entry.key <;> simp [version] at noUpdate noNew
  · intro nothing
    rw [nothing]
    exact ⟨rfl, rfl⟩

theorem reportedStatus_categorizeBlindWrites (state : Bytes → Bytes → Option UInt64) (id : Bytes) :
    reportedStatus (categorizeBlindWrites state v) id = none ↔ reportedStatus v id = none := by
  have split := @categorized_eq_nil_iff state (v.validTxBlindWrites id)
  rw [reportedStatus_eq_none, reportedStatus_eq_none]
  simp only [categorizeBlindWrites, append_eq_nil_iff]
  tauto

theorem accounted_categorizeBlindWrites
    (accounted : Accounted batch v) (state : Bytes → Bytes → Option UInt64) :
    Accounted batch (categorizeBlindWrites state v) where
  ids := accounted.ids
  heights := accounted.heights
  answered := by
    intro tx mem nothing
    rw [reportedStatus_categorizeBlindWrites] at nothing
    exact accounted.answered tx mem nothing
  checkpoint := by
    intro cp isCheckpoint
    have facts := accounted.checkpoint cp isCheckpoint
    exact
      { facts with
        noUpdates := by
          simp [categorizeBlindWrites, facts.noUpdates, facts.noBlinds]
        noBlinds := rfl }
  held := by
    intro feedback isFeedback
    have facts := accounted.held feedback isFeedback
    exact
      { facts with
        unreported := (reportedStatus_categorizeBlindWrites state _).mpr facts.unreported }
  checkpointWrites := by
    intro id entry mem inNamespace
    have isNew : entry ∈ (categorizeBlindWrites state v).newWrites id := by
      simpa [categorizeBlindWrites] using mem
    have source :
        ∃ before ∈ v.newWrites id ++ v.validTxBlindWrites id, before.nsId = entry.nsId := by
      rcases mem_append.mp isNew with kept | categorized
      · exact ⟨entry, mem_append_left _ kept, rfl⟩
      · obtain ⟨blind, isBlind, same⟩ := mem_filterMap.mp categorized
        split at same
        · cases same
        · cases same
          exact ⟨blind, mem_append_right _ isBlind, rfl⟩
    obtain ⟨before, isBefore, sameNs⟩ := source
    exact accounted.checkpointWrites id before isBefore (sameNs.trans inNamespace)

theorem accounted_replace
    (accounted : Accounted batch v) (id : Bytes) {replacement : WriteEntry → WriteEntry}
    (sameNs : ∀ entry, (replacement entry).nsId = entry.nsId) :
    Accounted batch
      { v with
        newWrites := update v.newWrites id ((v.newWrites id).map replacement) } := by
  let after : ValidatedTransactions :=
    { v with
      newWrites := update v.newWrites id ((v.newWrites id).map replacement) }
  have sameReport : ∀ other, reportedStatus after other = none ↔ reportedStatus v other = none := by
    intro other
    rw [reportedStatus_eq_none, reportedStatus_eq_none]
    by_cases same : other = id
    · subst same
      simp [after]
    · simp [after, same]
  refine
    { accounted with
      answered := ?_
      checkpoint := ?_
      held := ?_
      checkpointWrites := ?_ }
  · intro tx mem nothing
    exact accounted.answered tx mem ((sameReport _).mp nothing)
  · intro cp isCheckpoint
    obtain ⟨source, valid, noUpdates, noBlinds, reads⟩ := accounted.checkpoint cp isCheckpoint
    exact ⟨source, valid, noUpdates, noBlinds, reads⟩
  · intro feedback isFeedback
    obtain ⟨noCheckpoint, source, unreported, reads⟩ := accounted.held feedback isFeedback
    exact ⟨noCheckpoint, source, (sameReport _).mpr unreported, reads⟩
  · intro other entry mem inNamespace
    dsimp only at mem
    by_cases same : other = id
    · subst same
      rw [update_self] at mem
      rcases mem_append.mp mem with isNew | isBlind
      · obtain ⟨before, isBefore, replaced⟩ := List.mem_map.mp isNew
        apply accounted.checkpointWrites other before (mem_append_left _ isBefore)
        rw [← sameNs before, replaced]
        exact inNamespace
      · exact accounted.checkpointWrites other entry (mem_append_right _ isBlind) inNamespace
    · rw [update_of_ne same] at mem
      exact accounted.checkpointWrites other entry mem inNamespace

theorem accounted_createSnapshot (accounted : Accounted batch v)
    (created : createSnapshotIfPresent codec db v = some (next, after)) :
    Accounted batch next := by
  obtain ⟨_, rfl | ⟨id, write, value, _, rfl⟩⟩ := createSnapshot_cases created
  · exact accounted
  apply accounted_replace accounted
  intro entry
  split
  · rename_i same
    rw [same]
  · rfl

theorem mem_statusRows {txIDToHeight : Bytes → Option Height} {statuses : List TxStatus} :
    ∀ {rows : List (Bytes × Status × Height)},
      statusRows txIDToHeight statuses = some rows →
        ∀ row ∈ rows, ∃ s ∈ statuses, s.ref.txId = row.1 := by
  induction statuses with
  | nil =>
    intro rows same row mem
    cases same
    cases mem
  | cons first rest ih =>
    intro rows same row mem
    rw [statusRows] at same
    split at same
    · obtain ⟨s, inRest, sameId⟩ := ih same row mem
      exact ⟨s, mem_cons_of_mem first inRest, sameId⟩
    split at same
    · rename_i restRows _ isRest
      cases same
      rcases mem_cons.mp mem with isFirst | later
      · exact ⟨first, mem_cons_self, by rw [isFirst]⟩
      · obtain ⟨s, inRest, sameId⟩ := ih isRest row later
        exact ⟨s, mem_cons_of_mem first inRest, sameId⟩
    · cases same

theorem reported_of_commit_duplicates
    (attempted : commit codec db (statesOf v) = some (.duplicates txIDs)) :
    ∀ id ∈ txIDs, reportedStatus v id ≠ none := by
  obtain ⟨_, recorded, inserted⟩ := commit_eq_duplicates attempted
  rw [insertTxStatus] at inserted
  intro id mem
  split at inserted
  · cases inserted
    cases mem
  obtain ⟨rows, isRows, same⟩ := map_eq_some_iff.mp inserted
  rw [insertTxStatusRows] at same
  split at same
  · cases same
    cases mem
  cases same
  obtain ⟨row, inRows, sameId⟩ := List.mem_map.mp (mem_dedup.mp (mem_of_mem_filter mem))
  obtain ⟨s, inStatuses, sameRow⟩ := mem_statusRows isRows row inRows
  rw [← sameId, ← sameRow, reported_of_mem_statuses inStatuses]
  exact some_ne_none _

theorem mem_insertStates
    {next : Database} {newWrites : List WriteEntry} {found : List (Bytes × Bytes)}
    (inserted : insertStates db newWrites = some (found, next)) :
    ∀ pair ∈ found, ∃ entry ∈ newWrites, (entry.nsId, entry.key) = pair := by
  refine
    foldlM_invariant
      (fun current : List (Bytes × Bytes) × Database =>
        ∀ pair ∈ current.1, ∃ entry ∈ newWrites, (entry.nsId, entry.key) = pair)
      (fun _ mem => absurd mem not_mem_nil) ?_ inserted
  intro nsId _ current following holds stepped pair mem
  obtain ⟨result, isResult, same⟩ := map_eq_some_iff.mp stepped
  subst same
  rcases mem_append.mp mem with earlier | new
  · exact holds pair earlier
  obtain ⟨key, existing, isPair⟩ := List.mem_map.mp new
  have isKey : key ∈ ((writesOfNamespace newWrites nsId).map WriteEntry.toWrite).map Write.key := by
    rw [insertNs] at isResult
    split at isResult
    · split at isResult
      · cases isResult
        cases existing
      · cases isResult
        exact mem_dedup.mp (mem_of_mem_filter existing)
    · cases isResult
  obtain ⟨write, isWrite, sameKey⟩ := List.mem_map.mp isKey
  obtain ⟨entry, inNamespace, sameWrite⟩ := List.mem_map.mp isWrite
  obtain ⟨isEntry, sameNs⟩ := mem_filter.mp inNamespace
  refine ⟨entry, isEntry, ?_⟩
  rw [← isPair, ← sameKey, ← sameWrite, eq_of_beq sameNs]
  rfl

theorem inserted_of_commit_conflicts
    (attempted : commit codec db (statesOf v) = some (.conflicts reads)) :
    ∀ conflict ∈ reads,
      conflict.2.version = none ∧
        ∃ id ∈ v.txIDs, ∃ entry ∈ v.newWrites id,
          entry.nsId = conflict.1 ∧ entry.key = conflict.2.key := by
  obtain ⟨_, recorded, found, next, _, inserted, same⟩ := commit_eq_conflicts attempted
  intro conflict mem
  rw [same] at mem
  obtain ⟨pair, isPair, isConflict⟩ := List.mem_map.mp mem
  subst isConflict
  obtain ⟨entry, isEntry, samePair⟩ := mem_insertStates inserted pair isPair
  obtain ⟨id, isId, ofId⟩ := mem_flatMap.mp isEntry
  refine ⟨rfl, id, isId, entry, ofId, ?_, ?_⟩
  · rw [← samePair]
  · rw [← samePair]

theorem accounted_duplicates (accounted : Accounted batch v)
    (attempted : commit codec db (statesOf v) = some (.duplicates txIDs)) :
    Accounted batch (updateInvalidTxs v txIDs .rejectedDuplicateTxId) := by
  apply accounted_updateInvalidTxs accounted
  intro feedback isFeedback mem
  exact
    reported_of_commit_duplicates attempted _ mem (accounted.held feedback isFeedback).unreported

/-- Without a checkpoint, no conflict is about a read of a transaction that reads
checkpoints only. -/
theorem Accounted.unread_of_conflicts (accounted : Accounted batch v) {reader : Bytes}
    (noCheckpoint : v.checkpoint = none) (onlyReads : ReadsCheckpoints v reader)
    (attempted : commit codec db (statesOf v) = some (.conflicts reads)) :
    ∀ conflict ∈ reads, reader ∉ v.readToTxIDs (newCmpRead conflict.1 conflict.2) := by
  intro conflict mem isReader
  obtain ⟨noVersion, id, _, entry, isEntry, sameNs, _⟩ :=
    inserted_of_commit_conflicts attempted conflict mem
  have inNamespace := onlyReads _ isReader
  rw [newCmpRead, noVersion] at inNamespace
  obtain ⟨cp, isCheckpoint, _⟩ :=
    accounted.checkpointWrites id entry (mem_append_left _ isEntry) (sameNs.trans inNamespace)
  rw [noCheckpoint] at isCheckpoint
  cases isCheckpoint

theorem accounted_conflicts (accounted : Accounted batch v)
    (attempted : commit codec db (statesOf v) = some (.conflicts reads))
    (invalidated : invalidateTxsOnReadConflicts v reads = some next) :
    Accounted batch next := by
  have unheld :
      ∀ conflict ∈ reads, ∀ feedback, v.checkpointFeedback = some feedback →
        feedback.ref.txId ∉ v.readToTxIDs (newCmpRead conflict.1 conflict.2) := by
    intro conflict mem feedback isFeedback
    have facts := accounted.held feedback isFeedback
    exact accounted.unread_of_conflicts facts.noCheckpoint facts.reads attempted conflict mem
  exact (accounted_invalidateTxsOnReadConflicts accounted unheld invalidated).1

end

/-! ## The statuses of an attempt -/

section

variable {batch : List VcTx} {v : ValidatedTransactions}

theorem prepareStatusForCommit_eq (accounted : Accounted batch v) :
    prepareStatusForCommit v =
      batch.filterMap fun tx =>
        (reportedStatus v tx.ref.txId).map fun status => ⟨tx.ref, status⟩ := by
  rw [prepareStatusForCommit, accounted.ids, filterMap_map]
  apply filterMap_congr
  intro tx mem
  rw [comp_apply, accounted.heights tx mem]
  cases reportedStatus v tx.ref.txId <;> rfl

theorem refs_of_reported (reported : VcTx → Option Status) (txs : List VcTx) :
    (txs.filterMap fun tx =>
        (reported tx).map fun status => (⟨tx.ref, status⟩ : TxStatus)).map
        TxStatus.ref =
      (txs.filter fun tx => (reported tx).isSome).map VcTx.ref := by
  induction txs with
  | nil => rfl
  | cons tx rest ih =>
    cases status : reported tx with
    | none => simp [status, ih]
    | some given => simp [status, ih]

theorem consistent_of_accounted
    (distinct : (batch.map fun tx => tx.ref.txId).Nodup) (accounted : Accounted batch v) :
    ConsistentStates (statesOf v) where
  heights := by
    intro s mem
    change s ∈ prepareStatusForCommit v at mem
    rw [prepareStatusForCommit_eq accounted] at mem
    obtain ⟨tx, inBatch, isStatus⟩ := mem_filterMap.mp mem
    obtain ⟨status, _, same⟩ := map_eq_some_iff.mp isStatus
    rw [← same]
    exact accounted.heights tx inBatch
  distinct := by
    have refs :
        (prepareStatusForCommit v).map (fun s => s.ref.txId) =
          ((prepareStatusForCommit v).map TxStatus.ref).map TxRef.txId :=
      List.map_map.symm
    change ((prepareStatusForCommit v).map fun s => s.ref.txId).Nodup
    rw [refs, prepareStatusForCommit_eq accounted, refs_of_reported, List.map_map]
    exact distinct.sublist (filter_sublist.map _)

end

end FabricXCommitter.VC
