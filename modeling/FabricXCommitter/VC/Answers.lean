import FabricXCommitter.VC.Accounting
import FabricXCommitter.VC.BatchEquivalence
import FabricXCommitter.VC.Merging

/-!
# The answers to a merged batch

A transaction with the ID of an earlier one at another height is never answered.
-/

namespace FabricXCommitter.VC.Instances

open Library List

section

variable (codec : SnapshotCodec) (attempts : Nat)

/-- The accesses of one batch, each to the database that the other batches left
to it. -/
def pass : Stage → List (Database × Access) → Option Stage
  | stage, [] => some stage
  | stage, (db, access) :: rest =>
    (advance codec attempts ⟨db, []⟩ stage access).bind fun result =>
      result.2.bind fun next => pass next rest

def Stage.transactions : Stage → ValidatedTransactions
  | .validating p _ _ => .ofPrepared p
  | .resolving v _ _ => v
  | .committing v _ => v
  | .correcting v => v

variable {codec attempts} {batch : List VcTx}

theorem accounted_of_advanced {store after : Store} {stage next : Stage} {access : Access}
    (accounted : Accounted batch stage.transactions)
    (advanced : Advanced codec attempts store stage access after (some next)) :
    Accounted batch next.transactions := by
  cases advanced with
  | validateNamespace queried => exact accounted
  | finishValidation finished => exact accounted_finishValidation accounted finished
  | queryNamespace queried => exact accounted
  | categorize created =>
    exact accounted_createSnapshot (accounted_categorizeBlindWrites accounted _) created
  | committed attempted => split <;> exact accounted
  | duplicates attempted => exact accounted_duplicates accounted attempted
  | conflicts attempted invalidated => exact accounted_conflicts accounted attempted invalidated

theorem accounted_pass {accesses : List (Database × Access)} :
    ∀ {stage final : Stage}, Accounted batch stage.transactions →
      pass codec attempts stage accesses = some final → Accounted batch final.transactions := by
  induction accesses with
  | nil =>
    intro stage final accounted passed
    cases passed
    exact accounted
  | cons entry rest ih =>
    intro stage final accounted passed
    obtain ⟨result, advanced, continued⟩ := Option.bind_eq_some_iff.mp passed
    obtain ⟨next, isNext, remainder⟩ := Option.bind_eq_some_iff.mp continued
    have inverted := advanced_of_advance advanced
    rw [isNext] at inverted
    exact ih (accounted_of_advanced accounted inverted) remainder

end

def answers (statuses : List TxStatus) (feedback : Option CheckpointFeedback) (ref : TxRef) : Nat :=
  (statuses.map TxStatus.ref).count ref + (feedback.toList.map CheckpointFeedback.ref).count ref

/-- Each transaction of the batch is answered once, by a status or by the
feedback, nothing else is, and the reuse of an ID is rejected. -/
structure AnsweredOnce (batch : List VcTx) (statuses : List TxStatus)
    (feedback : Option CheckpointFeedback) : Prop where
  once : ∀ tx ∈ batch, answers statuses feedback tx.ref = 1
  nothingElse : ∀ s ∈ statuses, ∃ tx ∈ batch, s.ref = tx.ref
  feedbackKnown : ∀ given, feedback = some given → ∃ tx ∈ batch, given.ref = tx.ref
  reuseRejected :
    ∀ earlier later, [earlier, later].Sublist batch →
      earlier.ref.txId = later.ref.txId →
        earlier.ref.height ≠ later.ref.height → ⟨later.ref, .rejectedDuplicateTxId⟩ ∈ statuses

def NoReuse (batch : List VcTx) : Prop :=
  ∀ tx ∈ batch, ∀ other ∈ batch, tx.ref.txId = other.ref.txId → tx.ref.height = other.ref.height

instance (batch : List VcTx) : Decidable (NoReuse batch) := by
  unfold NoReuse
  infer_instance

theorem ref_eq_of_height {ref other : TxRef} (sameId : ref.txId = other.txId)
    (sameHeight : ref.height = other.height) :
    ref = other := by
  obtain ⟨id, blockNum, txNum⟩ := ref
  obtain ⟨otherId, otherBlockNum, otherTxNum⟩ := other
  simp only [TxRef.height, Height.mk.injEq] at sameHeight
  simp only at sameId
  rw [sameId, sameHeight.1, sameHeight.2]

section

variable {batch : List VcTx} {v : ValidatedTransactions}

theorem refs_setCorrectStatusForDuplicateTxID (accounted : Accounted batch v) (db : Database) :
    (setCorrectStatusForDuplicateTxID db (prepareStatusForCommit v)
        v.txIDToHeight).map TxStatus.ref =
      (batch.filter fun tx => (reportedStatus v tx.ref.txId).isSome).map VcTx.ref := by
  rw [← refs_of_reported, ← prepareStatusForCommit_eq accounted,
    setCorrectStatusForDuplicateTxID, map_map]
  apply map_congr_left
  intro s mem
  rw [prepareStatusForCommit_eq accounted] at mem
  obtain ⟨tx, inBatch, isStatus⟩ := mem_filterMap.mp mem
  obtain ⟨status, _, same⟩ := Option.map_eq_some_iff.mp isStatus
  subst same
  rw [Function.comp_apply]
  split
  · split
    · split
      · rename_i sameHeight
        rw [accounted.heights tx inBatch] at sameHeight
        rw [← Option.some.inj sameHeight]
        rfl
      · rfl
    · rfl
  · rfl

section

variable (distinct : (batch.map fun tx => tx.ref.txId).Nodup)
  (accounted : Accounted batch v) (db : Database)

include distinct accounted

theorem answers_of_mem {tx : VcTx} (mem : tx ∈ batch) :
    answers
        (setCorrectStatusForDuplicateTxID db (prepareStatusForCommit v) v.txIDToHeight)
        v.checkpointFeedback tx.ref = 1 := by
  have refsDistinct :
      ((batch.filter fun tx => (reportedStatus v tx.ref.txId).isSome).map VcTx.ref).Nodup := by
    apply List.Nodup.of_map TxRef.txId
    rw [map_map]
    exact distinct.sublist (filter_sublist.map _)
  rw [answers, refs_setCorrectStatusForDuplicateTxID accounted]
  cases reported : reportedStatus v tx.ref.txId with
  | some status =>
    have isReported :
        tx.ref ∈ (batch.filter fun tx => (reportedStatus v tx.ref.txId).isSome).map VcTx.ref := by
      apply mem_map_of_mem
      rw [mem_filter, reported]
      exact ⟨mem, rfl⟩
    have unnamed : tx.ref ∉ v.checkpointFeedback.toList.map CheckpointFeedback.ref := by
      intro named
      obtain ⟨feedback, isFeedback, same⟩ := mem_map.mp named
      have unreported := (accounted.held feedback (by simpa using isFeedback)).unreported
      rw [same, reported] at unreported
      cases unreported
    rw [count_eq_one_of_mem refsDistinct isReported, count_eq_zero_of_not_mem unnamed]
  | none =>
    obtain ⟨feedback, isFeedback, sameId⟩ := accounted.answered tx mem reported
    obtain ⟨source, inBatch, sameRef⟩ := (accounted.held feedback isFeedback).source
    have isTx : source = tx := inj_on_of_nodup_map distinct inBatch mem (sameRef ▸ sameId)
    have unreported :
        tx.ref ∉ (batch.filter fun tx => (reportedStatus v tx.ref.txId).isSome).map VcTx.ref := by
      intro found
      obtain ⟨other, isOther, same⟩ := mem_map.mp found
      have isSome := (mem_filter.mp isOther).2
      rw [same, reported] at isSome
      cases isSome
    rw [count_eq_zero_of_not_mem unreported, isFeedback]
    simp [sameRef, isTx]

omit distinct in
theorem answers_of_not_mem {ref : TxRef} (outside : ∀ tx ∈ batch, tx.ref ≠ ref) :
    answers
        (setCorrectStatusForDuplicateTxID db (prepareStatusForCommit v) v.txIDToHeight)
        v.checkpointFeedback ref = 0 := by
  have unreported :
      ref ∉ (batch.filter fun tx => (reportedStatus v tx.ref.txId).isSome).map VcTx.ref := by
    intro found
    obtain ⟨tx, isTx, same⟩ := mem_map.mp found
    exact outside tx (mem_of_mem_filter isTx) same
  have unnamed : ref ∉ v.checkpointFeedback.toList.map CheckpointFeedback.ref := by
    intro named
    obtain ⟨feedback, isFeedback, same⟩ := mem_map.mp named
    obtain ⟨tx, mem, sameRef⟩ := (accounted.held feedback (by simpa using isFeedback)).source
    exact outside tx mem (sameRef.symm.trans same)
  rw [answers, refs_setCorrectStatusForDuplicateTxID accounted,
    count_eq_zero_of_not_mem unreported,
    count_eq_zero_of_not_mem unnamed]

end

end

/-- In whatever order a forwarded batch and the other batches access the
database, the answers are complete exactly if no ID of the batch is used at two
heights. -/
theorem answeredOnce_iff_noReuse {platform : Platform} {codec : SnapshotCodec} {attempts : Nat}
    {minTxBatchSize : Nat} {events : List Merging.Event} {s : Merging.State}
    (merged : (Merging.machine minTxBatchSize).run events = some s)
    (submitted : ∀ txBatch, .received txBatch ∈ events → ∀ tx ∈ txBatch, Submitted platform tx)
    {batch : List VcTx} (forwarded : batch ∈ s.toPrepareTxs)
    {p : PreparedTransactions} (prepared : prepare codec batch = some p)
    {accesses : List (Database × Access)} {v : ValidatedTransactions}
    (passed : pass codec attempts (startValidation p) accesses = some (.correcting v))
    (db : Database) :
    AnsweredOnce batch
        (setCorrectStatusForDuplicateTxID db (prepareStatusForCommit v) v.txIDToHeight)
        v.checkpointFeedback ↔
      NoReuse batch := by
  have distinct := firstCopies_distinct batch
  have accounted : Accounted (firstCopies batch) v := by
    have copiesSubmitted : ∀ tx ∈ firstCopies batch, Submitted platform tx := by
      intro tx member
      obtain ⟨txBatch, received, inside⟩ :=
        Merging.received_of_forwarded merged forwarded (firstCopies_subset member)
      exact submitted txBatch received tx inside
    exact
      accounted_pass
        (accounted_ofPrepared copiesSubmitted (preparedAs_of_prepare prepared))
        passed
  constructor
  · intro answered tx member other otherMember sameId
    have isFirst : ∀ tx ∈ batch, ∃ first ∈ firstCopies batch, first.ref = tx.ref := by
      intro tx member
      by_contra skipped
      have unanswered :=
        answers_of_not_mem accounted db fun first isFirst same => skipped ⟨first, isFirst, same⟩
      rw [answered.once tx member] at unanswered
      cases unanswered
    obtain ⟨first, firstMember, firstRef⟩ := isFirst tx member
    obtain ⟨second, secondMember, secondRef⟩ := isFirst other otherMember
    have sameTx : first = second := by
      apply inj_on_of_nodup_map distinct firstMember secondMember
      rw [firstRef, secondRef]
      exact sameId
    rw [← firstRef, ← secondRef, sameTx]
  · intro noReuse
    have firstRef : ∀ tx ∈ batch, ∃ first ∈ firstCopies batch, first.ref = tx.ref := by
      intro tx member
      obtain ⟨first, isFirst, sameId⟩ := exists_firstCopy member
      exact
        ⟨first, isFirst,
          ref_eq_of_height sameId (noReuse first (firstCopies_subset isFirst) tx member sameId)⟩
    refine
      { once := ?_
        nothingElse := ?_
        feedbackKnown := ?_
        reuseRejected := ?_ }
    · intro tx member
      obtain ⟨first, isFirst, sameRef⟩ := firstRef tx member
      rw [← sameRef]
      exact answers_of_mem distinct accounted db isFirst
    · intro status member
      have isRef := mem_map_of_mem (f := TxStatus.ref) member
      rw [refs_setCorrectStatusForDuplicateTxID accounted] at isRef
      obtain ⟨tx, isTx, same⟩ := mem_map.mp isRef
      exact ⟨tx, firstCopies_subset (mem_of_mem_filter isTx), same.symm⟩
    · intro feedback isFeedback
      obtain ⟨tx, member, sameRef⟩ := (accounted.held feedback isFeedback).source
      exact ⟨tx, firstCopies_subset member, sameRef⟩
    · intro earlier later before sameId different
      exact
        absurd
          (noReuse earlier (before.subset mem_cons_self) later
            (before.subset (mem_cons_of_mem _ mem_cons_self)) sameId)
          different

def twoReceived (second : VcTx) : List Merging.Event :=
  [.received [readWriteTx 1 [2] none], .received [second]]

theorem submitted_twoReceived {second : VcTx}
    (accepted :
      Sidecar.verifyTxForm permissivePlatform ⟨second.namespaces, [some [some [1]]]⟩ =
        Sidecar.statusNotYetValidated) :
    ∀ txBatch, .received txBatch ∈ twoReceived second → ∀ tx ∈ txBatch,
      Submitted permissivePlatform tx := by
  intro txBatch received tx mem _
  left
  refine ⟨[some [some [1]]], ?_⟩
  rcases mem_pair.mp received with same | same
  · cases same
    rw [mem_singleton.mp mem]
    decide +kernel
  · cases same
    rw [mem_singleton.mp mem]
    exact accepted

theorem twoInsertions_answered :
    ∃ p v,
      prepare countingCodec [readWriteTx 1 [2] none, readWriteTx 2 [3] none] = some p ∧
        pass countingCodec 1 (startValidation p)
            [(singleRowDatabase 5, .validateNamespace),
              (singleRowDatabase 5, .finishValidation),
              (singleRowDatabase 5, .categorize),
              (singleRowDatabase 5, .attempt true)] =
          some (.correcting v) ∧
        AnsweredOnce [readWriteTx 1 [2] none, readWriteTx 2 [3] none]
          (setCorrectStatusForDuplicateTxID (singleRowDatabase 5)
            (prepareStatusForCommit v) v.txIDToHeight)
          v.checkpointFeedback := by
  have merged :
      (Merging.machine 2).run (twoReceived (readWriteTx 2 [3] none)) =
        some ⟨[], [[readWriteTx 1 [2] none, readWriteTx 2 [3] none]]⟩ := by
    decide +kernel
  have evaluated :
      ((prepare countingCodec [readWriteTx 1 [2] none, readWriteTx 2 [3] none]).bind fun p =>
          (pass countingCodec 1 (startValidation p)
            [(singleRowDatabase 5, .validateNamespace),
              (singleRowDatabase 5, .finishValidation),
              (singleRowDatabase 5, .categorize),
              (singleRowDatabase 5, .attempt true)]).map fun stage =>
            match stage with
            | .correcting _ => true
            | _ => false) =
        some true := by
    decide +kernel
  obtain ⟨p, prepared, continued⟩ := Option.bind_eq_some_iff.mp evaluated
  obtain ⟨stage, passed, isLast⟩ := Option.map_eq_some_iff.mp continued
  cases stage with
  | correcting v =>
    exact
      ⟨p, v, prepared, passed,
        (answeredOnce_iff_noReuse merged
          (submitted_twoReceived (by decide +kernel)) mem_cons_self
          prepared passed (singleRowDatabase 5)).mpr (by decide)⟩
  | validating => cases isLast
  | resolving => cases isLast
  | committing => cases isLast

/-- An insertion that uses the ID of an earlier transaction. -/
def reusedId : VcTx := { readWriteTx 2 [3] none with ref := ⟨[1], 2, 0⟩ }

/-- The reuse is skipped and gets no answer. -/
theorem reusedId_unanswered :
    (∀ txBatch, .received txBatch ∈ twoReceived reusedId → ∀ tx ∈ txBatch,
        Submitted permissivePlatform tx) ∧
      (Merging.machine 2).run (twoReceived reusedId) =
        some ⟨[], [[readWriteTx 1 [2] none, reusedId]]⟩ ∧
      (processBatch countingCodec 1 (singleRowDatabase 5) [readWriteTx 1 [2] none, reusedId]).map
          (fun result => (result.1, result.2.1)) =
        some ([⟨⟨[1], 1, 1⟩, .committed⟩], none) ∧
      ¬ AnsweredOnce [readWriteTx 1 [2] none, reusedId] [⟨⟨[1], 1, 1⟩, .committed⟩] none := by
  refine
    ⟨submitted_twoReceived (by decide +kernel), by decide +kernel,
      by decide +kernel, ?_⟩
  intro answered
  have unanswered : answers [⟨⟨[1], 1, 1⟩, .committed⟩] none reusedId.ref = 0 := by
    decide +kernel
  have once := answered.once reusedId (mem_cons_of_mem _ mem_cons_self)
  cases once

end FabricXCommitter.VC.Instances
