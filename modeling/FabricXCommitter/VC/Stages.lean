import FabricXCommitter.VC.Ledger

/-!
# The stages of a batch among other batches

The rows of unrecorded transactions do not change until these are recorded.
-/

namespace FabricXCommitter.VC.Instances

open Library List Function

variable {db : Database} {batch : List VcTx} {state : Bytes → Bytes → Option UInt64}
  {dead : Invalidated} {tx : VcTx} {pending : List Bytes}

/-! ## What a commit attempt can meet -/

/-- The possible results of an attempt. -/
inductive Attempted (codec : SnapshotCodec) (db : Database) (batch : List VcTx)
    (state : Bytes → Bytes → Option UInt64) (dead : Invalidated) : Prop where
  | duplicates (txIDs : List Bytes)
      (answer : commit codec db (statesOf (view state batch dead)) = some (.duplicates txIDs))
      (recorded : ∀ id ∈ txIDs, (db.txStatus id).isSome = true)
  | conflicts (reads : List (Bytes × Read))
      (answer : commit codec db (statesOf (view state batch dead)) = some (.conflicts reads))
      (expected :
        ∀ read ∈ reads,
          ∃ tx ∈ batch, live dead tx = true ∧
            ∃ entry ∈ txExpectedAbsent tx,
              read = (entry.nsId, ⟨entry.key, none⟩) ∧ (db.row entry.nsId entry.key).isSome = true)
  | fresh
      (settled : Settled db batch dead)
      (absent :
        ∀ tx ∈ batch, live dead tx = true →
          ∀ entry ∈ txExpectedAbsent tx, db.row entry.nsId entry.key = none)
      (answer :
        commit codec db (statesOf (view state batch dead)) =
          if ∀ tx ∈ batch, Storable db tx then
            some (.committed (db.apply (Effects.concat (batch.map (effectsOf db)))))
          else
            none)

theorem attempted
    (codec : SnapshotCodec) (admissible : Admissible batch) (offered : Offered db batch)
    (judged : Judged db batch state dead) :
    Attempted codec db batch state dead := by
  by_cases unmarked :
      ∃ tx ∈ batch, (db.txStatus tx.ref.txId).isSome = true ∧
        statusIn dead tx ≠ .rejectedDuplicateTxId
  · obtain ⟨tx, mem, recorded, status⟩ := unmarked
    obtain ⟨txIDs, answer, marked⟩ :=
      @attempt_duplicates tx codec db batch state dead admissible mem recorded status
    refine .duplicates txIDs answer fun id inside => ?_
    obtain ⟨other, _, sameId, _, stored⟩ := (marked id).mp inside
    rw [← sameId]
    exact stored
  · have settled : Settled db batch dead := by
      intro tx mem recorded
      by_contra status
      exact unmarked ⟨tx, mem, recorded, status⟩
    by_cases existing :
        ∃ tx ∈ batch, live dead tx = true ∧
          ∃ entry ∈ txExpectedAbsent tx, (db.row entry.nsId entry.key).isSome = true
    · obtain ⟨tx, mem, alive, entry, expected, present⟩ := existing
      obtain ⟨reads, answer, readsIff⟩ :=
        attempt_conflicts codec admissible offered judged settled mem alive expected present
      exact .conflicts reads answer fun read inside => (readsIff read).mp inside
    · have absent :
          ∀ tx ∈ batch, live dead tx = true →
            ∀ entry ∈ txExpectedAbsent tx, db.row entry.nsId entry.key = none := by
        intro tx mem alive entry expected
        by_contra found
        exact existing ⟨tx, mem, alive, entry, expected, Option.isSome_iff_ne_none.mpr found⟩
      exact .fresh settled absent (attempt_fresh admissible offered judged settled absent codec)

/-! ## Facts that other batches keep -/

section

variable {db other : Database} {tx : VcTx}

theorem readMismatch_of_agree
    (agree : AgreeFor db other tx) {event : ReadEvent} (mem : event ∈ txEvents tx) :
    readMismatch db event.nsId event.read = readMismatch other event.nsId event.read := by
  have rows : db.row event.nsId event.read.key = other.row event.nsId event.read.key :=
    agree.reads _ (mem_readKeys_of_event mem)
  rw [readMismatch, readMismatch, rows]

theorem mem_writeKeys_of_blind (unspoiled : tx.prelimInvalidTxStatus = none) {entry : WriteEntry}
    (mem : entry ∈ txBlinds tx) :
    (entry.nsId, entry.key) ∈ writeKeys tx := by
  obtain ⟨ns, nsMem, inside⟩ := mem_flatMap.mp mem
  obtain ⟨w, writeMem, same⟩ := mem_map.mp inside
  rw [← same]
  refine mem_map.mpr ⟨⟨ns.nsId, w.key, w.value⟩, ?_, rfl⟩
  refine mem_flatMap.mpr ⟨ns, ?_, ?_⟩
  · rw [preparedNamespaces_of_valid unspoiled]
    exact nsMem
  · exact mem_append_right _ (mem_map.mpr ⟨w, writeMem, rfl⟩)

theorem queriedVersion_of_agree (agree : AgreeFor db other tx)
    (unspoiled : tx.prelimInvalidTxStatus = none) {entry : WriteEntry} (mem : entry ∈ txBlinds tx) :
    queriedVersion db entry.nsId entry.key = queriedVersion other entry.nsId entry.key := by
  have rows : db.row entry.nsId entry.key = other.row entry.nsId entry.key :=
    agree.writes _ (mem_writeKeys_of_blind unspoiled mem)
  rw [queriedVersion, queriedVersion, rows]

end

/-- The databases look the same to every transaction of the batch that is
unrecorded in the first. -/
def AgreeOn (db other : Database) (batch : List VcTx) : Prop :=
  ∀ tx ∈ batch, db.txStatus tx.ref.txId = none → AgreeFor db other tx

section

variable {db other : Database} {batch : List VcTx}
  (agree : AgreeOn db other batch)

include agree

theorem AgreeOn.unrecorded (mem : tx ∈ batch) (unrecorded : db.txStatus tx.ref.txId = none) :
    other.txStatus tx.ref.txId = none :=
  (agree tx mem unrecorded).status.symm.trans unrecorded

theorem AgreeOn.unhidden (unhidden : Unhidden other batch) : Unhidden db batch := by
  intro tx mem unrecorded event eventMem validated hiddenRead
  rw [readMismatch_of_agree (agree tx mem unrecorded) eventMem]
  exact unhidden tx mem (agree.unrecorded mem unrecorded) event eventMem validated hiddenRead

theorem AgreeOn.screened (screened : Screened other batch dead) : Screened db batch dead where
  sound := by
    intro tx mem unrecorded status verdict
    rw [(agree tx mem unrecorded).readsMatch_eq]
    exact screened.sound tx mem (agree.unrecorded mem unrecorded) status verdict
  complete := by
    intro tx mem unrecorded alive event eventMem validated
    rw [readMismatch_of_agree (agree tx mem unrecorded) eventMem]
    exact screened.complete tx mem (agree.unrecorded mem unrecorded) alive event eventMem validated

theorem AgreeOn.judged (judged : Judged other batch state dead) : Judged db batch state dead :=
  { agree.screened judged.toScreened with
    resolved := by
      intro tx mem unrecorded alive entry entryMem
      rw [queriedVersion_of_agree (agree tx mem unrecorded) (live_iff.mp alive).2 entryMem]
      exact judged.resolved tx mem (agree.unrecorded mem unrecorded) alive entry entryMem }

end

/-! ## What is known at each stage -/

/-- The reads of the namespaces that are not pending are compared, as far as
unrecorded transactions made them. -/
structure Compared (db : Database) (batch : List VcTx) (pending : List Bytes)
    (conflicts : List (Bytes × Read)) : Prop where
  distinct : pending.Nodup
  listed : ∀ entry ∈ conflicts, entry ∈ (indexOf (batchEvents batch)).1 ∧ entry.1 ∉ pending
  decided :
    ∀ entry ∈ (indexOf (batchEvents batch)).1, entry.1 ∉ pending →
      ∀ tx ∈ batch, db.txStatus tx.ref.txId = none →
        (∃ event ∈ txEvents tx, event.cmp = newCmpRead entry.1 entry.2) →
          (entry ∈ conflicts ↔ readMismatch db entry.1 entry.2 = true)

/-- The versions in the namespaces that are not pending are known for the
blind writes of the live unrecorded transactions. -/
def Resolved (db : Database) (batch : List VcTx) (pending : List Bytes)
    (state : Bytes → Bytes → Option UInt64) (dead : Invalidated) : Prop :=
  ∀ tx ∈ batch, db.txStatus tx.ref.txId = none → live dead tx = true →
    ∀ entry ∈ txBlinds tx, entry.nsId ∉ pending →
      state entry.nsId entry.key = queriedVersion db entry.nsId entry.key

/-- The transaction is processed, and recorded as the batch has it unless the
batch takes it for a duplicate. -/
structure Answered (db : Database) (dead : Invalidated) (tx : VcTx) : Prop where
  inert : Inert db tx
  recorded :
    statusIn dead tx ≠ .rejectedDuplicateTxId →
      db.txStatus tx.ref.txId = some (statusIn dead tx, tx.ref.height)

inductive Sound (sequence : List VcTx) (store : Store) : Stage → Prop where
  | validating {batch : List VcTx} {pending : List Bytes}
      {conflicts : List (Bytes × Read)}
      (readyBatch : ReadyBatch sequence store.reported batch)
      (unhidden : Unhidden store.db batch)
      (compared : Compared store.db batch pending conflicts) :
      Sound sequence store (.validating (preparedForm batch) pending conflicts)
  | resolving {batch : List VcTx} {pending : List Bytes}
      {state : Bytes → Bytes → Option UInt64} {dead : Invalidated}
      (readyBatch : ReadyBatch sequence store.reported batch)
      (screened : Screened store.db batch dead)
      (resolved : Resolved store.db batch pending state dead) :
      Sound sequence store
        (.resolving (masked (.ofPrepared (preparedForm batch)) dead) pending state)
  | committing {batch : List VcTx}
      {state : Bytes → Bytes → Option UInt64} {dead : Invalidated}
      {retries : Nat}
      (readyBatch : ReadyBatch sequence store.reported batch)
      (judged : Judged store.db batch state dead) :
      Sound sequence store (.committing (view state batch dead) retries)
  | correcting {batch : List VcTx}
      {state : Bytes → Bytes → Option UInt64} {dead : Invalidated}
      (readyBatch : ReadyBatch sequence store.reported batch)
      (answered : ∀ tx ∈ batch, Answered store.db dead tx) :
      Sound sequence store (.correcting (view state batch dead))

section

variable {sequence : List VcTx} {before after : Store}
  (advances : Advances sequence before after)

include advances

theorem agreeOn_of_advances (readyBatch : ReadyBatch sequence before.reported batch) :
    AgreeOn after.db before.db batch := fun tx mem unrecorded =>
  advances.agree tx (readyBatch.members tx mem) (readyBatch.ready tx mem) unrecorded

omit advances in
theorem event_of_listed (admissible : Admissible batch) {entry : Bytes × Read}
    (inIndex : entry ∈ (indexOf (batchEvents batch)).1)
    (mem : tx ∈ batch) {event : ReadEvent} (eventMem : event ∈ txEvents tx)
    (sameCmp : event.cmp = newCmpRead entry.1 entry.2) :
    event.nsId = entry.1 ∧ event.read = entry.2 := by
  obtain ⟨source, sourceMem, _, sourceEntry⟩ := listed_indexOf inIndex
  obtain ⟨owner, ownerMem, inside⟩ := mem_batchEvents.mp sourceMem
  have sourceCmp : event.cmp = source.cmp := by
    rw [sameCmp, ← sourceEntry]
    rfl
  obtain ⟨sameNs, sameRead⟩ := same_read_of_cmp admissible mem ownerMem eventMem inside sourceCmp
  rw [← sourceEntry]
  exact ⟨sameNs, sameRead⟩

theorem Compared.stable
    {conflicts : List (Bytes × Read)} (readyBatch : ReadyBatch sequence before.reported batch)
    (compared : Compared before.db batch pending conflicts) :
    Compared after.db batch pending conflicts where
  distinct := compared.distinct
  listed := compared.listed
  decided := by
    intro entry inIndex compareDone tx mem unrecorded reader
    have agree := agreeOn_of_advances advances readyBatch
    obtain ⟨event, eventMem, sameCmp⟩ := reader
    obtain ⟨sameNs, sameRead⟩ := event_of_listed readyBatch.admissible inIndex mem eventMem sameCmp
    rw [← sameNs, ← sameRead,
      readMismatch_of_agree (agree tx mem unrecorded) eventMem, sameNs,
      sameRead]
    exact
      compared.decided entry inIndex compareDone tx mem
        (agree.unrecorded mem unrecorded) ⟨event, eventMem, sameCmp⟩

theorem Resolved.stable (readyBatch : ReadyBatch sequence before.reported batch)
    (resolved : Resolved before.db batch pending state dead) :
    Resolved after.db batch pending state dead := by
  intro tx mem unrecorded alive entry entryMem queried
  have agree := agreeOn_of_advances advances readyBatch
  rw [queriedVersion_of_agree (agree tx mem unrecorded) (live_iff.mp alive).2 entryMem]
  exact resolved tx mem (agree.unrecorded mem unrecorded) alive entry entryMem queried

theorem Answered.stable (answered : Answered before.db dead tx) : Answered after.db dead tx where
  inert := answered.inert.of_kept fun entry => advances.recorded _ entry
  recorded := fun counted => advances.recorded _ _ (answered.recorded counted)

theorem Sound.stable {stage : Stage} (sound : Sound sequence before stage) :
    Sound sequence after stage := by
  cases sound with
  | validating readyBatch unhidden compared =>
    exact
      .validating (readyBatch.mono advances.reported)
        ((agreeOn_of_advances advances readyBatch).unhidden unhidden)
        (compared.stable advances readyBatch)
  | resolving readyBatch screened resolved =>
    exact
      .resolving (readyBatch.mono advances.reported)
        ((agreeOn_of_advances advances readyBatch).screened screened)
        (resolved.stable advances readyBatch)
  | committing readyBatch judged =>
    exact
      .committing (readyBatch.mono advances.reported)
        ((agreeOn_of_advances advances readyBatch).judged judged)
  | correcting readyBatch answered =>
    exact
      .correcting (readyBatch.mono advances.reported)
        fun tx mem => (answered tx mem).stable advances

end

section

variable {db : Database} {batch : List VcTx}

theorem compared_start : Compared db batch (readNamespaces (indexOf (batchEvents batch)).1) [] where
  distinct := nodup_dedup _
  listed := fun _ mem => absurd mem not_mem_nil
  decided := fun _ inIndex compareDone => absurd (mem_readNamespaces inIndex) compareDone

theorem Compared.step {nsId : Bytes} {conflicts : List (Bytes × Read)}
    (compared : Compared db batch (nsId :: pending) conflicts) {found : List Read}
    (queried :
      validateNamespaceReads db nsId (readsOfNamespace (indexOf (batchEvents batch)).1 nsId) =
        some found) :
    Compared db batch pending (conflicts ++ found.map fun read => (nsId, read)) := by
  obtain ⟨notPending, restDistinct⟩ := nodup_cons.mp compared.distinct
  obtain ⟨_, result⟩ := Option.ite_none_right_eq_some.mp queried
  have foundIff :
      ∀ read, read ∈ found ↔
        (nsId, read) ∈ (indexOf (batchEvents batch)).1 ∧ readMismatch db nsId read = true := by
    intro read
    rw [← Option.some.inj result, mem_filter, mem_readsOfNamespace]
  constructor
  · exact restDistinct
  · intro entry mem
    rcases mem_append.mp mem with before | now
    · obtain ⟨inIndex, outside⟩ := compared.listed entry before
      exact ⟨inIndex, fun inside => outside (mem_cons_of_mem _ inside)⟩
    · obtain ⟨read, readMem, same⟩ := mem_map.mp now
      rw [← same]
      exact ⟨((foundIff read).mp readMem).1, notPending⟩
  · intro entry inIndex outside tx mem unrecorded reader
    rw [mem_append]
    by_cases here : entry.1 = nsId
    · have notBefore : entry ∉ conflicts := by
        intro before
        apply (compared.listed entry before).2
        rw [here]
        exact mem_cons_self
      have entryShape : (nsId, entry.2) = entry := by rw [← here]
      constructor
      · intro conflict
        obtain ⟨read, readMem, same⟩ := mem_map.mp (conflict.resolve_left notBefore)
        rw [← same]
        exact ((foundIff read).mp readMem).2
      · intro mismatch
        right
        rw [here] at mismatch
        refine mem_map.mpr ⟨entry.2, (foundIff _).mpr ⟨?_, mismatch⟩, ?_⟩
        · rw [entryShape]
          exact inIndex
        · exact entryShape
    · have decidedBefore :=
        compared.decided entry inIndex
          (fun inside => (mem_cons.mp inside).elim here outside) tx mem
          unrecorded reader
      rw [← decidedBefore]
      constructor
      · intro conflict
        rcases conflict with before | now
        · exact before
        · obtain ⟨read, _, same⟩ := mem_map.mp now
          exact absurd (congrArg Prod.fst same).symm here
      · exact .inl

section

variable (distinct : (batch.map fun tx => tx.ref.txId).Nodup)

include distinct

theorem mem_blindWrites (mem : tx ∈ batch) (alive : live dead tx = true) {entry : WriteEntry}
    (entryMem : entry ∈ txBlinds tx) :
    entry ∈ blindWrites (masked (.ofPrepared (preparedForm batch)) dead) := by
  have listed :
      entry ∈
        groupWrites (batch.map fun tx => tx.ref.txId)
          (TransactionToWrites.without (entriesById blindEntries batch) dead) := by
    rw [groupWrites_blind distinct, mem_flatMap_live]
    refine ⟨tx, mem, alive, ?_⟩
    rw [preparedNamespaces_of_valid (live_iff.mp alive).2]
    exact entryMem
  exact listed

theorem resolved_start (dead : Invalidated) :
    Resolved db batch
      (writeNamespaces (blindWrites (masked (.ofPrepared (preparedForm batch)) dead)))
      (fun _ _ => none) dead := by
  intro tx mem _ alive entry entryMem queried
  have listed := mem_blindWrites distinct mem alive entryMem
  exact absurd (mem_writeNamespaces.mpr ⟨entry, listed, rfl⟩) queried

theorem Resolved.step {nsId : Bytes} (resolved : Resolved db batch (nsId :: pending) state dead)
    {versions : Bytes → Option UInt64}
    (queried :
      queryVersionsIfPresent db nsId
          ((writesOfNamespace
            (blindWrites (masked (.ofPrepared (preparedForm batch)) dead))
            nsId).map WriteEntry.key) =
        some versions) :
    Resolved db batch pending (update state nsId versions) dead := by
  intro tx mem unrecorded alive entry entryMem outside
  obtain ⟨_, result⟩ := Option.ite_none_right_eq_some.mp queried
  by_cases here : entry.nsId = nsId
  · have listed := mem_blindWrites distinct mem alive entryMem
    have asked :
        entry.key ∈
          (writesOfNamespace
            (blindWrites (masked (.ofPrepared (preparedForm batch)) dead))
            nsId).map WriteEntry.key :=
      mem_map_of_mem (mem_writesOfNamespace.mpr ⟨listed, here⟩)
    rw [here, update_self, ← Option.some.inj result]
    exact if_pos asked
  · rw [update_of_ne here]
    exact
      resolved tx mem unrecorded alive entry entryMem
        fun inside => (mem_cons.mp inside).elim here outside

end

end

theorem finishValidation_eq
    (codec : SnapshotCodec) (attempts : Nat) {conflicts : List (Bytes × Read)}
    (admissible : Admissible batch) (unhidden : Unhidden db batch)
    (compared : Compared db batch [] conflicts) :
    ∃ dead,
      finishValidation codec attempts db (preparedForm batch) conflicts =
          some (masked (.ofPrepared (preparedForm batch)) dead, db) ∧
        Screened db batch dead := by
  have listed := fun entry mem => (compared.listed entry mem).1
  have screened :=
    screened_of_conflicts admissible
      (fun entry inIndex tx mem unrecorded reader =>
        compared.decided entry inIndex not_mem_nil tx mem unrecorded reader)
      listed unhidden
  refine ⟨_, ?_, screened⟩
  rw [finishValidation, invalidate_listed listed]
  simp only
  rw [rejectSnapshot_masked codec admissible.plainBatch]
  rfl

theorem categorize_eq (codec : SnapshotCodec) (admissible : Admissible batch)
    (db : Database) (state : Bytes → Bytes → Option UInt64) (dead : Invalidated) :
    createSnapshotIfPresent codec db
        (categorizeBlindWrites state (masked (.ofPrepared (preparedForm batch)) dead)) =
      some (view state batch dead, db) := by
  rw [categorizeBlindWrites_masked]
  exact createSnapshot_view codec admissible.plainBatch dead db state

theorem corrected_eq
    (admissible : Admissible batch) (answered : ∀ tx ∈ batch, Answered db dead tx) :
    setCorrectStatusForDuplicateTxID db
        (prepareStatusForCommit (view state batch dead))
        (view state batch dead).txIDToHeight =
      batch.map fun tx => ⟨tx.ref, outcome db tx⟩ := by
  rw [setCorrectStatusForDuplicateTxID,
    prepareStatusForCommit_view state dead admissible.distinct admissible.writes, map_map]
  apply map_congr_left
  intro tx mem
  simp only [comp_apply, txIDToHeight_view state dead admissible.distinct mem]
  by_cases duplicate : statusIn dead tx = .rejectedDuplicateTxId
  · rw [if_pos duplicate, outcome]
    cases stored : db.txStatus tx.ref.txId with
    | none =>
      have status := (answered tx mem).inert.outcome_of_unrecorded stored
      rw [outcome, stored] at status
      rw [duplicate, status]
    | some entry =>
      obtain ⟨status, storedHeight⟩ := entry
      by_cases sameHeight : storedHeight = tx.ref.height
      · simp only [sameHeight, if_true]
        rfl
      · have different : some tx.ref.height ≠ some storedHeight :=
          fun same => sameHeight (Option.some.inj same).symm
        simp only [if_neg different, if_neg sameHeight, duplicate]
  · rw [if_neg duplicate, outcome, (answered tx mem).recorded duplicate]
    simp only [if_true]

/-- After a commit every transaction of the batch is recorded as the batch has
it, or was recorded before. -/
theorem answered_of_fresh (admissible : Admissible batch) (judged : Judged db batch state dead)
    (settled : Settled db batch dead)
    (absent :
      ∀ tx ∈ batch, live dead tx = true →
        ∀ entry ∈ txExpectedAbsent tx, db.row entry.nsId entry.key = none)
    {tx : VcTx} (mem : tx ∈ batch) :
    Answered (db.apply (Effects.concat (batch.map (effectsOf db)))) dead tx := by
  cases stored : db.txStatus tx.ref.txId with
  | some entry =>
    have isRecorded : (db.txStatus tx.ref.txId).isSome = true := by
      rw [stored]
      rfl
    have duplicate := settled tx mem isRecorded
    have inert : Inert db tx := .inl isRecorded
    exact ⟨inert.of_kept fun _ => txStatus_batch, fun counted => absurd duplicate counted⟩
  | none =>
    have status := statusIn_eq_outcome judged settled absent mem stored
    by_cases inert : Inert db tx
    · have duplicate := inert.outcome_of_unrecorded stored
      exact
        ⟨inert.of_kept fun _ => txStatus_batch,
          fun counted => absurd (status.trans duplicate) counted⟩
    · have recorded := txStatus_batch_of_mem admissible mem inert
      rw [← status] at recorded
      exact ⟨.inl (by rw [recorded]; rfl), fun _ => recorded⟩

/-- What an access of one batch leaves. -/
structure Kept (initial : Database) (sequence : List VcTx) (before after : Store)
    (next : Option Stage) : Prop where
  ledger : ∃ processed, Ledger initial sequence after processed
  sound : ∀ stage, next = some stage → Sound sequence after stage
  advances : Advances sequence before after

section

variable {initial : Database} {sequence : List VcTx} {store : Store}
  {processed : List VcTx} (workload : Workload initial sequence)
  (ledger : Ledger initial sequence store processed)

include workload ledger

theorem offered_of_ready (readyBatch : ReadyBatch sequence store.reported batch) :
    Offered store.db batch where
  namespaces := fun tx mem =>
    ledger.namespacesExist workload (readyBatch.members tx mem) (readyBatch.ready tx mem)
  independent := by
    have distinct := readyBatch.admissible.distinct.of_map _
    apply distinct.imp_of_mem
    intro first second firstMem secondMem different firstUnrecorded
      secondUnrecorded firstValid secondValid
    by_contra dependent
    have contradiction :
        ∀ tx ∈ processed, store.db.txStatus tx.ref.txId = none →
          tx.prelimInvalidTxStatus ≠ none := by
      intro tx isProcessed unrecorded valid
      rcases ledger.inert workload isProcessed with recorded | duplicate
      · rw [unrecorded] at recorded
        cases recorded
      · rw [valid] at duplicate
        cases duplicate
    rcases ledger.dependent_processed workload readyBatch firstMem
        secondMem different dependent with isProcessed | isProcessed
    · exact contradiction first isProcessed firstUnrecorded firstValid
    · exact contradiction second isProcessed secondUnrecorded secondValid
  valid := ledger.valid workload

omit workload in
theorem kept_of_sound {stage : Stage} (sound : Sound sequence store stage) :
    Kept initial sequence store store (some stage) where
  ledger := ⟨processed, ledger⟩
  sound := fun _ same => Option.some.inj same ▸ sound
  advances := .refl store

section

variable {codec : SnapshotCodec} {batch : List VcTx}
  {state : Bytes → Bytes → Option UInt64} {dead : Invalidated}
  (readyBatch : ReadyBatch sequence store.reported batch)
  (judged : Judged store.db batch state dead)

include readyBatch judged

theorem kept_committed
    (answer : commit codec store.db (statesOf (view state batch dead)) = some (.committed db))
    (acknowledged : Bool) (retries : Nat) :
    Kept initial sequence store { store with db := db }
      (some
        (if acknowledged then
          .correcting (view state batch dead)
        else
          .committing (view state batch dead) retries)) := by
  have admissible := readyBatch.admissible
  cases attempted codec admissible (offered_of_ready workload ledger readyBatch) judged with
  | duplicates _ other _ =>
    rw [answer] at other
    cases other
  | conflicts _ other _ =>
    rw [answer] at other
    cases other
  | fresh settled absent result =>
    rw [answer] at result
    split at result
    · rename_i storable
      cases result
      have advances := ledger.advances workload readyBatch
      refine ⟨⟨_, ledger.extend workload readyBatch storable⟩, ?_, advances⟩
      intro stage same
      rw [← Option.some.inj same]
      cases acknowledged with
      | true =>
        exact
          .correcting readyBatch fun tx mem =>
            answered_of_fresh admissible judged settled absent mem
      | false =>
        have unchanged : Sound sequence store (.committing (view state batch dead) retries) :=
          .committing readyBatch judged
        exact unchanged.stable advances
    · cases result

theorem kept_duplicates {txIDs : List Bytes}
    (answer : commit codec store.db (statesOf (view state batch dead)) = some (.duplicates txIDs))
    (retries : Nat) :
    Kept initial sequence store store
      (some
        (.committing
          (updateInvalidTxs (view state batch dead) txIDs .rejectedDuplicateTxId)
          retries)) := by
  cases attempted codec readyBatch.admissible
      (offered_of_ready workload ledger readyBatch) judged with
  | duplicates ids other recorded =>
    rw [answer] at other
    cases other
    rw [view, updateInvalidTxs_masked]
    exact kept_of_sound ledger (.committing readyBatch (judged.kill_recorded recorded _))
  | conflicts _ other _ =>
    rw [answer] at other
    cases other
  | fresh _ _ result =>
    rw [answer] at result
    split at result <;> cases result

theorem kept_conflicts {reads : List (Bytes × Read)} {next : ValidatedTransactions}
    (answer : commit codec store.db (statesOf (view state batch dead)) = some (.conflicts reads))
    (invalidated : invalidateTxsOnReadConflicts (view state batch dead) reads = some next)
    (retries : Nat) :
    Kept initial sequence store store (some (.committing next retries)) := by
  have admissible := readyBatch.admissible
  cases attempted codec admissible (offered_of_ready workload ledger readyBatch) judged with
  | duplicates _ other _ =>
    rw [answer] at other
    cases other
  | conflicts found other expected =>
    rw [answer] at other
    cases other
    have stored :
        ∀ read ∈ reads, read.2.version = none ∧ (store.db.row read.1 read.2.key).isSome = true := by
      intro read inside
      obtain ⟨_, _, _, source, _, same, present⟩ := expected read inside
      rw [same]
      exact ⟨rfl, present⟩
    rw [invalidateTxsOnReadConflicts_view (readers_of_conflicts expected)] at invalidated
    rw [← Option.some.inj invalidated]
    exact kept_of_sound ledger (.committing readyBatch (judged.kill_conflicts admissible stored))
  | fresh _ _ result =>
    rw [answer] at result
    split at result <;> cases result

end

theorem kept_report (readyBatch : ReadyBatch sequence store.reported batch)
    (answered : ∀ tx ∈ batch, Answered store.db dead tx) :
    Kept initial sequence store
      { store with
        reported :=
          store.reported ++
            setCorrectStatusForDuplicateTxID store.db
              (prepareStatusForCommit (view state batch dead))
              (view state batch dead).txIDToHeight }
      none := by
  rw [corrected_eq readyBatch.admissible answered]
  have inert := fun tx mem => (answered tx mem).inert
  refine ⟨⟨_, ledger.report workload readyBatch inert⟩, ?_, .of_same_db store _⟩
  intro stage same
  cases same

/-- Every access of a batch keeps the ledger, what is known about the batch and
what is known about the other batches. -/
theorem kept_of_advanced {codec : SnapshotCodec} {attempts : Nat} {stage : Stage} {access : Access}
    {after : Store} {next : Option Stage} (sound : Sound sequence store stage)
    (advanced : Advanced codec attempts store stage access after next) :
    Kept initial sequence store after next := by
  cases advanced with
  | validateNamespace queried =>
    cases sound with
    | validating readyBatch unhidden compared =>
      exact kept_of_sound ledger (.validating readyBatch unhidden (compared.step queried))
  | finishValidation finished =>
    cases sound with
    | validating readyBatch unhidden compared =>
      obtain ⟨dead, result, screened⟩ :=
        finishValidation_eq codec attempts readyBatch.admissible unhidden compared
      rw [result] at finished
      cases finished
      exact
        kept_of_sound ledger
          (.resolving readyBatch screened (resolved_start readyBatch.admissible.distinct dead))
  | queryNamespace queried =>
    cases sound with
    | resolving readyBatch screened resolved =>
      exact
        kept_of_sound ledger
          (.resolving readyBatch screened (resolved.step readyBatch.admissible.distinct queried))
  | categorize created =>
    cases sound with
    | resolving readyBatch screened resolved =>
      rw [categorize_eq codec readyBatch.admissible] at created
      cases created
      refine kept_of_sound ledger (.committing readyBatch ?_)
      exact
        { screened with
          resolved := fun tx mem unrecorded alive entry inside =>
            resolved tx mem unrecorded alive entry inside not_mem_nil }
  | committed answer =>
    cases sound with
    | committing readyBatch judged =>
      exact kept_committed workload ledger readyBatch judged answer _ _
  | duplicates answer =>
    cases sound with
    | committing readyBatch judged =>
      exact kept_duplicates workload ledger readyBatch judged answer _
  | conflicts answer invalidated =>
    cases sound with
    | committing readyBatch judged =>
      exact kept_conflicts workload ledger readyBatch judged answer invalidated _
  | report =>
    cases sound with
    | correcting readyBatch answered => exact kept_report workload ledger readyBatch answered

end

end FabricXCommitter.VC.Instances
