import FabricXCommitter.StateDB.Lifecycle
import FabricXCommitter.VC.CommitAttempt

/-!
# The life of a snapshot record

A closed record keeps its status, a hash stays, and only the commit of a checkpoint
with its hash marks a record as checkpointed.
-/

namespace FabricXCommitter.StateDB

open Library VC List Option

variable {process : Process} {key : Bytes} {state : SnapshotState} {ref : TxRef}
  {change : SnapshotUpdate} {db : Database} {states : StatesToBeCommitted} {task : Task}

/-! ## How a record may change -/

def Closed (status : SnapshotStatus) : Prop := status = .checkpointed ∨ status = .aborted

structure Evolves (state next : SnapshotState) : Prop where
  ref : next.txRef = state.txRef
  closed : Closed state.status → next.status = state.status
  hash : state.hash ≠ [] → next.hash = state.hash
  completed : state.status = .completed → next.status = .completed ∨ Closed next.status

theorem Evolves.refl (state : SnapshotState) : Evolves state state :=
  ⟨rfl, fun _ => rfl, fun _ => rfl, .inl⟩

theorem Evolves.trans {first second third : SnapshotState} (early : Evolves first second)
    (late : Evolves second third) :
    Evolves first third where
  ref := late.ref.trans early.ref
  closed := by
    intro closed
    have same := early.closed closed
    rw [late.closed (same.symm ▸ closed), same]
  hash := by
    intro hashed
    have same := early.hash hashed
    rw [late.hash (same.symm ▸ hashed), same]
  completed := by
    intro completed
    rcases early.completed completed with stays | closed
    · exact late.completed stays
    · right
      rw [late.closed closed]
      exact closed

/-- The block of the request of a record. -/
def block (state : SnapshotState) : Option UInt64 := state.txRef.map TxRef.blockNum

section

variable (codec : SnapshotCodec)

/-- Only completed and closed records have a hash, the pointer names a record,
and no two records are of one block. -/
structure Sound (db : Database) : Prop where
  pointer : db.latestSnapshotKey ≠ [] → ∃ state, record codec db db.latestSnapshotKey = some state
  hashed :
    ∀ key state, record codec db key = some state → state.hash ≠ [] →
      state.status = .completed ∨ Closed state.status
  apart :
    ∀ key other state otherState, record codec db key = some state →
      record codec db other = some otherState → block state ≠ none →
        block state = block otherState → key = other

structure Advances (before after : Database) : Prop where
  records :
    ∀ key state, record codec before key = some state →
      ∃ next, record codec after key = some next ∧ Evolves state next
  recorded : ∀ id, (before.txStatus id).isSome = true → (after.txStatus id).isSome = true

def Holds (db : Database) : Process → Prop
  | .verified cp =>
    terminalStatus cp = .aborted ∨
      ∃ key state, record codec db key = some state ∧
        block state = some cp.snapshotBlockNum ∧ state.hash = cp.value ∧ state.hash ≠ []
  | .known cp => (db.txStatus cp.txID).isSome = true
  | _ => True

variable {codec}

theorem Advances.refl (db : Database) : Advances codec db db :=
  ⟨fun _ state stored => ⟨state, stored, .refl state⟩, fun _ recorded => recorded⟩

theorem Advances.trans {first second third : Database} (early : Advances codec first second)
    (late : Advances codec second third) :
    Advances codec first third where
  records := by
    intro key state stored
    obtain ⟨middle, isMiddle, evolved⟩ := early.records key state stored
    obtain ⟨last, isLast, evolvedFurther⟩ := late.records key middle isMiddle
    exact ⟨last, isLast, evolved.trans evolvedFurther⟩
  recorded := fun id stored => late.recorded id (early.recorded id stored)

variable {after : Database}

theorem holds_of_advances {before : Database} (advances : Advances codec before after)
    (holds : Holds codec before process) :
    Holds codec after process := by
  cases process with
  | verified cp =>
    rcases holds with aborts | ⟨key, state, stored, sameBlock, matching, hashed⟩
    · exact .inl aborts
    · obtain ⟨next, isNext, evolves⟩ := advances.records key state stored
      have sameHash := evolves.hash hashed
      refine .inr ⟨key, next, isNext, ?_, sameHash.trans matching, ?_⟩
      · rw [block, evolves.ref]
        exact sameBlock
      · rw [sameHash]
        exact hashed
  | known cp => exact advances.recorded cp.txID holds
  | _ => trivial

/-- One record is replaced and nothing else changes. -/
structure Rewrites (codec : SnapshotCodec) (before after : Database) (key : Bytes)
    (state next : SnapshotState) : Prop where
  old : record codec before key = some state
  new :
    ∀ other,
      record codec after other =
        if other = key then some next else record codec before other
  statuses : after.txStatus = before.txStatus
  pointer : after.latestSnapshotKey = before.latestSnapshotKey

variable {next : SnapshotState}

theorem rewrites_of_writeSnapshotRecord
    {before : Database} {row : Row} (stored : before.row snapshotNamespaceID key = some row)
    (decoded : codec.decode row.value = some state)
    (written : writeSnapshotRecord codec before key row next = some after) :
    Rewrites codec before after key state next := by
  have tableExists : before.hasTable snapshotNamespaceID = true := by
    by_contra missing
    have nothing := before.rowsInTables snapshotNamespaceID key (Bool.eq_false_iff.mpr missing)
    rw [stored] at nothing
    cases nothing
  rw [writeSnapshotRecord] at written
  split at written
  · cases written
    refine ⟨?_, ?_, rfl, rfl⟩
    · rw [record, stored]
      exact decoded
    · intro other
      simp only [record, Database.writeRow]
      by_cases same : other = key
      · rw [if_pos ⟨trivial, same, tableExists⟩, if_pos same]
        exact codec.decode_encode next
      · rw [if_neg (fun all => same all.2.1), if_neg same]
  · cases written

theorem advances_of_rewrites
    {before : Database} (rewrites : Rewrites codec before after key state next)
    (evolves : Evolves state next) :
    Advances codec before after where
  records := by
    intro other given stored
    rw [rewrites.new]
    by_cases same : other = key
    · rw [same, rewrites.old] at stored
      cases stored
      rw [if_pos same]
      exact ⟨next, rfl, evolves⟩
    · rw [if_neg same]
      exact ⟨given, stored, .refl given⟩
  recorded := by
    intro id recorded
    rw [rewrites.statuses]
    exact recorded

theorem sound_of_rewrites {before : Database} (sound : Sound codec before)
    (rewrites : Rewrites codec before after key state next) (evolves : Evolves state next)
    (hashed : next.hash ≠ [] → next.status = .completed ∨ Closed next.status) :
    Sound codec after where
  pointer := by
    intro present
    rw [rewrites.pointer] at present ⊢
    obtain ⟨given, stored⟩ := sound.pointer present
    obtain ⟨after, isAfter, _⟩ := (advances_of_rewrites rewrites evolves).records _ given stored
    exact ⟨after, isAfter⟩
  hashed := by
    intro other given stored
    rw [rewrites.new] at stored
    split at stored
    · cases stored
      exact hashed
    · exact sound.hashed other given stored
  apart := by
    have origin :
        ∀ other given, record codec after other = some given →
          ∃ source, record codec before other = some source ∧ block source = block given := by
      intro other given stored
      rw [rewrites.new] at stored
      split at stored
      · rename_i same
        cases stored
        refine ⟨state, same ▸ rewrites.old, ?_⟩
        rw [block, block, evolves.ref]
      · exact ⟨given, stored, rfl⟩
    intro first second firstState secondState firstStored secondStored known sameBlock
    obtain ⟨firstSource, isFirst, firstBlock⟩ := origin _ _ firstStored
    obtain ⟨secondSource, isSecond, secondBlock⟩ := origin _ _ secondStored
    apply sound.apart first second firstSource secondSource isFirst isSecond
    · rw [firstBlock]
      exact known
    · rw [firstBlock, secondBlock]
      exact sameBlock

/-- An update keeps the status, or completes, takes or fails a record that has
no hash. -/
def Lawful (change : SnapshotUpdate) : Prop :=
  change.expectedStatus ≠ [] ∧
    ∀ status ∈ change.expectedStatus,
      (change.digest = none ∧ change.status = status) ∨
        (status ≠ .completed ∧ ¬ Closed status ∧ ¬ Closed change.status ∧
          (change.digest ≠ none → change.status = .completed))

variable {other : Process}

theorem lawful_pendingUpdate (pending : pendingUpdate process = some (ref, change, other)) :
    Lawful change := by
  cases process <;> cases pending <;>
    simp [Lawful, markInProgress, publishDigest, recordFailure,
      recordDivergence, clearClone, Closed]

theorem evolves_applyTo (lawful : Lawful change) (expected : state.status ∈ change.expectedStatus)
    (hashed : state.hash ≠ [] → state.status = .completed ∨ Closed state.status) :
    Evolves state (change.applyTo state) ∧
      ((change.applyTo state).hash ≠ [] →
        (change.applyTo state).status = .completed ∨ Closed (change.applyTo state).status) ∧
        ((change.applyTo state).status = .checkpointed → state.status = .checkpointed) := by
  rcases lawful.2 state.status expected with
    ⟨noDigest, same⟩ | ⟨notCompleted, notClosed, stillOpen, completes⟩
  · have sameHash : (change.applyTo state).hash = state.hash := by
      rw [SnapshotUpdate.applyTo, noDigest]
      rfl
    have sameStatus : (change.applyTo state).status = state.status := same
    refine ⟨⟨rfl, fun _ => sameStatus, fun _ => sameHash, ?_⟩, ?_, ?_⟩
    · intro completed
      rw [sameStatus]
      exact .inl completed
    · rw [sameHash, sameStatus]
      exact hashed
    · rw [sameStatus]
      exact fun checkpointed => checkpointed
  · have noHash : state.hash = [] := by
      by_contra present
      rcases hashed present with completed | closed
      · exact notCompleted completed
      · exact notClosed closed
    refine
      ⟨⟨rfl, fun closed => absurd closed notClosed,
          fun present => absurd noHash present,
          fun completed => absurd completed notCompleted⟩,
        ?_, ?_⟩
    · intro present
      left
      apply completes
      intro noDigest
      rw [SnapshotUpdate.applyTo, noDigest] at present
      exact present noHash
    · intro checkpointed
      exact absurd (.inl checkpointed) stillOpen

theorem rewrites_of_update (guarded : change.expectedStatus ≠ [])
    (updated : update codec db ref change = .updated after) :
    ∃ state, state.status ∈ change.expectedStatus ∧
      Rewrites codec db after ref.txId state (change.applyTo state) := by
  revert updated
  fun_cases update codec db ref change with
  | case6 _ row stored state decoded expected written isWritten =>
    intro updated
    cases updated
    refine ⟨state, ?_, rewrites_of_writeSnapshotRecord stored decoded isWritten⟩
    by_contra unexpected
    exact expected ⟨guarded, unexpected⟩
  | _ =>
    intro updated
    cases updated

def newRecords (states : StatesToBeCommitted) : List WriteEntry :=
  writesOfNamespace states.newWrites snapshotNamespaceID

/-- What the pipeline commits: snapshot records are inserted and never updated,
they have no hash yet, each is the only one of its block, and a checkpoint is
committed together with its write and its status. -/
structure Admitted (codec : SnapshotCodec) (db : Database) (states : StatesToBeCommitted) :
    Prop where
  noUpdates : ∀ entry ∈ states.updateWrites, entry.nsId ≠ snapshotNamespaceID
  distinct : ((newRecords states).map WriteEntry.key).Nodup
  fresh :
    ∀ entry ∈ newRecords states, ∃ state,
      codec.decode entry.value = some state ∧ state.hash = [] ∧
        (state.status = .unspecified ∨ state.status = .pending)
  alone :
    ∀ entry ∈ newRecords states, ∀ other ∈ newRecords states,
      (codec.decode entry.value).bind block = (codec.decode other.value).bind block →
        entry.key = other.key
  newBlock :
    ∀ entry ∈ newRecords states, ∀ key state,
      record codec db key = some state →
        (codec.decode entry.value).bind block = block state → entry.key = key
  checkpointWrite :
    ∀ cp, states.checkpoint = some cp →
      ∃ entry ∈ states.newWrites, entry.nsId = checkpointNamespaceID ∧ entry.value = cp.value
  checkpointStatus :
    ∀ cp, states.checkpoint = some cp →
      ∃ s ∈ states.batchStatus, s.ref.txId = cp.txID ∧ s.status ≠ .rejectedDuplicateTxId

theorem row_of_statusRows {txIDToHeight : Bytes → Option Height} {statuses : List TxStatus} :
    ∀ {rows : List (Bytes × Status × Height)},
      statusRows txIDToHeight statuses = some rows →
        ∀ s ∈ statuses, s.status ≠ .rejectedDuplicateTxId → s.ref.txId ∈ rows.map Prod.fst := by
  induction statuses with
  | nil =>
    intro rows _ s mem
    cases mem
  | cons first rest ih =>
    intro rows same s mem notDuplicate
    rw [statusRows] at same
    split at same
    · rename_i duplicate
      rcases mem_cons.mp mem with isFirst | later
      · rw [isFirst] at notDuplicate
        exact absurd duplicate notDuplicate
      · exact ih same s later notDuplicate
    split at same
    · rename_i restRows _ isRest
      cases same
      rcases mem_cons.mp mem with isFirst | later
      · rw [isFirst]
        exact mem_cons_self
      · exact mem_cons_of_mem _ (ih isRest s later notDuplicate)
    · cases same

theorem insertTxStatus_done
    {recorded : Database} (inserted : insertTxStatus db states = some ([], recorded)) :
    recorded.row = db.row ∧ recorded.latestSnapshotKey = db.latestSnapshotKey ∧
      (∀ id, (db.txStatus id).isSome = true →
        (recorded.txStatus id).isSome = true) ∧
        ∀ s ∈ states.batchStatus, s.status ≠ .rejectedDuplicateTxId →
          db.txStatus s.ref.txId = none := by
  rw [insertTxStatus] at inserted
  split at inserted
  · rename_i isEmpty
    cases inserted
    refine ⟨rfl, rfl, fun _ stored => stored, ?_⟩
    intro s mem
    rw [List.isEmpty_iff.mp isEmpty] at mem
    cases mem
  obtain ⟨rows, isRows, same⟩ := map_eq_some_iff.mp inserted
  rw [insertTxStatusRows] at same
  have unrecorded :
      (∀ id ∈ rows.map Prod.fst, db.txStatus id = none) →
        ∀ s ∈ states.batchStatus, s.status ≠ .rejectedDuplicateTxId →
          db.txStatus s.ref.txId = none := by
    intro all s mem notDuplicate
    exact all _ (row_of_statusRows isRows s mem notDuplicate)
  split at same
  · rename_i fresh
    obtain ⟨_, isRecorded⟩ := Prod.mk.inj same
    have closedForm := Database.recordAll_eq db rows
    rw [Database.recordAll, isRecorded] at closedForm
    rw [closedForm]
    refine ⟨rfl, rfl, ?_, unrecorded fresh.2⟩
    intro id stored
    by_cases inside : id ∈ rows.map Prod.fst
    · rw [fresh.2 id inside] at stored
      cases stored
    · exact (congrArg Option.isSome (overlay_of_not_mem inside)).trans stored
  · obtain ⟨nothing, isDb⟩ := Prod.mk.inj same
    subst isDb
    refine ⟨rfl, rfl, fun _ stored => stored, unrecorded ?_⟩
    intro id mem
    have unfiltered := filter_eq_nil_iff.mp nothing id (mem_dedup.mpr mem)
    simpa using unfiltered

structure Inserted (db : Database) (states : StatesToBeCommitted) (middle : Database) : Prop where
  written :
    ∀ entry ∈ newRecords states,
      db.row snapshotNamespaceID entry.key = none ∧
        middle.row snapshotNamespaceID entry.key = some ⟨entry.value, 0⟩
  kept :
    ∀ key, key ∉ (newRecords states).map WriteEntry.key →
      middle.row snapshotNamespaceID key = db.row snapshotNamespaceID key
  pointer :
    middle.latestSnapshotKey = db.latestSnapshotKey ∨
      ∃ entry ∈ newRecords states, middle.latestSnapshotKey = entry.key
  recorded : ∀ id, (db.txStatus id).isSome = true → (middle.txStatus id).isSome = true
  unrecorded :
    ∀ s ∈ states.batchStatus, s.status ≠ .rejectedDuplicateTxId → db.txStatus s.ref.txId = none

theorem insertStates_other
    {next : Database} {newWrites : List WriteEntry} {found : List (Bytes × Bytes)}
    (inserted : insertStates db newWrites = some (found, next)) :
    next.txStatus = db.txStatus ∧ next.latestSnapshotKey = db.latestSnapshotKey := by
  refine
    foldlM_invariant
      (fun current : List (Bytes × Bytes) × Database =>
        current.2.txStatus = db.txStatus ∧ current.2.latestSnapshotKey = db.latestSnapshotKey)
      ⟨rfl, rfl⟩ ?_ inserted
  intro nsId _ current following holds stepped
  obtain ⟨result, isResult, same⟩ := map_eq_some_iff.mp stepped
  subst same
  rw [insertNs] at isResult
  split at isResult
  · split at isResult
    · cases isResult
      obtain ⟨_, statuses, pointer, _⟩ := Database.applyRows_other current.2 _
      exact ⟨statuses.trans holds.1, pointer.trans holds.2⟩
    · cases isResult
      exact holds
  · cases isResult

theorem inserted_of_commit (admitted : Admitted codec db states)
    (committed : commit codec db states = some (.committed after)) :
    states.empty = true ∧ after = db ∨
      ∃ middle, Inserted db states middle ∧
        closeSnapshot codec middle states.checkpoint = some after := by
  revert committed
  fun_cases commit codec db states with
  | case1 isEmpty =>
    intro committed
    cases committed
    exact .inl ⟨isEmpty, rfl⟩
  | case7 _ recorded isRecorded inserted isInserted updated isUpdated =>
    intro committed
    obtain ⟨closed, isClosed, same⟩ := map_eq_some_iff.mp committed
    cases same
    right
    refine ⟨_, ?_, isClosed⟩
    obtain ⟨sameRows, samePointer, stored, unrecorded⟩ := insertTxStatus_done isRecorded
    obtain ⟨written, kept⟩ :=
      insertStates_namespace isInserted snapshotNamespaceID admitted.distinct
    obtain ⟨insertedStatuses, insertedPointer⟩ := insertStates_other isInserted
    rw [createTables_eq] at isUpdated
    obtain ⟨createdRows, createdStatuses, createdPointer, _⟩ :=
      Database.createAll_other inserted
        ((writesOfNamespace states.newWrites metaNamespaceID).map WriteEntry.key)
    obtain ⟨updatedRows, _, updatedStatuses, updatedPointer⟩ :=
      updateStates_namespace isUpdated admitted.noUpdates
    obtain ⟨_, pointedRows, pointedStatuses, _⟩ :=
      setLatestSnapshotKey_other updated states.newWrites
    have rows :
        (setLatestSnapshotKeyIfPresent updated states.newWrites).row snapshotNamespaceID =
          inserted.row snapshotNamespaceID := by
      rw [pointedRows, updatedRows, createdRows]
    exact
      { written := by
          intro entry mem
          rw [rows, ← sameRows]
          exact written entry mem
        kept := by
          intro key outside
          rw [rows, kept key outside, sameRows]
        pointer := by
          rw [setLatestSnapshotKeyIfPresent]
          split
          · left
            rw [updatedPointer, createdPointer, insertedPointer, samePointer]
          · rename_i entry rest isEntry
            right
            refine ⟨entry, ?_, rfl⟩
            rw [newRecords, isEntry]
            exact mem_cons_self
        recorded := by
          intro id before
          rw [pointedStatuses, updatedStatuses, createdStatuses, insertedStatuses]
          exact stored id before
        unrecorded := unrecorded }
  | _ =>
    intro committed
    cases committed

section

variable {db middle : Database} {states : StatesToBeCommitted}
  (admitted : Admitted codec db states) (inserted : Inserted db states middle)

include inserted

theorem record_inserted (stored : record codec middle key = some state) :
    record codec db key = some state ∨
      ∃ entry ∈ newRecords states, entry.key = key ∧ codec.decode entry.value = some state := by
  by_cases inside : key ∈ (newRecords states).map WriteEntry.key
  · obtain ⟨entry, mem, same⟩ := List.mem_map.mp inside
    subst same
    rw [record, (inserted.written entry mem).2] at stored
    exact .inr ⟨entry, mem, rfl, stored⟩
  · rw [record, inserted.kept key inside] at stored
    exact .inl stored

theorem record_kept (stored : record codec db key = some state) :
    record codec middle key = some state := by
  have outside : key ∉ (newRecords states).map WriteEntry.key := by
    intro inside
    obtain ⟨entry, mem, same⟩ := List.mem_map.mp inside
    subst same
    rw [record, (inserted.written entry mem).1] at stored
    cases stored
  rw [record, inserted.kept key outside]
  exact stored

theorem advances_of_inserted : Advances codec db middle where
  records := fun _ state stored => ⟨state, record_kept inserted stored, .refl state⟩
  recorded := inserted.recorded

include admitted

theorem sound_of_inserted (sound : Sound codec db) : Sound codec middle where
  pointer := by
    intro present
    rcases inserted.pointer with same | ⟨entry, mem, same⟩
    · rw [same] at present ⊢
      obtain ⟨state, stored⟩ := sound.pointer present
      exact ⟨state, record_kept inserted stored⟩
    · obtain ⟨state, decoded, _⟩ := admitted.fresh entry mem
      refine ⟨state, ?_⟩
      rw [same, record, (inserted.written entry mem).2]
      exact decoded
  hashed := by
    intro key state stored hashed
    rcases record_inserted inserted stored with old | ⟨entry, mem, _, decoded⟩
    · exact sound.hashed key state old hashed
    · obtain ⟨fresh, isFresh, noHash, _⟩ := admitted.fresh entry mem
      rw [decoded] at isFresh
      cases isFresh
      exact absurd noHash hashed
  apart := by
    intro key other state otherState stored otherStored known sameBlock
    rcases record_inserted inserted stored with old | ⟨entry, mem, isKey, decoded⟩ <;>
      rcases record_inserted inserted otherStored with
        otherOld | ⟨otherEntry, otherMem, isOther, otherDecoded⟩
    · exact sound.apart key other state otherState old otherOld known sameBlock
    · rw [← isOther]
      symm
      apply admitted.newBlock otherEntry otherMem key state old
      rw [otherDecoded]
      exact sameBlock.symm
    · rw [← isKey]
      apply admitted.newBlock entry mem other otherState otherOld
      rw [decoded]
      exact sameBlock
    · rw [← isKey, ← isOther]
      apply admitted.alone entry mem otherEntry otherMem
      rw [decoded, otherDecoded]
      exact sameBlock

theorem checkpointed_inserted (stored : record codec middle key = some state)
    (checkpointed : state.status = .checkpointed) :
    record codec db key = some state := by
  rcases record_inserted inserted stored with old | ⟨entry, mem, _, decoded⟩
  · exact old
  · obtain ⟨fresh, isFresh, _, starts⟩ := admitted.fresh entry mem
    rw [decoded] at isFresh
    cases isFresh
    rw [checkpointed] at starts
    rcases starts with impossible | impossible <;> cases impossible

end

theorem closed_of_markSnapshotTerminalInTx {blockNum : UInt64} {target : SnapshotStatus}
    (marked : markSnapshotTerminalInTx codec db blockNum target = some after) :
    after = db ∨
      ∃ state, ¬ Closed state.status ∧ block state = some blockNum ∧
        Rewrites codec db after db.latestSnapshotKey state { state with status := target } := by
  revert marked
  fun_cases markSnapshotTerminalInTx codec db blockNum target with
  | case4 =>
    intro marked
    cases marked
    exact .inl rfl
  | case7 _ row stored state decoded _ isOpen sameBlock =>
    intro marked
    exact
      .inr
        ⟨state, isOpen, not_not.mp sameBlock, rewrites_of_writeSnapshotRecord stored decoded marked⟩
  | _ =>
    intro marked
    cases marked

theorem terminalStatus_cases (cp : CheckpointTx) : Closed (terminalStatus cp) := by
  rw [terminalStatus]
  split
  · exact .inr rfl
  · exact .inl rfl

theorem evolves_close (isOpen : ¬ Closed state.status) (cp : CheckpointTx) :
    Evolves state { state with status := terminalStatus cp } where
  ref := rfl
  closed := fun closed => absurd closed isOpen
  hash := fun _ => rfl
  completed := fun _ => .inr (terminalStatus_cases cp)

/-- What one access may do to the records. -/
structure Transition
    (codec : SnapshotCodec) (before : Database) (task : Task) (after : Database) : Prop where
  records :
    ∀ key state, record codec before key = some state →
      ∃ next, record codec after key = some next ∧ Evolves state next
  pointer :
    after.latestSnapshotKey ≠ [] → ∃ state, record codec after after.latestSnapshotKey = some state
  checkpointed :
    ∀ key next, record codec after key = some next →
      next.status = .checkpointed →
        (∃ state, record codec before key = some state ∧
          state.status = .checkpointed) ∨
          ∃ states acknowledged cp,
            task = .commit states acknowledged ∧
              commit codec before states = some (.committed after) ∧
                states.checkpoint = some cp ∧ cp.value = next.hash ∧
                  ∃ entry ∈ states.newWrites,
                    entry.nsId = checkpointNamespaceID ∧ entry.value = next.hash

def Permitted (codec : SnapshotCodec) (s : Fleet.State Database Process) :
    Fleet.Action Empty Task → Prop
  | .worker _ (.commit states _) => Admitted codec s.shared states
  | _ => True

/-- What one access keeps. -/
structure Kept
    (codec : SnapshotCodec) (before : Database) (task : Task) (after : Database) : Prop where
  transition : Transition codec before task after
  sound : Sound codec after
  advances : Advances codec before after

theorem kept_of_same (sound : Sound codec db) (sameRows : after.row = db.row)
    (samePointer : after.latestSnapshotKey = db.latestSnapshotKey)
    (sameStatuses : after.txStatus = db.txStatus) :
    Kept codec db task after := by
  have sameRecords : record codec after = record codec db := by
    funext key
    rw [record, record, sameRows]
  have soundAfter : Sound codec after := by
    refine ⟨?_, ?_, ?_⟩
    · rw [sameRecords, samePointer]
      exact sound.pointer
    · rw [sameRecords]
      exact sound.hashed
    · rw [sameRecords]
      exact sound.apart
  have advances : Advances codec db after :=
    ⟨fun _ state stored => ⟨state, by rw [sameRecords, stored], .refl state⟩,
      fun _ recorded => by rw [sameStatuses, recorded]⟩
  refine ⟨⟨advances.records, soundAfter.pointer, ?_⟩, soundAfter, advances⟩
  intro key next stored checkpointed
  rw [sameRecords] at stored
  exact .inl ⟨next, stored, checkpointed⟩

theorem transition_update
    (sound : Sound codec db) (pending : pendingUpdate process = some (ref, change, other))
    (updated : update codec db ref change = .updated after) :
    Kept codec db task after := by
  have lawful := lawful_pendingUpdate pending
  obtain ⟨state, expected, rewrites⟩ := rewrites_of_update lawful.1 updated
  obtain ⟨evolves, hashed, stays⟩ :=
    evolves_applyTo lawful expected (sound.hashed _ state rewrites.old)
  have soundAfter := sound_of_rewrites sound rewrites evolves hashed
  have advances := advances_of_rewrites rewrites evolves
  refine ⟨⟨advances.records, soundAfter.pointer, ?_⟩, soundAfter, advances⟩
  intro key next stored checkpointed
  left
  rw [rewrites.new] at stored
  split at stored
  · rename_i same
    cases stored
    exact ⟨state, same ▸ rewrites.old, stays checkpointed⟩
  · exact ⟨next, stored, checkpointed⟩

theorem hash_of_checkpoint
    {middle : Database} (holds : Holds codec db process) (admitted : Admitted codec db states)
    (inserted : Inserted db states middle) (soundMiddle : Sound codec middle)
    {cp : CheckpointTx} (isCheckpoint : states.checkpoint = some cp)
    (may : mayCommit process states.checkpoint = true)
    (digest : terminalStatus cp = .checkpointed) (stored : record codec middle key = some state)
    (sameBlock : block state = some cp.snapshotBlockNum) :
    cp.value = state.hash := by
  rw [isCheckpoint] at may
  cases process with
  | verified given =>
    have sameCp : cp = given := by simpa [mayCommit] using may
    subst sameCp
    rcases holds with aborts | ⟨other, source, isSource, itsBlock, matching, hashed⟩
    · rw [digest] at aborts
      cases aborts
    · have kept := record_kept inserted isSource
      have sameKey : other = key := by
        apply soundMiddle.apart other key source state kept stored
        · rw [itsBlock]
          exact some_ne_none _
        · rw [itsBlock, sameBlock]
      subst sameKey
      rw [stored] at kept
      cases kept
      exact matching.symm
  | known given =>
    have sameCp : cp = given := by simpa [mayCommit] using may
    subst sameCp
    obtain ⟨s, mem, sameId, notDuplicate⟩ := admitted.checkpointStatus cp isCheckpoint
    have unrecorded := inserted.unrecorded s mem notDuplicate
    rw [sameId] at unrecorded
    change (db.txStatus cp.txID).isSome = true at holds
    rw [unrecorded] at holds
    cases holds
  | _ => simp [mayCommit] at may

theorem transition_commit {acknowledged : Bool} (sound : Sound codec db)
    (holds : Holds codec db process) (admitted : Admitted codec db states)
    (may : mayCommit process states.checkpoint = true)
    (committed : commit codec db states = some (.committed after)) :
    Kept codec db (.commit states acknowledged) after := by
  rcases inserted_of_commit admitted committed with ⟨_, same⟩ | ⟨middle, inserted, closes⟩
  · subst same
    exact kept_of_same sound rfl rfl rfl
  have soundMiddle := sound_of_inserted admitted inserted sound
  have advancesMiddle : Advances codec db middle := advances_of_inserted inserted
  have unclosed : after = middle → Kept codec db (.commit states acknowledged) after := by
    intro same
    subst same
    refine ⟨⟨advancesMiddle.records, soundMiddle.pointer, ?_⟩, soundMiddle, advancesMiddle⟩
    intro key next stored checkpointed
    exact .inl ⟨next, checkpointed_inserted admitted inserted stored checkpointed, checkpointed⟩
  cases isCheckpoint : states.checkpoint with
  | none =>
    rw [isCheckpoint] at closes
    cases closes
    exact unclosed rfl
  | some cp =>
    rw [isCheckpoint] at closes
    rcases closed_of_markSnapshotTerminalInTx closes with
      same | ⟨state, isOpen, sameBlock, rewrites⟩
    · exact unclosed same
    have evolves := evolves_close isOpen cp
    have soundAfter :=
      sound_of_rewrites soundMiddle rewrites evolves fun _ => .inr (terminalStatus_cases cp)
    have advances := advancesMiddle.trans (advances_of_rewrites rewrites evolves)
    refine ⟨⟨advances.records, soundAfter.pointer, ?_⟩, soundAfter, advances⟩
    intro key next stored checkpointed
    rw [rewrites.new] at stored
    split at stored
    · cases stored
      right
      have matching :=
        hash_of_checkpoint holds admitted inserted soundMiddle isCheckpoint may
          checkpointed rewrites.old sameBlock
      obtain ⟨entry, mem, inNamespace, isValue⟩ := admitted.checkpointWrite cp isCheckpoint
      exact
        ⟨states, acknowledged, cp, rfl, committed, isCheckpoint, matching,
          entry, mem, inNamespace, isValue.trans matching⟩
    · exact
        .inl
          ⟨next,
            checkpointed_inserted admitted inserted stored checkpointed,
            checkpointed⟩

theorem holds_judged {cp : CheckpointTx} (stored : record codec db key = some state)
    (accepted : judge cp state = .accepted) :
    Holds codec db (.verified cp) := by
  revert accepted
  fun_cases judge cp state with
  | case4 _ _ _ _ aborts => exact fun _ => .inl aborts
  | case6 ref isRef sameBlock _ _ hashed matching =>
    intro _
    refine .inr ⟨key, state, stored, ?_, matching, hashed⟩
    rw [block, isRef, map_some, not_not.mp sameBlock]
  | _ =>
    intro accepted
    cases accepted

theorem holds_afterUpdate : Holds codec db (afterUpdate process) := by
  cases process <;> trivial

theorem holds_of_pendingUpdate (pending : pendingUpdate process = some (ref, change, other)) :
    Holds codec db other := by
  cases process <;> cases pending <;> trivial

theorem processStep_kept {s : Fleet.State Database Process} {index : Nat}
    {before after : Process} {shared : Database} (sound : Sound codec s.shared)
    (holds : Holds codec s.shared before) (permitted : Permitted codec s (.worker index task))
    (stepped : processStep codec s.shared before task = some (shared, after)) :
    Kept codec s.shared task shared ∧ Holds codec shared after := by
  have unchanged :
      ∀ {process}, some (s.shared, process) = some (shared, after) →
        Holds codec s.shared process →
          Kept codec s.shared task shared ∧ Holds codec shared after := by
    intro process same known
    cases same
    exact ⟨kept_of_same sound rfl rfl rfl, known⟩
  revert stepped
  fun_cases processStep codec s.shared before task with
  | case4 cp recorded => exact fun stepped => unchanged stepped recorded
  | case15 cp key judged =>
    obtain ⟨state, stored, accepted⟩ := map_eq_some_iff.mp judged
    exact fun stepped => unchanged stepped (holds_judged stored accepted)
  | case19 ref clone status =>
    intro stepped
    refine unchanged stepped ?_
    split <;> trivial
  | case26 _ acknowledged =>
    intro stepped
    obtain ⟨⟨ref, change, other⟩, pending, same⟩ := map_eq_some_iff.mp stepped
    split at same
    · rename_i written isWritten
      have kept : Kept codec s.shared (.update acknowledged) written :=
        transition_update sound pending isWritten
      cases same
      refine ⟨kept, ?_⟩
      split
      · exact holds_afterUpdate
      · exact holds_of_advances kept.advances holds
    · exact unchanged (congrArg some same) (holds_of_pendingUpdate pending)
    · exact unchanged (congrArg some same) trivial
  | case27 | case29 =>
    intro stepped
    cases stepped
    exact ⟨kept_of_same sound rfl rfl rfl, trivial⟩
  | case31 _ states acknowledged may written isWritten =>
    intro stepped
    have kept : Kept codec s.shared (.commit states acknowledged) written :=
      transition_commit sound holds permitted may isWritten
    cases stepped
    refine ⟨kept, ?_⟩
    split
    · trivial
    · exact holds_of_advances kept.advances holds
  | case32 => exact fun stepped => unchanged stepped holds
  | case3 | case6 | case9 | case12 | case18 | case21 | case23 | case25 | case28 | case30
  | case34 =>
    intro stepped
    cases stepped
  | _ => exact fun stepped => unchanged stepped trivial

def system (codec : SnapshotCodec) (db : Database) (count : Nat) :
    Machine (Fleet.State Database Process) (Fleet.Action Empty Task) :=
  (processes codec).machine ⟨db, List.replicate count .idle⟩

theorem steady_initial (sound : Sound codec db) (count : Nat) :
    Fleet.Steady (Sound codec) (Holds codec) (system codec db count).initial where
  shared := sound
  workers := by
    intro process mem
    rw [eq_of_mem_replicate mem]
    trivial

theorem step_kept
    {count : Nat} {s next : Fleet.State Database Process} {action : Fleet.Action Empty Task}
    (steady : Fleet.Steady (Sound codec) (Holds codec) s) (permitted : Permitted codec s action)
    (stepped : (system codec db count).step s action = some next) :
    Fleet.Steady (Sound codec) (Holds codec) next ∧
      Advances codec s.shared next.shared ∧
        ∀ index task, action = .worker index task → Transition codec s.shared task next.shared := by
  cases Fleet.stepped_of_step stepped with
  | @environment event => exact event.elim
  | @worker index task before after shared found moved =>
    have held := steady.workers before (mem_of_getElem? found)
    obtain ⟨⟨transition, sound, advances⟩, holds⟩ :=
      processStep_kept steady.shared held permitted moved
    have stable :
        ∀ before after process, Sound codec before →
          Advances codec before after → Holds codec before process → Holds codec after process :=
      fun _ _ _ _ advances holds => holds_of_advances advances holds
    refine ⟨Fleet.steady_worker stable steady sound advances holds index, advances, ?_⟩
    intro _ _ same
    cases same
    exact transition

theorem advances_runFrom {count : Nat} {s final : Fleet.State Database Process}
    {actions : List (Fleet.Action Empty Task)} (steady : Fleet.Steady (Sound codec) (Holds codec) s)
    (guarded : (system codec db count).Guarded (Permitted codec) s actions)
    (reached : (system codec db count).runFrom s actions = some final) :
    Fleet.Steady (Sound codec) (Holds codec) final ∧ Advances codec s.shared final.shared := by
  refine
    (system codec db count).invariant_guarded (Permitted codec)
      (fun state =>
        Fleet.Steady (Sound codec) (Holds codec) state ∧ Advances codec s.shared state.shared)
      ?_ ⟨steady, .refl s.shared⟩ guarded reached
  intro state action next holds permitted stepped
  obtain ⟨steadyNext, advances, _⟩ := step_kept holds.1 permitted stepped
  exact ⟨steadyNext, holds.2.trans advances⟩

end

theorem sound_of_no_records {codec : SnapshotCodec} (empty : ∀ key, record codec db key = none)
    (noPointer : db.latestSnapshotKey = []) :
    Sound codec db where
  pointer := fun present => absurd noPointer present
  hashed := by
    intro key state stored
    rw [empty] at stored
    cases stored
  apart := by
    intro key other state otherState stored
    rw [empty] at stored
    cases stored

/-- A database after the setup. -/
def lifecycleDatabase : Database where
  hasTable := fun nsId => decide (nsId = snapshotNamespaceID ∨ nsId = checkpointNamespaceID)
  row := fun _ _ => none
  txStatus := fun _ => none
  latestSnapshotKey := []
  snapshotDatabases := fun _ => false
  rowsInTables := fun _ _ _ => rfl

theorem lifecycleDatabase_sound : Sound fieldCodec lifecycleDatabase :=
  sound_of_no_records (fun _ => rfl) rfl

def requestStates : StatesToBeCommitted where
  updateWrites := []
  newWrites :=
    [{ nsId := snapshotNamespaceID
       key := [9]
       value :=
        fieldCodec.encode
          { txRef := some ⟨[9], 7, 0⟩
            status := .pending
            cloneDatabase := "snapshot_7" }
       version := 0 }]
  batchStatus := [⟨⟨[9], 7, 0⟩, .committed⟩]
  txIDToHeight := fun id => if id = [9] then some ⟨7, 0⟩ else none
  checkpoint := none

def digestCheckpoint : CheckpointTx where
  txID := [10]
  ref := ⟨[10], 8, 0⟩
  snapshotBlockNum := 7
  value := [5, 5]

def checkpointStates : StatesToBeCommitted where
  updateWrites := []
  newWrites :=
    [{ nsId := checkpointNamespaceID
       key := [1, 7]
       value := [5, 5]
       version := 0 }]
  batchStatus := [⟨⟨[10], 8, 0⟩, .committed⟩]
  txIDToHeight := fun id => if id = [10] then some ⟨8, 0⟩ else none
  checkpoint := some digestCheckpoint

/-- The hasher publishes its digest twice, since the first acknowledgement is
lost, while the checkpoint is compared with the record. -/
def hashAndCheck : List (Fleet.Action Empty Task) :=
  [.worker 1 .startHash, .worker 1 .readRecord, .worker 1 .openClone,
    .worker 1 (.update true), .worker 1 (.hashed [5, 5]),
    .worker 1 (.update false), .worker 0 (.startCheck digestCheckpoint),
    .worker 0 .readPointer, .worker 1 (.update true), .worker 0 .readRecord]

def lifecycleRun : List (Fleet.Action Empty Task) :=
  .worker 0 (.createDatabase "snapshot_7") :: .worker 0 (.commit requestStates true) :: hashAndCheck

theorem admitted_requestStates (empty : ∀ key, record fieldCodec db key = none) :
    Admitted fieldCodec db requestStates where
  noUpdates := by decide
  distinct := by decide +kernel
  fresh := by
    intro entry mem
    rw [mem_singleton.mp mem]
    refine ⟨_, fieldCodec.decode_encode _, rfl, .inr rfl⟩
  alone := by
    intro entry mem other otherMem _
    rw [mem_singleton.mp mem, mem_singleton.mp otherMem]
  newBlock := by
    intro entry _ key state stored
    rw [empty] at stored
    cases stored
  checkpointWrite := fun _ impossible => nomatch impossible
  checkpointStatus := fun _ impossible => nomatch impossible

theorem admitted_checkpointStates (db : Database) : Admitted fieldCodec db checkpointStates where
  noUpdates := by decide
  distinct := by decide +kernel
  fresh := fun entry mem => nomatch mem
  alone := fun entry mem => nomatch mem
  newBlock := fun entry mem => nomatch mem
  checkpointWrite := by
    intro cp same
    cases same
    exact ⟨_, mem_singleton_self _, rfl, rfl⟩
  checkpointStatus := by
    intro cp same
    cases same
    exact ⟨_, mem_singleton_self _, rfl, by decide⟩

theorem lifecycleRun_guarded :
    (system fieldCodec lifecycleDatabase 2).Guarded (Permitted fieldCodec)
      (system fieldCodec lifecycleDatabase 2).initial lifecycleRun := by
  refine ⟨trivial, fun next created => ⟨?_, fun _ _ => ?_⟩⟩
  · cases created
    exact admitted_requestStates fun _ => rfl
  · apply Machine.guarded_of_forall
    intro state action mem
    simp only [hashAndCheck, mem_cons, not_mem_nil, or_false] at mem
    rcases mem with same | same | same | same | same | same | same | same |
      same | same <;> rw [same] <;> trivial

end FabricXCommitter.StateDB
