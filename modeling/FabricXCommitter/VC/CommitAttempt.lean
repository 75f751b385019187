import FabricXCommitter.VC.Statements

/-!
# One commit attempt
-/

namespace FabricXCommitter.VC

open Library List

def statusEntries (statuses : List TxStatus) : List (Bytes × Status × Height) :=
  (statuses.filter fun s => s.status ≠ .rejectedDuplicateTxId).map fun s =>
    (s.ref.txId, s.status, s.ref.height)

theorem statusRows_eq {txIDToHeight : Bytes → Option Height} {statuses : List TxStatus}
    (heights : ∀ s ∈ statuses, txIDToHeight s.ref.txId = some s.ref.height) :
    statusRows txIDToHeight statuses = some (statusEntries statuses) := by
  induction statuses with
  | nil => rfl
  | cons s rest ih =>
    have restRows := ih fun later mem => heights later (mem_cons_of_mem s mem)
    rw [statusRows, restRows, heights s mem_cons_self, statusEntries, statusEntries]
    by_cases duplicate : s.status = .rejectedDuplicateTxId
    · rw [if_pos duplicate, filter_cons_of_neg (by simp [duplicate])]
    · rw [if_neg duplicate, filter_cons_of_pos (by simp [duplicate])]
      rfl

/-- The statuses that an attempt is given have distinct IDs and known
heights. -/
structure ConsistentStates (states : StatesToBeCommitted) : Prop where
  heights : ∀ s ∈ states.batchStatus, states.txIDToHeight s.ref.txId = some s.ref.height
  distinct : (states.batchStatus.map fun s => s.ref.txId).Nodup

structure PlainStates (states : StatesToBeCommitted) : Prop extends ConsistentStates states where
  noSnapshot : ∀ entry ∈ states.newWrites, entry.nsId ≠ snapshotNamespaceID
  noCheckpoint : states.checkpoint = none

section

variable (codec : SnapshotCodec) {db : Database}
  {states : StatesToBeCommitted}

theorem insertTxStatus_eq (consistent : ConsistentStates states) :
    insertTxStatus db states = some (insertTxStatusRows db (statusEntries states.batchStatus)) := by
  rw [insertTxStatus]
  split
  · rename_i empty
    rw [List.isEmpty_iff.mp empty]
    rfl
  · rw [statusRows_eq consistent.heights]
    rfl

theorem statusEntries_ids_nodup (consistent : ConsistentStates states) :
    ((statusEntries states.batchStatus).map Prod.fst).Nodup := by
  rw [statusEntries, map_map]
  exact consistent.distinct.sublist (filter_sublist.map _)

theorem insertTxStatus_fresh (consistent : ConsistentStates states)
    (unrecorded : ∀ entry ∈ statusEntries states.batchStatus, db.txStatus entry.1 = none) :
    insertTxStatus db states = some ([], db.recordAll (statusEntries states.batchStatus)) := by
  have absent : ∀ id ∈ (statusEntries states.batchStatus).map Prod.fst, db.txStatus id = none := by
    intro id mem
    obtain ⟨entry, inside, eq⟩ := mem_map.mp mem
    rw [← eq]
    exact unrecorded entry inside
  rw [insertTxStatus_eq consistent, insertTxStatusRows]
  simp only [if_pos (And.intro (statusEntries_ids_nodup consistent) absent)]
  rfl

theorem not_empty_of_statuses
    {entry : Bytes × Status × Height} (mem : entry ∈ statusEntries states.batchStatus) :
    states.empty = false := by
  have nonempty : states.batchStatus.isEmpty = false := by
    rw [isEmpty_eq_false_iff]
    intro empty
    rw [empty] at mem
    cases mem
  rw [StatesToBeCommitted.empty, nonempty, Bool.and_false]

theorem commit_duplicates (consistent : ConsistentStates states) {entry : Bytes × Status × Height}
    (mem : entry ∈ statusEntries states.batchStatus)
    (recorded : (db.txStatus entry.1).isSome = true) :
    ∃ txIDs,
      commit codec db states = some (.duplicates txIDs) ∧
        ∀ id, id ∈ txIDs ↔
          id ∈ (statusEntries states.batchStatus).map Prod.fst ∧
            (db.txStatus id).isSome = true := by
  let found :=
    ((statusEntries states.batchStatus).map Prod.fst).dedup.filter fun id => (db.txStatus id).isSome
  have foundIff :
      ∀ id, id ∈ found ↔
        id ∈ (statusEntries states.batchStatus).map Prod.fst ∧ (db.txStatus id).isSome = true := by
    intro id
    rw [mem_filter, mem_dedup]
  have inserted : insertTxStatus db states = some (found, db) := by
    have taken :
        ¬ (((statusEntries states.batchStatus).map Prod.fst).Nodup ∧
          ∀ id ∈ (statusEntries states.batchStatus).map Prod.fst, db.txStatus id = none) := by
      intro facts
      rw [facts.2 entry.1 (mem_map_of_mem mem)] at recorded
      cases recorded
    rw [insertTxStatus_eq consistent, insertTxStatusRows]
    simp only [if_neg taken]
    rfl
  refine ⟨found, ?_, foundIff⟩
  have entryFound : entry.1 ∈ found := (foundIff entry.1).mpr ⟨mem_map_of_mem mem, recorded⟩
  rw [commit, not_empty_of_statuses mem, inserted]
  obtain ⟨first, rest, shape⟩ := exists_cons_of_ne_nil (ne_nil_of_mem entryFound)
  rw [shape]
  rfl

theorem commit_conflicts (consistent : ConsistentStates states)
    (unrecorded : ∀ entry ∈ statusEntries states.batchStatus, db.txStatus entry.1 = none)
    (tables : ∀ entry ∈ states.newWrites, db.hasTable entry.nsId = true)
    {entry : WriteEntry} (mem : entry ∈ states.newWrites)
    (present : (db.row entry.nsId entry.key).isSome = true) :
    ∃ reads,
      commit codec db states = some (.conflicts reads) ∧
        ∀ read, read ∈ reads ↔
          ∃ entry ∈ states.newWrites,
            read = (entry.nsId, ⟨entry.key, none⟩) ∧
              (db.row entry.nsId entry.key).isSome = true := by
  let recorded := db.recordAll (statusEntries states.batchStatus)
  have sameTables : recorded.hasTable = db.hasTable := by
    rw [show recorded = _ from Database.recordAll_eq db _]
  have sameRows : recorded.rowAt = db.rowAt := by
    rw [show recorded = _ from Database.recordAll_eq db _]
    rfl
  obtain ⟨found, next, inserted, foundIff⟩ :=
    @insertStates_spec recorded states.newWrites (by rw [sameTables]; exact tables)
  rw [sameRows] at foundIff
  change
    insertStates (db.recordAll (statusEntries states.batchStatus)) states.newWrites = _ at inserted
  have entryFound : entry.pair ∈ found := (foundIff entry.pair).mpr ⟨mem_map_of_mem mem, present⟩
  have notEmpty : states.empty = false := by
    rw [StatesToBeCommitted.empty,
      isEmpty_eq_false_iff.mpr (ne_nil_of_mem mem),
      Bool.and_false, Bool.false_and]
  refine ⟨found.map fun pair => (pair.1, ⟨pair.2, none⟩), ?_, ?_⟩
  · rw [commit, notEmpty, insertTxStatus_fresh consistent unrecorded]
    simp only [Bool.false_eq_true, if_false, inserted]
    obtain ⟨first, rest, shape⟩ := exists_cons_of_ne_nil (ne_nil_of_mem entryFound)
    rw [shape]
  · intro read
    rw [mem_map]
    constructor
    · intro facts
      obtain ⟨pair, pairFound, eq⟩ := facts
      obtain ⟨written, stored⟩ := (foundIff pair).mp pairFound
      obtain ⟨source, sourceMem, samePair⟩ := mem_map.mp written
      rw [← samePair] at eq stored
      exact ⟨source, sourceMem, eq.symm, stored⟩
    · intro facts
      obtain ⟨source, sourceMem, eq, stored⟩ := facts
      exact
        ⟨source.pair,
          (foundIff source.pair).mpr ⟨mem_map_of_mem sourceMem, stored⟩,
          eq.symm⟩

/-- The attempt meets no recorded ID and no existing key. -/
structure Fresh (db : Database) (states : StatesToBeCommitted) : Prop where
  unrecorded : ∀ entry ∈ statusEntries states.batchStatus, db.txStatus entry.1 = none
  insertable : Insertable db states.newWrites

def StatesToBeCommitted.insertedRows (states : StatesToBeCommitted) : List RowWrite :=
  ((writeNamespaces states.newWrites).flatMap
    (writesOfNamespace states.newWrites)).map WriteEntry.newRow

def StatesToBeCommitted.updatedRows (states : StatesToBeCommitted) : List RowWrite :=
  ((writeNamespaces states.updateWrites).flatMap
    (writesOfNamespace states.updateWrites)).map WriteEntry.updatedRow

def StatesToBeCommitted.createdTables (states : StatesToBeCommitted) : List Bytes :=
  (writesOfNamespace states.newWrites metaNamespaceID).map WriteEntry.key

def beforeUpdates (db : Database) (states : StatesToBeCommitted) : Database :=
  ((db.recordAll (statusEntries states.batchStatus)).applyRows
    states.insertedRows).createAll states.createdTables

theorem createTables_eq (db : Database) (newWrites : List WriteEntry) :
    createTablesAndFunctionsForNamespaces db newWrites =
      db.createAll ((writesOfNamespace newWrites metaNamespaceID).map WriteEntry.key) := by
  rw [createTablesAndFunctionsForNamespaces, Database.createAll, foldl_map]

theorem setLatestSnapshotKey_eq (plain : PlainStates states) (db : Database) :
    setLatestSnapshotKeyIfPresent db states.newWrites = db := by
  have nothing : writesOfNamespace states.newWrites snapshotNamespaceID = [] := by
    rw [eq_nil_iff_forall_not_mem]
    intro entry mem
    obtain ⟨inside, sameNs⟩ := mem_writesOfNamespace.mp mem
    exact plain.noSnapshot entry inside sameNs
  rw [setLatestSnapshotKeyIfPresent, nothing]

theorem setLatestSnapshotKey_other (db : Database) (newWrites : List WriteEntry) :
    (setLatestSnapshotKeyIfPresent db newWrites).hasTable = db.hasTable ∧
      (setLatestSnapshotKeyIfPresent db newWrites).row = db.row ∧
        (setLatestSnapshotKeyIfPresent db newWrites).txStatus = db.txStatus ∧
          (setLatestSnapshotKeyIfPresent db newWrites).snapshotDatabases =
            db.snapshotDatabases := by
  rw [setLatestSnapshotKeyIfPresent]
  split <;> exact ⟨rfl, rfl, rfl, rfl⟩

theorem commit_fresh_consistent (consistent : ConsistentStates states)
    (noCheckpoint : states.checkpoint = none) (fresh : Fresh db states)
    (notEmpty : states.empty = false) :
    commit codec db states =
      (updateStates (beforeUpdates db states) states.updateWrites).map
        fun updated => .committed (setLatestSnapshotKeyIfPresent updated states.newWrites) := by
  have insertable :
      Insertable (db.recordAll (statusEntries states.batchStatus)) states.newWrites := by
    rw [Database.recordAll_eq]
    exact ⟨fresh.insertable.tables, fresh.insertable.distinct, fresh.insertable.absent⟩
  rw [commit, notEmpty, insertTxStatus_fresh consistent fresh.unrecorded]
  simp only [Bool.false_eq_true, if_false, insertStates_fresh insertable,
    createTables_eq, noCheckpoint, closeSnapshot]
  have sameDatabase :
      ((db.recordAll (statusEntries states.batchStatus)).applyRows
          (((writeNamespaces states.newWrites).flatMap
            (writesOfNamespace states.newWrites)).map
            WriteEntry.newRow)).createAll
          ((writesOfNamespace states.newWrites metaNamespaceID).map WriteEntry.key) =
        beforeUpdates db states :=
    rfl
  rw [sameDatabase]
  cases updateStates (beforeUpdates db states) states.updateWrites with
  | none => rfl
  | some updated => rfl

theorem commit_fresh
    (plain : PlainStates states) (fresh : Fresh db states) (notEmpty : states.empty = false) :
    commit codec db states =
      (updateStates (beforeUpdates db states) states.updateWrites).map .committed := by
  rw [commit_fresh_consistent codec plain.toConsistentStates plain.noCheckpoint fresh notEmpty]
  simp only [setLatestSnapshotKey_eq plain]

theorem rowAt_beforeUpdates_isSome {nsId key : Bytes} (present : (db.row nsId key).isSome = true) :
    ((beforeUpdates db states).row nsId key).isSome = true := by
  rw [beforeUpdates, (Database.createAll_other _ _).1]
  apply isSome_row_applyRows
  rw [Database.recordAll_eq]
  exact present

theorem hasTable_beforeUpdates {nsId : Bytes} (tableExists : db.hasTable nsId = true) :
    (beforeUpdates db states).hasTable nsId = true := by
  rw [beforeUpdates, Database.hasTable_createAll,
    (Database.applyRows_other _ _).1, Database.recordAll_eq]
  simp [tableExists]

theorem Updatable.beforeUpdates (updatable : Updatable db states.updateWrites) :
    Updatable (VC.beforeUpdates db states) states.updateWrites where
  tables := fun entry mem => hasTable_beforeUpdates (updatable.tables entry mem)
  present := fun entry mem => rowAt_beforeUpdates_isSome (updatable.present entry mem)
  fits := updatable.fits

theorem createAll_applyRows (db : Database) (created : List Bytes) {rows : List RowWrite}
    (exist : ∀ write ∈ rows, db.hasTable write.nsId = true) :
    (db.applyRows rows).createAll created = (db.createAll created).applyRows rows := by
  have existAfter : ∀ write ∈ rows, (db.createAll created).hasTable write.nsId = true := by
    intro write mem
    rw [Database.hasTable_createAll, exist write mem, Bool.or_true]
  have sameRows : (db.createAll created).rowAt = db.rowAt := by
    funext pair
    rw [Database.rowAt, (Database.createAll_other _ _).1]
    rfl
  apply Database.eq_of_parts
  · funext nsId
    rw [(Database.applyRows_other _ _).1, Database.hasTable_createAll,
      Database.hasTable_createAll, (Database.applyRows_other _ _).1]
  · rw [Database.rowAt_applyRows _ _ existAfter, sameRows, ← Database.rowAt_applyRows _ _ exist]
    funext pair
    rw [Database.rowAt, (Database.createAll_other _ _).1]
    rfl
  · rw [(Database.createAll_other _ _).2.1, (Database.applyRows_other _ _).2.1,
      (Database.applyRows_other _ _).2.1, (Database.createAll_other _ _).2.1]
  · rw [(Database.createAll_other _ _).2.2.1,
      (Database.applyRows_other _ _).2.2.1,
      (Database.applyRows_other _ _).2.2.1,
      (Database.createAll_other _ _).2.2.1]
  · rw [(Database.createAll_other _ _).2.2.2,
      (Database.applyRows_other _ _).2.2.2,
      (Database.applyRows_other _ _).2.2.2,
      (Database.createAll_other _ _).2.2.2]

/-- The effects of an attempt, namespace by namespace. -/
def StatesToBeCommitted.effects (states : StatesToBeCommitted) : Effects where
  statuses := statusEntries states.batchStatus
  created := states.createdTables
  rows := states.insertedRows ++ states.updatedRows

theorem commit_committed (plain : PlainStates states) (fresh : Fresh db states)
    (updatable : Updatable db states.updateWrites) :
    commit codec db states = some (.committed (db.apply states.effects)) := by
  cases empty : states.empty with
  | true =>
    have parts := empty
    rw [StatesToBeCommitted.empty, Bool.and_eq_true, Bool.and_eq_true,
      List.isEmpty_iff, List.isEmpty_iff, List.isEmpty_iff] at parts
    obtain ⟨⟨noUpdates, noNew⟩, noStatuses⟩ := parts
    have noEffects : states.effects = ⟨[], [], []⟩ := by
      rw [StatesToBeCommitted.effects, StatesToBeCommitted.createdTables,
        StatesToBeCommitted.insertedRows, StatesToBeCommitted.updatedRows,
        noUpdates, noNew, noStatuses]
      rfl
    rw [commit, empty, noEffects]
    rfl
  | false =>
    have exist :
        ∀ write ∈ states.insertedRows,
          (db.recordAll (statusEntries states.batchStatus)).hasTable write.nsId = true := by
      intro write mem
      obtain ⟨entry, inside, eq⟩ := mem_map.mp mem
      have listed := (groups_perm states.newWrites).mem_iff.mp inside
      rw [← eq, Database.recordAll_eq]
      exact fresh.insertable.tables entry listed
    rw [commit_fresh codec plain fresh empty,
      updateStates_eq updatable.beforeUpdates, Option.map_some,
      beforeUpdates, createAll_applyRows _ _ exist,
      ← Database.applyRows_append]
    rfl

theorem commit_refused (plain : PlainStates states) (fresh : Fresh db states)
    {entry : WriteEntry} (mem : entry ∈ states.updateWrites)
    (overflow : fitsBigint entry.version = false) :
    commit codec db states = none := by
  have notEmpty : states.empty = false := by
    rw [StatesToBeCommitted.empty,
      isEmpty_eq_false_iff.mpr (ne_nil_of_mem mem),
      Bool.false_and, Bool.false_and]
  rw [commit_fresh codec plain fresh notEmpty, updateStates_eq_none _ mem overflow]
  rfl

end

end FabricXCommitter.VC
