import FabricXCommitter.Library.Overlay
import FabricXCommitter.Transaction
import Mathlib.Algebra.Order.Ring.Nat

/-!
# The state database and effects on it

A failed call is `none`, and a statement that reports existing keys leaves the tables
unchanged.
-/

namespace FabricXCommitter.VC

structure Row where
  value : Bytes
  version : Nat
  deriving DecidableEq, Repr

/-- The database.  A namespace without a table has no rows. -/
@[ext]
structure Database where
  hasTable : Bytes → Bool
  row : Bytes → Bytes → Option Row
  txStatus : Bytes → Option (Status × Height)
  latestSnapshotKey : Bytes
  snapshotDatabases : String → Bool
  rowsInTables : ∀ nsId key, hasTable nsId = false → row nsId key = none

/-- The upper end of the non-negative `BIGINT` values. -/
def bigintLimit : Nat := 2 ^ 63

def fitsBigint (version : UInt64) : Bool := version.toNat < bigintLimit

/-- A database as the setup and the commits leave it. -/
structure Database.Valid (db : Database) : Prop where
  metaTable : db.hasTable metaNamespaceID = true
  configTable : db.hasTable configNamespaceID = true
  bounded : ∀ nsId key row, db.row nsId key = some row → row.version < bigintLimit

namespace Database

/-- Store one row; a namespace without a table is left alone. -/
def writeRow (db : Database) (nsId key : Bytes) (row : Row) : Database where
  hasTable := db.hasTable
  row := fun otherNs otherKey =>
    if otherNs = nsId ∧ otherKey = key ∧ db.hasTable nsId = true then
      some row
    else
      db.row otherNs otherKey
  txStatus := db.txStatus
  latestSnapshotKey := db.latestSnapshotKey
  snapshotDatabases := db.snapshotDatabases
  rowsInTables := by
    intro otherNs otherKey missing
    split
    · rename_i written
      rw [written.1, written.2.2] at missing
      cases missing
    · exact db.rowsInTables otherNs otherKey missing

/-- `CREATE TABLE IF NOT EXISTS`. -/
def createTable (db : Database) (nsId : Bytes) : Database where
  hasTable := fun other => decide (other = nsId) || db.hasTable other
  row := db.row
  txStatus := db.txStatus
  latestSnapshotKey := db.latestSnapshotKey
  snapshotDatabases := db.snapshotDatabases
  rowsInTables := by
    intro other key missing
    rw [Bool.or_eq_false_iff] at missing
    exact db.rowsInTables other key missing.2

/-- Store the status of one transaction. -/
def recordStatus (db : Database) (txId : Bytes) (status : Status) (height : Height) : Database :=
  { db with
    txStatus := Function.update db.txStatus txId (some (status, height)) }

end Database

structure RowWrite where
  nsId : Bytes
  key : Bytes
  row : Row
  deriving DecidableEq, Repr

def Database.applyRows (db : Database) (writes : List RowWrite) : Database :=
  writes.foldl (fun db write => db.writeRow write.nsId write.key write.row) db

/-- The condition of `validate_reads_ns`: the key is absent though a version is
expected, present though none is expected, or present with another version. -/
def readMismatch (db : Database) (nsId : Bytes) (read : Read) : Bool :=
  match db.row nsId read.key, read.version with
  | none, none => false
  | some row, some version => row.version ≠ version.toNat
  | _, _ => true

def validateNamespaceReads
    (db : Database) (nsId : Bytes) (reads : List Read) : Option (List Read) :=
  if db.hasTable nsId && reads.all (fun read => read.version.all fitsBigint) then
    some (reads.filter (readMismatch db nsId))
  else
    none

def queryVersionsIfPresent (db : Database) (nsId : Bytes) (queryKeys : List Bytes) :
    Option (Bytes → Option UInt64) :=
  if db.hasTable nsId then
    some fun key =>
      if key ∈ queryKeys then
        (db.row nsId key).map fun row => UInt64.ofNat row.version
      else
        none
  else
    none

/-- `insert_ns`: all keys are new and distinct, or nothing is inserted and the
existing keys are returned. -/
def insertNs (db : Database) (nsId : Bytes) (writes : List Write) :
    Option (List Bytes × Database) :=
  let keys := writes.map Write.key
  if db.hasTable nsId then
    if keys.Nodup ∧ ∀ key ∈ keys, db.row nsId key = none then
      some ([], db.applyRows (writes.map fun w => ⟨nsId, w.key, ⟨w.value, 0⟩⟩))
    else
      some (keys.dedup.filter fun key => (db.row nsId key).isSome, db)
  else
    none

structure VersionedWrite where
  key : Bytes
  value : Bytes
  version : UInt64
  deriving DecidableEq, Repr

/-- `update_ns`: only existing keys are updated. -/
def updateNs (db : Database) (nsId : Bytes) (writes : List VersionedWrite) : Option Database :=
  if db.hasTable nsId && writes.all (fun w => fitsBigint w.version) then
    some
      (db.applyRows
        ((writes.filter fun w => (db.row nsId w.key).isSome).map fun w =>
          ⟨nsId, w.key, ⟨w.value, w.version.toNat⟩⟩))
  else
    none

/-- `insert_tx_status`: all IDs are new and distinct, or nothing is inserted and
the recorded IDs are returned. -/
def insertTxStatusRows (db : Database) (entries : List (Bytes × Status × Height)) :
    List Bytes × Database :=
  let ids := entries.map Prod.fst
  if ids.Nodup ∧ ∀ id ∈ ids, db.txStatus id = none then
    ([], entries.foldl (fun db entry => db.recordStatus entry.1 entry.2.1 entry.2.2) db)
  else
    (ids.dedup.filter fun id => (db.txStatus id).isSome, db)

/-- The recorded rows among the given IDs. -/
def readStatusWithHeight (db : Database) (txIDs : List Bytes) : List TxStatus :=
  txIDs.dedup.filterMap fun id =>
    (db.txStatus id).map fun entry => ⟨⟨id, entry.2.blockNum, entry.2.txNum⟩, entry.1⟩

open Library List

structure Effects where
  statuses : List (Bytes × Status × Height)
  created : List Bytes
  rows : List RowWrite

def Effects.concat (effects : List Effects) : Effects where
  statuses := effects.flatMap Effects.statuses
  created := effects.flatMap Effects.created
  rows := effects.flatMap Effects.rows

def RowWrite.entry (write : RowWrite) : (Bytes × Bytes) × Row :=
  ((write.nsId, write.key), write.row)

namespace Database

def recordAll (db : Database) (statuses : List (Bytes × Status × Height)) : Database :=
  statuses.foldl (fun db entry => db.recordStatus entry.1 entry.2.1 entry.2.2) db

def createAll (db : Database) (created : List Bytes) : Database := created.foldl createTable db

def apply (db : Database) (effects : Effects) : Database :=
  ((db.recordAll effects.statuses).createAll effects.created).applyRows effects.rows

def rowAt (db : Database) (pair : Bytes × Bytes) : Option Row := db.row pair.1 pair.2

section

variable (db : Database)

include db

theorem recordAll_eq (statuses : List (Bytes × Status × Height)) :
    db.recordAll statuses = { db with txStatus := overlay statuses db.txStatus } := by
  induction statuses generalizing db with
  | nil => rfl
  | cons entry rest ih =>
    change (db.recordStatus _ _ _).recordAll rest = _
    rw [ih, overlay_cons]
    rfl

theorem hasTable_createAll (created : List Bytes) (nsId : Bytes) :
    (db.createAll created).hasTable nsId = (decide (nsId ∈ created) || db.hasTable nsId) := by
  induction created generalizing db with
  | nil => simp [createAll]
  | cons head rest ih =>
    change ((db.createTable head).createAll rest).hasTable nsId = _
    rw [ih]
    by_cases same : nsId = head
    · simp [createTable, same]
    · simp [createTable, same]

theorem createAll_other (created : List Bytes) :
    (db.createAll created).row = db.row ∧
      (db.createAll created).txStatus = db.txStatus ∧
        (db.createAll created).latestSnapshotKey = db.latestSnapshotKey ∧
          (db.createAll created).snapshotDatabases = db.snapshotDatabases := by
  induction created generalizing db with
  | nil => exact ⟨rfl, rfl, rfl, rfl⟩
  | cons head rest ih => exact ih (db.createTable head)

theorem applyRows_other (writes : List RowWrite) :
    (db.applyRows writes).hasTable = db.hasTable ∧
      (db.applyRows writes).txStatus = db.txStatus ∧
        (db.applyRows writes).latestSnapshotKey = db.latestSnapshotKey ∧
          (db.applyRows writes).snapshotDatabases = db.snapshotDatabases := by
  induction writes generalizing db with
  | nil => exact ⟨rfl, rfl, rfl, rfl⟩
  | cons head rest ih =>
    exact ih (db.writeRow head.nsId head.key head.row)

theorem rowAt_writeRow (write : RowWrite) (tableExists : db.hasTable write.nsId = true) :
    (db.writeRow write.nsId write.key write.row).rowAt =
      Function.update db.rowAt (write.nsId, write.key) (some write.row) := by
  funext pair
  by_cases same : pair = (write.nsId, write.key)
  · subst pair
    simp [rowAt, writeRow, tableExists]
  · have different : ¬ (pair.1 = write.nsId ∧ pair.2 = write.key) := by
      intro both
      exact same (Prod.ext both.1 both.2)
    rw [Function.update_of_ne same]
    simp only [rowAt, writeRow]
    rw [if_neg]
    intro written
    exact different ⟨written.1, written.2.1⟩

theorem rowAt_applyRows
    (writes : List RowWrite) (exist : ∀ write ∈ writes, db.hasTable write.nsId = true) :
    (db.applyRows writes).rowAt = overlay (writes.map RowWrite.entry) db.rowAt := by
  induction writes generalizing db with
  | nil => rfl
  | cons head rest ih =>
    have headExists := exist head mem_cons_self
    have restExist :
        ∀ write ∈ rest, (db.writeRow head.nsId head.key head.row).hasTable write.nsId = true :=
      fun write mem => exist write (mem_cons_of_mem head mem)
    change ((db.writeRow head.nsId head.key head.row).applyRows rest).rowAt = _
    rw [ih _ restExist, rowAt_writeRow db head headExists]
    rfl

theorem rowAt_applyRows_of_not_mem {writes : List RowWrite} {pair : Bytes × Bytes}
    (outside : pair ∉ writes.map fun write => (write.nsId, write.key)) :
    (db.applyRows writes).rowAt pair = db.rowAt pair := by
  induction writes generalizing db with
  | nil => rfl
  | cons head rest ih =>
    rw [map_cons, mem_cons, not_or] at outside
    change ((db.writeRow head.nsId head.key head.row).applyRows rest).rowAt pair = _
    rw [ih _ outside.2]
    simp only [rowAt, writeRow]
    rw [if_neg]
    intro written
    exact outside.1 (Prod.ext written.1 written.2.1)

theorem applyRows_append (first second : List RowWrite) :
    db.applyRows (first ++ second) = (db.applyRows first).applyRows second :=
  foldl_append

end

theorem eq_of_parts
    {db other : Database} (tables : db.hasTable = other.hasTable) (rows : db.rowAt = other.rowAt)
    (statuses : db.txStatus = other.txStatus)
    (latest : db.latestSnapshotKey = other.latestSnapshotKey)
    (snapshots : db.snapshotDatabases = other.snapshotDatabases) :
    db = other := by
  apply Database.ext tables _ statuses latest snapshots
  funext nsId key
  exact congrFun rows (nsId, key)

section

variable (db : Database) (effects : Effects)

theorem hasTable_apply (nsId : Bytes) :
    (db.apply effects).hasTable nsId = (decide (nsId ∈ effects.created) || db.hasTable nsId) := by
  rw [apply, (applyRows_other _ _).1, hasTable_createAll, recordAll_eq]

theorem txStatus_apply : (db.apply effects).txStatus = overlay effects.statuses db.txStatus := by
  rw [apply, (applyRows_other _ _).2.1, (createAll_other _ _).2.1, recordAll_eq]

theorem latestSnapshotKey_apply : (db.apply effects).latestSnapshotKey = db.latestSnapshotKey := by
  rw [apply, (applyRows_other _ _).2.2.1, (createAll_other _ _).2.2.1, recordAll_eq]

theorem snapshotDatabases_apply : (db.apply effects).snapshotDatabases = db.snapshotDatabases := by
  rw [apply, (applyRows_other _ _).2.2.2, (createAll_other _ _).2.2.2, recordAll_eq]

theorem rowAt_apply_of_not_mem {pair : Bytes × Bytes}
    (outside : pair ∉ effects.rows.map fun write => (write.nsId, write.key)) :
    (db.apply effects).rowAt pair = db.rowAt pair := by
  rw [apply, rowAt_applyRows_of_not_mem _ outside, rowAt, (createAll_other _ _).1, recordAll_eq]
  rfl

theorem rowAt_apply (exist : ∀ write ∈ effects.rows, db.hasTable write.nsId = true) :
    (db.apply effects).rowAt = overlay (effects.rows.map RowWrite.entry) db.rowAt := by
  have before : ((db.recordAll effects.statuses).createAll effects.created).rowAt = db.rowAt := by
    funext pair
    rw [rowAt, (createAll_other _ _).1, recordAll_eq]
    rfl
  rw [apply, rowAt_applyRows, before]
  intro write mem
  rw [hasTable_createAll, recordAll_eq]
  simp [exist write mem]

end

theorem apply_perm (db : Database) {first second : Effects}
    (exist : ∀ write ∈ first.rows, db.hasTable write.nsId = true)
    (distinctIds : (first.statuses.map Prod.fst).Nodup)
    (statuses : first.statuses.Perm second.statuses)
    (created : ∀ nsId, nsId ∈ first.created ↔ nsId ∈ second.created)
    (distinctKeys : (first.rows.map fun write => (write.nsId, write.key)).Nodup)
    (rows : first.rows.Perm second.rows) :
    db.apply first = db.apply second := by
  have existSecond : ∀ write ∈ second.rows, db.hasTable write.nsId = true :=
    fun write mem => exist write (rows.mem_iff.mpr mem)
  have distinctEntries : ((first.rows.map RowWrite.entry).map Prod.fst).Nodup := by
    rw [map_map]
    exact distinctKeys
  apply eq_of_parts
  · funext nsId
    rw [hasTable_apply, hasTable_apply, decide_eq_decide.mpr (created nsId)]
  · rw [rowAt_apply db first exist, rowAt_apply db second existSecond]
    exact overlay_perm distinctEntries (rows.map _) _
  · rw [txStatus_apply, txStatus_apply]
    exact overlay_perm distinctIds statuses _
  · rw [latestSnapshotKey_apply, latestSnapshotKey_apply]
  · rw [snapshotDatabases_apply, snapshotDatabases_apply]

theorem apply_apply (db : Database) (first : Effects) (rest : List Effects)
    (exist : ∀ effects ∈ first :: rest, ∀ write ∈ effects.rows, db.hasTable write.nsId = true) :
    (db.apply first).apply (Effects.concat rest) = db.apply (Effects.concat (first :: rest)) := by
  have firstExist := exist first mem_cons_self
  have restExist : ∀ write ∈ (Effects.concat rest).rows, db.hasTable write.nsId = true := by
    intro write mem
    obtain ⟨effects, inRest, inside⟩ := mem_flatMap.mp mem
    exact exist effects (mem_cons_of_mem first inRest) write inside
  have restExistAfter :
      ∀ write ∈ (Effects.concat rest).rows, (db.apply first).hasTable write.nsId = true := by
    intro write mem
    rw [hasTable_apply, restExist write mem]
    simp
  have allExist :
      ∀ write ∈ (Effects.concat (first :: rest)).rows, db.hasTable write.nsId = true := by
    intro write mem
    rcases mem_append.mp mem with inFirst | inRest
    · exact firstExist write inFirst
    · exact restExist write inRest
  apply eq_of_parts
  · funext nsId
    rw [hasTable_apply, hasTable_apply, hasTable_apply]
    simp only [Effects.concat, flatMap_cons, mem_append]
    by_cases inFirst : nsId ∈ first.created
    · simp [inFirst]
    · simp [inFirst]
  · rw [rowAt_apply _ _ restExistAfter, rowAt_apply _ _ firstExist,
      rowAt_apply _ _ allExist, ← overlay_append, ← map_append]
    rfl
  · rw [txStatus_apply, txStatus_apply, txStatus_apply, ← overlay_append]
    rfl
  · rw [latestSnapshotKey_apply, latestSnapshotKey_apply, latestSnapshotKey_apply]
  · rw [snapshotDatabases_apply, snapshotDatabases_apply, snapshotDatabases_apply]

end Database

end FabricXCommitter.VC
