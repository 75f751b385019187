import FabricXCommitter.VC.Preparer

/-!
# Processing transactions one at a time

What a validator-committer is for.
-/

namespace FabricXCommitter.VC

open Library List

/-- The reads of one namespace, with the read of the policy version. -/
def namespaceReads (ns : TxNamespace) : List (Bytes × Read) :=
  ns.readsOnly.map (fun read => (ns.nsId, read)) ++
    (ns.readWrites.map (fun rw => (ns.nsId, readOf rw)) ++
      (versionRead ns.nsId ns.nsVersion).toList)

/-- The namespaces that are read and written; a transaction with a preliminary
status reads and writes nothing. -/
def preparedNamespaces (tx : VcTx) : List TxNamespace :=
  if tx.prelimInvalidTxStatus.isNone then tx.namespaces else []

theorem preparedNamespaces_of_valid {tx : VcTx} (valid : tx.prelimInvalidTxStatus = none) :
    preparedNamespaces tx = tx.namespaces := by
  rw [preparedNamespaces, valid]
  rfl

theorem preparedNamespaces_of_invalid
    {tx : VcTx} (invalid : tx.prelimInvalidTxStatus.isNone = false) :
    preparedNamespaces tx = [] := by
  rw [preparedNamespaces, invalid]
  rfl

def txReads (tx : VcTx) : List (Bytes × Read) := (preparedNamespaces tx).flatMap namespaceReads

structure KeyedWrite where
  nsId : Bytes
  key : Bytes
  value : Bytes
  deriving DecidableEq, Repr

def namespaceWrites (ns : TxNamespace) : List KeyedWrite :=
  ns.readWrites.map (fun rw => ⟨ns.nsId, rw.key, rw.value⟩) ++
    ns.blindWrites.map fun w => ⟨ns.nsId, w.key, w.value⟩

def txWrites (tx : VcTx) : List KeyedWrite := (preparedNamespaces tx).flatMap namespaceWrites

/-- The namespaces whose policies the transaction writes without a version. -/
def createdNamespaces (tx : VcTx) : List Bytes :=
  tx.namespaces.flatMap fun ns =>
    if ns.nsId = metaNamespaceID then
      (ns.readWrites.filter fun rw => rw.version.isNone).map ReadWrite.key
    else
      []

def readKeys (tx : VcTx) : List (Bytes × Bytes) :=
  (txReads tx).map fun entry => (entry.1, entry.2.key)

def writeKeys (tx : VcTx) : List (Bytes × Bytes) :=
  (txWrites tx).map fun write => (write.nsId, write.key)

def readsMatch (db : Database) (tx : VcTx) : Bool :=
  (txReads tx).all fun entry => !readMismatch db entry.1 entry.2

def outcome (db : Database) (tx : VcTx) : Status :=
  match db.txStatus tx.ref.txId with
  | some (status, height) =>
    if height = tx.ref.height then status else .rejectedDuplicateTxId
  | none =>
    match tx.prelimInvalidTxStatus with
    | some status => status
    | none =>
      if readsMatch db tx then .committed else .abortedMvccConflict

/-- The transaction is new, has no preliminary status and its reads match. -/
def commits (db : Database) (tx : VcTx) : Bool :=
  (db.txStatus tx.ref.txId).isNone && tx.prelimInvalidTxStatus.isNone && readsMatch db tx

/-- The version after the present one; a new row starts at zero. -/
def nextVersion (row : Option Row) : Nat :=
  match row with
  | none => 0
  | some row => row.version + 1

def rowWrites (db : Database) (tx : VcTx) : List RowWrite :=
  (txWrites tx).map fun write =>
    ⟨write.nsId, write.key, ⟨write.value, nextVersion (db.row write.nsId write.key)⟩⟩

/-- The status of a duplicate is not recorded. -/
def recordedStatuses (db : Database) (tx : VcTx) : List (Bytes × Status × Height) :=
  if (db.txStatus tx.ref.txId).isSome ∨ outcome db tx = .rejectedDuplicateTxId then
    []
  else
    [(tx.ref.txId, outcome db tx, tx.ref.height)]

def effectsOf (db : Database) (tx : VcTx) : Effects where
  statuses := recordedStatuses db tx
  created := if commits db tx then createdNamespaces tx else []
  rows := if commits db tx then rowWrites db tx else []

theorem concat_effectsOf (db : Database) (txs : List VcTx) :
    Effects.concat (txs.map (effectsOf db)) =
      ⟨txs.flatMap (recordedStatuses db),
        txs.flatMap fun tx => if commits db tx then createdNamespaces tx else [],
        txs.flatMap fun tx => if commits db tx then rowWrites db tx else []⟩ := by
  simp only [Effects.concat, flatMap_map]
  rfl

def processOne (db : Database) (tx : VcTx) : Database := db.apply (effectsOf db tx)

def Storable (db : Database) (tx : VcTx) : Prop :=
  ∀ write ∈ (effectsOf db tx).rows, write.row.version < bigintLimit

instance (db : Database) (tx : VcTx) : Decidable (Storable db tx) :=
  inferInstanceAs (Decidable (∀ write ∈ (effectsOf db tx).rows, write.row.version < bigintLimit))

def processSequence (db : Database) : List VcTx → List TxStatus × Database
  | [] => ([], db)
  | tx :: rest =>
    let processed := processSequence (processOne db tx) rest
    (⟨tx.ref, outcome db tx⟩ :: processed.1, processed.2)

/-- The two databases cannot be told apart by the transaction. -/
structure AgreeFor (db other : Database) (tx : VcTx) : Prop where
  status : db.txStatus tx.ref.txId = other.txStatus tx.ref.txId
  reads : ∀ pair ∈ readKeys tx, db.rowAt pair = other.rowAt pair
  writes : ∀ pair ∈ writeKeys tx, db.rowAt pair = other.rowAt pair

section

variable {db other : Database} {tx : VcTx}

section

variable (agree : AgreeFor db other tx)

include agree

theorem AgreeFor.readsMatch_eq : readsMatch db tx = readsMatch other tx := by
  rw [readsMatch, readsMatch, Bool.eq_iff_iff, all_eq_true, all_eq_true]
  have same :
      ∀ entry ∈ txReads tx,
        readMismatch db entry.1 entry.2 = readMismatch other entry.1 entry.2 := by
    intro entry mem
    have rows : db.row entry.1 entry.2.key = other.row entry.1 entry.2.key :=
      agree.reads (entry.1, entry.2.key)
        (mem_map_of_mem (f := fun entry : Bytes × Read => (entry.1, entry.2.key)) mem)
    rw [readMismatch, readMismatch, rows]
  constructor
  · intro all entry mem
    rw [← same entry mem]
    exact all entry mem
  · intro all entry mem
    rw [same entry mem]
    exact all entry mem

theorem AgreeFor.outcome_eq : outcome db tx = outcome other tx := by
  rw [outcome, outcome, agree.status, agree.readsMatch_eq]

theorem AgreeFor.commits_eq : commits db tx = commits other tx := by
  rw [commits, commits, agree.status, agree.readsMatch_eq]

theorem AgreeFor.rowWrites_eq : rowWrites db tx = rowWrites other tx := by
  apply map_congr_left
  intro write mem
  have rows : db.row write.nsId write.key = other.row write.nsId write.key :=
    agree.writes (write.nsId, write.key)
      (mem_map_of_mem (f := fun write : KeyedWrite => (write.nsId, write.key)) mem)
  rw [rows]

theorem AgreeFor.effectsOf_eq : effectsOf db tx = effectsOf other tx := by
  rw [effectsOf, effectsOf, recordedStatuses, recordedStatuses, agree.status,
    agree.outcome_eq, agree.commits_eq, agree.rowWrites_eq]

end

end

/-- Neither transaction writes a key that the other reads or writes. -/
structure Independent (first second : VcTx) : Prop where
  ids : first.ref.txId ≠ second.ref.txId
  readByFirst : ∀ pair ∈ writeKeys second, pair ∉ readKeys first
  readBySecond : ∀ pair ∈ writeKeys first, pair ∉ readKeys second
  written : ∀ pair ∈ writeKeys first, pair ∉ writeKeys second

theorem Independent.symm {first second : VcTx} (independent : Independent first second) :
    Independent second first where
  ids := independent.ids.symm
  readByFirst := independent.readBySecond
  readBySecond := independent.readByFirst
  written := fun pair mem other => independent.written pair other mem

theorem rowKeys_effectsOf (db : Database) (tx : VcTx) :
    ∀ pair ∈ (effectsOf db tx).rows.map fun write => (write.nsId, write.key),
      pair ∈ writeKeys tx := by
  intro pair mem
  obtain ⟨write, inside, eq⟩ := mem_map.mp mem
  rw [effectsOf] at inside
  split at inside
  · obtain ⟨source, sourceMem, writeEquality⟩ := mem_map.mp inside
    rw [← eq, ← writeEquality]
    exact mem_map_of_mem (f := fun write : KeyedWrite => (write.nsId, write.key)) sourceMem
  · cases inside

theorem statusIds_effectsOf (db : Database) (tx : VcTx) :
    ∀ id ∈ (effectsOf db tx).statuses.map Prod.fst, id = tx.ref.txId := by
  intro id mem
  rw [effectsOf, recordedStatuses] at mem
  split at mem
  · cases mem
  · exact mem_singleton.mp mem

theorem Independent.agreeFor
    {first second : VcTx} (independent : Independent first second) (db : Database) :
    AgreeFor (processOne db first) db second where
  status := by
    rw [processOne, Database.txStatus_apply]
    apply overlay_of_not_mem
    intro mem
    exact independent.ids (statusIds_effectsOf db first _ mem).symm
  reads := by
    intro pair mem
    apply Database.rowAt_apply_of_not_mem
    intro written
    exact independent.readBySecond pair (rowKeys_effectsOf db first pair written) mem
  writes := by
    intro pair mem
    apply Database.rowAt_apply_of_not_mem
    intro written
    exact independent.written pair (rowKeys_effectsOf db first pair written) mem

/-- The namespaces that a transaction writes have tables. -/
def TablesExist (db : Database) (tx : VcTx) : Prop :=
  ∀ write ∈ txWrites tx, db.hasTable write.nsId = true

theorem TablesExist.processOne
    {db : Database} {tx : VcTx} (exist : TablesExist db tx) (first : VcTx) :
    TablesExist (VC.processOne db first) tx := by
  intro write mem
  rw [VC.processOne, Database.hasTable_apply, exist write mem]
  simp

theorem TablesExist.effectsOf {db : Database} {tx : VcTx} (exist : TablesExist db tx) :
    ∀ write ∈ (VC.effectsOf db tx).rows, db.hasTable write.nsId = true := by
  intro write mem
  rw [VC.effectsOf] at mem
  split at mem
  · obtain ⟨source, sourceMem, eq⟩ := mem_map.mp mem
    rw [← eq]
    exact exist source sourceMem
  · cases mem

theorem processSequence_of_independent
    {db : Database} {order : List VcTx} (independent : order.Pairwise Independent)
    (exist : ∀ tx ∈ order, TablesExist db tx) :
    processSequence db order =
      (order.map fun tx => ⟨tx.ref, outcome db tx⟩,
        db.apply (Effects.concat (order.map (effectsOf db)))) := by
  induction order generalizing db with
  | nil => rfl
  | cons first rest ih =>
    obtain ⟨firstIndependent, restIndependent⟩ := pairwise_cons.mp independent
    have restExist : ∀ tx ∈ rest, TablesExist (processOne db first) tx :=
      fun tx mem => (exist tx (mem_cons_of_mem first mem)).processOne first
    have agree : ∀ tx ∈ rest, AgreeFor (processOne db first) db tx :=
      fun tx mem => (firstIndependent tx mem).agreeFor db
    have statuses :
        (rest.map fun tx => (⟨tx.ref, outcome (processOne db first) tx⟩ : TxStatus)) =
          rest.map fun tx => ⟨tx.ref, outcome db tx⟩ := by
      apply map_congr_left
      intro tx mem
      rw [(agree tx mem).outcome_eq]
    have effects : rest.map (effectsOf (processOne db first)) = rest.map (effectsOf db) := by
      apply map_congr_left
      intro tx mem
      exact (agree tx mem).effectsOf_eq
    have tables :
        ∀ effects ∈ effectsOf db first :: rest.map (effectsOf db),
          ∀ write ∈ effects.rows, db.hasTable write.nsId = true := by
      rw [← map_cons]
      intro effects mem
      obtain ⟨tx, inside, eq⟩ := mem_map.mp mem
      rw [← eq]
      exact (exist tx inside).effectsOf
    rw [processSequence, ih restIndependent restExist,
      statuses, effects, processOne, Database.apply_apply db _ _ tables]
    rfl

end FabricXCommitter.VC
