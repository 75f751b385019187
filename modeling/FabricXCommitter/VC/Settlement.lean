import FabricXCommitter.VC.Entries

/-!
# How an attempt settles a batch
-/

namespace FabricXCommitter.VC

open Library List

/-- The verdicts on the unrecorded transactions are right as far as they go.
Recorded transactions may carry any verdict. -/
structure Screened (db : Database) (batch : List VcTx) (dead : Invalidated) : Prop where
  sound :
    ∀ tx ∈ batch, db.txStatus tx.ref.txId = none →
      ∀ status, dead tx.ref.txId = some status →
        status = .abortedMvccConflict ∧ tx.prelimInvalidTxStatus = none ∧ readsMatch db tx = false
  complete :
    ∀ tx ∈ batch, db.txStatus tx.ref.txId = none → live dead tx = true →
      ∀ event ∈ txEvents tx, event.validated = true → readMismatch db event.nsId event.read = false

/-- The blind writes of the live transactions are resolved as well. -/
structure Judged (db : Database) (batch : List VcTx)
    (state : Bytes → Bytes → Option UInt64) (dead : Invalidated) : Prop
    extends Screened db batch dead where
  resolved :
    ∀ tx ∈ batch, db.txStatus tx.ref.txId = none → live dead tx = true →
      ∀ entry ∈ txBlinds tx, state entry.nsId entry.key = queriedVersion db entry.nsId entry.key

/-- Every recorded transaction is marked as a duplicate. -/
def Settled (db : Database) (batch : List VcTx) (dead : Invalidated) : Prop :=
  ∀ tx ∈ batch, (db.txStatus tx.ref.txId).isSome = true → statusIn dead tx = .rejectedDuplicateTxId

variable {tx : VcTx}

theorem namespace_of_mem_txWrites {write : KeyedWrite} (mem : write ∈ txWrites tx) :
    ∃ ns ∈ preparedNamespaces tx, write.nsId = ns.nsId := by
  obtain ⟨ns, nsMem, inside⟩ := mem_flatMap.mp mem
  refine ⟨ns, nsMem, ?_⟩
  rcases mem_append.mp inside with readWrite | blind
  · obtain ⟨rw, _, eq⟩ := mem_map.mp readWrite
    rw [← eq]
  · obtain ⟨w, _, eq⟩ := mem_map.mp blind
    rw [← eq]

def NamespacesExist (db : Database) (tx : VcTx) : Prop :=
  ∀ ns ∈ preparedNamespaces tx, db.hasTable ns.nsId = true

instance (db : Database) (tx : VcTx) : Decidable (NamespacesExist db tx) :=
  inferInstanceAs (Decidable (∀ ns ∈ preparedNamespaces tx, db.hasTable ns.nsId = true))

theorem NamespacesExist.tablesExist {db : Database} (exist : NamespacesExist db tx) :
    TablesExist db tx := by
  intro write mem
  obtain ⟨ns, nsMem, sameNs⟩ := namespace_of_mem_txWrites mem
  rw [sameNs]
  exact exist ns nsMem

/-- The tables exist and the unrecorded transactions are independent. -/
structure Served (db : Database) (batch : List VcTx) : Prop where
  namespaces : ∀ tx ∈ batch, NamespacesExist db tx
  independent :
    batch.Pairwise fun first second =>
      db.txStatus first.ref.txId = none → db.txStatus second.ref.txId = none →
        first.prelimInvalidTxStatus = none →
          second.prelimInvalidTxStatus = none → Independent first second

structure Offered (db : Database) (batch : List VcTx) : Prop extends Served db batch where
  valid : db.Valid

theorem Served.of_independent
    {db : Database} {batch : List VcTx} (namespaces : ∀ tx ∈ batch, NamespacesExist db tx)
    (independent : batch.Pairwise Independent) :
    Served db batch where
  namespaces := namespaces
  independent := independent.imp fun facts _ _ _ _ => facts

theorem live_iff {dead : Invalidated} :
    live dead tx = true ↔ dead tx.ref.txId = none ∧ tx.prelimInvalidTxStatus = none := by
  rw [live, Bool.and_eq_true, Option.isNone_iff_eq_none, Option.isNone_iff_eq_none]

theorem statusIn_of_live {dead : Invalidated} (alive : live dead tx = true) :
    statusIn dead tx = .committed := by
  obtain ⟨alive, unspoiled⟩ := live_iff.mp alive
  rw [statusIn, alive, unspoiled]
  rfl

theorem Settled.unrecorded_of_live {db : Database} {batch : List VcTx} {dead : Invalidated}
    (settled : Settled db batch dead) (mem : tx ∈ batch) (alive : live dead tx = true) :
    db.txStatus tx.ref.txId = none := by
  cases recorded : db.txStatus tx.ref.txId with
  | none => rfl
  | some entry =>
    have duplicate := settled tx mem (by rw [recorded]; rfl)
    rw [statusIn_of_live alive] at duplicate
    cases duplicate

variable {entry : WriteEntry}

section

variable {batch : List VcTx} (admissible : Admissible batch)
  (state : Bytes → Bytes → Option UInt64) (dead : Invalidated)

theorem pair_of_mem_txNews
    (unspoiled : tx.prelimInvalidTxStatus = none) (mem : entry ∈ txNews state tx) :
    entry.pair ∈ writeKeys tx :=
  (pairs_perm state unspoiled).mem_iff.mp (mem_append_left _ (mem_map_of_mem mem))

theorem pair_of_mem_txUpdates
    (unspoiled : tx.prelimInvalidTxStatus = none) (mem : entry ∈ txUpdates state tx) :
    entry.pair ∈ writeKeys tx :=
  (pairs_perm state unspoiled).mem_iff.mp (mem_append_right _ (mem_map_of_mem mem))

theorem write_of_mem_writeKeys {pair : Bytes × Bytes} (mem : pair ∈ writeKeys tx) :
    ∃ write ∈ txWrites tx, (write.nsId, write.key) = pair :=
  mem_map.mp mem

theorem mem_flatMap_live {entries : VcTx → List WriteEntry} :
    (entry ∈ batch.flatMap fun tx =>
        if live dead tx then entries tx else []) ↔
      ∃ tx ∈ batch, live dead tx = true ∧ entry ∈ entries tx := by
  rw [mem_flatMap]
  constructor
  · intro found
    obtain ⟨tx, mem, inside⟩ := found
    split at inside
    · rename_i alive
      exact ⟨tx, mem, alive, inside⟩
    · cases inside
  · intro found
    obtain ⟨tx, mem, alive, inside⟩ := found
    refine ⟨tx, mem, ?_⟩
    rw [if_pos alive]
    exact inside

theorem statusEntries_map (given : VcTx → Status) (txs : List VcTx) :
    statusEntries (txs.map fun tx => ⟨tx.ref, given tx⟩) =
      txs.flatMap fun tx =>
        if given tx = .rejectedDuplicateTxId then
          []
        else
          [(tx.ref.txId, given tx, tx.ref.height)] := by
  induction txs with
  | nil => rfl
  | cons tx rest ih =>
    rw [flatMap_cons, ← ih, statusEntries, statusEntries, map_cons]
    by_cases duplicate : given tx = .rejectedDuplicateTxId
    · rw [filter_cons_of_neg (by simp [duplicate]), if_pos duplicate]
      rfl
    · rw [filter_cons_of_pos (by simp [duplicate]), if_neg duplicate]
      rfl

include admissible

theorem batchStatus_view :
    (statesOf (view state batch dead)).batchStatus =
      batch.map fun tx => ⟨tx.ref, statusIn dead tx⟩ :=
  prepareStatusForCommit_view state dead admissible.distinct admissible.writes

theorem plainStates_view : PlainStates (statesOf (view state batch dead)) where
  heights := by
    intro s mem
    rw [batchStatus_view admissible] at mem
    obtain ⟨tx, inBatch, eq⟩ := mem_map.mp mem
    rw [← eq]
    simp [statesOf, view, masked, categorizeBlindWrites,
      ValidatedTransactions.ofPrepared, preparedForm,
      txOfId_of_mem admissible.distinct inBatch]
  distinct := by
    rw [batchStatus_view admissible, map_map]
    exact admissible.distinct
  noSnapshot := by
    intro entry mem
    rw [newWrites_view state dead admissible.distinct, mem_flatMap_live] at mem
    obtain ⟨tx, inBatch, alive, inside⟩ := mem
    obtain ⟨_, unspoiled⟩ := live_iff.mp alive
    obtain ⟨write, writeMem, pairEquality⟩ :=
      write_of_mem_writeKeys (pair_of_mem_txNews state unspoiled inside)
    obtain ⟨ns, nsMem, sameNs⟩ := namespace_of_mem_txWrites writeMem
    rw [preparedNamespaces_of_valid unspoiled] at nsMem
    have entryNs : entry.nsId = ns.nsId := (Prod.mk.inj pairEquality).1.symm.trans sameNs
    rw [entryNs]
    exact ((admissible.plain tx inBatch unspoiled).systemFree ns nsMem).1
  noCheckpoint := rfl

theorem statusEntries_view :
    statusEntries (statesOf (view state batch dead)).batchStatus =
      batch.flatMap fun tx =>
        if statusIn dead tx = .rejectedDuplicateTxId then
          []
        else
          [(tx.ref.txId, statusIn dead tx, tx.ref.height)] := by
  rw [batchStatus_view admissible, statusEntries_map]

theorem mem_statusEntries_view {entry : Bytes × Status × Height} :
    entry ∈ statusEntries (statesOf (view state batch dead)).batchStatus ↔
      ∃ tx ∈ batch,
        statusIn dead tx ≠ .rejectedDuplicateTxId ∧
          entry = (tx.ref.txId, statusIn dead tx, tx.ref.height) := by
  rw [statusEntries_view admissible, mem_flatMap]
  constructor
  · intro found
    obtain ⟨tx, mem, inside⟩ := found
    split at inside
    · cases inside
    · rename_i recordable
      exact ⟨tx, mem, recordable, mem_singleton.mp inside⟩
  · intro found
    obtain ⟨tx, mem, recordable, eq⟩ := found
    refine ⟨tx, mem, ?_⟩
    rw [if_neg recordable]
    exact mem_singleton.mpr eq

end

section

variable (codec : SnapshotCodec) {db : Database} {batch : List VcTx}
  {state : Bytes → Bytes → Option UInt64} {dead : Invalidated}

theorem attempt_duplicates (admissible : Admissible batch) (mem : tx ∈ batch)
    (recorded : (db.txStatus tx.ref.txId).isSome = true)
    (unmarked : statusIn dead tx ≠ .rejectedDuplicateTxId) :
    ∃ txIDs,
      commit codec db (statesOf (view state batch dead)) = some (.duplicates txIDs) ∧
        ∀ id, id ∈ txIDs ↔
          ∃ tx ∈ batch, tx.ref.txId = id ∧
            statusIn dead tx ≠ .rejectedDuplicateTxId ∧
              (db.txStatus tx.ref.txId).isSome = true := by
  have listed := (mem_statusEntries_view admissible state dead).mpr ⟨tx, mem, unmarked, rfl⟩
  obtain ⟨txIDs, attempted, foundIff⟩ :=
    commit_duplicates codec
      (plainStates_view admissible state dead).toConsistentStates listed
      recorded
  refine ⟨txIDs, attempted, ?_⟩
  intro id
  rw [foundIff, mem_map]
  constructor
  · intro facts
    obtain ⟨⟨entry, entryMem, sameId⟩, stored⟩ := facts
    obtain ⟨other, otherMem, otherUnmarked, eq⟩ :=
      (mem_statusEntries_view admissible state dead).mp entryMem
    have otherId : other.ref.txId = id := by
      rw [eq] at sameId
      exact sameId
    exact ⟨other, otherMem, otherId, otherUnmarked, otherId ▸ stored⟩
  · intro facts
    obtain ⟨other, otherMem, sameId, otherUnmarked, stored⟩ := facts
    refine ⟨⟨_, (mem_statusEntries_view admissible state dead).mpr
      ⟨other, otherMem, otherUnmarked, rfl⟩, sameId⟩, ?_⟩
    rw [← sameId]
    exact stored

variable {txIDs : List Bytes}

theorem live_of_live_kill {status : Status} (alive : live (kill txIDs status dead) tx = true) :
    live dead tx = true ∧ tx.ref.txId ∉ txIDs := by
  obtain ⟨untouched, unspoiled⟩ := live_iff.mp alive
  have outside : tx.ref.txId ∉ txIDs := by
    intro inside
    rw [kill_of_mem inside] at untouched
    cases untouched
  rw [kill_of_not_mem outside] at untouched
  exact ⟨live_iff.mpr ⟨untouched, unspoiled⟩, outside⟩

theorem Judged.kill_recorded (judged : Judged db batch state dead)
    (recorded : ∀ id ∈ txIDs, (db.txStatus id).isSome = true) (status : Status) :
    Judged db batch state (kill txIDs status dead) where
  sound := by
    intro tx mem unrecorded given verdict
    have outside : tx.ref.txId ∉ txIDs := by
      intro inside
      have stored := recorded _ inside
      rw [unrecorded] at stored
      cases stored
    rw [kill_of_not_mem outside] at verdict
    exact judged.sound tx mem unrecorded given verdict
  complete := fun tx mem unrecorded alive =>
    judged.complete tx mem unrecorded (live_of_live_kill alive).1
  resolved := fun tx mem unrecorded alive =>
    judged.resolved tx mem unrecorded (live_of_live_kill alive).1

theorem settled_kill
    (marked :
      ∀ id, id ∈ txIDs ↔
        ∃ tx ∈ batch, tx.ref.txId = id ∧
          statusIn dead tx ≠ .rejectedDuplicateTxId ∧ (db.txStatus tx.ref.txId).isSome = true) :
    Settled db batch (kill txIDs .rejectedDuplicateTxId dead) := by
  intro tx mem recorded
  by_cases inside : tx.ref.txId ∈ txIDs
  · rw [statusIn, kill_of_mem inside]
    rfl
  · rw [statusIn, kill_of_not_mem inside]
    by_contra unmarked
    exact inside ((marked _).mpr ⟨tx, mem, rfl, unmarked, recorded⟩)

def txExpectedAbsent (tx : VcTx) : List WriteEntry := tx.namespaces.flatMap newEntries

theorem expectedAbsent_of_present (unspoiled : tx.prelimInvalidTxStatus = none)
    (resolved :
      ∀ entry ∈ txBlinds tx, state entry.nsId entry.key = queriedVersion db entry.nsId entry.key)
    (mem : entry ∈ txNews state tx) (present : (db.row entry.nsId entry.key).isSome = true) :
    entry ∈ txExpectedAbsent tx := by
  rw [txNews, preparedNamespaces_of_valid unspoiled] at mem
  rcases mem_append.mp mem with expected | blind
  · exact expected
  · obtain ⟨source, sourceMem, eq⟩ := mem_filterMap.mp blind
    have queried := resolved source sourceMem
    split at eq
    · cases eq
    · rename_i absent
      have same := Option.some.inj eq
      rw [← same] at present
      rw [queried, queriedVersion, Option.isSome_map] at absent
      exact absurd present absent

theorem mem_txNews_of_expectedAbsent
    (unspoiled : tx.prelimInvalidTxStatus = none) (mem : entry ∈ txExpectedAbsent tx) :
    entry ∈ txNews state tx := by
  rw [txNews, preparedNamespaces_of_valid unspoiled]
  exact mem_append_left _ mem

theorem Settled.unrecorded_of_entry
    (admissible : Admissible batch) (settled : Settled db batch dead) :
    ∀ entry ∈ statusEntries (statesOf (view state batch dead)).batchStatus,
      db.txStatus entry.1 = none := by
  intro entry mem
  obtain ⟨tx, inBatch, recordable, eq⟩ := (mem_statusEntries_view admissible state dead).mp mem
  rw [eq]
  cases recorded : db.txStatus tx.ref.txId with
  | none => rfl
  | some stored => exact absurd (settled tx inBatch (by rw [recorded]; rfl)) recordable

theorem newWrites_tables (admissible : Admissible batch) (offered : Offered db batch) :
    ∀ entry ∈ (statesOf (view state batch dead)).newWrites, db.hasTable entry.nsId = true := by
  intro entry mem
  rw [newWrites_view state dead admissible.distinct, mem_flatMap_live] at mem
  obtain ⟨tx, inBatch, alive, inside⟩ := mem
  obtain ⟨_, unspoiled⟩ := live_iff.mp alive
  obtain ⟨write, writeMem, pairEquality⟩ :=
    write_of_mem_writeKeys (pair_of_mem_txNews state unspoiled inside)
  have sameNs : write.nsId = entry.nsId := (Prod.mk.inj pairEquality).1
  rw [← sameNs]
  exact (offered.namespaces tx inBatch).tablesExist write writeMem

/-- An attempt on a settled batch reports the existing keys that live
transactions expect to be absent. -/
theorem attempt_conflicts (admissible : Admissible batch) (offered : Offered db batch)
    (judged : Judged db batch state dead) (settled : Settled db batch dead)
    (mem : tx ∈ batch) (alive : live dead tx = true) (expected : entry ∈ txExpectedAbsent tx)
    (present : (db.row entry.nsId entry.key).isSome = true) :
    ∃ reads,
      commit codec db (statesOf (view state batch dead)) = some (.conflicts reads) ∧
        ∀ read, read ∈ reads ↔
          ∃ tx ∈ batch, live dead tx = true ∧
            ∃ entry ∈ txExpectedAbsent tx,
              read = (entry.nsId, ⟨entry.key, none⟩) ∧
                (db.row entry.nsId entry.key).isSome = true := by
  have newWrites := newWrites_view state dead admissible.distinct
  have listed : entry ∈ (statesOf (view state batch dead)).newWrites := by
    rw [newWrites, mem_flatMap_live]
    exact ⟨tx, mem, alive, mem_txNews_of_expectedAbsent (live_iff.mp alive).2 expected⟩
  obtain ⟨reads, attempted, readsIff⟩ :=
    commit_conflicts codec
      (plainStates_view admissible state dead).toConsistentStates
      (settled.unrecorded_of_entry admissible)
      (newWrites_tables admissible offered) listed present
  refine ⟨reads, attempted, ?_⟩
  intro read
  rw [readsIff, newWrites]
  constructor
  · intro found
    obtain ⟨source, sourceMem, eq, stored⟩ := found
    obtain ⟨other, otherMem, otherAlive, inside⟩ := (mem_flatMap_live dead).mp sourceMem
    refine ⟨other, otherMem, otherAlive, source, ?_, eq, stored⟩
    apply expectedAbsent_of_present (live_iff.mp otherAlive).2 _ inside stored
    exact judged.resolved other otherMem (settled.unrecorded_of_live otherMem otherAlive) otherAlive
  · intro found
    obtain ⟨other, otherMem, otherAlive, source, expected, facts⟩ := found
    refine ⟨source, (mem_flatMap_live dead).mpr ?_, facts⟩
    exact
      ⟨other, otherMem, otherAlive,
        mem_txNews_of_expectedAbsent (live_iff.mp otherAlive).2 expected⟩

end

end FabricXCommitter.VC
