import FabricXCommitter.VC.Instances
import FabricXCommitter.VC.Schedule

/-!
# What the database has processed

A processed transaction is inert.
-/

namespace FabricXCommitter.VC

open Library List

/-- Processing the transaction has no effect. -/
def Inert (db : Database) (tx : VcTx) : Prop :=
  (db.txStatus tx.ref.txId).isSome = true ∨ tx.prelimInvalidTxStatus = some .rejectedDuplicateTxId

section

variable {db other : Database} {tx : VcTx}

theorem not_inert_of_commits (commit : commits db tx = true) : ¬ Inert db tx := by
  obtain ⟨unrecorded, unspoiled, _⟩ := commits_iff.mp commit
  intro inert
  rcases inert with recorded | duplicate
  · rw [unrecorded] at recorded
    cases recorded
  · rw [unspoiled] at duplicate
    cases duplicate

section

variable (inert : Inert db tx)

include inert

theorem Inert.outcome_of_unrecorded (unrecorded : db.txStatus tx.ref.txId = none) :
    outcome db tx = .rejectedDuplicateTxId := by
  rcases inert with recorded | duplicate
  · rw [unrecorded] at recorded
    cases recorded
  · rw [outcome, unrecorded, duplicate]

theorem Inert.effectsOf_eq : effectsOf db tx = ⟨[], [], []⟩ := by
  have nothing : recordedStatuses db tx = [] := by
    apply if_pos
    cases stored : db.txStatus tx.ref.txId with
    | none => exact .inr (inert.outcome_of_unrecorded stored)
    | some entry => exact .inl rfl
  have idle : commits db tx = false := by
    by_contra commit
    rw [Bool.not_eq_false] at commit
    exact not_inert_of_commits commit inert
  rw [effectsOf, nothing, idle]
  rfl

theorem Inert.storable : Storable db tx := by
  intro write mem
  rw [inert.effectsOf_eq] at mem
  cases mem

theorem Inert.outcome_eq (same : other.txStatus tx.ref.txId = db.txStatus tx.ref.txId) :
    outcome other tx = outcome db tx := by
  cases stored : db.txStatus tx.ref.txId with
  | none =>
    have otherInert : Inert other tx := by
      rw [Inert, same]
      exact inert
    rw [inert.outcome_of_unrecorded stored, otherInert.outcome_of_unrecorded (same.trans stored)]
  | some entry => rw [outcome, outcome, same, stored]

theorem Inert.of_kept
    (kept :
      ∀ entry, db.txStatus tx.ref.txId = some entry → other.txStatus tx.ref.txId = some entry) :
    Inert other tx := by
  rcases inert with recorded | duplicate
  · obtain ⟨entry, stored⟩ := Option.isSome_iff_exists.mp recorded
    left
    rw [kept entry stored]
    rfl
  · exact .inr duplicate

end

end

section

variable {db : Database} {tx : VcTx}

theorem txStatus_processOne_of_ne {id : Bytes} (different : id ≠ tx.ref.txId) :
    (processOne db tx).txStatus id = db.txStatus id := by
  rw [processOne, Database.txStatus_apply]
  apply overlay_of_not_mem
  intro mem
  exact different (statusIds_effectsOf db tx id mem)

theorem txStatus_processOne_self (fresh : ¬ Inert db tx) :
    (processOne db tx).txStatus tx.ref.txId = some (outcome db tx, tx.ref.height) := by
  rw [Inert, not_or, Bool.not_eq_true, Option.isSome_eq_false_iff,
    Option.isNone_iff_eq_none] at fresh
  obtain ⟨unrecorded, notDuplicate⟩ := fresh
  have recordable : outcome db tx ≠ .rejectedDuplicateTxId := by
    rw [outcome, unrecorded]
    cases prelim : tx.prelimInvalidTxStatus with
    | none =>
      simp only
      split <;> decide
    | some status =>
      intro same
      exact notDuplicate (prelim.trans (congrArg some same))
  have listed : (effectsOf db tx).statuses = [(tx.ref.txId, outcome db tx, tx.ref.height)] := by
    rw [effectsOf, recordedStatuses, if_neg]
    intro recorded
    rcases recorded with stored | duplicate
    · rw [unrecorded] at stored
      cases stored
    · exact recordable duplicate
  rw [processOne, Database.txStatus_apply, listed, overlay_cons, overlay_nil, Function.update_self]

theorem processOne_of_inert (inert : Inert db tx) : processOne db tx = db := by
  rw [processOne, inert.effectsOf_eq]
  rfl

theorem inert_processOne : Inert (processOne db tx) tx := by
  by_cases inert : Inert db tx
  · rw [processOne_of_inert inert]
    exact inert
  · left
    rw [txStatus_processOne_self inert]
    rfl

theorem outcome_processOne : outcome (processOne db tx) tx = outcome db tx := by
  by_cases inert : Inert db tx
  · rw [processOne_of_inert inert]
  · have stored := txStatus_processOne_self inert
    rw [outcome, stored]
    exact if_pos rfl

theorem txStatus_processSequence
    {txs : List VcTx} {id : Bytes} (absent : id ∉ txs.map fun tx => tx.ref.txId) :
    (processSequence db txs).2.txStatus id = db.txStatus id := by
  induction txs generalizing db with
  | nil => rfl
  | cons first rest ih =>
    rw [map_cons, mem_cons, not_or] at absent
    rw [processSequence]
    rw [ih absent.2, txStatus_processOne_of_ne absent.1]

variable {txs : List VcTx}
  (distinct : (txs.map fun tx => tx.ref.txId).Nodup)

include distinct

theorem inert_processSequence (mem : tx ∈ txs) : Inert (processSequence db txs).2 tx := by
  induction txs generalizing db with
  | nil => cases mem
  | cons first rest ih =>
    rw [map_cons, nodup_cons] at distinct
    rcases mem_cons.mp mem with same | later
    · subst same
      apply inert_processOne.of_kept
      intro entry stored
      rw [← stored]
      exact txStatus_processSequence distinct.1
    · exact ih distinct.2 later

theorem outcome_mem_processSequence (mem : tx ∈ txs) :
    ⟨tx.ref, outcome (processSequence db txs).2 tx⟩ ∈ (processSequence db txs).1 := by
  induction txs generalizing db with
  | nil => cases mem
  | cons first rest ih =>
    rw [map_cons, nodup_cons] at distinct
    rw [processSequence]
    rcases mem_cons.mp mem with same | later
    · subst same
      have kept : outcome (processSequence (processOne db tx) rest).2 tx = outcome db tx := by
        rw [inert_processOne.outcome_eq (txStatus_processSequence distinct.1), outcome_processOne]
      rw [kept]
      exact mem_cons_self
    · exact mem_cons_of_mem _ (ih distinct.2 later)

omit distinct in
theorem mem_of_mem_processSequence {s : TxStatus} (mem : s ∈ (processSequence db txs).1) :
    ∃ tx ∈ txs, s.ref = tx.ref := by
  induction txs generalizing db with
  | nil => cases mem
  | cons first rest ih =>
    rcases mem_cons.mp mem with same | later
    · exact ⟨first, mem_cons_self, by rw [same]⟩
    · obtain ⟨tx, inRest, sameRef⟩ := ih later
      exact ⟨tx, mem_cons_of_mem _ inRest, sameRef⟩

end

open Instances

/-- A sequence of plain transactions that can be processed one after another on
a database. -/
structure Workload (initial : Database) (sequence : List VcTx) : Prop where
  valid : initial.Valid
  distinct : (sequence.map fun tx => tx.ref.txId).Nodup
  plain : ∀ tx ∈ sequence, tx.prelimInvalidTxStatus = none → Plain tx
  exist : ExistAlong initial sequence

/-- Everything that the transaction depends on has been reported. -/
def Ready (sequence : List VcTx) (reported : List TxStatus) (tx : VcTx) : Prop :=
  ∀ earlier, Before sequence earlier tx → ¬ Independent earlier tx →
    ∃ s ∈ reported, s.ref = earlier.ref

structure ReadyBatch (sequence : List VcTx) (reported : List TxStatus) (batch : List VcTx) :
    Prop where
  admissible : Admissible batch
  members : ∀ tx ∈ batch, tx ∈ sequence
  ready : ∀ tx ∈ batch, Ready sequence reported tx

/-- The database is the result of the processed transactions, and every status
was reported as they gave it. -/
structure Ledger (initial : Database) (sequence : List VcTx) (store : Store)
    (processed : List VcTx) : Prop where
  front : Front Independent sequence processed
  result : store.db = (processSequence initial processed).2
  storable : StorableAlong initial processed
  reported : ∀ s ∈ store.reported, s ∈ (processSequence initial processed).1

section

variable {initial : Database} {sequence : List VcTx}
  (workload : Workload initial sequence)

include workload

theorem Workload.nodup : sequence.Nodup := workload.distinct.of_map _

variable {processed : List VcTx}
  (front : Front Independent sequence processed)

include front

theorem Workload.distinct_front : (processed.map fun tx => tx.ref.txId).Nodup := by
  apply front.distinct.map_on
  intro tx mem other otherMem sameId
  exact
    inj_on_of_nodup_map workload.distinct (front.members tx mem)
      (front.members other otherMem) sameId

theorem Workload.sameRun :
    SameRun initial sequence (processed ++ sequence.filter fun tx => decide (tx ∉ processed)) :=
  sameRun_of_rearranged
    ⟨workload.valid.metaTable, workload.valid.configTable⟩
    (front.rearranged workload.nodup) workload.plain workload.exist

theorem Workload.exist_front : ExistAlong initial processed :=
  ((existAlong_append _ _ _).mp ((workload.sameRun front).exist workload.exist)).1

end

theorem namespacesExist_processSequence
    {db : Database} {txs : List VcTx} {tx : VcTx} (exist : NamespacesExist db tx) :
    NamespacesExist (processSequence db txs).2 tx := by
  induction txs generalizing db with
  | nil => exact exist
  | cons first rest ih => exact ih (exist.processOne first)

theorem namespacesExist_of_processed {db : Database} {txs : List VcTx} {tx : VcTx}
    (exist : ExistAlong db txs) (mem : tx ∈ txs) :
    NamespacesExist (processSequence db txs).2 tx := by
  induction txs generalizing db with
  | nil => cases mem
  | cons first rest ih =>
    rcases mem_cons.mp mem with same | later
    · subst same
      exact namespacesExist_processSequence exist.1
    · exact ih exist.2 later

section

variable {initial : Database} {sequence : List VcTx} {store : Store}
  {processed : List VcTx} (workload : Workload initial sequence)
  (ledger : Ledger initial sequence store processed)

include workload ledger

theorem Ledger.processed_of_reported
    {tx : VcTx} (mem : tx ∈ sequence) (answered : ∃ s ∈ store.reported, s.ref = tx.ref) :
    tx ∈ processed := by
  obtain ⟨s, inReported, sameRef⟩ := answered
  obtain ⟨other, otherMem, otherRef⟩ := mem_of_mem_processSequence (ledger.reported s inReported)
  have same :=
    inj_on_of_nodup_map workload.distinct mem
      (ledger.front.members other otherMem)
      (congrArg TxRef.txId (sameRef.symm.trans otherRef))
  rw [same]
  exact otherMem

theorem Ledger.inert {tx : VcTx} (mem : tx ∈ processed) : Inert store.db tx := by
  rw [ledger.result]
  exact inert_processSequence (workload.distinct_front ledger.front) mem

theorem Ledger.outcome_mem {tx : VcTx} (mem : tx ∈ processed) :
    ⟨tx.ref, outcome store.db tx⟩ ∈ (processSequence initial processed).1 := by
  rw [ledger.result]
  exact outcome_mem_processSequence (workload.distinct_front ledger.front) mem

theorem Ledger.dependency_processed {tx earlier : VcTx} (ready : Ready sequence store.reported tx)
    (before : Before sequence earlier tx) (dependent : ¬ Independent earlier tx) :
    earlier ∈ processed :=
  ledger.processed_of_reported workload (before.subset mem_cons_self)
    (ready earlier before dependent)

theorem Ledger.valid : store.db.Valid := by
  rw [ledger.result]
  exact workload.valid.processSequence (workload.exist_front ledger.front) ledger.storable

theorem Ledger.namespacesExist
    {tx : VcTx} (mem : tx ∈ sequence) (ready : Ready sequence store.reported tx) :
    NamespacesExist store.db tx := by
  rw [ledger.result]
  by_cases isProcessed : tx ∈ processed
  · exact
      namespacesExist_of_processed (workload.exist_front ledger.front)
        isProcessed
  · have next : Front Independent sequence (processed ++ [tx]) := by
      apply ledger.front.append (nodup_singleton tx)
      · intro item inside
        rw [mem_singleton.mp inside]
        exact mem
      · intro item inside
        rw [mem_singleton.mp inside]
        exact isProcessed
      · intro earlier later before dependent inside
        rw [mem_singleton.mp inside] at before dependent
        exact ledger.dependency_processed workload ready before dependent
    exact ((existAlong_append _ _ _).mp (workload.exist_front next)).2.1

/-! ## Processing a ready batch -/

def fresh (processed batch : List VcTx) : List VcTx :=
  batch.filter fun tx => decide (tx ∉ processed)

omit workload ledger in
theorem mem_fresh {batch : List VcTx} {tx : VcTx} :
    tx ∈ fresh processed batch ↔ tx ∈ batch ∧ tx ∉ processed := by
  rw [fresh, mem_filter, decide_eq_true_iff]

variable {batch : List VcTx}
  (readyBatch : ReadyBatch sequence store.reported batch)

include readyBatch

theorem Ledger.dependent_processed {first second : VcTx} (firstMem : first ∈ batch)
    (secondMem : second ∈ batch) (different : first ≠ second)
    (dependent : ¬ Independent first second) :
    first ∈ processed ∨ second ∈ processed := by
  rcases before_or_after (readyBatch.members first firstMem)
      (readyBatch.members second secondMem) different with before | after
  · exact
      .inl
        (ledger.dependency_processed workload (readyBatch.ready second secondMem) before dependent)
  · have reversed : ¬ Independent second first := fun independent => dependent independent.symm
    exact
      .inr (ledger.dependency_processed workload (readyBatch.ready first firstMem) after reversed)

theorem Ledger.fresh_independent : (fresh processed batch).Pairwise Independent := by
  have distinct : (fresh processed batch).Nodup :=
    (readyBatch.admissible.distinct.of_map _).filter _
  apply distinct.imp_of_mem
  intro first second firstMem secondMem different
  obtain ⟨inBatch, firstFresh⟩ := mem_fresh.mp firstMem
  obtain ⟨otherInBatch, secondFresh⟩ := mem_fresh.mp secondMem
  by_contra dependent
  rcases ledger.dependent_processed workload readyBatch inBatch otherInBatch
      different dependent with isProcessed | isProcessed
  · exact firstFresh isProcessed
  · exact secondFresh isProcessed

theorem Ledger.front_fresh : Front Independent sequence (processed ++ fresh processed batch) := by
  apply ledger.front.append
  · exact (readyBatch.admissible.distinct.of_map _).filter _
  · intro tx mem
    exact readyBatch.members tx (mem_fresh.mp mem).1
  · intro tx mem
    exact (mem_fresh.mp mem).2
  · intro earlier later before dependent mem
    exact
      ledger.dependency_processed workload
        (readyBatch.ready later (mem_fresh.mp mem).1) before dependent

omit readyBatch in
theorem Ledger.concat_fresh (txs : List VcTx) :
    Effects.concat (txs.map (effectsOf store.db)) =
      Effects.concat ((fresh processed txs).map (effectsOf store.db)) := by
  induction txs with
  | nil => rfl
  | cons tx rest ih =>
    by_cases isProcessed : tx ∈ processed
    · have skipped : fresh processed (tx :: rest) = fresh processed rest :=
        filter_cons_of_neg (by simpa using isProcessed)
      rw [skipped, ← ih, map_cons, (ledger.inert workload isProcessed).effectsOf_eq]
      rfl
    · have taken : fresh processed (tx :: rest) = tx :: fresh processed rest :=
        filter_cons_of_pos (by simpa using isProcessed)
      have both := Effects.mk.inj ih
      rw [taken, map_cons, map_cons]
      simp only [Effects.concat, flatMap_cons, both]

theorem Ledger.processSequence_fresh :
    processSequence store.db (fresh processed batch) =
      ((fresh processed batch).map fun tx => ⟨tx.ref, outcome store.db tx⟩,
        store.db.apply (Effects.concat (batch.map (effectsOf store.db)))) := by
  rw [ledger.concat_fresh workload batch]
  apply processSequence_of_independent (ledger.fresh_independent workload readyBatch)
  intro tx mem
  have inBatch := (mem_fresh.mp mem).1
  exact
    (ledger.namespacesExist workload (readyBatch.members tx inBatch)
      (readyBatch.ready tx inBatch)).tablesExist

theorem Ledger.extend (storable : ∀ tx ∈ batch, Storable store.db tx) :
    Ledger initial sequence
      { store with
        db := store.db.apply (Effects.concat (batch.map (effectsOf store.db))) }
      (processed ++ fresh processed batch) := by
  have next := ledger.processSequence_fresh workload readyBatch
  constructor
  · exact ledger.front_fresh workload readyBatch
  · rw [processSequence_append, ← ledger.result, next]
  · rw [storableAlong_append, ← ledger.result]
    refine ⟨ledger.storable, ?_⟩
    rw [storableAlong_iff (ledger.fresh_independent workload readyBatch)]
    intro tx mem
    exact storable tx (mem_fresh.mp mem).1
  · intro s mem
    rw [processSequence_append]
    exact mem_append_left _ (ledger.reported s mem)

theorem Ledger.report (inert : ∀ tx ∈ batch, Inert store.db tx) :
    Ledger initial sequence
      { store with
        reported := store.reported ++ batch.map fun tx => ⟨tx.ref, outcome store.db tx⟩ }
      (processed ++ fresh processed batch) := by
  have unchanged : store.db.apply (Effects.concat (batch.map (effectsOf store.db))) = store.db := by
    have nothing : Effects.concat (batch.map (effectsOf store.db)) = ⟨[], [], []⟩ := by
      rw [map_congr_left fun tx mem => (inert tx mem).effectsOf_eq]
      simp [Effects.concat]
    rw [nothing]
    rfl
  have extended := ledger.extend workload readyBatch fun tx mem => (inert tx mem).storable
  rw [unchanged] at extended
  refine ⟨extended.front, extended.result, extended.storable, fun s mem => ?_⟩
  rcases mem_append.mp mem with before | now
  · exact extended.reported s before
  · obtain ⟨tx, inBatch, same⟩ := mem_map.mp now
    rw [← same]
    have isProcessed : tx ∈ processed ++ fresh processed batch := by
      by_cases already : tx ∈ processed
      · exact mem_append_left _ already
      · exact mem_append_right _ (mem_fresh.mpr ⟨inBatch, already⟩)
    exact extended.outcome_mem workload isProcessed

end

/-! ## What a batch leaves alone -/

/-- The database and the reports advance without disturbing the unrecorded
transactions that are ready. -/
structure Advances (sequence : List VcTx) (before after : Store) : Prop where
  recorded : ∀ id entry, before.db.txStatus id = some entry → after.db.txStatus id = some entry
  agree :
    ∀ tx ∈ sequence, Ready sequence before.reported tx →
      after.db.txStatus tx.ref.txId = none → AgreeFor after.db before.db tx
  reported : ∀ s ∈ before.reported, s ∈ after.reported

theorem Ready.mono {sequence : List VcTx} {reported more : List TxStatus} {tx : VcTx}
    (ready : Ready sequence reported tx) (kept : ∀ s ∈ reported, s ∈ more) :
    Ready sequence more tx := by
  intro earlier before dependent
  obtain ⟨s, mem, sameRef⟩ := ready earlier before dependent
  exact ⟨s, kept s mem, sameRef⟩

theorem ReadyBatch.mono {sequence : List VcTx} {reported more : List TxStatus}
    {batch : List VcTx} (readyBatch : ReadyBatch sequence reported batch)
    (kept : ∀ s ∈ reported, s ∈ more) :
    ReadyBatch sequence more batch where
  admissible := readyBatch.admissible
  members := readyBatch.members
  ready := fun tx mem => (readyBatch.ready tx mem).mono kept

section

variable {initial : Database} {sequence : List VcTx} {store : Store}
  {processed : List VcTx} (workload : Workload initial sequence)
  (ledger : Ledger initial sequence store processed)

theorem Advances.of_same_db (store : Store) (more : List TxStatus) :
    Advances sequence store { store with reported := store.reported ++ more } where
  recorded := fun _ _ stored => stored
  agree := fun _ _ _ _ => ⟨rfl, fun _ _ => rfl, fun _ _ => rfl⟩
  reported := fun _ mem => mem_append_left _ mem

theorem Advances.refl (store : Store) : Advances sequence store store where
  recorded := fun _ _ stored => stored
  agree := fun _ _ _ _ => ⟨rfl, fun _ _ => rfl, fun _ _ => rfl⟩
  reported := fun _ mem => mem

variable {batch : List VcTx}
  (readyBatch : ReadyBatch sequence store.reported batch)

theorem txStatus_batch {db : Database} {id : Bytes} {entry : Status × Height}
    (stored : db.txStatus id = some entry) :
    (db.apply (Effects.concat (batch.map (effectsOf db)))).txStatus id = some entry := by
  rw [← stored, Database.txStatus_apply]
  apply overlay_of_not_mem
  intro recorded
  obtain ⟨row, rowMem, sameId⟩ := mem_map.mp recorded
  rw [concat_effectsOf] at rowMem
  obtain ⟨tx, _, inside⟩ := mem_flatMap.mp rowMem
  have ownId : row.1 = tx.ref.txId := statusIds_effectsOf db tx _ (mem_map_of_mem inside)
  rw [recordedStatuses, if_pos] at inside
  · cases inside
  · left
    rw [← ownId, sameId, stored]
    rfl

theorem txStatus_batch_of_mem {db : Database} (admissible : Admissible batch) {tx : VcTx}
    (mem : tx ∈ batch) (active : ¬ Inert db tx) :
    (db.apply (Effects.concat (batch.map (effectsOf db)))).txStatus tx.ref.txId =
      some (outcome db tx, tx.ref.height) := by
  have alone := txStatus_processOne_self active
  rw [Database.txStatus_apply, concat_effectsOf]
  have listed :
      (tx.ref.txId, outcome db tx, tx.ref.height) ∈ batch.flatMap (recordedStatuses db) := by
    refine mem_flatMap.mpr ⟨tx, mem, ?_⟩
    rw [processOne, Database.txStatus_apply] at alone
    rcases overlay_eq_some alone with inside | stored
    · exact inside
    · exact absurd (.inl (by rw [stored]; rfl)) active
  have distinct := @statusIds_concat_nodup db batch admissible.distinct
  rw [concat_effectsOf] at distinct
  exact overlay_of_mem distinct listed

include workload ledger readyBatch

/-- A transaction that commits with the batch is independent of every ready
transaction that stays unrecorded, unless that one accesses nothing. -/
theorem Ledger.independent_of_commits
    {tx writer : VcTx} (mem : tx ∈ sequence) (ready : Ready sequence store.reported tx)
    (unrecorded :
      (store.db.apply (Effects.concat (batch.map (effectsOf store.db)))).txStatus
        tx.ref.txId = none) (inBatch : writer ∈ batch) (commit : commits store.db writer = true)
    (unspoiled : tx.prelimInvalidTxStatus = none) :
    Independent writer tx := by
  have active := not_inert_of_commits commit
  have different : writer ≠ tx := by
    intro same
    subst same
    rw [txStatus_batch_of_mem readyBatch.admissible inBatch active] at unrecorded
    cases unrecorded
  by_contra dependent
  rcases before_or_after (readyBatch.members writer inBatch) mem different with before | after
  · exact
      active (ledger.inert workload (ledger.dependency_processed workload ready before dependent))
  · have reversed : ¬ Independent tx writer := fun independent => dependent independent.symm
    have inert :=
      ledger.inert workload
        (ledger.dependency_processed workload (readyBatch.ready writer inBatch) after reversed)
    rcases inert with recorded | duplicate
    · obtain ⟨entry, stored⟩ := Option.isSome_iff_exists.mp recorded
      rw [txStatus_batch stored] at unrecorded
      cases unrecorded
    · rw [unspoiled] at duplicate
      cases duplicate

theorem Ledger.rowAt_batch
    {tx : VcTx} (mem : tx ∈ sequence) (ready : Ready sequence store.reported tx)
    (unrecorded :
      (store.db.apply (Effects.concat (batch.map (effectsOf store.db)))).txStatus
        tx.ref.txId = none) {pair : Bytes × Bytes} (unspoiled : tx.prelimInvalidTxStatus = none)
    (accessed : pair ∈ readKeys tx ∨ pair ∈ writeKeys tx) :
    (store.db.apply (Effects.concat (batch.map (effectsOf store.db)))).rowAt pair =
      store.db.rowAt pair := by
  apply Database.rowAt_apply_of_not_mem
  intro written
  obtain ⟨write, writeMem, samePair⟩ := mem_map.mp written
  rw [concat_effectsOf] at writeMem
  obtain ⟨writer, inBatch, inside⟩ := mem_flatMap.mp writeMem
  split at inside
  · rename_i commit
    have independent :=
      ledger.independent_of_commits workload readyBatch mem ready unrecorded
        inBatch commit unspoiled
    have writes : pair ∈ writeKeys writer := by
      apply rowKeys_effectsOf store.db writer
      refine mem_map.mpr ⟨write, ?_, samePair⟩
      simp only [effectsOf, if_pos commit]
      exact inside
    rcases accessed with read | alsoWritten
    · exact independent.readBySecond pair writes read
    · exact independent.written pair writes alsoWritten
  · cases inside

theorem Ledger.advances :
    Advances sequence store
      { store with
        db := store.db.apply (Effects.concat (batch.map (effectsOf store.db))) } where
  recorded := fun _ _ stored => txStatus_batch stored
  agree := by
    intro tx mem ready unrecorded
    have before : store.db.txStatus tx.ref.txId = none := by
      cases stored : store.db.txStatus tx.ref.txId with
      | none => rfl
      | some entry =>
        rw [txStatus_batch stored] at unrecorded
        cases unrecorded
    by_cases unspoiled : tx.prelimInvalidTxStatus = none
    · refine ⟨unrecorded.trans before.symm, fun pair read => ?_, fun pair written => ?_⟩
      · exact ledger.rowAt_batch workload readyBatch mem ready unrecorded unspoiled (.inl read)
      · exact ledger.rowAt_batch workload readyBatch mem ready unrecorded unspoiled (.inr written)
    · obtain ⟨noReads, noWrites⟩ := keys_of_rejected unspoiled
      refine ⟨unrecorded.trans before.symm, fun pair read => ?_, fun pair written => ?_⟩
      · rw [noReads] at read
        cases read
      · rw [noWrites] at written
        cases written
  reported := fun _ mem => mem

end

end FabricXCommitter.VC
