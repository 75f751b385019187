import FabricXCommitter.VC.CommitAttempt
import FabricXCommitter.VC.Preparation

/-!
# A batch with some transactions invalidated

Validator and committer only remove the writes of a transaction and set its status.
-/

namespace FabricXCommitter.VC

open Library List

abbrev Invalidated := Bytes → Option Status

def TransactionToWrites.without (writes : TransactionToWrites) (dead : Invalidated) :
    TransactionToWrites :=
  fun id => if (dead id).isSome then [] else writes id

def masked (base : ValidatedTransactions) (dead : Invalidated) : ValidatedTransactions :=
  { base with
    validTxNonBlindWrites := base.validTxNonBlindWrites.without dead
    validTxBlindWrites := base.validTxBlindWrites.without dead
    newWrites := base.newWrites.without dead
    checkpoint := base.checkpoint.filter fun cp => (dead cp.txID).isNone
    invalidTxStatus := fun id => (dead id).or (base.invalidTxStatus id) }

def kill (txIDs : List Bytes) (status : Status) (dead : Invalidated) : Invalidated :=
  fun id => if id ∈ txIDs then some status else dead id

theorem kill_of_mem {txIDs : List Bytes} {id : Bytes} (mem : id ∈ txIDs) (status : Status)
    (dead : Invalidated) :
    kill txIDs status dead id = some status :=
  if_pos mem

theorem kill_of_not_mem {txIDs : List Bytes} {id : Bytes} (outside : id ∉ txIDs) (status : Status)
    (dead : Invalidated) :
    kill txIDs status dead id = dead id :=
  if_neg outside

theorem masked_none (base : ValidatedTransactions) : masked base (fun _ => none) = base := by
  have same : ∀ writes : TransactionToWrites,
      writes.without (fun _ => none) = writes := fun _ => rfl
  have checkpoint :
      (base.checkpoint.filter fun _ => (none : Option Status).isNone) = base.checkpoint := by
    cases base.checkpoint <;> rfl
  rw [masked, same, same, same, checkpoint]
  rfl

theorem updateInvalidTxs_masked
    (base : ValidatedTransactions) (dead : Invalidated) (txIDs : List Bytes) (status : Status) :
    updateInvalidTxs (masked base dead) txIDs status = masked base (kill txIDs status dead) := by
  have writes : ∀ writes : TransactionToWrites,
      (writes.without dead).deleteAll txIDs = writes.without (kill txIDs status dead) := by
    intro writes
    funext id
    by_cases mem : id ∈ txIDs
    · simp [TransactionToWrites.deleteAll, TransactionToWrites.without, kill, mem]
    · simp [TransactionToWrites.deleteAll, TransactionToWrites.without, kill, mem]
  have checkpoint :
      ((base.checkpoint.filter fun cp => (dead cp.txID).isNone).filter fun cp => cp.txID ∉ txIDs) =
        base.checkpoint.filter fun cp => (kill txIDs status dead cp.txID).isNone := by
    rw [Option.filter_filter]
    congr 1
    funext cp
    by_cases mem : cp.txID ∈ txIDs
    · simp [kill, mem]
    · simp [kill, mem]
  have statuses :
      (fun id =>
          if id ∈ txIDs then
            some status
          else
            (dead id).or (base.invalidTxStatus id)) =
        fun id => (kill txIDs status dead id).or (base.invalidTxStatus id) := by
    funext id
    by_cases mem : id ∈ txIDs
    · simp [kill, mem]
    · simp [kill, mem]
  simp only [updateInvalidTxs, masked, writes, checkpoint, statuses]

theorem invalidateTxsOnReadConflicts_masked
    {base : ValidatedTransactions} (dead : Invalidated) {conflicts : List (Bytes × Read)}
    (readers : ∀ conflict ∈ conflicts, base.readToTxIDs (newCmpRead conflict.1 conflict.2) ≠ []) :
    invalidateTxsOnReadConflicts (masked base dead) conflicts =
      some
        (masked base
          (kill
            (conflicts.flatMap fun conflict => base.readToTxIDs (newCmpRead conflict.1 conflict.2))
            .abortedMvccConflict dead)) := by
  induction conflicts generalizing dead with
  | nil => rfl
  | cons conflict rest ih =>
    have found : (base.readToTxIDs (newCmpRead conflict.1 conflict.2)).isEmpty = false :=
      isEmpty_eq_false_iff.mpr (readers conflict mem_cons_self)
    have step :=
      ih
        (kill (base.readToTxIDs (newCmpRead conflict.1 conflict.2)) .abortedMvccConflict dead)
        fun later mem => readers later (mem_cons_of_mem _ mem)
    rw [invalidateTxsOnReadConflicts] at step ⊢
    rw [foldlM_cons]
    simp only [masked, found, Bool.false_eq_true, if_false]
    have updated :=
      updateInvalidTxs_masked base dead
        (base.readToTxIDs (newCmpRead conflict.1 conflict.2))
        .abortedMvccConflict
    rw [masked] at updated
    rw [updated]
    refine step.trans ?_
    congr 2
    funext id
    by_cases inRest :
        id ∈ rest.flatMap fun conflict => base.readToTxIDs (newCmpRead conflict.1 conflict.2)
    · rw [kill_of_mem inRest, kill_of_mem]
      exact mem_append_right _ inRest
    · rw [kill_of_not_mem inRest, kill, kill, flatMap_cons]
      simp only [mem_append, inRest, or_false]

theorem categorizeBlindWrites_masked
    (state : Bytes → Bytes → Option UInt64) (base : ValidatedTransactions) (dead : Invalidated) :
    categorizeBlindWrites state (masked base dead) =
      masked (categorizeBlindWrites state base) dead := by
  have split : ∀ (writes : TransactionToWrites) (select : WriteEntry → Option WriteEntry),
      (fun id =>
          writes.without dead id ++ (base.validTxBlindWrites.without dead id).filterMap select) =
        TransactionToWrites.without
          (fun id => writes id ++ (base.validTxBlindWrites id).filterMap select)
          dead := by
    intro writes select
    funext id
    by_cases invalidated : (dead id).isSome = true
    · simp [TransactionToWrites.without, invalidated]
    · simp [TransactionToWrites.without, invalidated]
  have nothing : TransactionToWrites.without (fun _ => []) dead = fun _ => [] := by
    funext id
    exact ite_self _
  simp only [categorizeBlindWrites, masked, split, nothing]

/-- The updates of a transaction once its blind writes are resolved. -/
def txUpdates (state : Bytes → Bytes → Option UInt64) (tx : VcTx) : List WriteEntry :=
  (preparedNamespaces tx).flatMap updateEntries ++
    ((preparedNamespaces tx).flatMap blindEntries).filterMap fun entry =>
      (state entry.nsId entry.key).map fun version => { entry with version := version + 1 }

def txNews (state : Bytes → Bytes → Option UInt64) (tx : VcTx) : List WriteEntry :=
  (preparedNamespaces tx).flatMap newEntries ++
    ((preparedNamespaces tx).flatMap blindEntries).filterMap fun entry =>
      if (state entry.nsId entry.key).isSome then
        none
      else
        some { entry with version := 0 }

/-- The transaction is still to be committed. -/
def live (dead : Invalidated) (tx : VcTx) : Bool :=
  (dead tx.ref.txId).isNone && tx.prelimInvalidTxStatus.isNone

/-- The status that the batch gives a transaction. -/
def statusIn (dead : Invalidated) (tx : VcTx) : Status :=
  ((dead tx.ref.txId).or tx.prelimInvalidTxStatus).getD .committed

def view (state : Bytes → Bytes → Option UInt64) (batch : List VcTx)
    (dead : Invalidated) : ValidatedTransactions :=
  masked (categorizeBlindWrites state (.ofPrepared (preparedForm batch))) dead

section

variable {batch : List VcTx}
  (distinct : (batch.map fun tx => tx.ref.txId).Nodup)
  {tx : VcTx} (mem : tx ∈ batch)

include distinct mem

theorem txOfId_of_mem : txOfId batch tx.ref.txId = some tx := by
  induction batch with
  | nil => cases mem
  | cons first rest ih =>
    obtain ⟨headFresh, restDistinct⟩ := nodup_cons.mp distinct
    rw [txOfId, find?_cons]
    rcases mem_cons.mp mem with equal | later
    · subst equal
      simp
    · have different : (first.ref.txId == tx.ref.txId) = false := by
        rw [beq_eq_false_iff_ne]
        intro same
        exact headFresh (mem_map.mpr ⟨tx, later, same.symm⟩)
      rw [different]
      exact ih restDistinct later

theorem entriesById_of_mem (entries : TxNamespace → List WriteEntry) :
    entriesById entries batch tx.ref.txId = (preparedNamespaces tx).flatMap entries := by
  induction batch with
  | nil => cases mem
  | cons first rest ih =>
    obtain ⟨headFresh, restDistinct⟩ := nodup_cons.mp distinct
    rw [entriesById, flatMap_cons]
    rcases mem_cons.mp mem with equal | later
    · subst equal
      have others :
          (rest.flatMap fun other =>
            if other.ref.txId = tx.ref.txId then
              (preparedNamespaces other).flatMap entries
            else
              []) = [] := by
        rw [flatMap_eq_nil_iff]
        intro other inRest
        rw [if_neg]
        intro same
        exact headFresh (mem_map.mpr ⟨other, inRest, same⟩)
      rw [if_pos rfl, others, append_nil]
    · have different : first.ref.txId ≠ tx.ref.txId := by
        intro same
        exact headFresh (mem_map.mpr ⟨tx, later, same.symm⟩)
      rw [if_neg different, nil_append]
      exact ih restDistinct later

end

section

variable {batch : List VcTx} (state : Bytes → Bytes → Option UInt64)
  (dead : Invalidated)

theorem groupWrites_without {writes : TransactionToWrites} {entries : VcTx → List WriteEntry}
    (prepared : ∀ tx ∈ batch, writes tx.ref.txId = entries tx)
    (nothing : ∀ tx ∈ batch, tx.prelimInvalidTxStatus.isNone = false → entries tx = []) :
    groupWrites (batch.map fun tx => tx.ref.txId) (writes.without dead) =
      batch.flatMap fun tx => if live dead tx then entries tx else [] := by
  rw [groupWrites, flatMap_map]
  apply flatMap_congr
  intro tx mem
  rw [TransactionToWrites.without, prepared tx mem, live]
  cases invalidated : dead tx.ref.txId with
  | some status => simp
  | none =>
    cases valid : tx.prelimInvalidTxStatus.isNone with
    | false => simp [nothing tx mem valid]
    | true => simp

section

variable (distinct : (batch.map fun tx => tx.ref.txId).Nodup)

include distinct

theorem txIDToHeight_view {tx : VcTx} (mem : tx ∈ batch) :
    (view state batch dead).txIDToHeight tx.ref.txId = some tx.ref.height := by
  simp [view, masked, categorizeBlindWrites, ValidatedTransactions.ofPrepared, preparedForm,
    txOfId_of_mem distinct mem]

theorem updateWrites_view :
    (statesOf (view state batch dead)).updateWrites =
      batch.flatMap fun tx =>
        if live dead tx then txUpdates state tx else [] := by
  apply groupWrites_without
  · intro tx mem
    simp only [categorizeBlindWrites, ValidatedTransactions.ofPrepared,
      preparedForm, entriesById_of_mem distinct mem]
    rfl
  · intro tx _ invalid
    rw [txUpdates, preparedNamespaces_of_invalid invalid]
    rfl

theorem newWrites_view :
    (statesOf (view state batch dead)).newWrites =
      batch.flatMap fun tx =>
        if live dead tx then txNews state tx else [] := by
  apply groupWrites_without
  · intro tx mem
    simp only [categorizeBlindWrites, ValidatedTransactions.ofPrepared,
      preparedForm, entriesById_of_mem distinct mem]
    rfl
  · intro tx _ invalid
    rw [txNews, preparedNamespaces_of_invalid invalid]
    rfl

end

theorem entries_of_txWrites
    {tx : VcTx} (valid : tx.prelimInvalidTxStatus = none) (writes : txWrites tx ≠ []) :
    txUpdates state tx ≠ [] ∨ txNews state tx ≠ [] := by
  have all := preparedNamespaces_of_valid valid
  rw [txWrites, all] at writes
  obtain ⟨write, mem⟩ := exists_mem_of_ne_nil _ writes
  obtain ⟨ns, nsMem, inside⟩ := mem_flatMap.mp mem
  rw [txUpdates, txNews, all]
  rcases mem_append.mp inside with fromReadWrite | fromBlind
  · obtain ⟨rw, rwMem, _⟩ := mem_map.mp fromReadWrite
    cases version : rw.version with
    | some number =>
      left
      have updated :
          (⟨ns.nsId, rw.key, rw.value, number + 1⟩ : WriteEntry) ∈
            tx.namespaces.flatMap updateEntries := by
        refine mem_flatMap.mpr ⟨ns, nsMem, ?_⟩
        exact mem_filterMap.mpr ⟨rw, rwMem, by rw [version]; rfl⟩
      exact ne_nil_of_mem (mem_append_left _ updated)
    | none =>
      right
      have inserted :
          (⟨ns.nsId, rw.key, rw.value, 0⟩ : WriteEntry) ∈ tx.namespaces.flatMap newEntries := by
        refine mem_flatMap.mpr ⟨ns, nsMem, ?_⟩
        exact mem_filterMap.mpr ⟨rw, rwMem, by rw [version]⟩
      exact ne_nil_of_mem (mem_append_left _ inserted)
  · obtain ⟨w, wMem, _⟩ := mem_map.mp fromBlind
    have blind : (⟨ns.nsId, w.key, w.value, 0⟩ : WriteEntry) ∈ tx.namespaces.flatMap blindEntries :=
      mem_flatMap.mpr ⟨ns, nsMem, mem_map_of_mem wMem⟩
    cases queried : state ns.nsId w.key with
    | some version =>
      left
      apply ne_nil_of_mem
      apply mem_append_right
      exact mem_filterMap.mpr ⟨_, blind, by rw [queried]; rfl⟩
    | none =>
      right
      apply ne_nil_of_mem
      apply mem_append_right
      exact mem_filterMap.mpr ⟨_, blind, by rw [queried]; rfl⟩

section

variable (distinct : (batch.map fun tx => tx.ref.txId).Nodup)
  (writes : ∀ tx ∈ batch, tx.prelimInvalidTxStatus = none → txWrites tx ≠ [])

include distinct writes

theorem reportedStatus_view {tx : VcTx} (mem : tx ∈ batch) :
    reportedStatus (view state batch dead) tx.ref.txId = some (statusIn dead tx) := by
  have invalid :
      (view state batch dead).invalidTxStatus tx.ref.txId =
        (dead tx.ref.txId).or tx.prelimInvalidTxStatus := by
    simp [view, masked, categorizeBlindWrites,
      ValidatedTransactions.ofPrepared, preparedForm,
      txOfId_of_mem distinct mem]
  rw [reportedStatus, invalid, statusIn]
  cases status : (dead tx.ref.txId).or tx.prelimInvalidTxStatus with
  | some given => rfl
  | none =>
    obtain ⟨alive, valid⟩ := Option.or_eq_none_iff.mp status
    have updates :
        (view state batch dead).validTxNonBlindWrites tx.ref.txId = txUpdates state tx := by
      simp [view, masked, TransactionToWrites.without, alive,
        categorizeBlindWrites, ValidatedTransactions.ofPrepared,
        preparedForm, entriesById_of_mem distinct mem, txUpdates]
    have news : (view state batch dead).newWrites tx.ref.txId = txNews state tx := by
      simp [view, masked, TransactionToWrites.without, alive,
        categorizeBlindWrites, ValidatedTransactions.ofPrepared,
        preparedForm, entriesById_of_mem distinct mem, txNews]
    have someEntry := entries_of_txWrites state valid (writes tx mem valid)
    simp only [updates, news]
    rw [if_neg]
    · rfl
    · rw [Bool.and_eq_true, Bool.and_eq_true]
      intro allEmpty
      rcases someEntry with updated | inserted
      · exact updated (List.isEmpty_iff.mp allEmpty.1.1)
      · exact inserted (List.isEmpty_iff.mp allEmpty.2)

theorem prepareStatusForCommit_view :
    prepareStatusForCommit (view state batch dead) =
      batch.map fun tx => ⟨tx.ref, statusIn dead tx⟩ := by
  have ids : (view state batch dead).txIDs = batch.map fun tx => tx.ref.txId := rfl
  rw [prepareStatusForCommit, ids, filterMap_map, ← filterMap_eq_map]
  apply filterMap_congr
  intro tx mem
  simp only [Function.comp_apply, reportedStatus_view state dead distinct writes mem,
    txIDToHeight_view state dead distinct mem]
  rfl

end

end

end FabricXCommitter.VC
