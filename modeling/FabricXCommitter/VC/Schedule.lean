import FabricXCommitter.Library.Rearrangement
import FabricXCommitter.VC.BatchEquivalence

/-!
# Schedules of batches
-/

namespace FabricXCommitter.VC

open Library DependencyGraph List

/-- The namespaces of each transaction exist when it is processed. -/
def ExistAlong (db : Database) : List VcTx → Prop
  | [] => True
  | tx :: rest => NamespacesExist db tx ∧ ExistAlong (processOne db tx) rest

/-- The rows of each transaction can be stored when it is processed. -/
def StorableAlong (db : Database) : List VcTx → Prop
  | [] => True
  | tx :: rest => Storable db tx ∧ StorableAlong (processOne db tx) rest

instance decidableStorableAlong :
    ∀ (db : Database) (txs : List VcTx), Decidable (StorableAlong db txs)
  | _, [] => isTrue trivial
  | db, tx :: rest =>
    have := decidableStorableAlong (processOne db tx) rest
    inferInstanceAs (Decidable (Storable db tx ∧ StorableAlong (processOne db tx) rest))

theorem processSequence_append (db : Database) (first second : List VcTx) :
    processSequence db (first ++ second) =
      ((processSequence db first).1 ++ (processSequence (processSequence db first).2 second).1,
        (processSequence (processSequence db first).2 second).2) := by
  induction first generalizing db with
  | nil => rfl
  | cons tx rest ih =>
    rw [cons_append, processSequence, ih]
    rfl

theorem storableAlong_append (db : Database) (first second : List VcTx) :
    StorableAlong db (first ++ second) ↔
      StorableAlong db first ∧ StorableAlong (processSequence db first).2 second := by
  induction first generalizing db with
  | nil => exact (true_and _).symm.to_iff
  | cons tx rest ih =>
    rw [cons_append, StorableAlong, ih, StorableAlong, and_assoc]
    rfl

theorem existAlong_append (db : Database) (first second : List VcTx) :
    ExistAlong db (first ++ second) ↔
      ExistAlong db first ∧ ExistAlong (processSequence db first).2 second := by
  induction first generalizing db with
  | nil => exact (true_and _).symm.to_iff
  | cons tx rest ih =>
    rw [cons_append, ExistAlong, ih, ExistAlong, and_assoc]
    rfl

/-- The system tables that version reads look up. -/
structure SystemTables (db : Database) : Prop where
  metaTable : db.hasTable metaNamespaceID = true
  configTable : db.hasTable configNamespaceID = true

theorem hasTable_processOne
    {db : Database} {nsId : Bytes} (tx : VcTx) (tableExists : db.hasTable nsId = true) :
    (processOne db tx).hasTable nsId = true := by
  rw [processOne, Database.hasTable_apply, tableExists, Bool.or_true]

theorem SystemTables.processOne {db : Database} (system : SystemTables db) (tx : VcTx) :
    SystemTables (VC.processOne db tx) where
  metaTable := hasTable_processOne tx system.metaTable
  configTable := hasTable_processOne tx system.configTable

theorem NamespacesExist.processOne
    {db : Database} {tx : VcTx} (exist : NamespacesExist db tx) (first : VcTx) :
    NamespacesExist (VC.processOne db first) tx :=
  fun ns mem => hasTable_processOne first (exist ns mem)

theorem mem_writeKeys_of_created
    {tx : VcTx} (unspoiled : tx.prelimInvalidTxStatus = none) {nsId : Bytes}
    (created : nsId ∈ createdNamespaces tx) :
    (metaNamespaceID, nsId) ∈ writeKeys tx := by
  obtain ⟨ns, nsMem, inside⟩ := mem_flatMap.mp created
  split at inside
  · rename_i isMeta
    obtain ⟨rw, rwMem, eq⟩ := mem_map.mp inside
    obtain ⟨listed, noVersion⟩ := mem_filter.mp rwMem
    have written :=
      mem_writeKeys_of_expectedAbsent unspoiled
        (mem_txExpectedAbsent nsMem listed (Option.isNone_iff_eq_none.mp noVersion))
    rw [← eq, ← isMeta]
    exact written
  · cases inside

theorem mem_readKeys_of_namespace
    {tx : VcTx} (plain : Plain tx) {ns : TxNamespace} (mem : ns ∈ preparedNamespaces tx)
    (unspoiled : tx.prelimInvalidTxStatus = none) (notMeta : ns.nsId ≠ metaNamespaceID)
    (notConfig : ns.nsId ≠ configNamespaceID) :
    (metaNamespaceID, ns.nsId) ∈ readKeys tx := by
  have listed := mem
  rw [preparedNamespaces_of_valid unspoiled] at listed
  have notCheckpoint := (plain.systemFree ns listed).2
  have read : (metaNamespaceID, (⟨ns.nsId, some ns.nsVersion⟩ : Read)) ∈ txReads tx := by
    refine mem_flatMap.mpr ⟨ns, mem, ?_⟩
    apply mem_append_right
    apply mem_append_right
    rw [Option.mem_toList, versionRead, if_neg notMeta,
      if_neg (not_or.mpr ⟨notConfig, notCheckpoint⟩)]
  exact mem_map_of_mem (f := fun entry : Bytes × Read => (entry.1, entry.2.key)) read

theorem valid_of_mem_preparedNamespaces
    {tx : VcTx} {ns : TxNamespace} (mem : ns ∈ preparedNamespaces tx) :
    tx.prelimInvalidTxStatus = none := by
  rw [preparedNamespaces] at mem
  split at mem
  · rename_i valid
    exact Option.isNone_iff_eq_none.mp valid
  · cases mem

theorem NamespacesExist.of_processOne {db : Database} {first tx : VcTx} (system : SystemTables db)
    (independent : Independent first tx) (plain : tx.prelimInvalidTxStatus = none → Plain tx)
    (exist : NamespacesExist (VC.processOne db first) tx) :
    NamespacesExist db tx := by
  intro ns mem
  have unspoiled := valid_of_mem_preparedNamespaces mem
  by_cases isMeta : ns.nsId = metaNamespaceID
  · rw [isMeta]
    exact system.metaTable
  · by_cases isConfig : ns.nsId = configNamespaceID
    · rw [isConfig]
      exact system.configTable
    · have read := mem_readKeys_of_namespace (plain unspoiled) mem unspoiled isMeta isConfig
      have afterwards := exist ns mem
      rw [VC.processOne, Database.hasTable_apply, Bool.or_eq_true, decide_eq_true_iff] at afterwards
      rcases afterwards with created | before
      · exfalso
        rw [effectsOf] at created
        split at created
        · rename_i commit
          exact
            independent.readBySecond _
              (mem_writeKeys_of_created (commits_iff.mp commit).2.1 created)
              read
        · cases created
      · exact before

theorem AgreeFor.storable_iff {db other : Database} {tx : VcTx} (agree : AgreeFor db other tx) :
    Storable db tx ↔ Storable other tx := by
  rw [Storable, Storable, agree.effectsOf_eq]

theorem processOne_comm
    {db : Database} {first second : VcTx} (independent : Independent first second)
    (firstPlain : first.prelimInvalidTxStatus = none → Plain first)
    (secondPlain : second.prelimInvalidTxStatus = none → Plain second)
    (firstExists : NamespacesExist db first) (secondExists : NamespacesExist db second) :
    processOne (processOne db first) second = processOne (processOne db second) first := by
  have exist : ∀ tx ∈ [first, second], NamespacesExist db tx := by
    intro tx mem
    rcases mem_pair.mp mem with same | same
    · rw [same]
      exact firstExists
    · rw [same]
      exact secondExists
  have admissible : Admissible [first, second] :=
    { distinct := by
        simpa using independent.ids
      plain := by
        intro tx mem
        rcases mem_pair.mp mem with same | same
        · rw [same]
          exact firstPlain
        · rw [same]
          exact secondPlain }
  have pairwise : [first, second].Pairwise Independent := pairwise_pair.mpr independent
  have reversed : [second, first].Pairwise Independent := pairwise_pair.mpr independent.symm
  have forward := processSequence_of_independent pairwise fun tx mem => (exist tx mem).tablesExist
  have backward :=
    processSequence_of_independent reversed fun tx mem =>
      (exist tx ((List.Perm.swap first second []).mem_iff.mp mem)).tablesExist
  have permuted :=
    apply_concat_perm admissible (Served.of_independent exist pairwise)
      (List.Perm.swap first second [])
  have sameResult := congrArg Prod.snd forward
  have otherResult := congrArg Prod.snd backward
  exact sameResult.trans (permuted.symm.trans otherResult.symm)

/-- Two orders of the same transactions with the same results. -/
structure SameRun (db : Database) (first second : List VcTx) : Prop where
  exist : ExistAlong db first → ExistAlong db second
  storable : StorableAlong db first ↔ StorableAlong db second
  final : (processSequence db first).2 = (processSequence db second).2
  statuses : (processSequence db first).1.Perm (processSequence db second).1

theorem SameRun.cons {db : Database} {tx : VcTx} {first second : List VcTx}
    (same : SameRun (processOne db tx) first second) :
    SameRun db (tx :: first) (tx :: second) where
  exist := fun along => ⟨along.1, same.exist along.2⟩
  storable := and_congr_right fun _ => same.storable
  final := same.final
  statuses := same.statuses.cons _

theorem sameRun_swap {db : Database} (system : SystemTables db) {first second : VcTx}
    (independent : Independent first second)
    (firstPlain : first.prelimInvalidTxStatus = none → Plain first)
    (secondPlain : second.prelimInvalidTxStatus = none → Plain second)
    (rest : List VcTx) (exist : ExistAlong db (first :: second :: rest)) :
    SameRun db (first :: second :: rest) (second :: first :: rest) := by
  obtain ⟨firstExists, secondAfter, restExists⟩ := exist
  have secondExists : NamespacesExist db second :=
    secondAfter.of_processOne system independent secondPlain
  have commute := processOne_comm independent firstPlain secondPlain firstExists secondExists
  have firstAgrees := independent.symm.agreeFor db
  have secondAgrees := independent.agreeFor db
  constructor
  · intro _
    refine ⟨secondExists, firstExists.processOne second, ?_⟩
    rw [← commute]
    exact restExists
  · simp only [StorableAlong, commute, firstAgrees.storable_iff, secondAgrees.storable_iff]
    exact and_left_comm
  · simp only [processSequence, commute]
  · simp only [processSequence, commute, firstAgrees.outcome_eq, secondAgrees.outcome_eq]
    exact List.Perm.swap _ _ _

theorem sameRun_of_rearranged {db : Database} (system : SystemTables db) {first second : List VcTx}
    (rearranged : Rearranged Independent first second)
    (plain : ∀ tx ∈ first, tx.prelimInvalidTxStatus = none → Plain tx)
    (exist : ExistAlong db first) :
    SameRun db first second := by
  induction rearranged with
  | refl items => exact ⟨id, Iff.rfl, rfl, List.Perm.refl _⟩
  | @swap front left right rest independent =>
    induction front generalizing db with
    | nil =>
      exact
        sameRun_swap system independent
          (plain left mem_cons_self)
          (plain right (mem_cons_of_mem _ mem_cons_self)) rest
          exist
    | cons tx tail ih =>
      exact
        SameRun.cons
          (ih (system.processOne tx)
            (fun other mem => plain other (mem_cons_of_mem tx mem))
            exist.2)
  | trans left _ leftHypothesis rightHypothesis =>
    have same := leftHypothesis plain exist
    have plainMiddle := fun tx mem => plain tx (left.perm.mem_iff.mpr mem)
    have next := rightHypothesis plainMiddle (same.exist exist)
    exact
      ⟨fun along => next.exist (same.exist along),
        same.storable.trans next.storable, same.final.trans next.final,
        same.statuses.trans next.statuses⟩

/-! ## Batches of a schedule -/

theorem Database.Valid.processOne {db : Database} (valid : db.Valid) {tx : VcTx}
    (exist : NamespacesExist db tx) (storable : Storable db tx) :
    (VC.processOne db tx).Valid where
  metaTable := hasTable_processOne tx valid.metaTable
  configTable := hasTable_processOne tx valid.configTable
  bounded := by
    intro nsId key row stored
    have asOverlay := Database.rowAt_apply db (effectsOf db tx) exist.tablesExist.effectsOf
    have found : (db.apply (effectsOf db tx)).rowAt (nsId, key) = some row := stored
    rw [asOverlay] at found
    rcases overlay_eq_some found with written | before
    · obtain ⟨write, mem, eq⟩ := mem_map.mp written
      have sameRow : write.row = row := congrArg Prod.snd eq
      rw [← sameRow]
      exact storable write mem
    · exact valid.bounded nsId key row before

theorem Database.Valid.processSequence {db : Database} (valid : db.Valid) {txs : List VcTx}
    (exist : ExistAlong db txs) (storable : StorableAlong db txs) :
    (VC.processSequence db txs).2.Valid := by
  induction txs generalizing db with
  | nil => exact valid
  | cons tx rest ih =>
    exact ih (valid.processOne exist.1 storable.1) exist.2 storable.2

section

variable {db : Database} {batch : List VcTx}
  (independent : batch.Pairwise Independent)

include independent

theorem namespacesExist_of_existAlong
    (system : SystemTables db) (plain : ∀ tx ∈ batch, tx.prelimInvalidTxStatus = none → Plain tx)
    (exist : ExistAlong db batch) :
    ∀ tx ∈ batch, NamespacesExist db tx := by
  induction batch generalizing db with
  | nil =>
    intro tx mem
    cases mem
  | cons first rest ih =>
    obtain ⟨firstIndependent, restIndependent⟩ := pairwise_cons.mp independent
    have restPlain := fun tx mem => plain tx (mem_cons_of_mem first mem)
    have afterFirst := ih restIndependent (system.processOne first) restPlain exist.2
    intro tx mem
    rcases mem_cons.mp mem with same | later
    · rw [same]
      exact exist.1
    · exact
        (afterFirst tx later).of_processOne system (firstIndependent tx later) (restPlain tx later)

theorem storableAlong_iff : StorableAlong db batch ↔ ∀ tx ∈ batch, Storable db tx := by
  induction batch generalizing db with
  | nil => exact iff_of_true trivial fun _ mem => absurd mem not_mem_nil
  | cons first rest ih =>
    obtain ⟨firstIndependent, restIndependent⟩ := pairwise_cons.mp independent
    rw [StorableAlong, ih restIndependent, forall_mem_cons]
    apply and_congr_right
    intro _
    apply forall₂_congr
    intro tx mem
    exact ((firstIndependent tx mem).agreeFor db).storable_iff

theorem processBatch_eq_sequence (codec : SnapshotCodec) (attempts : Nat) (valid : db.Valid)
    (plain : ∀ tx ∈ batch, tx.prelimInvalidTxStatus = none → Plain tx)
    (exist : ExistAlong db batch) :
    processBatch codec attempts db batch =
      if StorableAlong db batch then
        some ((processSequence db batch).1, none, (processSequence db batch).2)
      else
        none := by
  have distinct : (batch.map fun tx => tx.ref.txId).Nodup := by
    rw [List.Nodup, pairwise_map]
    exact independent.imp fun facts => facts.ids
  have namespaces :=
    namespacesExist_of_existAlong independent
      ⟨valid.metaTable, valid.configTable⟩ plain exist
  rw [processBatch_of_independent codec attempts ⟨distinct, plain⟩ valid
      namespaces independent, batchResult,
    processSequence_of_independent independent fun tx mem => (namespaces tx mem).tablesExist]
  simp only [storableAlong_iff independent]

end

section

variable (codec : SnapshotCodec) (attempts : Nat)

def runBatches : Database → List (List VcTx) → Option (List TxStatus × Database)
  | db, [] => some ([], db)
  | db, batch :: rest =>
    match processBatch codec attempts db batch with
    | none => none
    | some (statuses, _, next) =>
      (runBatches next rest).map fun result => (statuses ++ result.1, result.2)

theorem runBatches_eq {db : Database} (valid : db.Valid) {batches : List (List VcTx)}
    (plain : ∀ tx ∈ batches.flatten, tx.prelimInvalidTxStatus = none → Plain tx)
    (independent : ∀ batch ∈ batches, batch.Pairwise Independent)
    (exist : ExistAlong db batches.flatten) :
    runBatches codec attempts db batches =
      if StorableAlong db batches.flatten then
        some (processSequence db batches.flatten)
      else
        none := by
  induction batches generalizing db with
  | nil => rfl
  | cons batch rest ih =>
    rw [flatten_cons] at plain exist ⊢
    obtain ⟨batchExists, restExists⟩ := (existAlong_append _ _ _).mp exist
    have batchPlain := fun tx mem => plain tx (mem_append_left _ mem)
    have restPlain := fun tx mem => plain tx (mem_append_right _ mem)
    have restIndependent := fun other mem => independent other (mem_cons_of_mem batch mem)
    rw [runBatches,
      processBatch_eq_sequence (independent batch mem_cons_self) codec
        attempts valid batchPlain batchExists, processSequence_append]
    by_cases storable : StorableAlong db batch
    · have next := valid.processSequence batchExists storable
      rw [if_pos storable]
      simp only [storableAlong_append, storable, true_and]
      rw [ih next restPlain restIndependent restExists]
      split <;> rfl
    · simp only [storableAlong_append, storable, false_and, if_false]

theorem runBatches_singles {db : Database} (valid : db.Valid) {sequence : List VcTx}
    (plain : ∀ tx ∈ sequence, tx.prelimInvalidTxStatus = none → Plain tx)
    (exist : ExistAlong db sequence) :
    runBatches codec attempts db (sequence.map fun tx => [tx]) =
      if StorableAlong db sequence then
        some (processSequence db sequence)
      else
        none := by
  have singles : (sequence.map fun tx => [tx]).flatten = sequence := by
    exact flatMap_singleton' sequence
  have independent : ∀ batch ∈ sequence.map fun tx => [tx], batch.Pairwise Independent := by
    intro batch mem
    obtain ⟨tx, _, eq⟩ := mem_map.mp mem
    rw [← eq]
    exact pairwise_singleton _ tx
  have result :=
    @runBatches_eq codec attempts db valid (sequence.map fun tx => [tx])
      (by rw [singles]; exact plain) independent (by rw [singles]; exact exist)
  rw [singles] at result
  exact result

end

def InEarlierBatch (batches : List (List VcTx)) (first second : VcTx) : Prop :=
  ∃ earlier batch later,
    batches = earlier ++ batch :: later ∧ first ∈ earlier.flatten ∧ second ∈ batch

theorem InEarlierBatch.before {batches : List (List VcTx)} {first second : VcTx}
    (inEarlier : InEarlierBatch batches first second) :
    Before batches.flatten first second := by
  obtain ⟨earlier, batch, later, shape, firstMem, secondMem⟩ := inEarlier
  rw [shape, flatten_append, flatten_cons]
  exact
    (singleton_sublist.mpr firstMem).append (singleton_sublist.mpr (mem_append_left _ secondMem))

theorem InEarlierBatch.not_together {batches : List (List VcTx)} (distinct : batches.flatten.Nodup)
    {first second : VcTx} (inEarlier : InEarlierBatch batches first second)
    {batch : List VcTx} (mem : batch ∈ batches) :
    ¬ (first ∈ batch ∧ second ∈ batch) := by
  intro together
  obtain ⟨earlier, own, later, shape, firstMem, secondMem⟩ := inEarlier
  subst shape
  rw [flatten_append, flatten_cons, nodup_append] at distinct
  obtain ⟨_, _, apart⟩ := distinct
  have inOwn : second ∈ own ++ later.flatten := mem_append_left _ secondMem
  rcases mem_append.mp mem with isEarlier | isLater
  · have again : second ∈ earlier.flatten := mem_flatten.mpr ⟨batch, isEarlier, together.2⟩
    exact apart second again second inOwn rfl
  · have again : first ∈ own ++ later.flatten := by
      rcases mem_cons.mp isLater with same | afterwards
      · rw [← same]
        exact mem_append_left _ together.1
      · exact mem_append_right _ (mem_flatten.mpr ⟨batch, afterwards, together.1⟩)
    exact apart first firstMem first again rfl

/-- Accepted transactions that are not independent conflict on a key of the
dependency graph. -/
theorem keysConflict_of_dependent
    {platform : Platform} {earlier later : VcTx} (ids : earlier.ref.txId ≠ later.ref.txId)
    (earlierFormed : earlier.prelimInvalidTxStatus = none → FormValid platform earlier)
    (laterFormed : later.prelimInvalidTxStatus = none → FormValid platform later)
    (dependent : ¬ Independent earlier later) :
    earlier.prelimInvalidTxStatus = none ∧
      later.prelimInvalidTxStatus = none ∧
        KeysConflict (readAndWriteKeys platform later.namespaces)
          (readAndWriteKeys platform earlier.namespaces) := by
  by_contra apart
  apply dependent
  apply independent_of_not_conflicting ids earlierFormed laterFormed
  intro earlierValid laterValid conflict
  exact apart ⟨earlierValid, laterValid, keysConflict_of_conflicting (conflicting_symm conflict)⟩

end FabricXCommitter.VC
