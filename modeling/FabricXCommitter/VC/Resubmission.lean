import FabricXCommitter.VC.Stages

/-!
# Resubmitted transactions

The database becomes what processing every transaction once gives, as long as no copy
hides a read.
-/

namespace FabricXCommitter.VC.Instances

open Library DependencyGraph List Option

/-- The transactions of the batch are of the sequence, and the earlier ones
that they conflict with have been answered. -/
def InOrder (platform : Platform) (sequence : List VcTx) (reported : List TxStatus)
    (batch : List VcTx) : Prop :=
  ∀ tx ∈ batch, tx ∈ sequence ∧
    ∀ earlier, Before sequence earlier tx →
      earlier.prelimInvalidTxStatus = none →
        tx.prelimInvalidTxStatus = none →
          KeysConflict (readAndWriteKeys platform tx.namespaces)
              (readAndWriteKeys platform earlier.namespaces) →
            ∃ s ∈ reported, s.ref = earlier.ref

def DeliveredInOrder (platform : Platform) (sequence : List VcTx)
    (s : Fleet.State Store (List Stage)) : Fleet.Action Empty Task → Prop
  | .worker _ (.deliver batch) => InOrder platform sequence s.shared.reported batch
  | _ => True

/-- No read of a delivered batch is hidden that does not match. -/
def DeliveredUnhidden (s : Fleet.State Store (List Stage)) : Fleet.Action Empty Task → Prop
  | .worker _ (.deliver batch) => Unhidden s.shared.db (firstCopies batch)
  | _ => True

instance (s : Fleet.State Store (List Stage)) : ∀ action, Decidable (DeliveredUnhidden s action)
  | .environment event => event.elim
  | .worker _ (.deliver batch) =>
    inferInstanceAs (Decidable (Unhidden s.shared.db (firstCopies batch)))
  | .worker _ (.access _ _) => isTrue trivial
  | .worker _ .fail => isTrue trivial

section

variable {platform : Platform} {codec : SnapshotCodec} {attempts : Nat}
  {initial : Database} {sequence : List VcTx}
  (workload : Workload initial sequence)
  (formed : ∀ tx ∈ sequence, tx.prelimInvalidTxStatus = none → FormValid platform tx)

include workload formed

theorem readyBatch_of_inOrder {reported : List TxStatus} {batch : List VcTx}
    (inOrder : InOrder platform sequence reported batch) :
    ReadyBatch sequence reported (firstCopies batch) where
  admissible :=
    { distinct := firstCopies_distinct batch
      plain := fun tx mem => workload.plain tx (inOrder tx (firstCopies_subset mem)).1 }
  members := fun tx mem => (inOrder tx (firstCopies_subset mem)).1
  ready := by
    intro tx mem earlier before dependent
    obtain ⟨inSequence, answered⟩ := inOrder tx (firstCopies_subset mem)
    have ids : earlier.ref.txId ≠ tx.ref.txId :=
      pairwise_iff_forall_sublist.mp (pairwise_map.mp workload.distinct) before
    obtain ⟨earlierValid, laterValid, conflict⟩ :=
      keysConflict_of_dependent ids
        (formed earlier (before.subset mem_cons_self))
        (formed tx inSequence) dependent
    exact answered earlier before earlierValid laterValid conflict

theorem sound_startValidation {store : Store} {batch : List VcTx} {p : PreparedTransactions}
    (inOrder : InOrder platform sequence store.reported batch)
    (unhidden : Unhidden store.db (firstCopies batch)) (prepared : prepare codec batch = some p) :
    Sound sequence store (startValidation p) := by
  have readyBatch := readyBatch_of_inOrder workload formed inOrder
  rw [prepare_firstCopies codec readyBatch.admissible.plainBatch] at prepared
  rw [← Option.some.inj prepared]
  exact .validating readyBatch unhidden compared_start

theorem kept_of_instanceStep {s : Fleet.State Store (List Stage)} {index : Nat} {task : Task}
    {stages next : List Stage} {after : Store}
    (ledger : ∃ processed, Ledger initial sequence s.shared processed)
    (sound : ∀ stage ∈ stages, Sound sequence s.shared stage)
    (inOrder : DeliveredInOrder platform sequence s (.worker index task))
    (unhidden : DeliveredUnhidden s (.worker index task))
    (stepped : instanceStep codec attempts s.shared stages task = some (after, next)) :
    (∃ processed, Ledger initial sequence after processed) ∧
      (∀ stage ∈ next, Sound sequence after stage) ∧ Advances sequence s.shared after := by
  cases task with
  | deliver batch =>
    obtain ⟨p, prepared, same⟩ := map_eq_some_iff.mp stepped
    cases same
    refine ⟨ledger, ?_, .refl _⟩
    intro stage mem
    rcases mem_append.mp mem with old | new
    · exact sound stage old
    · rw [mem_singleton.mp new]
      exact sound_startValidation workload formed inOrder unhidden prepared
  | access position access =>
    obtain ⟨stage, found, moved⟩ := bind_eq_some_iff.mp stepped
    obtain ⟨⟨result, left⟩, advanced, same⟩ := map_eq_some_iff.mp moved
    cases same
    obtain ⟨processed, written⟩ := ledger
    have kept :=
      kept_of_advanced workload written
        (sound stage (mem_of_getElem? found))
        (advanced_of_advance advanced)
    refine ⟨kept.ledger, ?_, kept.advances⟩
    intro other mem
    cases left with
    | none => exact (sound other (mem_of_mem_eraseIdx mem)).stable kept.advances
    | some present =>
      rcases mem_or_eq_of_mem_set mem with old | new
      · exact (sound other old).stable kept.advances
      · rw [new]
        exact kept.sound present rfl
  | fail =>
    cases stepped
    exact ⟨ledger, fun _ mem => absurd mem not_mem_nil, .refl _⟩

/-- Along every run the database is the result of processing transactions of
the sequence once, with the statuses that were reported. -/
theorem ledger_of_run {count : Nat} {actions : List (Fleet.Action Empty Task)}
    {final : Fleet.State Store (List Stage)}
    (inOrder :
      (machine codec attempts count initial).Guarded
        (DeliveredInOrder platform sequence)
        (machine codec attempts count initial).initial actions)
    (unhidden :
      (machine codec attempts count initial).Guarded DeliveredUnhidden
        (machine codec attempts count initial).initial actions)
    (reached : (machine codec attempts count initial).run actions = some final) :
    ∃ processed, Ledger initial sequence final.shared processed := by
  have steady :
      Fleet.Steady
        (fun store => ∃ processed, Ledger initial sequence store processed)
        (fun store stages => ∀ stage ∈ stages, Sound sequence store stage)
        final := by
    refine
      Fleet.steady_guarded
        (fun s action => DeliveredInOrder platform sequence s action ∧ DeliveredUnhidden s action)
        (Advances sequence) ?_ ?_ ?_ ?_ (inOrder.and unhidden) reached
    · intro _ event
      cases event
    · intro s index task stages next after ledger sound meets stepped
      exact kept_of_instanceStep workload formed ledger sound meets.1 meets.2 stepped
    · intro before after stages _ advances sound stage mem
      exact (sound stage mem).stable advances
    · constructor
      · exact ⟨[], Front.nil sequence, rfl, trivial, fun _ mem => absurd mem not_mem_nil⟩
      · intro stages mem stage inside
        rw [eq_of_mem_replicate mem] at inside
        cases inside
  exact steady.shared

end

/-- The accesses of the only batch of an instance. -/
def accesses (index : Nat) (list : List Access) : List (Fleet.Action Empty Task) :=
  list.map fun access => .worker index (.access 0 access)

/-- All earlier transactions of the sequence have been answered. -/
def DeliveredAfterAll (sequence : List VcTx) (s : Fleet.State Store (List Stage)) :
    Fleet.Action Empty Task → Prop
  | .worker _ (.deliver batch) =>
    ∀ tx ∈ batch, tx ∈ sequence ∧
      ∀ earlier ∈ sequence, Before sequence earlier tx →
        ∃ status ∈ s.shared.reported, status.ref = earlier.ref
  | _ => True

instance (sequence : List VcTx) (s : Fleet.State Store (List Stage)) :
    ∀ action, Decidable (DeliveredAfterAll sequence s action)
  | .environment event => event.elim
  | .worker _ (.deliver batch) =>
    inferInstanceAs
      (Decidable
        (∀ tx ∈ batch, tx ∈ sequence ∧
          ∀ earlier ∈ sequence, [earlier, tx].Sublist sequence →
            ∃ status ∈ s.shared.reported, status.ref = earlier.ref))
  | .worker _ (.access _ _) => isTrue trivial
  | .worker _ .fail => isTrue trivial

theorem deliveredInOrder_of_afterAll (platform : Platform) {sequence : List VcTx}
    (s : Fleet.State Store (List Stage)) (action : Fleet.Action Empty Task)
    (afterAll : DeliveredAfterAll sequence s action) :
    DeliveredInOrder platform sequence s action := by
  cases action with
  | environment event => cases event
  | worker index task =>
    cases task with
    | deliver batch =>
      intro tx mem
      obtain ⟨inSequence, answered⟩ := afterAll tx mem
      refine ⟨inSequence, fun earlier before _ _ _ => ?_⟩
      exact answered earlier (before.subset mem_cons_self) before
    | access position access => trivial
    | fail => trivial

/-- The update to version six is committed without an acknowledgement and
tried again, then overwritten, and delivered again to another instance. -/
def resubmittedUpdate : List (Fleet.Action Empty Task) :=
  [.worker 0 (.deliver [readWriteTx 1 [1] (some 5)])] ++
    accesses 0
      [.validateNamespace, .validateNamespace, .finishValidation, .categorize,
        .attempt false, .attempt true, .attempt true, .report] ++
    [.worker 1 (.deliver [readWriteTx 3 [1] (some 6)])] ++
    accesses 1
      [.validateNamespace, .validateNamespace, .finishValidation, .categorize,
        .attempt true, .report] ++
    [.worker 1
      (.deliver
        [readWriteTx 1 [1] (some 5), readWriteTx 3 [1] (some 6), readWriteTx 1 [1] (some 5)])] ++
    accesses 1
      [.validateNamespace, .validateNamespace, .finishValidation, .categorize,
        .attempt true, .attempt true, .report]

/-- A transaction that expects key `[2]` of namespace `a` to be absent and
writes another key. -/
def absenceReader : VcTx where
  ref := ⟨[2], 1, 2⟩
  namespaces :=
    [{ nsId := [0x61], readsOnly := [⟨[2], none⟩], blindWrites := [⟨[3], [7]⟩] }]

/-- The insertion of key `[2]` is delivered again, together with the
transaction that expects the key to be absent. -/
def hiddenRead : List (Fleet.Action Empty Task) :=
  [.worker 0 (.deliver [readWriteTx 1 [2] none])] ++
    accesses 0 [.validateNamespace, .finishValidation, .categorize, .attempt true, .report] ++
    [.worker 0 (.deliver [readWriteTx 1 [2] none, absenceReader])] ++
    accesses 0
      [.validateNamespace, .finishValidation, .queryNamespace, .categorize,
        .attempt true, .attempt true, .report]

def Task.batch : Task → Option (List VcTx)
  | .deliver batch => some batch
  | _ => none

/-- A batch is delivered after the report of the one before, and every commit is
acknowledged. -/
def quiet (stages : List Stage) : Task → Bool
  | .deliver _ => stages.isEmpty
  | .access _ access => access ≠ .attempt false
  | .fail => false

section

variable (codec : SnapshotCodec) (attempts : Nat)

def alone (db : Database) : Machine (Store × List Stage) Task where
  initial := (⟨db, []⟩, [])
  step := fun s task =>
    if quiet s.2 task then instanceStep codec attempts s.1 s.2 task else none

/-- What the present batch and some further batches come to. -/
def outlook (store : Store) (stages : List Stage) (batches : List (List VcTx)) :
    Option (List TxStatus × Database) :=
  match stages with
  | [] =>
    (runBatches codec attempts store.db batches).map fun rest => (store.reported ++ rest.1, rest.2)
  | stage :: _ =>
    (remaining codec attempts store.db stage).bind fun result =>
      (runBatches codec attempts result.2.2 batches).map fun rest =>
        (store.reported ++ (result.1 ++ rest.1), rest.2)

variable {codec attempts}

theorem outlook_runFrom {initial : Database} {tasks : List Task} {after : Store} :
    ∀ {store : Store} {stages : List Stage},
      (alone codec attempts initial).runFrom (store, stages) tasks = some (after, []) →
        stages.length ≤ 1 →
          outlook codec attempts store stages (tasks.filterMap Task.batch) =
            some (after.reported, after.db) := by
  induction tasks with
  | nil =>
    intro store stages ran _
    cases ran
    simp [outlook, runBatches]
  | cons task rest ih =>
    intro store stages ran single
    obtain ⟨⟨next, left⟩, stepped, continued⟩ := (Machine.runFrom_cons_eq_some _).mp ran
    obtain ⟨undisturbed, moved⟩ := ite_none_right_eq_some.mp stepped
    cases task with
    | fail => cases undisturbed
    | deliver batch =>
      obtain ⟨p, prepared, same⟩ := map_eq_some_iff.mp moved
      cases same
      cases isEmpty_iff.mp undisturbed
      rw [← ih continued le_rfl]
      simp only [outlook, nil_append, remaining_startValidation codec attempts prepared,
        filterMap_cons, Task.batch, runBatches]
      cases processBatch codec attempts store.db batch with
      | none => rfl
      | some result => simp [Option.map_map, Function.comp_def]
    | access index access =>
      obtain ⟨stage, found, progress⟩ := bind_eq_some_iff.mp moved
      obtain ⟨⟨later, further⟩, advanced, same⟩ := map_eq_some_iff.mp progress
      cases same
      obtain ⟨within, present⟩ := List.getElem?_eq_some_iff.mp found
      cases Nat.lt_one_iff.mp (Nat.lt_of_lt_of_le within single)
      obtain ⟨only, shape⟩ := length_eq_one_iff.mp (Nat.le_antisymm single within)
      subst shape
      cases present
      have access := advanced_of_advance advanced
      cases further with
      | none =>
        cases access with
        | report =>
          rw [← ih continued (Nat.zero_le 1)]
          simp [outlook, remaining, filterMap_cons, Task.batch]
      | some further =>
        rw [← ih continued le_rfl]
        have unreported : later.reported = store.reported := by
          cases access <;> rfl
        have same := remaining_of_advanced codec attempts access (of_decide_eq_true undisturbed)
        simp [outlook, same, unreported, filterMap_cons, Task.batch]

end

/-- An instance that handles its batches one after another does what `runBatches` does. -/
theorem alone_eq_runBatches {codec : SnapshotCodec} {attempts : Nat} {db : Database}
    {tasks : List Task} {store : Store}
    (ran : (alone codec attempts db).run tasks = some (store, [])) :
    runBatches codec attempts db (tasks.filterMap Task.batch) = some (store.reported, store.db) := by
  simpa [outlook] using outlook_runFrom ran (Nat.zero_le 1)

theorem update_alone :
    ∃ store : Store,
      store.reported = [⟨⟨[1], 1, 1⟩, .committed⟩] ∧
        runBatches countingCodec 1 (singleRowDatabase 5) [[readWriteTx 1 [1] (some 5)]] =
          some (store.reported, store.db) := by
  have ran :
      ((alone countingCodec 1 (singleRowDatabase 5)).run
          (.deliver [readWriteTx 1 [1] (some 5)] ::
            [.validateNamespace, .validateNamespace, .finishValidation, .categorize,
              .attempt true, .report].map (Task.access 0))).map
          (fun s => (s.1.reported, s.2.isEmpty)) =
        some ([⟨⟨[1], 1, 1⟩, .committed⟩], true) := by
    decide +kernel
  obtain ⟨⟨store, stages⟩, reached, outcome⟩ := map_eq_some_iff.mp ran
  obtain ⟨reported, ended⟩ := Prod.mk.inj outcome
  cases isEmpty_iff.mp ended
  exact ⟨store, reported, alone_eq_runBatches reached⟩

end FabricXCommitter.VC.Instances
