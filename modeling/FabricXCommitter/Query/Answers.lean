import FabricXCommitter.Query.Batches
import FabricXCommitter.Query.ViewLifecycle

/-!
# Complete answers

If the context of the batcher ends before the batch ends its own, `waitForRows` answers
with the rows that happen to be in the result.
-/

namespace FabricXCommitter.Query

open Library List Option Function
open ViewsState

/-! ## What the service keeps -/

variable {q r : Nat} {ctxEnded : Bool}

section

variable {Row : Type} {s next : QueryState Row}

/-- The answer is what the table held for the keys when the batch was queried with all
of them. -/
def Complete (s : QueryState Row) (q : Nat) (keys : List Bytes) (rows : List Row) : Prop :=
  ∃ queriedKeys table,
    (s.batches q).queried = some (queriedKeys, table) ∧
      (∀ key ∈ keys, key ∈ queriedKeys) ∧ rows = keys.filterMap table

/-- The keys of a request are among those of its batch. -/
def Waits (s : QueryState Row) (q : Nat) (keys : List Bytes) : Prop :=
  q < s.batchCount ∧ ∀ key ∈ keys, key ∈ (s.batches q).keys

def Allocated (s : QueryState Row) (q : Nat) : Prop := q < s.batchCount

/-- The context of the batcher ended before the batch did. -/
def Overtaken (s : QueryState Row) (q : Nat) : Prop :=
  (s.batches q).cause = none ∧ s.batcherDone (s.batches q).batcher = true

/-- What holds while a request is assigned to a batch. -/
def Adding (s : QueryState Row) (keys : List Bytes)
    (phase : UpdateOrCreate.Phase Nat AddPc) : Prop :=
  phase.Holds (fun _ => True) (fun s q => Waits s q keys) Allocated (fun _ _ _ => True) s

def Request.Sound (s : QueryState Row) : Request Row → Prop
  | .adding _ _ keys phase => Adding s keys phase
  | .waiting q keys => Waits s q keys
  | .answered q keys rows => q < s.batchCount ∧ (Complete s q keys rows ∨ Overtaken s q)
  | .failed => True

/-- How a step changes the batches and the contexts of their batchers. -/
structure Grows (s next : QueryState Row) : Prop where
  count : s.batchCount ≤ next.batchCount
  batch : ∀ q, q < s.batchCount → BatchGrows (s.batchDone q) (s.batches q) (next.batches q)
  done : ∀ batcher, s.batcherDone batcher = true → next.batcherDone batcher = true

theorem Grows.refl (s : QueryState Row) : Grows s s :=
  ⟨le_rfl, fun _ _ => .refl _ _, fun _ done => done⟩

theorem Waits.grows {keys : List Bytes} (grows : Grows s next) (waits : Waits s q keys) :
    Waits next q keys :=
  ⟨waits.1.trans_le grows.count, fun key mem => (grows.batch q waits.1).keys key (waits.2 key mem)⟩

theorem Overtaken.grows (grows : Grows s next)
    (known : q < s.batchCount) (overtaken : Overtaken s q) :
    Overtaken next q := by
  have batch := grows.batch q known
  have isDone : s.batchDone q = true := by rw [QueryState.batchDone, overtaken.2, Bool.or_true]
  refine ⟨?_, ?_⟩
  · rw [batch.cause isDone]
    exact overtaken.1
  · rw [batch.batcher]
    exact grows.done _ overtaken.2

theorem Adding.grows {keys : List Bytes}
    {phase : UpdateOrCreate.Phase Nat AddPc} (grows : Grows s next) (adding : Adding s keys phase) :
    Adding next keys phase := by
  refine UpdateOrCreate.Phase.Holds.transfer ?_ ?_ ?_ ?_ adding
  · exact fun _ => trivial
  · exact fun _ waits => waits.grows grows
  · exact fun _ lt => Nat.lt_of_lt_of_le lt grows.count
  · exact fun _ _ _ => trivial

theorem Request.Sound.grows {request : Request Row} (grows : Grows s next)
    (sound : request.Sound s) :
    request.Sound next := by
  cases request with
  | adding batcher nsID keys phase => exact Adding.grows grows sound
  | waiting q keys => exact Waits.grows grows sound
  | answered q keys rows =>
    obtain ⟨known, outcome⟩ := sound
    refine ⟨known.trans_le grows.count, ?_⟩
    rcases outcome with ⟨queriedKeys, table, queried, mem, isRows⟩ | overtaken
    · exact .inl ⟨queriedKeys, table, (grows.batch q known).queried _ queried, mem, isRows⟩
    · exact .inr (overtaken.grows grows known)
  | failed => trivial

structure QueryInvariant (config : Config) (s : QueryState Row) : Prop where
  views : ServiceInvariant config s.views
  batches : ∀ q, (s.batches q).Sound
  latest : ∀ batcher nsID q, s.nsToLatestQueryBatch batcher nsID = some q → q < s.batchCount
  requests : ∀ request ∈ s.requests, request.Sound s

variable {batch : QueryBatch Row}

theorem setBatch_batches_same : (s.setBatch q batch).batches q = batch := by
  simp [QueryState.setBatch]

theorem setBatch_batches_of_ne {other : Nat} (differs : other ≠ q) :
    (s.setBatch q batch).batches other = s.batches other := by
  simp [QueryState.setBatch, differs]

theorem Grows.setBatch (grows : BatchGrows (s.batchDone q) (s.batches q) batch) :
    Grows s (s.setBatch q batch) where
  count := le_rfl
  batch := by
    intro other _
    by_cases same : other = q
    · subst same
      rw [setBatch_batches_same]
      exact grows
    · rw [setBatch_batches_of_ne same]
      exact .refl _ _
  done := fun _ done => done

theorem setBatch_sound (others : ∀ q, (s.batches q).Sound) (sound : batch.Sound) :
    ∀ q', ((s.setBatch q batch).batches q').Sound :=
  (forall_update_iff s.batches fun _ batch => batch.Sound).mpr ⟨sound, fun other _ => others other⟩

variable {config : Config}

theorem QueryInvariant.setBatch (inv : QueryInvariant config s) (sound : batch.Sound)
    (grows : BatchGrows (s.batchDone q) (s.batches q) batch) :
    QueryInvariant config (s.setBatch q batch) where
  views := inv.views
  batches := setBatch_sound inv.batches sound
  latest := inv.latest
  requests := by
    intro request mem
    exact (inv.requests request mem).grows (.setBatch grows)

theorem QueryInvariant.setRequest
    (inv : QueryInvariant config s) {request : Request Row} (sound : request.Sound s) :
    QueryInvariant config (s.setRequest r request) where
  views := inv.views
  batches := inv.batches
  latest := inv.latest
  requests := by
    have same : Grows s (s.setRequest r request) := { Grows.refl s with }
    intro other mem
    rcases mem_or_eq_of_mem_set mem with old | isNew
    · exact (inv.requests other old).grows same
    · rw [isNew]
      exact sound.grows same

variable {minBatchKeys : Nat} {batcher : Option Nat} {nsID : String}
variable {keys : List Bytes}

theorem Grows.createBatch :
    Grows s ((addNamespaceKeys minBatchKeys batcher nsID keys).create s).1 where
  count := Nat.le_succ _
  batch := by
    intro q lt
    change BatchGrows _ _ ((s.setBatch _ _).batches q)
    rw [setBatch_batches_of_ne (Nat.ne_of_lt lt)]
    exact .refl _ _
  done := fun _ done => done

theorem addKeys_cases {pc : AddPc} {outcome : UpdateStep AddPc}
    (updated :
      (addNamespaceKeys minBatchKeys batcher nsID keys).update s q pc = some (next, outcome)) :
    (next = s ∧ outcome = .returned false) ∨
    (pc = .check ∧ s.batchDone q = false ∧ next = s ∧ outcome = .running .add) ∨
    (pc = .add ∧ (s.batches q).finalized = false ∧
      next = s.setBatch q ((s.batches q).append minBatchKeys keys) ∧ outcome = .returned true) := by
  cases pc with
  | check =>
    simp only [addNamespaceKeys] at updated
    split at updated
    · cases updated
      exact .inl ⟨rfl, rfl⟩
    · cases updated
      exact .inr (.inl ⟨rfl, by simp_all, rfl, rfl⟩)
  | add =>
    simp only [addNamespaceKeys] at updated
    split at updated
    · cases updated
      exact .inl ⟨rfl, rfl⟩
    · cases updated
      exact .inr (.inr ⟨rfl, by simp_all, rfl, rfl⟩)

/-- The update-or-create loop keeps the invariant; a request that was added to a batch
waits for it. -/
theorem addNamespaceKeys_sound :
    (addNamespaceKeys minBatchKeys batcher nsID keys).Sound
      (fun s : QueryState Row => QueryInvariant config s)
      (fun s q => QueryInvariant config s ∧ Waits s q keys)
      Allocated (fun _ _ _ => True) where
  load := fun s q inv loaded => inv.latest _ _ q loaded
  store := by
    intro s q inv allocated
    refine ⟨?_, fun _ known => known⟩
    have same : Grows s ((addNamespaceKeys minBatchKeys batcher nsID keys).store s q) :=
      { Grows.refl s with }
    refine ⟨inv.views, inv.batches, ?_, ?_⟩
    · intro otherBatcher otherID other listed
      change
        update s.nsToLatestQueryBatch batcher
          (update (s.nsToLatestQueryBatch batcher) nsID (some q))
          otherBatcher otherID = some other at listed
      by_cases sameBatcher : otherBatcher = batcher
      · subst sameBatcher
        rw [update_self] at listed
        by_cases sameID : otherID = nsID
        · subst sameID
          rw [update_self] at listed
          cases listed
          exact allocated
        · rw [update_of_ne sameID] at listed
          exact inv.latest _ _ other listed
      · rw [update_of_ne sameBatcher] at listed
        exact inv.latest _ _ other listed
    · intro request mem
      exact (inv.requests request mem).grows same
  create := by
    intro s inv
    refine ⟨?_, Nat.lt_succ_self _, ?_⟩
    · refine ⟨inv.views, ?_, ?_, ?_⟩
      · exact setBatch_sound inv.batches (.initial batcher nsID)
      · intro otherBatcher otherID q listed
        exact Nat.lt_succ_of_lt (inv.latest otherBatcher otherID q listed)
      · intro request mem
        exact (inv.requests request mem).grows .createBatch
    · exact fun q allocated => Nat.lt_succ_of_lt allocated
  post := by
    intro s q inv allocated
    have sound := inv.batches q
    refine ⟨inv.setBatch ?_ ?_, fun _ known => known⟩
    · exact { sound with }
    · exact { BatchGrows.refl _ _ with }
  start := fun _ _ _ _ => trivial
  running := by
    intro s q pc next nextPc inv allocated _ updated
    rcases addKeys_cases updated with ⟨rfl, _⟩ | ⟨_, _, rfl, _⟩ | ⟨_, _, _, impossible⟩
    · exact ⟨inv, allocated, trivial⟩
    · exact ⟨inv, allocated, trivial⟩
    · cases impossible
  refused := by
    intro s q pc next inv allocated _ updated
    rcases addKeys_cases updated with ⟨rfl, _⟩ | ⟨_, _, _, impossible⟩ | ⟨_, _, _, impossible⟩
    · exact ⟨inv, allocated⟩
    · cases impossible
    · cases impossible
  updated := by
    intro s q pc next inv allocated _ updated
    rcases addKeys_cases updated with ⟨_, impossible⟩ | ⟨_, _, _, impossible⟩ | ⟨_, open', rfl, _⟩
    · cases impossible
    · cases impossible
    · obtain ⟨grows, added⟩ := BatchGrows.append (s.batchDone q) (s.batches q) minBatchKeys keys
      refine ⟨inv.setBatch ((inv.batches q).append open' minBatchKeys keys) grows, allocated, ?_⟩
      intro key mem
      rw [setBatch_batches_same]
      exact added key mem

theorem cancelBatch_ended (s : QueryState Row) (q : Nat) (cause : Cause) :
    (s.cancelBatch q cause).setExecution q .ended =
      s.setBatch q
        { s.batches q with
          cause :=
            if s.batchDone q then (s.batches q).cause else some cause
          execution := .ended } := by
  unfold QueryState.cancelBatch
  split
  · rfl
  · simp [QueryState.setExecution, QueryState.setBatch]

theorem execute_cases [DecidableEq Row] {outcome : Outcome Row}
    (sound : (s.batches q).Sound) (stepped : execute s q outcome = some next) :
    ∃ batch, next = s.setBatch q batch ∧ batch.Sound ∧
      BatchGrows (s.batchDone q) (s.batches q) batch := by
  have causeKept :
      ∀ cause, s.batchDone q = true →
        (if s.batchDone q then (s.batches q).cause else some cause) = (s.batches q).cause :=
    fun cause done => if_pos done
  have phaseOnly :
      ∀ execution,
        BatchGrows (s.batchDone q) (s.batches q) { s.batches q with execution := execution } :=
    fun _ => { BatchGrows.refl _ _ with }
  have ended :
      ∀ cause,
        BatchGrows (s.batchDone q) (s.batches q)
          { s.batches q with
            cause := if s.batchDone q then (s.batches q).cause else some cause
            execution := .ended } :=
    fun cause => { BatchGrows.refl (s.batchDone q) _ with cause := causeKept cause }
  have failed :
      (if s.batchDone q then (s.batches q).cause else some .failed) = some Cause.completed →
        (s.batches q).cause = some .completed := by
    intro completed
    split at completed
    · exact completed
    · cases completed
  revert stepped
  fun_cases execute s q outcome with
  | case1 _ isStarting =>
    intro stepped
    cases stepped
    exact ⟨_, rfl, sound.end (ne_of_eq_of_ne isStarting (by simp)) (fun same => same), phaseOnly .ended⟩
  | case2 _ isStarting =>
    intro stepped
    cases stepped
    exact ⟨_, rfl, sound.acquire isStarting, phaseOnly .acquiring⟩
  | case3 _ isRunning | case5 _ isRunning =>
    intro stepped
    cases stepped
    rw [cancelBatch_ended]
    exact ⟨_, rfl, sound.end (ne_of_eq_of_ne isRunning (by simp)) failed, ended .failed⟩
  | case4 _ isAcquiring =>
    intro stepped
    cases stepped
    exact ⟨_, rfl, sound.finalize isAcquiring, { BatchGrows.refl _ _ with }⟩
  | case6 _ table rows isQuerying answered =>
    intro stepped
    cases stepped
    refine ⟨_, rfl, sound.answer isQuerying answered, ?_⟩
    refine { BatchGrows.refl (s.batchDone q) (s.batches q) with queried := fun known isKnown => ?_ }
    rw [sound.unqueried (by rw [isQuerying]; rfl)] at isKnown
    cases isKnown
  | case8 _ key row rest isFilling =>
    intro stepped
    cases stepped
    exact ⟨_, rfl, sound.fill isFilling, { BatchGrows.refl _ _ with }⟩
  | case9 _ isFilling =>
    intro stepped
    cases stepped
    rw [cancelBatch_ended]
    exact ⟨_, rfl, sound.complete isFilling, ended .completed⟩
  | case7 | case10 =>
    intro stepped
    cases stepped

section

variable (inv : QueryInvariant config s)

include inv

theorem QueryInvariant.advanceRequest
    (advanced : advanceRequest minBatchKeys s r ctxEnded = some next) :
    QueryInvariant config next := by
  revert advanced
  fun_cases Query.advanceRequest minBatchKeys s r ctxEnded with
  | case1 batcher nsID keys q isRequest =>
    intro advanced
    cases advanced
    have waits : Waits s q keys := inv.requests _ (mem_of_getElem? isRequest)
    exact inv.setRequest waits
  | case2 =>
    intro advanced
    cases advanced
    exact inv.setRequest trivial
  | case4 batcher nsID keys phase _ _ isRequest result nextPhase stepped =>
    intro advanced
    cases advanced
    have adding : Adding s keys phase := inv.requests _ (mem_of_getElem? isRequest)
    have before :
        phase.Holds (fun s : QueryState Row => QueryInvariant config s)
          (fun s q => QueryInvariant config s ∧ Waits s q keys)
          Allocated (fun _ _ _ => True) s :=
      UpdateOrCreate.Phase.Holds.transfer (fun _ => inv)
        (fun _ waits => ⟨inv, waits⟩) (fun _ known => known)
        (fun _ _ _ => trivial) adding
    have after := addNamespaceKeys_sound.step before stepped
    have invariantNext : QueryInvariant config result := by
      cases nextPhase with
      | updated q => exact after.1
      | loading | attempting | updating | creating | assigning | posting | ended => exact after.1
    have addingNext : Adding result keys nextPhase :=
      UpdateOrCreate.Phase.Holds.transfer (fun _ => trivial)
        (fun _ waits => waits.2) (fun _ known => known)
        (fun _ _ _ => trivial) after
    exact invariantNext.setRequest addingNext
  | case3 | case5 =>
    intro advanced
    cases advanced

theorem QueryInvariant.answer
    {keys : List Bytes} (waits : Waits s q keys) (done : s.batchDone q = true)
    (notFailed : (s.batches q).cause ≠ some .failed) :
    Complete s q keys (extractRows (s.batches q).result keys) ∨ Overtaken s q := by
  cases isCause : (s.batches q).cause with
  | none =>
    right
    refine ⟨isCause, ?_⟩
    rw [QueryState.batchDone, isCause] at done
    exact done
  | some cause =>
    cases cause with
    | failed => exact absurd isCause notFailed
    | completed =>
      left
      have sound := inv.batches q
      obtain ⟨_, queriedKeys, table, rows, queried, result, agrees⟩ := sound.completed isCause
      have mem : ∀ key ∈ keys, key ∈ queriedKeys :=
        fun key isKey => (sound.queried queriedKeys table queried).2 key (waits.2 key isKey)
      refine ⟨queriedKeys, table, queried, mem, ?_⟩
      rw [result]
      exact filterMap_congr fun key isKey => agrees key (mem key isKey)

theorem QueryInvariant.waitForRows (waited : waitForRows s r ctxEnded = some next) :
    QueryInvariant config next := by
  revert waited
  fun_cases Query.waitForRows s r ctxEnded with
  | case1 | case2 =>
    intro waited
    cases waited
    exact inv.setRequest trivial
  | case3 q keys isRequest _ done notFailed =>
    intro waited
    cases waited
    have waits : Waits s q keys := inv.requests _ (mem_of_getElem? isRequest)
    exact inv.setRequest ⟨waits.1, inv.answer waits done notFailed⟩
  | case4 | case5 =>
    intro waited
    cases waited

theorem QueryInvariant.views_step {action : ViewsAction} {views : ViewsState}
    (stepped : viewsStep config s.views action = some views) :
    QueryInvariant config { s with views := views } := by
  have kept := inv.views.step stepped
  obtain ⟨actor, frame⟩ := kept.frame
  have grows : Grows s { s with views := views } := by
    refine ⟨le_rfl, fun _ _ => .refl _ _, fun batcher done => ?_⟩
    cases batcher with
    | none =>
      -- A batcher that is not allocated yet is stale only if the service stopped.
      have stopped : s.views.stopped = true := done
      have stale := frame.stale views.batcherCount (by rw [isStale, stopped, Bool.or_true])
      rw [isStale, kept.invariant.core.inventory.freshBatcher _ le_rfl] at stale
      exact stale
    | some b => exact frame.stale b done
  exact
    ⟨kept.invariant, inv.batches, inv.latest,
      fun request mem => (inv.requests request mem).grows grows⟩

theorem QueryInvariant.step [DecidableEq Row] {action : QueryAction Row}
    (stepped : queryStep config minBatchKeys s action = some next) :
    QueryInvariant config next := by
  cases action with
  | views viewsAction =>
    obtain ⟨views, viewsStepped, rfl⟩ := map_eq_some_iff.mp stepped
    exact inv.views_step viewsStepped
  | request call nsID keys =>
    obtain ⟨batcher, _, rfl⟩ := map_eq_some_iff.mp stepped
    have same :
        Grows s
          { s with
            requests := s.requests ++ [.adding batcher nsID keys .loading] } :=
      { Grows.refl s with }
    refine { inv with requests := fun request mem => ?_ }
    rcases mem_append.mp mem with old | isNew
    · exact (inv.requests request old).grows same
    · rw [mem_singleton.mp isNew]
      exact ⟨trivial, trivial⟩
  | advanceRequest r ctxEnded => exact inv.advanceRequest stepped
  | timer q =>
    simp only [queryStep] at stepped
    split at stepped
    · cases stepped
      exact inv.setBatch (inv.batches q).submit (.submit _ _)
    · cases stepped
  | execute q outcome =>
    obtain ⟨batch, rfl, sound, grows⟩ := execute_cases (inv.batches q) stepped
    exact inv.setBatch sound grows
  | waitForRows r ctxEnded => exact inv.waitForRows stepped

end

end

/-! ## Requests that are not overtaken -/

section

variable {Row : Type} {s next : QueryState Row} {config : Config}
variable {minBatchKeys : Nat}

/-- The batch that a request has found open or waits for. -/
def Request.pending : Request Row → Option Nat
  | .adding _ _ _ (.updating q .add) => some q
  | .adding _ _ _ (.updated q) => some q
  | .waiting q _ => some q
  | _ => none

/-- The batch ended no later than the context of its batcher. -/
def InTime (s : QueryState Row) (q : Nat) : Prop :=
  s.batcherDone (s.batches q).batcher = true → (s.batches q).cause.isSome = true

/-- What holds while a request that is not overtaken is assigned to a batch. -/
def AddingInTime (s : QueryState Row) (phase : UpdateOrCreate.Phase Nat AddPc) : Prop :=
  phase.Holds (fun _ => True) InTime (fun _ _ => True) (fun s q pc => pc = .add → InTime s q) s

def Request.Timely (s : QueryState Row) : Request Row → Prop
  | .adding _ _ _ phase => AddingInTime s phase
  | .waiting q _ => InTime s q
  | .answered q _ _ => (s.batches q).cause = some .completed
  | .failed => True

/-- A step of the views does not end the context of a batcher while a request waits
for one of its batches. -/
def leavesPending (config : Config) (s : QueryState Row) : QueryAction Row → Bool
  | .views action =>
    match viewsStep config s.views action with
    | none => true
    | some views =>
      s.requests.all fun request =>
        match request.pending with
        | none => true
        | some q =>
          !({ s with views := views } : QueryState Row).batcherDone (s.batches q).batcher ||
            (s.batches q).cause.isSome
  | _ => true

theorem leavesPending_spec {action : ViewsAction} {views : ViewsState}
    (leaves : leavesPending config s (.views action) = true)
    (stepped : viewsStep config s.views action = some views)
    {request : Request Row} (mem : request ∈ s.requests) (pending : request.pending = some q) :
    InTime { s with views := views } q := by
  simp only [leavesPending, stepped, List.all_eq_true] at leaves
  have ended := leaves request mem
  rw [pending] at ended
  intro done
  simpa [done] using ended

theorem InTime.grows (grows : Grows s next)
    (views : next.views = s.views) (known : q < s.batchCount) (inTime : InTime s q) :
    InTime next q := by
  have batch := grows.batch q known
  intro done
  have wasDone : s.batcherDone (s.batches q).batcher = true := by
    rw [batch.batcher] at done
    have sameDone : ∀ batcher, next.batcherDone batcher = s.batcherDone batcher := by
      intro batcher
      cases batcher <;> simp [QueryState.batcherDone, views]
    rw [← sameDone]
    exact done
  have batchDone : s.batchDone q = true := by rw [QueryState.batchDone, wasDone, Bool.or_true]
  rw [batch.cause batchDone]
  exact inTime wasDone

theorem Request.Timely.grows {request : Request Row} (grows : Grows s next)
    (views : next.views = s.views) (sound : request.Sound s) (timely : request.Timely s) :
    request.Timely next := by
  cases request with
  | adding batcher nsID keys phase =>
    have adding : Adding s keys phase := sound
    have inTime : AddingInTime s phase := timely
    cases phase with
    | updated q => exact InTime.grows grows views adding.1 inTime
    | updating q pc =>
      refine ⟨trivial, trivial, fun isAdd => ?_⟩
      exact (inTime.2.2 isAdd).grows grows views adding.2.1
    | loading | attempting | creating | assigning | posting | ended => exact inTime
  | waiting q keys => exact InTime.grows grows views sound.1 timely
  | answered q keys rows =>
    have completed : (s.batches q).cause = some .completed := timely
    have batchDone : s.batchDone q = true := by
      rw [QueryState.batchDone, completed]
      rfl
    change (next.batches q).cause = some .completed
    rw [(grows.batch q sound.1).cause batchDone]
    exact completed
  | failed => trivial

theorem addNamespaceKeys_inTime {batcher : Option Nat} {nsID : String} {keys : List Bytes} :
    (addNamespaceKeys minBatchKeys batcher nsID keys).Sound
      (fun _ : QueryState Row => True) InTime (fun _ _ => True)
      (fun s q pc => pc = .add → InTime s q) where
  load := fun _ _ _ _ => trivial
  store := fun _ _ _ _ => ⟨trivial, fun _ _ => trivial⟩
  create := fun _ _ => ⟨trivial, trivial, fun _ _ => trivial⟩
  post := fun _ _ _ _ => ⟨trivial, fun _ _ => trivial⟩
  start := fun _ _ _ _ impossible => by cases impossible
  running := by
    intro s q pc next nextPc _ _ ready updated
    refine ⟨trivial, trivial, fun isAdd done => ?_⟩
    rcases addKeys_cases updated with ⟨_, impossible⟩ | ⟨_, notDone, rfl, _⟩ | ⟨_, _, _, impossible⟩
    · cases impossible
    · rw [QueryState.batchDone, done, Bool.or_true] at notDone
      cases notDone
    · cases impossible
  refused := fun _ _ _ _ _ _ _ _ => ⟨trivial, trivial⟩
  updated := by
    intro s q pc next _ _ ready updated
    rcases addKeys_cases updated with ⟨_, impossible⟩ | ⟨_, _, _, impossible⟩ | ⟨isAdd, _, rfl, _⟩
    · cases impossible
    · cases impossible
    · obtain ⟨grows, _⟩ := BatchGrows.append true (s.batches q) minBatchKeys keys
      intro done
      rw [setBatch_batches_same] at done ⊢
      rw [grows.batcher] at done
      rw [grows.cause rfl]
      exact ready isAdd done

/-- A step that changes batches only. -/
structure Quiet (s next : QueryState Row) : Prop where
  grows : Grows s next
  views : next.views = s.views
  requests : next.requests = s.requests

theorem addNamespaceKeys_quiet {batcher : Option Nat} {nsID : String} {keys : List Bytes}
    {phase nextPhase : UpdateOrCreate.Phase Nat AddPc}
    (stepped :
      (addNamespaceKeys minBatchKeys batcher nsID keys).step s ctxEnded phase =
        some (next, nextPhase)) :
    Quiet s next := by
  refine UpdateOrCreate.step_leads ⟨.refl s, rfl, rfl⟩ ?_ ?_ ?_ ?_ stepped
  · exact fun q => ⟨{ Grows.refl s with }, rfl, rfl⟩
  · exact ⟨.createBatch, rfl, rfl⟩
  · exact fun q => ⟨.setBatch { BatchGrows.refl _ _ with }, rfl, rfl⟩
  · intro q pc updated outcome updates
    rcases addKeys_cases updates with ⟨rfl, _⟩ | ⟨_, _, rfl, _⟩ | ⟨_, _, rfl, _⟩
    · exact ⟨.refl _, rfl, rfl⟩
    · exact ⟨.refl _, rfl, rfl⟩
    · exact ⟨.setBatch (BatchGrows.append _ _ minBatchKeys keys).1, rfl, rfl⟩

def AllTimely (s : QueryState Row) : Prop := ∀ request ∈ s.requests, request.Timely s

theorem AllTimely.quiet (inv : QueryInvariant config s)
    (timely : AllTimely s) (quiet : Quiet s next) :
    AllTimely next := by
  intro request mem
  rw [quiet.requests] at mem
  exact (timely request mem).grows quiet.grows quiet.views (inv.requests request mem)

theorem AllTimely.setRequest (timely : AllTimely s)
    {request : Request Row} (isTimely : request.Timely s) :
    AllTimely (s.setRequest r request) := by
  intro other mem
  rcases mem_or_eq_of_mem_set mem with old | isNew
  · have unchanged := timely other old
    cases other <;> exact unchanged
  · rw [isNew]
    cases request <;> exact isTimely

theorem AllTimely.advanceRequest (inv : QueryInvariant config s)
    (timely : AllTimely s) (advanced : advanceRequest minBatchKeys s r ctxEnded = some next) :
    AllTimely next := by
  revert advanced
  fun_cases Query.advanceRequest minBatchKeys s r ctxEnded with
  | case1 batcher nsID keys q isRequest =>
    intro advanced
    cases advanced
    have inTime : InTime s q := timely _ (mem_of_getElem? isRequest)
    exact timely.setRequest inTime
  | case2 =>
    intro advanced
    cases advanced
    exact timely.setRequest trivial
  | case4 batcher nsID keys phase _ _ isRequest result nextPhase stepped =>
    intro advanced
    cases advanced
    have before : AddingInTime s phase := timely _ (mem_of_getElem? isRequest)
    have after : AddingInTime result nextPhase := addNamespaceKeys_inTime.step before stepped
    exact (timely.quiet inv (addNamespaceKeys_quiet stepped)).setRequest after
  | case3 | case5 =>
    intro advanced
    cases advanced

theorem AllTimely.waitForRows (timely : AllTimely s)
    (waited : waitForRows s r ctxEnded = some next) :
    AllTimely next := by
  revert waited
  fun_cases Query.waitForRows s r ctxEnded with
  | case1 | case2 =>
    intro waited
    cases waited
    exact timely.setRequest trivial
  | case3 q keys isRequest _ done notFailed =>
    intro waited
    cases waited
    have inTime : InTime s q := timely _ (mem_of_getElem? isRequest)
    refine timely.setRequest ?_
    have ended : (s.batches q).cause.isSome = true := by
      rw [QueryState.batchDone, Bool.or_eq_true] at done
      exact done.elim (fun ended => ended) inTime
    obtain ⟨cause, isCause⟩ := isSome_iff_exists.mp ended
    cases cause with
    | completed => exact isCause
    | failed => exact absurd isCause notFailed
  | case4 | case5 =>
    intro waited
    cases waited

theorem AllTimely.step [DecidableEq Row]
    (inv : QueryInvariant config s) (timely : AllTimely s) {action : QueryAction Row}
    (leaves : leavesPending config s action = true)
    (stepped : queryStep config minBatchKeys s action = some next) :
    AllTimely next := by
  cases action with
  | views viewsAction =>
    obtain ⟨views, viewsStepped, rfl⟩ := map_eq_some_iff.mp stepped
    intro request mem
    have inTime : ∀ q, request.pending = some q → InTime { s with views := views } q :=
      fun q => leavesPending_spec leaves viewsStepped mem
    have before := timely request mem
    cases request with
    | adding batcher nsID keys phase =>
      cases phase with
      | updated q => exact inTime q rfl
      | updating q pc =>
        refine ⟨trivial, trivial, fun isAdd => ?_⟩
        cases isAdd
        exact inTime q rfl
      | loading | attempting | creating | assigning | posting | ended => exact before
    | waiting q keys => exact inTime q rfl
    | answered q keys rows => exact before
    | failed => trivial
  | request call nsID keys =>
    obtain ⟨batcher, _, rfl⟩ := map_eq_some_iff.mp stepped
    intro request mem
    rcases mem_append.mp mem with old | isNew
    · have unchanged := timely request old
      cases request <;> exact unchanged
    · rw [mem_singleton.mp isNew]
      exact ⟨trivial, trivial⟩
  | advanceRequest r ctxEnded => exact timely.advanceRequest inv stepped
  | timer q =>
    simp only [queryStep] at stepped
    split at stepped
    · cases stepped
      exact timely.quiet inv ⟨.setBatch (.submit _ _), rfl, rfl⟩
    · cases stepped
  | execute q outcome =>
    obtain ⟨batch, rfl, _, grows⟩ := execute_cases (inv.batches q) stepped
    exact timely.quiet inv ⟨.setBatch grows, rfl, rfl⟩
  | waitForRows r ctxEnded => exact timely.waitForRows stepped

end

/-! ## The answers of every run -/

section

variable {Row : Type} (config : Config) (minBatchKeys : Nat)

theorem queryInvariant_initial : QueryInvariant config ({} : QueryState Row) where
  views := .initial config
  batches := fun _ => .initial none ""
  latest := fun _ _ _ impossible => by cases impossible
  requests := fun _ mem => by cases mem

variable [DecidableEq Row]

theorem queryInvariant_run {actions : List (QueryAction Row)}
    {s : QueryState Row} (reached : (queryService config minBatchKeys).run actions = some s) :
    QueryInvariant config s :=
  (queryService config minBatchKeys).invariant_run (QueryInvariant config)
    (queryInvariant_initial config)
    (fun _ _ _ inv stepped => inv.step stepped) reached

theorem allTimely_run {actions : List (QueryAction Row)} {s : QueryState Row}
    (leaves :
      (queryService config minBatchKeys).Guarded
        (fun s action => leavesPending config s action = true) {} actions)
    (reached : (queryService config minBatchKeys).run actions = some s) :
    AllTimely s := by
  have holds :=
    (queryService config minBatchKeys).invariant_guarded
      (fun s action => leavesPending config s action = true)
      (fun s => QueryInvariant config s ∧ AllTimely s)
      (fun _ _ _ before leaves stepped =>
        ⟨before.1.step stepped, before.2.step before.1 leaves stepped⟩)
      ⟨queryInvariant_initial config, fun _ mem => by cases mem⟩
      leaves reached
  exact holds.2

/-- In every run, an answer without an error holds the rows of all the caller's keys in
the caller's order, unless the context of the batcher ended before the batch was
completed.  In a run in which no view step ends the context of a batcher while a
request waits for one of its batches, every answer is complete. -/
theorem query_answers_complete {actions : List (QueryAction Row)}
    {s : QueryState Row} (reached : (queryService config minBatchKeys).run actions = some s) :
    (∀ q keys rows, .answered q keys rows ∈ s.requests → Complete s q keys rows ∨ Overtaken s q) ∧
    ((queryService config minBatchKeys).Guarded
        (fun s action => leavesPending config s action = true) {} actions →
      ∀ q keys rows, .answered q keys rows ∈ s.requests → Complete s q keys rows) := by
  have invariant := queryInvariant_run config minBatchKeys reached
  have outcome :
      ∀ q keys rows, .answered q keys rows ∈ s.requests → Complete s q keys rows ∨ Overtaken s q :=
    fun q keys rows member => (invariant.requests _ member).2
  refine ⟨outcome, fun leaves q keys rows member => ?_⟩
  have completed : (s.batches q).cause = some .completed :=
    allTimely_run config minBatchKeys leaves reached _ member
  refine (outcome q keys rows member).resolve_right fun overtaken => ?_
  rw [overtaken.1] at completed
  cases completed

end

/-! ## A completed and an overtaken request -/

/-- A view is created and asks for three keys, one of them twice. -/
def askingActions : List (QueryAction Nat) :=
  [.views (.makeView "view" {}), .views (.advanceView 0),
    .views (.advanceView 0), .views (.getBatcher 0 "view")] ++
  List.replicate 12 (.views (.advanceCall 0 false)) ++
  [.request (some 0) "ns" [[1], [2], [1]]] ++
  List.replicate 9 (.advanceRequest 0 false)

/-- The table in which only the first of the keys has a row. -/
def sampleTable : Table Nat := fun key => if key = [1] then some 7 else none

/-- The batch is executed while the request waits. -/
def executingActions : List (QueryAction Nat) :=
  [.timer 0, .execute 0 .proceeds, .execute 0 .proceeds,
    .execute 0 (.answers sampleTable [([1], 7)]), .execute 0 .proceeds,
    .execute 0 .proceeds, .waitForRows 0 false]

/-- The view is ended by the client; its callback leaves the batcher. -/
def endingActions : List (QueryAction Nat) :=
  [.views (.removeViewID "view"), .views (.endContext 0)] ++
  List.replicate 4 (.views (.advanceView 0))

def sampleConfig : Config where
  maxAggregatedViews := 8
  maxActiveViews := none

theorem executed_request_complete :
    ∃ s,
      (queryService sampleConfig 100).run
          (askingActions ++ executingActions ++ endingActions) = some s ∧
        .answered 0 [[1], [2], [1]] [7, 7] ∈ s.requests ∧
        Complete s 0 [[1], [2], [1]] [7, 7] := by
  have ends :
      ((queryService sampleConfig 100).run (askingActions ++ executingActions ++ endingActions)).map
          (fun s => s.requests) =
        some [.answered 0 [[1], [2], [1]] [7, 7]] := by
    decide +kernel
  have leaves :
      (queryService sampleConfig 100).Guarded
        (fun s action => leavesPending sampleConfig s action = true) {}
        (askingActions ++ executingActions ++ endingActions) := by
    decide +kernel
  obtain ⟨s, reached, observed⟩ := map_eq_some_iff.mp ends
  have answered : .answered 0 [[1], [2], [1]] [7, 7] ∈ s.requests := by
    rw [observed]
    exact mem_singleton_self _
  exact
    ⟨s, reached, answered,
      (query_answers_complete sampleConfig 100 reached).2 leaves _ _ _ answered⟩

/-- The only view of the batcher ends before the batch is executed: the request is
answered with no rows although nothing was read from the database. -/
theorem overtaken_request_incomplete :
    ∃ s,
      (queryService sampleConfig 100).run
          (askingActions ++ endingActions ++ [.waitForRows 0 false]) =
          some s ∧
        .answered 0 [[1], [2], [1]] [] ∈ s.requests ∧
        ¬ Complete s 0 [[1], [2], [1]] [] := by
  have ends :
      ((queryService sampleConfig 100).run
            (askingActions ++ endingActions ++ [.waitForRows 0 false])).map
          (fun s => (s.requests, (s.batches 0).queried.isNone)) =
        some ([.answered 0 [[1], [2], [1]] []], true) := by
    decide +kernel
  obtain ⟨s, reached, observed⟩ := map_eq_some_iff.mp ends
  simp only [Prod.mk.injEq] at observed
  refine ⟨s, reached, ?_, ?_⟩
  · rw [observed.1]
    exact mem_singleton_self _
  · rintro ⟨queriedKeys, table, queried, _⟩
    rw [isNone_iff_eq_none.mp observed.2] at queried
    cases queried

end FabricXCommitter.Query
