import FabricXCommitter.Library.Fleet
import FabricXCommitter.Query.Answers

/-!
# No key is lost to a batch

It is counted how often a batch becomes the latest one of its namespace, is posted and
starts to execute.
-/

namespace FabricXCommitter.Query

open Library List

variable {Row : Type}

abbrev AddPhase := UpdateOrCreate.Phase Nat AddPc

def Execution.isIdle : Execution Row → Bool
  | .idle => true
  | _ => false

/-- The batch was created and is not assigned yet. -/
def drafted (q : Nat) : AddPhase → Nat
  | .assigning _ newVal => if newVal = q then 1 else 0
  | _ => 0

/-- The batch was assigned and is not posted yet. -/
def posting (q : Nat) : AddPhase → Nat
  | .posting newVal => if newVal = q then 1 else 0
  | _ => 0

def Request.weigh (weight : AddPhase → Nat) : Request Row → Nat
  | .adding _ _ _ phase => weight phase
  | _ => 0

def Request.returned : Request Row → List (Nat × List Bytes)
  | .adding _ _ keys (.updated q) => [(q, keys)]
  | _ => []

def QueryState.weigh (s : QueryState Row) (weight : AddPhase → Nat) : Nat :=
  (s.requests.map (Request.weigh weight)).sum

/-- The batch is not created yet. -/
def QueryState.unborn (s : QueryState Row) (q : Nat) : Nat := if s.batchCount ≤ q then 1 else 0

def QueryState.advanced (s : QueryState Row) : QueryAction Row → Request Row
  | .advanceRequest r _ => s.requests[r]?.getD .failed
  | _ => .failed

structure Counted (Row : Type) where
  state : QueryState Row := {}
  listed : Nat → Nat := fun _ => 0
  posts : Nat → Nat := fun _ => 0
  executions : Nat → Nat := fun _ => 0
  returned : List (Nat × List Bytes) := []

def Counted.count (s : Counted Row) (action : QueryAction Row) (next : QueryState Row) :
    Counted Row where
  state := next
  listed q := s.listed q + (next.advanced action).weigh (posting q)
  posts q := s.posts q + (s.state.advanced action).weigh (posting q)
  executions q :=
    s.executions q +
      if (s.state.batches q).execution.isIdle && !(next.batches q).execution.isIdle then 1 else 0
  returned := s.returned ++ (next.advanced action).returned

def countedService [DecidableEq Row] (config : Config) (minBatchKeys : Nat) :
    Machine (Counted Row) (QueryAction Row) where
  initial := {}
  step s action := (queryStep config minBatchKeys s.state action).map (s.count action)

structure BatchKept (before after : QueryBatch Row) : Prop where
  started : before.execution.isIdle = false → after.execution.isIdle = false
  frozen : before.finalized = true → after.finalized = true ∧ after.keys = before.keys
  keys : ∀ key ∈ before.keys, key ∈ after.keys

theorem BatchKept.refl (batch : QueryBatch Row) : BatchKept batch batch :=
  ⟨fun running => running, fun final => ⟨final, rfl⟩, fun _ mem => mem⟩

section

variable (s : QueryState Row) (q other : Nat) (batch : QueryBatch Row)

@[grind =]
theorem setBatch_batches :
    (s.setBatch q batch).batches other = if other = q then batch else s.batches other :=
  Function.update_apply ..

@[grind =]
theorem setBatch_batchCount : (s.setBatch q batch).batchCount = s.batchCount := rfl

@[grind =]
theorem setLatest_latest (batcher otherBatcher : Option Nat) (nsID otherID : String) :
    (s.setLatest batcher nsID q).nsToLatestQueryBatch otherBatcher otherID =
      if otherBatcher = batcher ∧ otherID = nsID then some q
      else s.nsToLatestQueryBatch otherBatcher otherID := by
  simp only [QueryState.setLatest, Function.update_apply]
  grind

end

theorem BatchKept.submit (batch : QueryBatch Row) : BatchKept batch batch.submit := by
  constructor <;> grind [QueryBatch.submit, Execution.isIdle]

theorem BatchKept.append {batch : QueryBatch Row} (notFinal : batch.finalized = false)
    (minBatchKeys : Nat) (keys : List Bytes) :
    BatchKept batch (batch.append minBatchKeys keys) ∧
      (batch.append minBatchKeys keys).finalized = false := by
  refine ⟨⟨?_, ?_, ?_⟩, ?_⟩ <;> grind [QueryBatch.append, QueryBatch.submit, Execution.isIdle]

@[grind →]
theorem Request.eq_of_returned {request : Request Row} {call : Nat × List Bytes}
    (mem : call ∈ request.returned) :
    ∃ batcher nsID, request = .adding batcher nsID call.2 (.updated call.1) := by
  unfold Request.returned at mem
  grind

section

variable {s next : QueryState Row} {q r : Nat}
  (fresh : ∀ q, s.batchCount ≤ q → s.batches q = {})

/-- What a step does to the batches. -/
structure BatchesKept (s next : QueryState Row) : Prop where
  count : s.batchCount ≤ next.batchCount
  batches : ∀ q, BatchKept (s.batches q) (next.batches q)
  fresh : ∀ q, next.batchCount ≤ q → next.batches q = {}

/-- What a step of a call does, apart from the batches. -/
structure Moves (s : QueryState Row) (before : Request Row) (next : QueryState Row)
    (after : Request Row) : Prop where
  requests : next.requests = s.requests
  weights :
    ∀ q, after.weigh (posting q) + after.weigh (drafted q) + next.unborn q ≤
      before.weigh (drafted q) + s.unborn q
  latest :
    ∀ batcher nsID q, next.nsToLatestQueryBatch batcher nsID = some q →
      s.nsToLatestQueryBatch batcher nsID = some q ∨ after.weigh (posting q) = 1
  returned : ∀ call ∈ after.returned, (next.batches call.1).finalized = false

section

variable {minBatchKeys : Nat} {batcher : Option Nat} {nsID : String} {keys : List Bytes}
  {ctxEnded : Bool} {phase nextPhase : AddPhase}
  (stepped :
    (addNamespaceKeys minBatchKeys batcher nsID keys).step s ctxEnded phase =
      some (next, nextPhase))

include stepped

theorem Moves.of_call :
    Moves s (.adding batcher nsID keys phase) next (.adding batcher nsID keys nextPhase) := by
  have append := @BatchKept.append Row
  unfold UpdateOrCreate.step at stepped
  simp only [addNamespaceKeys] at stepped
  constructor
  · grind [QueryState.setLatest, QueryState.setBatch]
  · grind [QueryState.setLatest, QueryState.unborn, Request.weigh, posting, drafted]
  · grind [Request.weigh, posting, QueryState.setBatch]
  · grind

include fresh

theorem BatchesKept.of_call (adding : Adding s keys phase) : BatchesKept s next := by
  have refl := @BatchKept.refl Row
  have append := @BatchKept.append Row
  cases phase with
  | creating val =>
    simp only [UpdateOrCreate.step, addNamespaceKeys] at stepped
    cases stepped
    refine ⟨Nat.le_succ _, fun q => ⟨?_, ?_, ?_⟩, ?_⟩
    all_goals grind [Execution.isIdle]
  | _ =>
    simp only [Adding, UpdateOrCreate.Phase.Holds, UpdateOrCreate.Phase.Knows, Allocated] at adding
    simp only [UpdateOrCreate.step, addNamespaceKeys] at stepped
    refine ⟨?_, fun q => ⟨?_, ?_, ?_⟩, ?_⟩
    all_goals grind [QueryState.setLatest, BatchKept]

end

/-- What an action does to the batches, to the calls of `addNamespaceKeys` and to the
latest batches. -/
structure Advances (s : QueryState Row) (action : QueryAction Row) (next : QueryState Row) : Prop
    extends BatchesKept s next where
  listed :
    ∀ q, (next.advanced action).weigh (posting q) + next.weigh (drafted q) + next.unborn q ≤
      s.weigh (drafted q) + s.unborn q
  posts :
    ∀ q, (s.advanced action).weigh (posting q) + next.weigh (posting q) =
      s.weigh (posting q) + (next.advanced action).weigh (posting q)
  latest :
    ∀ batcher nsID q, next.nsToLatestQueryBatch batcher nsID = some q →
      s.nsToLatestQueryBatch batcher nsID = some q ∨ (next.advanced action).weigh (posting q) = 1
  returned : ∀ call ∈ (next.advanced action).returned, (next.batches call.1).finalized = false

/-- An action that leaves the calls of `addNamespaceKeys` alone. -/
theorem Advances.quiet {action : QueryAction Row} (kept : BatchesKept s next)
    (notCall : ∀ state : QueryState Row, state.advanced action = .failed)
    (count : next.batchCount = s.batchCount)
    (latest : next.nsToLatestQueryBatch = s.nsToLatestQueryBatch)
    (weigh : ∀ weight : AddPhase → Nat, weight .loading = 0 → next.weigh weight = s.weigh weight) :
    Advances s action next where
  toBatchesKept := kept
  listed q := by simp [notCall, weigh (drafted q) rfl, count, QueryState.unborn, Request.weigh]
  posts q := by simp [notCall, weigh (posting q) rfl, Request.weigh]
  latest := by simp +contextual [latest]
  returned := by simp [notCall, Request.returned]

theorem weigh_set {before : Request Row} (found : s.requests[r]? = some before)
    (after : Request Row) {n : QueryState Row} (same : n.requests = s.requests.set r after)
    (weight : AddPhase → Nat) :
    before.weigh weight + n.weigh weight = s.weigh weight + after.weigh weight := by
  have replaced : (s.requests.set r after)[r]? = some after :=
    getElem?_set_self (List.getElem?_eq_some_iff.mp found).1
  rw [QueryState.weigh, QueryState.weigh, same, Fleet.sum_eq_others _ found,
    Fleet.sum_eq_others _ replaced, Fleet.others_set]
  omega

theorem Moves.advances {before after : Request Row} (moves : Moves s before next after)
    (kept : BatchesKept s next) (found : s.requests[r]? = some before) (ctxEnded : Bool) :
    Advances s (.advanceRequest r ctxEnded) (next.setRequest r after) := by
  have isBefore : s.advanced (.advanceRequest r ctxEnded) = before := by
    simp [QueryState.advanced, found]
  have isAfter : (next.setRequest r after).advanced (.advanceRequest r ctxEnded) = after := by
    have lt := (List.getElem?_eq_some_iff.mp found).1
    simp [QueryState.advanced, QueryState.setRequest, moves.requests, lt]
  have weigh := weigh_set found after
    (show (next.setRequest r after).requests = _ by rw [QueryState.setRequest, moves.requests])
  refine ⟨⟨kept.count, kept.batches, kept.fresh⟩, fun q => ?_, fun q => ?_, ?_, ?_⟩
  · rw [isAfter]
    have weights := moves.weights q
    have drafts := weigh (drafted q)
    change _ + _ + next.unborn q ≤ _
    omega
  · rw [isBefore, isAfter]
    exact weigh (posting q)
  · rw [isAfter]
    exact moves.latest
  · rw [isAfter]
    exact moves.returned

include fresh

theorem BatchesKept.of_execute [DecidableEq Row] {outcome : Outcome Row}
    (stepped : execute s q outcome = some next) : BatchesKept s next := by
  unfold execute at stepped
  refine ⟨?_, fun q => ⟨?_, ?_, ?_⟩, ?_⟩
  all_goals grind [QueryState.setExecution, QueryState.cancelBatch, Execution.isIdle]

theorem Advances.of_step [DecidableEq Row] {config : Config} {minBatchKeys : Nat}
    {action : QueryAction Row} (query : QueryInvariant config s)
    (stepped : queryStep config minBatchKeys s action = some next) :
    Advances s action next := by
  have same : BatchesKept s s := ⟨le_rfl, fun _ => .refl _, fresh⟩
  cases action with
  | views change =>
    obtain ⟨views, _, rfl⟩ := Option.map_eq_some_iff.mp stepped
    exact .quiet { same with } (fun _ => rfl) rfl rfl fun _ _ => rfl
  | request call nsID keys =>
    obtain ⟨batcher, _, rfl⟩ := Option.map_eq_some_iff.mp stepped
    refine .quiet { same with } (fun _ => rfl) rfl rfl fun weight idle => ?_
    simp [QueryState.weigh, Request.weigh, idle]
  | advanceRequest r ctxEnded =>
    change Query.advanceRequest minBatchKeys s r ctxEnded = some next at stepped
    revert stepped
    fun_cases Query.advanceRequest minBatchKeys s r ctxEnded with
    | case1 _ _ _ _ found | case2 _ _ _ found =>
      intro stepped
      cases stepped
      refine Moves.advances ⟨rfl, ?_, ?_, ?_⟩ same found ctxEnded
      all_goals simp +contextual [Request.weigh, Request.returned]
    | case4 batcher nsID keys phase _ _ found result nextPhase called =>
      intro stepped
      cases stepped
      have adding : Adding s keys phase := query.requests _ (mem_of_getElem? found)
      exact (Moves.of_call called).advances (.of_call fresh called adding) found ctxEnded
    | case3 | case5 =>
      intro stepped
      cases stepped
  | timer q =>
    obtain ⟨posted, moved⟩ := Option.ite_none_right_eq_some.mp stepped
    cases moved
    have submit := BatchKept.submit (s.batches q)
    refine .quiet ⟨le_rfl, fun other => ?_, ?_⟩ (fun _ => rfl) rfl rfl fun _ _ => rfl
    all_goals grind [same.batches]
  | execute q outcome =>
    have kept := BatchesKept.of_execute fresh stepped
    obtain ⟨batch, rfl, _⟩ := execute_cases (query.batches q) stepped
    exact .quiet kept (fun _ => rfl) rfl rfl fun _ _ => rfl
  | waitForRows r ctxEnded =>
    have answered {before after : Request Row} (found : s.requests[r]? = some before)
        (idle : ∀ weight, before.weigh weight = 0 ∧ after.weigh weight = 0) :
        Advances s (.waitForRows r ctxEnded) (s.setRequest r after) := by
      refine .quiet { same with } (fun _ => rfl) rfl rfl fun weight _ => ?_
      have weigh := weigh_set found after (n := s.setRequest r after) rfl weight
      rw [(idle weight).1, (idle weight).2] at weigh
      omega
    change Query.waitForRows s r ctxEnded = some next at stepped
    revert stepped
    fun_cases Query.waitForRows s r ctxEnded with
    | case1 _ _ found | case2 _ _ found | case3 _ _ found =>
      intro stepped
      cases stepped
      exact answered found fun _ => ⟨rfl, rfl⟩
    | case4 | case5 =>
      intro stepped
      cases stepped

end

structure CountedInvariant (config : Config) (s : Counted Row) : Prop where
  query : QueryInvariant config s.state
  fresh : ∀ q, s.state.batchCount ≤ q → s.state.batches q = {}
  executions :
    ∀ q, s.executions q = if (s.state.batches q).execution.isIdle then 0 else 1
  returned : ∀ call ∈ s.returned, Waits s.state call.1 call.2
  listed : ∀ q, s.listed q + s.state.weigh (drafted q) + s.state.unborn q ≤ 1
  posts : ∀ q, s.posts q + s.state.weigh (posting q) = s.listed q
  latest :
    ∀ batcher nsID q, s.state.nsToLatestQueryBatch batcher nsID = some q → s.listed q = 1

theorem QueryState.mem_of_advanced {s : QueryState Row} {action : QueryAction Row}
    {batcher : Option Nat} {nsID : String} {keys : List Bytes} {phase : AddPhase}
    (isCall : s.advanced action = .adding batcher nsID keys phase) :
    .adding batcher nsID keys phase ∈ s.requests := by
  unfold QueryState.advanced at isCall
  grind

theorem CountedInvariant.step [DecidableEq Row] {config : Config} {minBatchKeys : Nat}
    {s next : Counted Row} {action : QueryAction Row} (inv : CountedInvariant config s)
    (stepped : (countedService config minBatchKeys).step s action = some next) :
    CountedInvariant config next := by
  obtain ⟨after, moved, rfl⟩ := Option.map_eq_some_iff.mp stepped
  have advances := Advances.of_step inv.fresh inv.query moved
  have query : QueryInvariant config after := inv.query.step moved
  have listed :
      ∀ q, (s.count action after).listed q + after.weigh (drafted q) + after.unborn q ≤ 1 := by
    intro q
    have before := inv.listed q
    have moves := advances.listed q
    simp only [Counted.count]
    omega
  refine ⟨query, advances.fresh, fun q => ?_, ?_, listed, fun q => ?_, ?_⟩
  · have before := inv.executions q
    have started := (advances.batches q).started
    simp only [Counted.count]
    grind
  · intro call mem
    rcases mem_append.mp mem with old | new
    · obtain ⟨known, keys⟩ := inv.returned call old
      exact ⟨known.trans_le advances.count,
        fun key isKey => (advances.batches _).keys key (keys key isKey)⟩
    · obtain ⟨batcher, nsID, isCall⟩ := Request.eq_of_returned new
      exact query.requests _ (QueryState.mem_of_advanced isCall)
  · have before := inv.posts q
    have moves := advances.posts q
    simp only [Counted.count]
    omega
  · intro batcher nsID q found
    have atMost := listed q
    rcases advances.latest batcher nsID q found with old | new
    · have before := inv.latest batcher nsID q old
      simp only [Counted.count] at atMost ⊢
      omega
    · simp only [Counted.count, new] at atMost ⊢
      omega

end FabricXCommitter.Query
