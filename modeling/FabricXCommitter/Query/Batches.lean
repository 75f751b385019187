import FabricXCommitter.Query.Views
import FabricXCommitter.Transaction

/-!
# Query batches

The context of a batch ends with that of its batcher.  The maps for rows and for
statuses are one map.
-/

namespace FabricXCommitter.Query

open Library Function

/-- The cause with which a batch ended its own context. -/
inductive Cause where
  | completed
  | failed
  deriving DecidableEq, Repr

/-- The rows of a namespace by their keys. -/
abbrev Table (Row : Type) := Bytes → Option Row

/-- How far `execute` has come. -/
inductive Execution (Row : Type) where
  | idle
  | starting
  | acquiring
  | querying
  | filling (rows : List (Bytes × Row))
  | ended

structure QueryBatch (Row : Type) where
  /-- The batcher of the batch; none is the batcher for non-consistent queries. -/
  batcher : Option Nat := none
  nsID : String := ""
  keys : List Bytes := []
  posted : Bool := false
  execution : Execution Row := .idle
  finalized : Bool := false
  result : Option (Table Row) := none
  cause : Option Cause := none
  /-- The keys with which the query was executed, and the table it read. -/
  queried : Option (List Bytes × Table Row) := none

/-- The steps of `addKeys`: the test of the context, and the critical section. -/
inductive AddPc where
  | check
  | add
  deriving DecidableEq, Repr

inductive Request (Row : Type) where
  | adding (batcher : Option Nat) (nsID : String) (keys : List Bytes)
      (phase : UpdateOrCreate.Phase Nat AddPc)
  | waiting (q : Nat) (keys : List Bytes)
  | answered (q : Nat) (keys : List Bytes) (rows : List Row)
  | failed
  deriving DecidableEq

structure QueryState (Row : Type) where
  views : ViewsState := {}
  batches : Nat → QueryBatch Row := fun _ => {}
  batchCount : Nat := 0
  nsToLatestQueryBatch : Option Nat → String → Option Nat := fun _ _ => none
  requests : List (Request Row) := []

namespace QueryState

variable {Row : Type}

def setBatch (s : QueryState Row) (q : Nat) (batch : QueryBatch Row) : QueryState Row :=
  { s with batches := update s.batches q batch }

def setRequest (s : QueryState Row) (r : Nat) (request : Request Row) : QueryState Row :=
  { s with requests := s.requests.set r request }

def setLatest (s : QueryState Row) (batcher : Option Nat) (nsID : String)
    (q : Nat) : QueryState Row :=
  { s with
    nsToLatestQueryBatch :=
      update s.nsToLatestQueryBatch batcher
        (update (s.nsToLatestQueryBatch batcher) nsID (some q)) }

/-- The context of the batcher ended. -/
def batcherDone (s : QueryState Row) : Option Nat → Bool
  | none => s.views.stopped
  | some b => s.views.isStale b

/-- The context of the batch ended. -/
def batchDone (s : QueryState Row) (q : Nat) : Bool :=
  (s.batches q).cause.isSome || s.batcherDone (s.batches q).batcher

/-- End the context of a batch; a context that ended keeps its cause. -/
def cancelBatch (s : QueryState Row) (q : Nat) (cause : Cause) : QueryState Row :=
  if s.batchDone q then
    s
  else
    s.setBatch q { s.batches q with cause := some cause }

def setExecution (s : QueryState Row) (q : Nat) (execution : Execution Row) : QueryState Row :=
  s.setBatch q { s.batches q with execution := execution }

end QueryState

/-- `execute` is started once. -/
def QueryBatch.submit {Row : Type} (batch : QueryBatch Row) : QueryBatch Row :=
  match batch.execution with
  | .idle => { batch with execution := .starting }
  | _ => batch

/-- The critical section of `addKeys` on a batch that is not finalized. -/
def QueryBatch.append {Row : Type} (minBatchKeys : Nat) (batch : QueryBatch Row)
    (keys : List Bytes) : QueryBatch Row :=
  let extended := { batch with keys := batch.keys ++ keys }
  if minBatchKeys ≤ extended.keys.length then extended.submit else extended

/-- Each key once, in the order of the first occurrences. -/
def uniqueKeys (keys : List Bytes) : List Bytes :=
  keys.foldl (fun unique key => if key ∈ unique then unique else unique ++ [key]) []

def existingRows {Row : Type} (table : Table Row) (keys : List Bytes) : List (Bytes × Row) :=
  keys.filterMap fun key => (table key).map fun row => (key, row)

def extractRows {Row : Type} (result : Option (Table Row)) (keys : List Bytes) : List Row :=
  match result with
  | none => []
  | some rows => keys.filterMap rows

section

variable {Row : Type} [DecidableEq Row]

/-- The choices of the environment in a step of `execute`. -/
inductive Outcome (Row : Type) where
  | proceeds
  | fails
  | answers (table : Table Row) (rows : List (Bytes × Row))

def addNamespaceKeys (minBatchKeys : Nat) (batcher : Option Nat)
    (nsID : String) (keys : List Bytes) :
    UpdateOrCreate (QueryState Row) Nat AddPc where
  load s := s.nsToLatestQueryBatch batcher nsID
  store s q := s.setLatest batcher nsID q
  create s :=
    ({ s.setBatch s.batchCount { batcher := batcher, nsID := nsID } with
        batchCount := s.batchCount + 1 },
      s.batchCount)
  post s q := s.setBatch q { s.batches q with posted := true }
  start := .check
  update s q
    | .check =>
      if s.batchDone q then
        some (s, .returned false)
      else
        some (s, .running .add)
    | .add =>
      if (s.batches q).finalized then
        some (s, .returned false)
      else
        some (s.setBatch q ((s.batches q).append minBatchKeys keys), .returned true)

/-- The next step of a request that is assigned to a batch, whose caller's context
ended if `ctxEnded`. -/
def advanceRequest (minBatchKeys : Nat) (s : QueryState Row)
    (r : Nat) (ctxEnded : Bool) : Option (QueryState Row) :=
  match s.requests[r]? with
  | some (.adding _ _ keys (.updated q)) => some (s.setRequest r (.waiting q keys))
  | some (.adding _ _ _ .ended) => some (s.setRequest r .failed)
  | some (.adding batcher nsID keys phase) =>
    match (addNamespaceKeys minBatchKeys batcher nsID keys).step s ctxEnded phase with
    | none => none
    | some (next, nextPhase) => some (next.setRequest r (.adding batcher nsID keys nextPhase))
  | _ => none

/-- The next step of `execute`. -/
def execute (s : QueryState Row) (q : Nat) (outcome : Outcome Row) : Option (QueryState Row) :=
  let batch := s.batches q
  match batch.execution, outcome with
  | .starting, .proceeds =>
    if s.batchDone q then
      some (s.setExecution q .ended)
    else
      some (s.setExecution q .acquiring)
  | .acquiring, .fails => some ((s.cancelBatch q .failed).setExecution q .ended)
  | .acquiring, .proceeds =>
    some (s.setBatch q { batch with finalized := true, execution := .querying })
  | .querying, .fails => some ((s.cancelBatch q .failed).setExecution q .ended)
  | .querying, .answers table rows =>
    if rows.Perm (existingRows table (uniqueKeys batch.keys)) then
      some
        (s.setBatch q
          { batch with
            queried := some (uniqueKeys batch.keys, table)
            result := some fun _ => none
            execution := .filling rows })
    else
      none
  | .filling ((key, row) :: rest), .proceeds =>
    some
      (s.setBatch q
        { batch with
          result := batch.result.map fun rows => update rows key (some row)
          execution := .filling rest })
  | .filling [], .proceeds => some ((s.cancelBatch q .completed).setExecution q .ended)
  | _, _ => none

/-- The outcome of `waitForRows`, whose caller's context ended if `ctxEnded`. -/
def waitForRows (s : QueryState Row) (r : Nat) (ctxEnded : Bool) : Option (QueryState Row) :=
  match s.requests[r]? with
  | some (.waiting q keys) =>
    if ctxEnded then
      some (s.setRequest r .failed)
    else if s.batchDone q then
      if (s.batches q).cause = some .failed then
        some (s.setRequest r .failed)
      else
        -- The batch was completed, or the context of its batcher ended: both have
        -- the cause `context.Canceled`.
        some (s.setRequest r (.answered q keys (extractRows (s.batches q).result keys)))
    else
      none
  | _ => none

inductive QueryAction (Row : Type) where
  | views (action : ViewsAction)
  /-- A request for keys of a namespace, for the view of a call of `getBatcher` or, if
  there is none, not in a view. -/
  | request (call : Option Nat) (nsID : String) (keys : List Bytes)
  | advanceRequest (r : Nat) (ctxEnded : Bool)
  | timer (q : Nat)
  | execute (q : Nat) (outcome : Outcome Row)
  | waitForRows (r : Nat) (ctxEnded : Bool)

def returnedBatcher (s : ViewsState) : Option Nat → Option (Option Nat)
  | none => some none
  | some c =>
    match s.calls c with
    | .returned _ b => some (some b)
    | _ => none

def queryStep (config : Config) (minBatchKeys : Nat) (s : QueryState Row) :
    QueryAction Row → Option (QueryState Row)
  | .views action =>
    (viewsStep config s.views action).map fun views => { s with views := views }
  | .request call nsID keys =>
    (returnedBatcher s.views call).map fun batcher =>
      { s with
        requests := s.requests ++ [.adding batcher nsID keys .loading] }
  | .advanceRequest r ctxEnded => advanceRequest minBatchKeys s r ctxEnded
  | .timer q =>
    if (s.batches q).posted then
      some (s.setBatch q (s.batches q).submit)
    else
      none
  | .execute q outcome => execute s q outcome
  | .waitForRows r ctxEnded => waitForRows s r ctxEnded

def queryService (config : Config) (minBatchKeys : Nat) :
    Machine (QueryState Row) (QueryAction Row) where
  initial := {}
  step := queryStep config minBatchKeys

end

open List

/-! ## The result of a batch -/

variable {key : Bytes}

theorem mem_uniqueKeys {keys : List Bytes} : key ∈ uniqueKeys keys ↔ key ∈ keys := by
  have folded :
      ∀ unique : List Bytes,
        key ∈
            keys.foldl
              (fun unique key =>
                if key ∈ unique then unique else unique ++ [key]) unique ↔
          key ∈ unique ∨ key ∈ keys := by
    induction keys with
    | nil => simp
    | cons head rest ih =>
      intro unique
      rw [foldl_cons, ih]
      by_cases known : head ∈ unique
      · rw [if_pos known, mem_cons]
        constructor
        · rintro (old | later)
          · exact .inl old
          · exact .inr (.inr later)
        · rintro (old | rfl | later)
          · exact .inl old
          · exact .inl known
          · exact .inr later
      · rw [if_neg known]
        simp [or_assoc]
  simpa [uniqueKeys] using folded []

theorem mem_existingRows {Row : Type} {table : Table Row} {keys : List Bytes} {row : Row} :
    (key, row) ∈ existingRows table keys ↔ key ∈ keys ∧ table key = some row := by
  simp only [existingRows, mem_filterMap, Option.map_eq_some_iff, Prod.mk.injEq]
  constructor
  · rintro ⟨found, mem, foundRow, isRow, rfl, rfl⟩
    exact ⟨mem, isRow⟩
  · rintro ⟨mem, isRow⟩
    exact ⟨key, mem, row, isRow, rfl, rfl⟩

/-- The result holds rows of the queried keys, and all of them but those still to be
filled in. -/
structure Filled {Row : Type} (keys : List Bytes) (table rows : Table Row)
    (rest : List (Bytes × Row)) : Prop where
  filled : ∀ key row, rows key = some row → key ∈ keys ∧ table key = some row
  missing : ∀ key row, key ∈ keys → table key = some row → rows key = some row ∨ (key, row) ∈ rest
  pending : ∀ key row, (key, row) ∈ rest → key ∈ keys ∧ table key = some row

namespace Filled

variable {Row : Type} {keys : List Bytes} {table rows : Table Row}

theorem start {rest : List (Bytes × Row)} (answered : rest.Perm (existingRows table keys)) :
    Filled keys table (fun _ => none) rest where
  filled := fun key row impossible => by cases impossible
  missing := by
    intro key row mem isRow
    right
    rw [answered.mem_iff, mem_existingRows]
    exact ⟨mem, isRow⟩
  pending := by
    intro key row isPending
    rw [answered.mem_iff, mem_existingRows] at isPending
    exact isPending

theorem fill {row : Row} {rest : List (Bytes × Row)}
    (before : Filled keys table rows ((key, row) :: rest)) :
    Filled keys table (update rows key (some row)) rest := by
  have isRow := before.pending key row mem_cons_self
  constructor
  · intro other otherRow inResult
    by_cases same : other = key
    · subst same
      rw [update_self] at inResult
      cases inResult
      exact isRow
    · rw [update_of_ne same] at inResult
      exact before.filled other otherRow inResult
  · intro other otherRow mem isOther
    by_cases same : other = key
    · subst same
      left
      rw [update_self, ← isRow.2, isOther]
    · rw [update_of_ne same]
      rcases before.missing other otherRow mem isOther with inResult | isPending
      · exact .inl inResult
      · right
        rcases mem_cons.mp isPending with isHead | later
        · cases isHead
          exact absurd rfl same
        · exact later
  · intro other otherRow isPending
    exact before.pending other otherRow (mem_cons_of_mem _ isPending)

theorem complete (done : Filled keys table rows []) (mem : key ∈ keys) : rows key = table key := by
  cases isRow : table key with
  | none =>
    cases inResult : rows key with
    | none => rfl
    | some row =>
      have found := (done.filled key row inResult).2
      rw [isRow] at found
      cases found
  | some row =>
    rcases done.missing key row mem isRow with inResult | impossible
    · exact inResult
    · cases impossible

end Filled

/-! ## What a batch keeps -/

def Execution.beforeQuery {Row : Type} : Execution Row → Bool
  | .idle | .starting | .acquiring | .querying => true
  | .filling _ | .ended => false

structure QueryBatch.Sound {Row : Type} (batch : QueryBatch Row) : Prop where
  querying : batch.execution = .querying → batch.finalized = true
  unqueried : batch.execution.beforeQuery = true → batch.queried = none
  filling :
    ∀ rest, batch.execution = .filling rest →
      ∃ keys table rows, batch.queried = some (keys, table) ∧
        batch.result = some rows ∧ Filled keys table rows rest
  queried :
    ∀ keys table, batch.queried = some (keys, table) →
      batch.finalized = true ∧ ∀ key ∈ batch.keys, key ∈ keys
  completed :
    batch.cause = some .completed →
      batch.execution = .ended ∧
        ∃ keys table rows, batch.queried = some (keys, table) ∧
          batch.result = some rows ∧ ∀ key ∈ keys, rows key = table key

/-- How a step changes a batch, whose context ended if `done`. -/
structure BatchGrows {Row : Type} (done : Bool) (before after : QueryBatch Row) : Prop where
  batcher : after.batcher = before.batcher
  keys : ∀ key ∈ before.keys, key ∈ after.keys
  queried : ∀ known, before.queried = some known → after.queried = some known
  cause : done = true → after.cause = before.cause

section

variable {Row : Type} {batch : QueryBatch Row}

theorem BatchGrows.refl (done : Bool) (batch : QueryBatch Row) : BatchGrows done batch batch :=
  ⟨rfl, fun _ mem => mem, fun _ known => known, fun _ => rfl⟩

theorem QueryBatch.Sound.initial (batcher : Option Nat) (nsID : String) :
    ({ batcher := batcher, nsID := nsID } : QueryBatch Row).Sound where
  querying := fun impossible => by cases impossible
  unqueried := fun _ => rfl
  filling := fun _ impossible => by cases impossible
  queried := fun _ _ impossible => by cases impossible
  completed := fun impossible => by cases impossible

theorem QueryBatch.submit_eq (batch : QueryBatch Row) :
    batch.submit = batch ∨
      batch.execution = .idle ∧ batch.submit = { batch with execution := .starting } := by
  unfold QueryBatch.submit
  split
  · next isIdle =>
    exact .inr ⟨isIdle, rfl⟩
  · exact .inl rfl

theorem QueryBatch.Sound.not_completed (sound : batch.Sound) (running : batch.execution ≠ .ended) :
    batch.cause ≠ some .completed :=
  fun completed => running (sound.completed completed).1

theorem QueryBatch.Sound.submit (sound : batch.Sound) : batch.submit.Sound := by
  rcases QueryBatch.submit_eq batch with unchanged | ⟨isIdle, starts⟩
  · rw [unchanged]
    exact sound
  · rw [starts]
    constructor
    · intro impossible
      cases impossible
    · intro _
      exact sound.unqueried (by rw [isIdle]; rfl)
    · intro rest impossible
      cases impossible
    · exact sound.queried
    · exact fun completed => absurd completed (sound.not_completed (by simp [isIdle]))

theorem BatchGrows.submit (done : Bool) (batch : QueryBatch Row) :
    BatchGrows done batch batch.submit := by
  rcases QueryBatch.submit_eq batch with unchanged | ⟨_, starts⟩
  · rw [unchanged]
    exact .refl done batch
  · rw [starts]
    exact { BatchGrows.refl _ _ with }

theorem QueryBatch.Sound.extend (sound : batch.Sound) (notFinalized : batch.finalized = false)
    (keys : List Bytes) :
    ({ batch with keys := batch.keys ++ keys } : QueryBatch Row).Sound where
  querying := sound.querying
  unqueried := sound.unqueried
  filling := sound.filling
  queried := by
    intro queriedKeys table queried
    have finalized := (sound.queried queriedKeys table queried).1
    rw [notFinalized] at finalized
    cases finalized
  completed := sound.completed

theorem QueryBatch.Sound.append (sound : batch.Sound) (notFinalized : batch.finalized = false)
    (minBatchKeys : Nat) (keys : List Bytes) :
    (batch.append minBatchKeys keys).Sound := by
  have extended := sound.extend notFinalized keys
  unfold QueryBatch.append
  simp only
  split
  · exact extended.submit
  · exact extended

theorem BatchGrows.append (done : Bool) (batch : QueryBatch Row)
    (minBatchKeys : Nat) (keys : List Bytes) :
    BatchGrows done batch (batch.append minBatchKeys keys) ∧
      ∀ key ∈ keys, key ∈ (batch.append minBatchKeys keys).keys := by
  have grows : BatchGrows done batch { batch with keys := batch.keys ++ keys } :=
    { BatchGrows.refl _ batch with keys := fun _ mem => mem_append_left _ mem }
  unfold QueryBatch.append
  simp only
  split
  · have submitted := BatchGrows.submit done { batch with keys := batch.keys ++ keys }
    refine ⟨{ submitted with keys := ?_ }, ?_⟩
    · exact fun key mem => submitted.keys key (grows.keys key mem)
    · exact fun key mem => submitted.keys key (mem_append_right _ mem)
  · exact ⟨grows, fun key mem => mem_append_right _ mem⟩

section

variable (sound : batch.Sound)

include sound

theorem QueryBatch.Sound.end (running : batch.execution ≠ .ended) {cause : Option Cause}
    (notCompleted : cause = some .completed → batch.cause = some .completed) :
    ({ batch with cause := cause, execution := .ended } : QueryBatch Row).Sound
    where
  querying := fun impossible => by cases impossible
  unqueried := fun impossible => by cases impossible
  filling := fun _ impossible => by cases impossible
  queried := sound.queried
  completed := fun completed => absurd (notCompleted completed) (sound.not_completed running)

theorem QueryBatch.Sound.acquire (starting : batch.execution = .starting) :
    ({ batch with execution := .acquiring } : QueryBatch Row).Sound where
  querying := fun impossible => by cases impossible
  unqueried := fun _ => sound.unqueried (by rw [starting]; rfl)
  filling := fun _ impossible => by cases impossible
  queried := sound.queried
  completed := fun completed => absurd completed (sound.not_completed (by simp [starting]))

theorem QueryBatch.Sound.finalize (acquiring : batch.execution = .acquiring) :
    ({ batch with finalized := true, execution := .querying } : QueryBatch Row).Sound where
  querying := fun _ => rfl
  unqueried := fun _ => sound.unqueried (by rw [acquiring]; rfl)
  filling := fun _ impossible => by cases impossible
  queried := by
    intro keys table queried
    exact ⟨rfl, (sound.queried keys table queried).2⟩
  completed := fun completed => absurd completed (sound.not_completed (by simp [acquiring]))

theorem QueryBatch.Sound.answer
    (querying : batch.execution = .querying) {table : Table Row} {rows : List (Bytes × Row)}
    (answered : rows.Perm (existingRows table (uniqueKeys batch.keys))) :
    ({ batch with
        queried := some (uniqueKeys batch.keys, table)
        result := some fun _ => none
        execution := .filling rows } : QueryBatch Row).Sound where
  querying := fun impossible => by cases impossible
  unqueried := fun impossible => by cases impossible
  filling := by
    intro rest isFilling
    cases isFilling
    exact ⟨uniqueKeys batch.keys, table, _, rfl, rfl, .start answered⟩
  queried := by
    intro keys isTable queried
    cases queried
    exact ⟨sound.querying querying, fun key mem => mem_uniqueKeys.mpr mem⟩
  completed := fun completed => absurd completed (sound.not_completed (by simp [querying]))

theorem QueryBatch.Sound.fill {row : Row} {rest : List (Bytes × Row)}
    (isFilling : batch.execution = .filling ((key, row) :: rest)) :
    ({ batch with
        result := batch.result.map fun rows => update rows key (some row)
        execution := .filling rest } : QueryBatch Row).Sound := by
  obtain ⟨keys, table, rows, queried, result, filled⟩ := sound.filling _ isFilling
  constructor
  · intro impossible
    cases impossible
  · intro impossible
    cases impossible
  · intro others isRest
    cases isRest
    refine ⟨keys, table, _, queried, ?_, filled.fill⟩
    rw [result]
    rfl
  · exact sound.queried
  · exact fun completed => absurd completed (sound.not_completed (by simp [isFilling]))

theorem QueryBatch.Sound.complete
    (isFilling : batch.execution = .filling []) {cause : Option Cause} :
    ({ batch with cause := cause, execution := .ended } : QueryBatch Row).Sound := by
  obtain ⟨keys, table, rows, queried, result, filled⟩ := sound.filling _ isFilling
  constructor
  · intro impossible
    cases impossible
  · intro impossible
    cases impossible
  · intro rest impossible
    cases impossible
  · exact sound.queried
  · intro _
    exact ⟨rfl, keys, table, rows, queried, result, fun key mem => filled.complete mem⟩

end

end

end FabricXCommitter.Query
