import FabricXCommitter.Query.ViewLifecycle

/-!
# The isolation level at which a view is served

The key of a view is computed from the level cut to the range from 0 to 3, the options
of its transaction from the level itself.
-/

namespace FabricXCommitter.Query

open Library Option
open ViewsState

/-- The transaction that serves the queries of a view was opened with the options of
the view's own parameters. -/
def ServedAsRequested (s : ViewsState) : Prop :=
  ∀ c v b options,
    s.calls c = .returned v b → (s.batchers b).tx = some options →
      options = makeTxOptions (s.views v).params

def CreatesOnly (allowed : ViewParameters → Prop) (actions : List ViewsAction) : Prop :=
  ∀ viewID params, .makeView viewID params ∈ actions → allowed params

def Compatible (allowed : ViewParameters → Prop) : Prop :=
  ∀ p q, allowed p → allowed q →
    viewParametersKey p = viewParametersKey q → makeTxOptions p = makeTxOptions q

variable {allowed : ViewParameters → Prop} {ctxEnded : Bool}

section

variable {config : Config} {s next : ViewsState}

theorem advanceView_viewCount {v : Nat} (advanced : s.advanceView config v = some next) :
    next.viewCount = s.viewCount := by
  unfold ViewsState.advanceView at advanced
  repeat' split at advanced
  all_goals cases advanced
  all_goals rfl

theorem advanceCall_viewCount {c : Nat} (advanced : s.advanceCall config c ctxEnded = some next) :
    next.viewCount = s.viewCount := by
  unfold ViewsState.advanceCall at advanced
  split at advanced
  case h_7 =>
    split at advanced
    · cases advanced
    · next stepped =>
      cases advanced
      exact (updateOrCreateBatcher_keeps stepped).2
  all_goals
    repeat' split at advanced
    all_goals cases advanced
    all_goals rfl

theorem viewsStep_viewCount {action : ViewsAction}
    (stepped : viewsStep config s action = some next) :
    next.viewCount = s.viewCount ∨
      ∃ viewID params, action = .makeView viewID params ∧
        next.viewCount = s.viewCount + 1 ∧
        (next.views s.viewCount).params = params := by
  cases action with
  | makeView viewID params =>
    rcases makeView_cases stepped with rfl | ⟨_, _, rfl⟩
    · exact .inl rfl
    · refine .inr ⟨viewID, params, rfl, rfl, ?_⟩
      rw [setView_views_same]
  | advanceView v => exact .inl (advanceView_viewCount stepped)
  | advanceCall c ctxEnded => exact .inl (advanceCall_viewCount stepped)
  | endContext v | removeViewID viewID | stop | getBatcher c viewID
  | unlistBatcher b | acquire b =>
    left
    simp only [viewsStep] at stepped
    repeat' split at stepped
    all_goals cases stepped
    all_goals rfl

theorem params_allowed {actions : List ViewsAction} (creates : CreatesOnly allowed actions)
    (reached : (viewsBatcher config).run actions = some s) :
    ∀ v, v < s.viewCount → allowed (s.views v).params := by
  let creation : ViewsState → ViewsAction → Prop := fun _ action =>
    ∀ viewID params, action = .makeView viewID params → allowed params
  let inv : ViewsState → Prop := fun s =>
    ServiceInvariant config s ∧ ∀ v, v < s.viewCount → allowed (s.views v).params
  have guarded : (viewsBatcher config).Guarded creation (viewsBatcher config).initial actions := by
    refine (viewsBatcher config).guarded_of_forall ?_ _
    rintro _ action mem viewID params rfl
    exact creates viewID params mem
  have initially : inv (viewsBatcher config).initial := ⟨.initial config, fun v lt => by cases lt⟩
  have preserved :
      ∀ s action next, inv s → creation s action →
        (viewsBatcher config).step s action = some next → inv next := by
    intro s action next before allows stepped
    have kept := before.1.step stepped
    obtain ⟨actor, frame⟩ := kept.frame
    refine ⟨kept.invariant, fun v lt => ?_⟩
    by_cases older : v < s.viewCount
    · rw [frame.params v older]
      exact before.2 v older
    · rcases viewsStep_viewCount stepped with same | ⟨viewID, params, isMake, count, isParams⟩
      · omega
      · have isNew : v = s.viewCount := by omega
        subst isNew
        rw [isParams]
        exact allows viewID params isMake
  have holds :=
    (viewsBatcher config).invariant_guarded creation inv preserved initially guarded reached
  exact holds.2

end

theorem served_of_compatible {config : Config} (compatible : Compatible allowed)
    {actions : List ViewsAction} {s : ViewsState} (creates : CreatesOnly allowed actions)
    (reached : (viewsBatcher config).run actions = some s) :
    ServedAsRequested s := by
  intro c v b options returned opened
  have inv := ServiceInvariant.run reached
  have inventory := inv.core.inventory
  have suits : Suits v s b := by
    have sound := inv.calls c
    rw [returned] at sound
    exact sound
  obtain ⟨viewLt, lt, key⟩ := suits
  obtain ⟨creatorLt, isOptions⟩ := inventory.creators b lt
  have params := params_allowed creates reached
  rw [(inventory.batchers b).opened options opened, isOptions]
  exact compatible _ _ (params _ creatorLt) (params v viewLt) key

section

def crossConfig : Config where
  maxAggregatedViews := 2
  maxActiveViews := none

/-- Two views are created; the first one creates a batcher, and the second one looks
it up. -/
def crossPrelude (p q : ViewParameters) : List ViewsAction :=
  [.makeView "first" p, .advanceView 0, .advanceView 0,
    .makeView "second" q, .advanceView 1, .advanceView 1,
    .getBatcher 0 "first"] ++
  List.replicate 12 (.advanceCall 0 false) ++
  [.getBatcher 1 "second"] ++
  List.replicate 3 (.advanceCall 1 false)

/-- The second view joins the batcher, whose transaction is opened. -/
def crossJoin : List ViewsAction := List.replicate 4 (.advanceCall 1 false) ++ [.acquire 0]

def crossRun (p q : ViewParameters) : List ViewsAction :=
  crossPrelude p q ++ .advanceCall 1 false :: crossJoin

def crossState (p q : ViewParameters) : ViewsState :=
  ((viewsBatcher crossConfig).run (crossPrelude p q)).getD {}

theorem crossPrelude_run (p q : ViewParameters) :
    (viewsBatcher crossConfig).run (crossPrelude p q) = some (crossState p q) := by
  have completes : ((viewsBatcher crossConfig).run (crossPrelude p q)).isSome = true := by rfl
  obtain ⟨s, reached⟩ := isSome_iff_exists.mp completes
  rw [crossState, reached, getD_some]

theorem advanceCall_loading {config : Config} {s : ViewsState} {c v : Nat}
    (phase : s.calls c = .assigning v .loading) :
    viewsStep config s (.advanceCall c ctxEnded) =
      some
        (s.setCall c
          (.assigning v
            (.attempting
              (s.viewParametersToLatestBatcher (viewParametersKey (s.views v).params))))) := by
  simp only [viewsStep, ViewsState.advanceCall, phase, UpdateOrCreate.step]
  rfl

theorem crossState_load {p q : ViewParameters}
    (sameKey : viewParametersKey p = viewParametersKey q) :
    viewsStep crossConfig (crossState p q) (.advanceCall 1 false) =
      some ((crossState p q).setCall 1 (.assigning 1 (.attempting (some 0)))) := by
  have phase : (crossState p q).calls 1 = .assigning 1 .loading := by rfl
  have params : ((crossState p q).views 1).params = q := by rfl
  have listing :
      (crossState p q).viewParametersToLatestBatcher =
        Function.update (fun _ => none) (viewParametersKey p) (some 0) := by
    rfl
  rw [advanceCall_loading phase, listing, params, ← sameKey, Function.update_self]

theorem crossJoin_run (p q : ViewParameters) :
    ((viewsBatcher crossConfig).runFrom
        ((crossState p q).setCall 1 (.assigning 1 (.attempting (some 0))))
        crossJoin).map
        (fun s => (s.calls 1, (s.batchers 0).tx, (s.views 1).params)) =
      some (.returned 1 0, some (makeTxOptions p), q) := by
  rfl

theorem crossRun_serves {p q : ViewParameters}
    (sameKey : viewParametersKey p = viewParametersKey q) :
    ∃ s, (viewsBatcher crossConfig).run (crossRun p q) = some s ∧
      s.calls 1 = .returned 1 0 ∧
      (s.batchers 0).tx = some (makeTxOptions p) ∧
      (s.views 1).params = q := by
  obtain ⟨s, joined, observed⟩ := map_eq_some_iff.mp (crossJoin_run p q)
  simp only [Prod.mk.injEq] at observed
  refine ⟨s, ?_, observed.1, observed.2.1, observed.2.2⟩
  have loaded := crossState_load sameKey
  have prelude := crossPrelude_run p q
  rw [Machine.run] at prelude
  rw [Machine.run, crossRun, Machine.runFrom_append, prelude, bind_some, Machine.runFrom_cons]
  have stepped :
      (viewsBatcher crossConfig).step (crossState p q) (.advanceCall 1 false) =
        some ((crossState p q).setCall 1 (.assigning 1 (.attempting (some 0)))) :=
    loaded
  rw [stepped, bind_some]
  exact joined

theorem crossRun_creates {p q : ViewParameters} (first : allowed p) (second : allowed q) :
    CreatesOnly allowed (crossRun p q) := by
  intro viewID params mem
  simp [crossRun, crossPrelude, crossJoin, List.replicate] at mem
  rcases mem with ⟨_, rfl⟩ | ⟨_, rfl⟩
  · exact first
  · exact second

end

/-- Whatever the order in which views with the given parameters are created,
aggregated and queried, each one is served as it asked for if and only if parameters
of the same key have the same options. -/
theorem isolation_served_iff (allowed : ViewParameters → Prop) :
    (∀ config actions s,
      CreatesOnly allowed actions →
        (viewsBatcher config).run actions = some s → ServedAsRequested s) ↔
      Compatible allowed := by
  constructor
  · intro served p q first second sameKey
    obtain ⟨s, reached, returned, opened, params⟩ := crossRun_serves sameKey
    have asRequested :=
      served crossConfig (crossRun p q) s (crossRun_creates first second)
        reached 1 1 0 _ returned opened
    rw [params] at asRequested
    exact asRequested
  · intro compatible config actions s creates reached
    exact served_of_compatible compatible creates reached

/-- A view that asked for `READ_UNCOMMITTED` shares the transaction of a view that
asked for `READ_COMMITTED`. -/
theorem readUncommitted_served_at_readCommitted :
    ∃ s,
      (viewsBatcher crossConfig).run
          (crossRun { isoLevel := IsoLevel.readCommitted }
            { isoLevel := IsoLevel.readUncommitted }) = some s ∧
        ¬ ServedAsRequested s := by
  obtain ⟨s, reached, returned, opened, params⟩ :=
    crossRun_serves
      (p := { isoLevel := IsoLevel.readCommitted })
      (q := { isoLevel := IsoLevel.readUncommitted }) (by decide)
  refine ⟨s, reached, fun served => ?_⟩
  have asRequested := served 1 1 0 _ returned opened
  rw [params] at asRequested
  revert asRequested
  decide

end FabricXCommitter.Query
