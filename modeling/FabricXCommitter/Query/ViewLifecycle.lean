import FabricXCommitter.Query.ViewInvariant

/-!
# The lifecycle of views and batchers
-/

namespace FabricXCommitter.Query

open Library
open ViewsState

/-! ## What a call relies on -/

def Held (c v : Nat) (s : ViewsState) : Prop := v < s.viewCount ∧ (s.views v).lock = some c

/-- The call may assign a batcher to the view. -/
structure Assignable (c v : Nat) (s : ViewsState) : Prop where
  held : Held c v s
  notRetired : (s.views v).retired = false
  unassigned : (s.views v).batcher = none

def Suits (v : Nat) (s : ViewsState) (b : Nat) : Prop :=
  v < s.viewCount ∧ b < s.batcherCount ∧ s.batcherKey b = s.viewKey v

def Assigning (c v : Nat) (s : ViewsState) (phase : UpdateOrCreate.Phase Nat Unit) : Prop :=
  phase.Holds (Assignable c v) (fun s _ => Held c v s) (Suits v) (fun _ _ _ => True) s

def CallPhase.Sound (s : ViewsState) (c : Nat) : CallPhase → Prop
  | .idle | .loading _ | .failed => True
  | .locking v => v < s.viewCount
  | .checking v | .staleCheck v => Held c v s
  | .assigning v phase => Assigning c v s phase
  | .returned v b => Suits v s b

/-- What the other calls rely on is not changed by a step of `actor`; no view that was
retired comes back, and no context of a batcher that ended. -/
structure Frame (actor : Option Nat) (s next : ViewsState) : Prop where
  viewCount : s.viewCount ≤ next.viewCount
  batcherCount : s.batcherCount ≤ next.batcherCount
  locked :
    ∀ v c, some c ≠ actor → (s.views v).lock = some c →
      (next.views v).lock = some c ∧
        (next.views v).retired = (s.views v).retired ∧
        (next.views v).batcher = (s.views v).batcher
  params : ∀ v, v < s.viewCount → (next.views v).params = (s.views v).params
  creator : ∀ b, b < s.batcherCount → (next.batchers b).creator = (s.batchers b).creator
  retired : ∀ v, (s.views v).retired = true → (next.views v).retired = true
  stale : ∀ b, s.isStale b = true → next.isStale b = true

variable {phase : UpdateOrCreate.Phase Nat Unit}

section

variable {config : Config} {actor : Option Nat} {s next last : ViewsState}

theorem Frame.of_same (views : next.views = s.views) (batchers : next.batchers = s.batchers)
    (viewCount : next.viewCount = s.viewCount) (batcherCount : next.batcherCount = s.batcherCount)
    (stopped : s.stopped = true → next.stopped = true) :
    Frame actor s next where
  viewCount := viewCount.ge
  batcherCount := batcherCount.ge
  locked := by
    intro v c _ locked
    rw [views]
    exact ⟨locked, rfl, rfl⟩
  params := fun v _ => by rw [views]
  creator := fun b _ => by rw [batchers]
  retired := by
    intro v retired
    rw [views]
    exact retired
  stale := by
    intro b stale
    rw [isStale, Bool.or_eq_true] at stale ⊢
    rw [batchers]
    exact stale.imp_right stopped

theorem Frame.refl (s : ViewsState) : Frame actor s s :=
  .of_same rfl rfl rfl rfl fun stopped => stopped

theorem Frame.trans (first : Frame actor s next) (second : Frame actor next last) :
    Frame actor s last where
  viewCount := first.viewCount.trans second.viewCount
  batcherCount := first.batcherCount.trans second.batcherCount
  locked := by
    intro v c other locked
    obtain ⟨nextLocked, nextRetired, nextBatcher⟩ := first.locked v c other locked
    obtain ⟨lastLocked, lastRetired, lastBatcher⟩ := second.locked v c other nextLocked
    exact ⟨lastLocked, lastRetired.trans nextRetired, lastBatcher.trans nextBatcher⟩
  params := by
    intro v lt
    exact (second.params v (lt.trans_le first.viewCount)).trans (first.params v lt)
  creator := by
    intro b lt
    exact (second.creator b (lt.trans_le first.batcherCount)).trans (first.creator b lt)
  retired := fun v retired => second.retired v (first.retired v retired)
  stale := fun b stale => second.stale b (first.stale b stale)

theorem Frame.setView {v : Nat} {holder : ViewHolder} (params : holder.params = (s.views v).params)
    (locked :
      ∀ c, some c ≠ actor → (s.views v).lock = some c →
        holder.lock = some c ∧ holder.retired = (s.views v).retired ∧
          holder.batcher = (s.views v).batcher)
    (retired : (s.views v).retired = true → holder.retired = true) :
    Frame actor s (s.setView v holder) where
  viewCount := le_rfl
  batcherCount := le_rfl
  locked := by
    intro w c other isLocked
    by_cases same : w = v
    · subst same
      rw [setView_views_same]
      exact locked c other isLocked
    · rw [setView_views_of_ne same]
      exact ⟨isLocked, rfl, rfl⟩
  params := fun w _ => setView_keeps ViewHolder.params params w
  creator := fun _ _ => rfl
  retired := by
    intro w wasRetired
    by_cases same : w = v
    · subst same
      rw [setView_views_same]
      exact retired wasRetired
    · rw [setView_views_of_ne same]
      exact wasRetired
  stale := fun _ stale => stale

theorem Frame.setBatcher {b : Nat} {batcher : Batcher}
    (creator : batcher.creator = (s.batchers b).creator)
    (cancelled : (s.batchers b).cancelled = true → batcher.cancelled = true) :
    Frame actor s (s.setBatcher b batcher) where
  viewCount := le_rfl
  batcherCount := le_rfl
  locked := fun _ _ _ locked => ⟨locked, rfl, rfl⟩
  params := fun _ _ => rfl
  creator := fun other _ => setBatcher_keeps Batcher.creator creator other
  retired := fun _ retired => retired
  stale := by
    intro other stale
    rw [isStale, Bool.or_eq_true] at stale ⊢
    refine stale.imp (fun wasCancelled => ?_) (fun stopped => stopped)
    by_cases same : other = b
    · subst same
      rw [setBatcher_batchers_same]
      exact cancelled wasCancelled
    · rw [setBatcher_batchers_of_ne same]
      exact wasCancelled

theorem Frame.createBatcher (inventory : Inventory config s) (v : Nat) :
    Frame actor s (s.createBatcher v) where
  viewCount := le_rfl
  batcherCount := Nat.le_succ _
  locked := fun _ _ _ locked => ⟨locked, rfl, rfl⟩
  params := fun _ _ => rfl
  creator := by
    intro b lt
    change ((s.setBatcher _ _).batchers b).creator = _
    rw [setBatcher_batchers_of_ne (Nat.ne_of_lt lt)]
  retired := fun _ retired => retired
  stale := by
    intro b stale
    rw [isStale, Bool.or_eq_true] at stale ⊢
    refine stale.imp (fun cancelled => ?_) (fun stopped => stopped)
    have older : b ≠ s.batcherCount := by
      rintro rfl
      rw [inventory.freshBatcher s.batcherCount le_rfl] at cancelled
      cases cancelled
    change ((s.setBatcher _ _).batchers b).cancelled = true
    rw [setBatcher_batchers_of_ne older]
    exact cancelled

theorem Frame.makeView {viewID : String} {params : ViewParameters}
    (inventory : Inventory config s) (made : s.makeView config viewID params = some next) :
    Frame actor s next := by
  rcases makeView_cases made with rfl | ⟨permits, counted, rfl⟩
  · exact .refl _
  · have others :
        ∀ w, w ≠ s.viewCount →
          (s.setView s.viewCount
            { viewID := viewID, params := params, phase := .acquired }).views w = s.views w :=
      fun w differs => setView_views_of_ne differs
    constructor
    · exact Nat.le_succ _
    · exact le_rfl
    · intro v c other locked
      have differs : v ≠ s.viewCount := by
        rintro rfl
        rw [inventory.fresh s.viewCount le_rfl] at locked
        cases locked
      change ((s.setView _ _).views v).lock = _ ∧
        ((s.setView _ _).views v).retired = _ ∧
        ((s.setView _ _).views v).batcher = _
      rw [others v differs]
      exact ⟨locked, rfl, rfl⟩
    · intro v lt
      rw [others v (Nat.ne_of_lt lt)]
    · exact fun _ _ => rfl
    · intro v retired
      have differs : v ≠ s.viewCount := by
        rintro rfl
        rw [inventory.fresh s.viewCount le_rfl] at retired
        cases retired
      rw [others v differs]
      exact retired
    · exact fun _ stale => stale

theorem Frame.advanceView {v : Nat} (advanced : s.advanceView config v = some next) :
    Frame actor s next := by
  have phaseOnly : ∀ phase, Frame actor s (s.setPhase v phase) :=
    fun phase => .setView rfl (fun _ _ locked => ⟨locked, rfl, rfl⟩) (fun retired => retired)
  have release : ∀ phase, Frame actor s ((s.releasePermit config v).setPhase v phase) := by
    intro phase
    rw [releasePermit_setPhase]
    have changed :
        Frame actor s
          (s.setView v
            { s.views v with
              permitsGiven := (s.views v).permitsGiven + 1
              phase := phase }) :=
      .setView rfl (fun _ _ locked => ⟨locked, rfl, rfl⟩) (fun retired => retired)
    exact { changed with }
  unfold ViewsState.advanceView at advanced
  split at advanced
  · cases advanced
  · split at advanced
    · cases advanced
      exact .setView rfl (fun _ _ locked => ⟨locked, rfl, rfl⟩) (fun retired => retired)
    · cases advanced
      exact { phaseOnly .stored with }
  · cases advanced
    exact release .failed
  · cases advanced
  · cases advanced
    exact phaseOnly .created
  · split at advanced
    · cases advanced
      exact release .released
    · cases advanced
  · split at advanced
    · cases advanced
      exact { phaseOnly .unlisted with }
    · cases advanced
      exact phaseOnly .unlisted
  · split at advanced
    · next unlocked =>
      cases advanced
      refine .setView rfl (fun c _ locked => ?_) (fun _ => rfl)
      rw [unlocked] at locked
      cases locked
    · cases advanced
  · cases advanced
    exact phaseOnly .left
  · cases advanced
    refine Frame.trans ?_ (Frame.setView ?_ ?_ ?_)
    · refine Frame.setBatcher rfl fun cancelled => ?_
      simp [cancelled]
    · rfl
    · exact fun _ _ locked => ⟨locked, rfl, rfl⟩
    · exact fun retired => retired
  · cases advanced

theorem advanceView_calls {v : Nat} (advanced : s.advanceView config v = some next) :
    next.calls = s.calls := by
  unfold ViewsState.advanceView at advanced
  repeat' split at advanced
  all_goals cases advanced
  all_goals rfl

theorem Suits.frame {v b : Nat} (inventory : Inventory config s)
    (frame : Frame actor s next) (suits : Suits v s b) :
    Suits v next b := by
  obtain ⟨viewLt, lt, key⟩ := suits
  refine ⟨viewLt.trans_le frame.viewCount, lt.trans_le frame.batcherCount, ?_⟩
  rw [batcherKey, frame.creator b lt,
    frame.params _ (inventory.creators b lt).1, viewKey, frame.params v viewLt]
  exact key

theorem Held.frame {c v : Nat} (other : some c ≠ actor)
    (frame : Frame actor s next) (held : Held c v s) :
    Held c v next :=
  ⟨held.1.trans_le frame.viewCount, (frame.locked v c other held.2).1⟩

theorem Assigning.frame {c v : Nat} (inventory : Inventory config s) (other : some c ≠ actor)
    (frame : Frame actor s next) (assigning : Assigning c v s phase) :
    Assigning c v next phase := by
  refine UpdateOrCreate.Phase.Holds.transfer ?_ ?_ ?_ ?_ assigning
  · intro assignable
    obtain ⟨_, retired, batcher⟩ := frame.locked v c other assignable.held.2
    exact
      ⟨assignable.held.frame other frame,
        retired.trans assignable.notRetired,
        batcher.trans assignable.unassigned⟩
  · exact fun _ held => Held.frame other frame held
  · exact fun _ suits => suits.frame inventory frame
  · exact fun _ _ _ => trivial

theorem CallPhase.Sound.frame {c : Nat} {phase : CallPhase}
    (inventory : Inventory config s) (other : some c ≠ actor)
    (frame : Frame actor s next) (sound : phase.Sound s c) :
    phase.Sound next c := by
  cases phase with
  | idle | loading | failed => trivial
  | locking v => exact Nat.lt_of_lt_of_le sound frame.viewCount
  | checking v | staleCheck v => exact Held.frame other frame sound
  | assigning v phase => exact Assigning.frame inventory other frame sound
  | returned v b => exact Suits.frame inventory frame sound

end

variable {ctxEnded : Bool}

section

variable {config : Config} {s next : ViewsState} {c v : Nat}

theorem updateOrCreateBatcher_sound (config : Config) (c v : Nat) :
    (updateOrCreateBatcher config v).Sound
      (fun s => ViewsInvariant config s ∧ Assignable c v s)
      (fun s _ => ViewsInvariant config s ∧ Held c v s)
      (Suits v) (fun _ _ _ => True) where
  load := by
    intro s b during loaded
    obtain ⟨lt, key⟩ := during.1.inventory.latest _ b loaded
    exact ⟨during.2.held.1, lt, key⟩
  store := by
    intro s b during suits
    have assignable := during.2
    refine ⟨⟨during.1.setLatest ?_, ?_⟩, fun _ known => known⟩
    case refine_2 =>
      exact ⟨assignable.held, assignable.notRetired, assignable.unassigned⟩
    intro other isOther
    cases isOther
    exact ⟨suits.2.1, suits.2.2⟩
  create := by
    intro s during
    have frame : Frame none s (s.createBatcher v) := .createBatcher during.1.inventory v
    have assignable := during.2
    refine ⟨⟨during.1.createBatcher assignable.held.1, ?_⟩, ?_, ?_⟩
    · exact ⟨assignable.held, assignable.notRetired, assignable.unassigned⟩
    · refine ⟨during.2.held.1, Nat.lt_succ_self _, ?_⟩
      change viewParametersKey
        (s.views ((s.setBatcher _ _).batchers s.batcherCount).creator).params = _
      rw [setBatcher_batchers_same]
      rfl
    · exact fun b suits => suits.frame during.1.inventory frame
  post := by
    intro s b during suits
    have sound := during.1.inventory.batchers b
    have frame : Frame none s (s.setBatcher b { s.batchers b with posted := true }) :=
      .setBatcher rfl fun cancelled => cancelled
    have assignable := during.2
    refine ⟨⟨during.1.setBatcher suits.2.1 ?_ rfl rfl rfl, ?_⟩, ?_⟩
    · exact ⟨sound.refCounter, sound.bounded, sound.cancelled, sound.unassigned, sound.opened⟩
    · exact ⟨assignable.held, assignable.notRetired, assignable.unassigned⟩
    · exact fun other known => known.frame during.1.inventory frame
  start := fun _ _ _ _ => trivial
  running := by
    intro s b pc next nextPc _ _ _ updated
    simp only [updateOrCreateBatcher] at updated
    split at updated <;> cases updated
  refused := by
    intro s b pc next during suits _ updated
    simp only [updateOrCreateBatcher] at updated
    split at updated
    · cases updated
    · cases updated
      exact ⟨during, suits⟩
  updated := by
    intro s b pc next during suits _ updated
    simp only [updateOrCreateBatcher] at updated
    split at updated
    · next joins =>
      cases updated
      refine ⟨?_, ?_⟩
      · exact
          during.1.join suits.1 suits.2.1 suits.2.2 during.2.notRetired during.2.unassigned joins
      · obtain ⟨_, _, rfl⟩ := join_cases joins
        refine ⟨suits.1, ?_⟩
        rw [setView_views_same]
        exact during.2.held.2
    · cases updated

theorem Frame.updateOrCreateBatcher {nextPhase : UpdateOrCreate.Phase Nat Unit}
    (inventory : Inventory config s) (held : (s.views v).lock = some c)
    (stepped : (updateOrCreateBatcher config v).step s ctxEnded phase = some (next, nextPhase)) :
    Frame (some c) s next := by
  refine UpdateOrCreate.step_leads (.refl s) ?_ ?_ ?_ ?_ stepped
  · exact fun b => .of_same rfl rfl rfl rfl fun stopped => stopped
  · exact .createBatcher inventory v
  · exact fun b => .setBatcher rfl fun cancelled => cancelled
  · intro b pc updated outcome updates
    simp only [Query.updateOrCreateBatcher] at updates
    split at updates
    · next joins =>
      cases updates
      obtain ⟨_, _, rfl⟩ := join_cases joins
      refine Frame.trans ?_ (Frame.setView ?_ ?_ ?_)
      · exact Frame.setBatcher rfl fun cancelled => cancelled
      · rfl
      · intro other differs locked
        have same := held.symm.trans locked
        cases same
        exact absurd rfl differs
      · exact fun retired => retired
    · cases updates
      exact .refl s

theorem updateOrCreateBatcher_keeps {nextPhase : UpdateOrCreate.Phase Nat Unit}
    (stepped : (updateOrCreateBatcher config v).step s ctxEnded phase = some (next, nextPhase)) :
    next.calls = s.calls ∧ next.viewCount = s.viewCount := by
  let reached : ViewsState → Prop := fun other =>
    other.calls = s.calls ∧ other.viewCount = s.viewCount
  have unchanged : reached s := ⟨rfl, rfl⟩
  refine UpdateOrCreate.step_leads unchanged (fun _ => unchanged) unchanged (fun _ => unchanged) ?_
    stepped
  intro b pc updated outcome updates
  simp only [updateOrCreateBatcher] at updates
  split at updates
  · next joins =>
    cases updates
    obtain ⟨_, _, rfl⟩ := join_cases joins
    exact unchanged
  · cases updates
    exact unchanged

theorem Assigning.held (assigning : Assigning c v s phase) : Held c v s := by
  cases phase with
  | updated b => exact assigning
  | loading | attempting | updating | creating | assigning | posting
  | ended => exact assigning.1.held

theorem Assigning.step {nextPhase : UpdateOrCreate.Phase Nat Unit}
    (inv : ViewsInvariant config s) (assigning : Assigning c v s phase)
    (stepped :
      (Query.updateOrCreateBatcher config v).step s ctxEnded phase = some (next, nextPhase)) :
    ViewsInvariant config next ∧ Assigning c v next nextPhase := by
  have before :
      phase.Holds
        (fun s => ViewsInvariant config s ∧ Assignable c v s)
        (fun s _ => ViewsInvariant config s ∧ Held c v s)
        (Suits v) (fun _ _ _ => True) s :=
    UpdateOrCreate.Phase.Holds.transfer
      (fun assignable => ⟨inv, assignable⟩)
      (fun _ held => ⟨inv, held⟩) (fun _ suits => suits)
      (fun _ _ _ => trivial) assigning
  have after := (updateOrCreateBatcher_sound config c v).step before stepped
  refine ⟨?_, ?_⟩
  · cases nextPhase with
    | updated b => exact after.1
    | loading | attempting | updating | creating | assigning | posting
    | ended => exact after.1.1
  · exact
      UpdateOrCreate.Phase.Holds.transfer (fun during => during.2)
        (fun _ held => held.2) (fun _ suits => suits)
        (fun _ _ _ => trivial) after

end

/-- The invariant of the service: what the views and the batchers keep, and what every
call relies on. -/
structure ServiceInvariant (config : Config) (s : ViewsState) : Prop where
  core : ViewsInvariant config s
  calls : ∀ c, (s.calls c).Sound s c

/-- What a step keeps: the invariant, and the frame of the calls that do not take the
step. -/
structure Kept (config : Config) (s next : ViewsState) : Prop where
  invariant : ServiceInvariant config next
  frame : ∃ actor, Frame actor s next

namespace ServiceInvariant

variable {config : Config} {s next : ViewsState}

theorem initial (config : Config) : ServiceInvariant config {} :=
  ⟨.initial config, fun _ => trivial⟩

section

variable (inv : ServiceInvariant config s)

include inv

theorem of_frame (core : ViewsInvariant config next) (frame : Frame none s next)
    (calls : next.calls = s.calls) :
    Kept config s next := by
  refine ⟨⟨core, fun c => ?_⟩, none, frame⟩
  rw [calls]
  exact (inv.calls c).frame inv.core.inventory (by simp) frame

theorem of_call {c : Nat} {phase : CallPhase} (core : ViewsInvariant config next)
    (frame : Frame (some c) s next) (calls : next.calls = s.calls) (sound : phase.Sound next c) :
    Kept config s (next.setCall c phase) := by
  have sameFrame : ∀ actor, Frame actor next (next.setCall c phase) :=
    fun _ => .of_same rfl rfl rfl rfl fun stopped => stopped
  refine ⟨⟨core.setCall c phase, fun other => ?_⟩, some c, frame.trans (sameFrame (some c))⟩
  change CallPhase.Sound _ other (Function.update next.calls c phase other)
  by_cases same : other = c
  · subst same
    rw [Function.update_self]
    exact sound.frame core.inventory (by simp) (sameFrame none)
  · rw [Function.update_of_ne same, calls]
    have differs : some other ≠ some c := by simpa using same
    have kept := (inv.calls other).frame inv.core.inventory differs frame
    exact kept.frame core.inventory (by simp) (sameFrame none)

theorem of_lock {c v : Nat} {phase : CallPhase} {lock : Option Nat} (known : v < s.viewCount)
    (mine : ∀ other, (s.views v).lock = some other → other = c)
    (sound : phase.Sound (s.lockView v lock) c) :
    Kept config s ((s.lockView v lock).setCall c phase) := by
  have holder := inv.core.inventory.views v
  refine inv.of_call ?_ ?_ rfl sound
  · refine inv.core.setView known ?_ rfl rfl rfl
    exact ⟨holder.retired, holder.unassigned, holder.ended, holder.given⟩
  · refine .setView rfl (fun other differs locked => ?_) (fun retired => retired)
    rw [mine other locked] at differs
    exact absurd rfl differs

theorem advanceCall {c : Nat} (advanced : s.advanceCall config c ctxEnded = some next) :
    Kept config s next := by
  have core := inv.core
  have sound := inv.calls c
  have mine : ∀ v, Held c v s → ∀ other, (s.views v).lock = some other → other = c := by
    intro v held other locked
    have same := held.2.symm.trans locked
    cases same
    rfl
  unfold ViewsState.advanceCall at advanced
  split at advanced
  · cases advanced
  · next viewID isPhase =>
    split at advanced
    · cases advanced
      exact inv.of_call core (.refl s) rfl trivial
    · next v listed =>
      cases advanced
      exact inv.of_call core (.refl s) rfl (core.inventory.listed viewID v listed)
  · next v isPhase =>
    rw [isPhase] at sound
    split at advanced
    · next unlocked =>
      cases advanced
      refine inv.of_lock sound ?_ ?_
      · intro other locked
        rw [unlocked] at locked
        cases locked
      · refine ⟨sound, ?_⟩
        rw [lockView, setView_views_same]
    · cases advanced
  · next v isPhase =>
    rw [isPhase] at sound
    have held : Held c v s := sound
    split at advanced
    · cases advanced
      exact inv.of_lock held.1 (mine v held) trivial
    · next notRetired =>
      split at advanced
      · next unassigned =>
        cases advanced
        refine inv.of_call core (.refl s) rfl ?_
        exact ⟨⟨held, by simpa using notRetired, unassigned⟩, trivial⟩
      · cases advanced
        exact inv.of_call core (.refl s) rfl held
  · next v b isPhase =>
    rw [isPhase] at sound
    cases advanced
    exact inv.of_call core (.refl s) rfl sound
  · next v isPhase =>
    rw [isPhase] at sound
    have held : Held c v s := sound.1.held
    cases advanced
    exact inv.of_lock held.1 (mine v held) trivial
  · next v phase _ _ isPhase =>
    rw [isPhase] at sound
    have assigning : Assigning c v s phase := sound
    split at advanced
    · cases advanced
    · next result nextPhase stepped =>
      cases advanced
      obtain ⟨coreNext, assigningNext⟩ := assigning.step core stepped
      refine inv.of_call coreNext ?_ ?_ assigningNext
      · exact .updateOrCreateBatcher core.inventory assigning.held.2 stepped
      · exact (updateOrCreateBatcher_keeps stepped).1
  · next v isPhase =>
    rw [isPhase] at sound
    have held : Held c v s := sound
    split at advanced
    · cases advanced
    · next b assigned =>
      split at advanced
      · cases advanced
        exact inv.of_lock held.1 (mine v held) trivial
      · cases advanced
        have attached := (core.inventory.views v).attached_of_batcher assigned
        refine inv.of_lock held.1 (mine v held) ?_
        refine ⟨held.1, ?_, ?_⟩
        · exact attached_lt core.inventory core.attachments attached
        · have params : ∀ w, ((s.lockView v none).views w).params = (s.views w).params := by
            intro w
            exact setView_keeps ViewHolder.params (by rfl) w
          rw [batcherKey, viewKey, params, params]
          exact core.attachments.key v b attached
  · cases advanced
  · cases advanced

theorem step {action : ViewsAction} (stepped : viewsStep config s action = some next) :
    Kept config s next := by
  have core := inv.core
  cases action with
  | makeView viewID params =>
    refine inv.of_frame (core.makeView stepped) (.makeView core.inventory stepped) ?_
    rcases makeView_cases stepped with rfl | ⟨_, _, rfl⟩ <;> rfl
  | advanceView v =>
    exact inv.of_frame (core.advanceView stepped) (.advanceView stepped) (advanceView_calls stepped)
  | endContext v =>
    simp only [viewsStep] at stepped
    split at stepped
    · cases stepped
    · next used =>
      cases stepped
      have holder := core.inventory.views v
      refine inv.of_frame ?_ ?_ rfl
      · refine core.setView (core.inventory.lt_viewCount used) ?_ rfl rfl rfl
        exact ⟨holder.retired, holder.unassigned, fun _ => rfl, holder.given⟩
      · exact .setView rfl (fun _ _ locked => ⟨locked, rfl, rfl⟩) (fun retired => retired)
  | removeViewID viewID =>
    cases stepped
    refine inv.of_frame (core.setViewID ?_) (.of_same rfl rfl rfl rfl fun stopped => stopped) rfl
    intro v isView
    cases isView
  | stop =>
    cases stepped
    exact inv.of_frame core.stop (.of_same rfl rfl rfl rfl fun _ => rfl) rfl
  | getBatcher c viewID =>
    simp only [viewsStep] at stepped
    split at stepped
    · cases stepped
      exact inv.of_call core (.refl s) rfl trivial
    · cases stepped
  | advanceCall c ctxEnded => exact inv.advanceCall stepped
  | unlistBatcher b =>
    simp only [viewsStep] at stepped
    split at stepped
    · split at stepped
      · cases stepped
        refine
          inv.of_frame (core.setLatest ?_) (.of_same rfl rfl rfl rfl fun stopped => stopped) rfl
        intro other isOther
        cases isOther
      · cases stepped
        exact ⟨inv, none, .refl _⟩
    · cases stepped
  | acquire b =>
    simp only [viewsStep] at stepped
    split at stepped
    · next known =>
      cases stepped
      have sound := core.inventory.batchers b
      refine inv.of_frame ?_ (.setBatcher rfl fun cancelled => cancelled) rfl
      refine core.setBatcher known ?_ rfl rfl rfl
      refine ⟨sound.refCounter, sound.bounded, sound.cancelled, sound.unassigned, ?_⟩
      intro options opened
      cases alreadyOpened : (s.batchers b).tx with
      | none =>
        simp only [alreadyOpened, Option.none_or] at opened
        cases opened
        rfl
      | some already =>
        simp only [alreadyOpened, Option.some_or] at opened
        cases opened
        exact sound.opened options alreadyOpened
    · cases stepped

end

theorem run {actions : List ViewsAction} (reached : (viewsBatcher config).run actions = some s) :
    ServiceInvariant config s :=
  (viewsBatcher config).invariant_run (ServiceInvariant config)
    (.initial config)
    (fun _ _ _ inv stepped => (inv.step stepped).invariant)
    reached

theorem retired_runFrom {actions : List ViewsAction} {v : Nat} :
    ∀ {s final : ViewsState}, ServiceInvariant config s →
      (s.views v).retired = true →
      (viewsBatcher config).runFrom s actions = some final →
        (final.views v).retired = true ∧ (final.views v).batcher = none := by
  intro s final inv retired reached
  have kept :=
    (viewsBatcher config).invariant_runFrom
      (fun s => ServiceInvariant config s ∧ (s.views v).retired = true)
      (by
        intro s action next before stepped
        have kept := before.1.step stepped
        obtain ⟨actor, frame⟩ := kept.frame
        exact ⟨kept.invariant, frame.retired v before.2⟩)
      ⟨inv, retired⟩ reached
  exact ⟨kept.2, (kept.1.core.inventory.views v).unassigned kept.2⟩

end ServiceInvariant

structure Lifecycle (config : Config) (s : ViewsState) : Prop where
  counted : ∀ b, (s.batchers b).refCounter = (s.batchers b).joined.card
  bounded : ∀ b, (s.batchers b).refCounter ≤ config.maxAggregatedViews
  joined : ∀ v b, (s.views v).batcher = some b → v ∈ (s.batchers b).joined
  cancelled :
    ∀ b, (s.batchers b).assigned = true →
      (s.isStale b = true ↔ (s.batchers b).joined = ∅ ∨ s.stopped = true)
  retired : ∀ v, (s.views v).retired = true → (s.views v).batcher = none
  permits :
    ∀ limit, config.maxActiveViews = some limit → s.permits = s.holders.card ∧ s.permits ≤ limit
  created :
    ∀ v, (s.views v).phase = .stored ∨ (s.views v).phase = .created →
      v ∈ s.holders ∧ (s.views v).permitsGiven = 0
  ended :
    ∀ v, (s.views v).phase.afterContext = true →
      s.viewDone v = true ∧ v ∉ s.holders ∧ (s.views v).permitsGiven = 1
  failed : ∀ v, (s.views v).phase = .failed → v ∉ s.holders ∧ (s.views v).permitsGiven = 1
  /-- A view whose context ended gives its permit back with its next step. -/
  givesBack :
    ∀ v, (s.views v).phase = .created → s.viewDone v = true →
      ∃ next, s.advanceView config v = some next ∧ v ∉ next.holders
  /-- A creation that the limiter refuses leaves everything as it was. -/
  refused :
    ∀ limit viewID params, config.maxActiveViews = some limit →
      limit ≤ s.permits → s.makeView config viewID params = some s

theorem ServiceInvariant.lifecycle {config : Config} {s : ViewsState}
    (inv : ServiceInvariant config s) :
    Lifecycle config s := by
  have inventory := inv.core.inventory
  have permits := inv.core.permits
  have notHolder : ∀ v, (s.views v).phase.holdsPermit = false → v ∉ s.holders := by
    intro v holdsNone mem
    rw [permits.holders, holdsNone] at mem
    cases mem
  constructor
  case counted =>
    exact fun b => (inventory.batchers b).refCounter
  case bounded =>
    exact fun b => (inventory.batchers b).bounded
  case joined =>
    intro v b assigned
    exact (inv.core.attachments.joined b v).mpr ((inventory.views v).attached_of_batcher assigned)
  case cancelled =>
    intro b assigned
    have sound := inventory.batchers b
    rw [isStale, Bool.or_eq_true, sound.cancelled, sound.refCounter, Finset.card_eq_zero]
    simp [assigned]
  case retired =>
    exact fun v => (inventory.views v).unassigned
  case permits =>
    exact permits.counted
  case created =>
    intro v phase
    have given := (inventory.views v).given
    rw [permits.holders v, given]
    rcases phase with phase | phase
    · rw [phase]
      exact ⟨rfl, rfl⟩
    · rw [phase]
      exact ⟨rfl, rfl⟩
  case ended =>
    intro v ended
    have sound := inventory.views v
    have after : (s.views v).phase.holdsPermit = false ∧ (s.views v).phase.gavePermit = true := by
      cases isPhase : (s.views v).phase <;> rw [isPhase] at ended <;>
        first | exact ⟨rfl, rfl⟩ | cases ended
    refine ⟨sound.ended ended, notHolder v after.1, ?_⟩
    rw [sound.given, after.2]
    rfl
  case failed =>
    intro v phase
    refine ⟨notHolder v (by rw [phase]; rfl), ?_⟩
    rw [(inventory.views v).given, phase]
    rfl
  case givesBack =>
    intro v phase done
    refine ⟨(s.releasePermit config v).setPhase v .released, ?_, ?_⟩
    · simp only [ViewsState.advanceView, phase, done, if_true]
    · exact Finset.notMem_erase v s.holders
  case refused =>
    intro limit viewID params limited full
    have refused : s.acquirePermit config s.viewCount = none := by
      simp only [acquirePermit, limited]
      exact if_neg (Nat.not_lt.mpr full)
    simp only [ViewsState.makeView, refused]

/-- In every run: each batcher counts the views that joined it and have not left, at
most `maxAggregatedViews` of them; a batcher that was ever assigned is cancelled
exactly when all its views have left or the service stopped; a retired view has no
batcher and never gets one; and every created view holds one permit, which it gives
back once, when its context has ended. -/
theorem views_lifecycle (config : Config) {actions : List ViewsAction} {s : ViewsState}
    (reached : (viewsBatcher config).run actions = some s) :
    Lifecycle config s ∧
      ∀ v, (s.views v).retired = true →
        ∀ later final, (viewsBatcher config).runFrom s later = some final →
          (final.views v).retired = true ∧ (final.views v).batcher = none := by
  have invariant := ServiceInvariant.run reached
  refine ⟨invariant.lifecycle, fun v retired later final continued => ?_⟩
  exact ServiceInvariant.retired_runFrom invariant retired continued

/-- Two views of the same parameters join one batcher; then the first one ends. -/
def sharedBatcherRun : List ViewsAction :=
  [.makeView "first" {}, .advanceView 0, .advanceView 0,
    .makeView "second" {}, .advanceView 1, .advanceView 1,
    .getBatcher 0 "first"] ++
  List.replicate 12 (.advanceCall 0 false) ++
  [.getBatcher 1 "second"] ++
  List.replicate 8 (.advanceCall 1 false) ++
  [.removeViewID "first", .endContext 0] ++
  List.replicate 4 (.advanceView 0)

def sharedBatcherConfig : Config where
  maxAggregatedViews := 2
  maxActiveViews := some 2

theorem sharedBatcherRun_lifecycle :
    ∃ s, (viewsBatcher sharedBatcherConfig).run sharedBatcherRun = some s ∧
      (s.batchers 0).refCounter = 1 ∧ (s.views 0).retired = true ∧
      (s.views 1).batcher = some 0 ∧ Lifecycle sharedBatcherConfig s := by
  have ends :
      ((viewsBatcher sharedBatcherConfig).run sharedBatcherRun).map
          (fun s => ((s.batchers 0).refCounter, (s.views 0).retired, (s.views 1).batcher)) =
        some (1, true, some 0) := by
    decide +kernel
  obtain ⟨s, reached, observed⟩ := Option.map_eq_some_iff.mp ends
  simp only [Prod.mk.injEq] at observed
  exact
    ⟨s, reached, observed.1, observed.2.1, observed.2.2,
      (views_lifecycle sharedBatcherConfig reached).1⟩

end FabricXCommitter.Query
