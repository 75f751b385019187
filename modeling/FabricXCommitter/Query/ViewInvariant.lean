import FabricXCommitter.Query.Views

/-!
# What the views, the batchers and the limiter keep
-/

namespace FabricXCommitter.Query

open Library Function
open ViewsState

/-! ## What a view and a batcher keep -/

def ViewPhase.holdsPermit : ViewPhase → Bool
  | .acquired | .collided | .stored | .created => true
  | _ => false

def ViewPhase.gavePermit : ViewPhase → Bool
  | .failed | .released | .unlisted | .leaving _ | .left => true
  | _ => false

def ViewPhase.afterContext : ViewPhase → Bool
  | .released | .unlisted | .leaving _ | .left => true
  | _ => false

def ViewPhase.isRetired : ViewPhase → Bool
  | .leaving _ | .left => true
  | _ => false

/-- The batcher that the view joined and has not left. -/
def ViewHolder.attached (holder : ViewHolder) : Option Nat :=
  match holder.phase with
  | .leaving b => b
  | _ => holder.batcher

structure ViewHolder.Sound (stopped : Bool) (holder : ViewHolder) : Prop where
  retired : holder.retired = holder.phase.isRetired
  unassigned : holder.retired = true → holder.batcher = none
  ended :
    holder.phase.afterContext = true → (holder.ctxDone || stopped) = true
  given : holder.permitsGiven = if holder.phase.gavePermit then 1 else 0

theorem ViewHolder.Sound.initial (stopped : Bool) : ({} : ViewHolder).Sound stopped where
  retired := rfl
  unassigned := fun retired => by cases retired
  ended := fun ended => by cases ended
  given := rfl

theorem ViewHolder.attached_of_not_retired
    {holder : ViewHolder} (notRetired : holder.phase.isRetired = false) :
    holder.attached = holder.batcher := by
  unfold attached
  split
  · next leaving =>
    rw [leaving] at notRetired
    cases notRetired
  · rfl

theorem ViewHolder.Sound.attached_of_batcher
    {stopped : Bool} {holder : ViewHolder} (sound : holder.Sound stopped)
    {b : Nat} (assigned : holder.batcher = some b) :
    holder.attached = some b := by
  have notRetired : holder.phase.isRetired = false := by
    rw [← sound.retired]
    by_contra retired
    have := sound.unassigned (by simpa using retired)
    rw [assigned] at this
    cases this
  rw [attached_of_not_retired notRetired]
  exact assigned

structure Batcher.Sound (config : Config) (batcher : Batcher) : Prop where
  refCounter : batcher.refCounter = batcher.joined.card
  bounded : batcher.refCounter ≤ config.maxAggregatedViews
  cancelled : batcher.cancelled = true ↔ batcher.assigned = true ∧ batcher.refCounter = 0
  unassigned : batcher.assigned = false → batcher.refCounter = 0
  opened : ∀ options, batcher.tx = some options → options = batcher.options

theorem Batcher.Sound.of_unjoined (config : Config) (creator : Nat) (options : TxOptions) :
    ({ creator := creator, options := options } : Batcher).Sound config where
  refCounter := rfl
  bounded := Nat.zero_le _
  cancelled := by simp
  unassigned := fun _ => rfl
  opened := fun options opened => by cases opened

/-! ## What the service keeps -/

structure Permits (config : Config) (s : ViewsState) : Prop where
  holders : ∀ v, v ∈ s.holders ↔ (s.views v).phase.holdsPermit = true
  counted :
    ∀ limit, config.maxActiveViews = some limit → s.permits = s.holders.card ∧ s.permits ≤ limit

/-- What the views, the batchers and the maps keep, each by itself. -/
structure Inventory (config : Config) (s : ViewsState) : Prop where
  views : ∀ v, (s.views v).Sound s.stopped
  fresh : ∀ v, s.viewCount ≤ v → s.views v = {}
  listed : ∀ viewID v, s.viewIDToViewHolder viewID = some v → v < s.viewCount
  batchers : ∀ b, (s.batchers b).Sound config
  freshBatcher : ∀ b, s.batcherCount ≤ b → s.batchers b = {}
  latest :
    ∀ key b, s.viewParametersToLatestBatcher key = some b →
      b < s.batcherCount ∧ s.batcherKey b = key
  creators :
    ∀ b, b < s.batcherCount →
      (s.batchers b).creator < s.viewCount ∧
        (s.batchers b).options = makeTxOptions (s.views (s.batchers b).creator).params

/-- The views and the batchers agree on who joined whom, and a view joins batchers of
its own key only. -/
structure Attachments (s : ViewsState) : Prop where
  joined : ∀ b v, v ∈ (s.batchers b).joined ↔ (s.views v).attached = some b
  key : ∀ v b, (s.views v).attached = some b → s.batcherKey b = s.viewKey v

structure ViewsInvariant (config : Config) (s : ViewsState) : Prop where
  permits : Permits config s
  inventory : Inventory config s
  attachments : Attachments s

variable {next : ViewsState} {viewID : String}

section

variable {config : Config} {s : ViewsState} {v : Nat} {holder : ViewHolder}

@[simp]
theorem setView_views_same : (s.setView v holder).views v = holder := by
  simp [setView]

theorem setView_views_of_ne {w : Nat} (differs : w ≠ v) :
    (s.setView v holder).views w = s.views w := by
  simp [setView, differs]

theorem setView_keeps {γ : Type} (property : ViewHolder → γ)
    (kept : property holder = property (s.views v)) (w : Nat) :
    property ((s.setView v holder).views w) = property (s.views w) := by
  by_cases same : w = v
  · subst same
    rw [setView_views_same, kept]
  · rw [setView_views_of_ne same]

theorem Permits.setView (permits : Permits config s)
    (permit : holder.phase.holdsPermit = (s.views v).phase.holdsPermit) :
    Permits config (s.setView v holder) where
  holders := by
    intro w
    rw [setView_keeps (fun holder => holder.phase.holdsPermit) permit]
    exact permits.holders w
  counted := permits.counted

theorem Inventory.lt_viewCount (inventory : Inventory config s) (used : (s.views v).phase ≠ .new) :
    v < s.viewCount := by
  by_contra beyond
  rw [inventory.fresh v (Nat.le_of_not_lt beyond)] at used
  exact used rfl

theorem attached_lt (inventory : Inventory config s) (attachments : Attachments s) {b : Nat}
    (attached : (s.views v).attached = some b) :
    b < s.batcherCount := by
  by_contra beyond
  have mem := (attachments.joined b v).mpr attached
  rw [inventory.freshBatcher b (Nat.le_of_not_lt beyond)] at mem
  simp at mem

theorem setView_params {w : Nat} (known : w < s.viewCount)
    (params : v < s.viewCount → holder.params = (s.views v).params) :
    ((s.setView v holder).views w).params = (s.views w).params := by
  by_cases same : w = v
  · subst same
    rw [setView_views_same, params known]
  · rw [setView_views_of_ne same]

/-- A holder replaces a view that is there, or it is the next one. -/
theorem Inventory.placeView {count : Nat} (inventory : Inventory config s)
    (grows : s.viewCount ≤ count) (known : v < count) (sound : holder.Sound s.stopped)
    (params : v < s.viewCount → holder.params = (s.views v).params) :
    Inventory config { s.setView v holder with viewCount := count } :=
  { inventory with
    views := by
      apply (forall_update_iff s.views fun _ holder => holder.Sound s.stopped).mpr
      exact ⟨sound, fun w _ => inventory.views w⟩
    fresh := by
      intro w beyond
      change count ≤ w at beyond
      rw [setView_views_of_ne (by omega)]
      exact inventory.fresh w (by omega)
    listed := fun id w listed => Nat.lt_of_lt_of_le (inventory.listed id w listed) grows
    latest := by
      intro key b listed
      obtain ⟨lt, isKey⟩ := inventory.latest key b listed
      have kept := setView_params (inventory.creators b lt).1 params
      exact ⟨lt, (congrArg viewParametersKey kept).trans isKey⟩
    creators := by
      intro b lt
      obtain ⟨creatorLt, options⟩ := inventory.creators b lt
      have kept := setView_params creatorLt params
      exact ⟨Nat.lt_of_lt_of_le creatorLt grows, options.trans (congrArg makeTxOptions kept.symm)⟩ }

theorem Attachments.placeView {count : Nat} (attachments : Attachments s)
    (inventory : Inventory config s) (attached : holder.attached = (s.views v).attached)
    (params : v < s.viewCount → holder.params = (s.views v).params) :
    Attachments { s.setView v holder with viewCount := count } where
  joined := by
    intro b w
    rw [setView_keeps ViewHolder.attached attached]
    exact attachments.joined b w
  key := by
    intro w b isAttached
    rw [setView_keeps ViewHolder.attached attached] at isAttached
    have lt := attached_lt inventory attachments isAttached
    have used : w < s.viewCount := by
      by_contra beyond
      rw [inventory.fresh w (Nat.le_of_not_lt beyond)] at isAttached
      cases isAttached
    change viewParametersKey ((s.setView v holder).views (s.batchers b).creator).params =
      viewParametersKey ((s.setView v holder).views w).params
    rw [setView_params used params, setView_params (inventory.creators b lt).1 params]
    exact attachments.key w b isAttached

theorem releasePermit_setPhase (phase : ViewPhase) :
    (s.releasePermit config v).setPhase v phase =
      { s.setView v
          { s.views v with
            permitsGiven := (s.views v).permitsGiven + 1
            phase := phase } with
        permits :=
          if config.maxActiveViews = none then s.permits else s.permits - 1
        holders := s.holders.erase v } := by
  simp [releasePermit, setPhase, ViewsState.setView]

theorem ViewsInvariant.release (inv : ViewsInvariant config s) {phase : ViewPhase}
    (held : (s.views v).phase.holdsPermit = true)
    (given : phase.holdsPermit = false ∧ phase.gavePermit = true)
    (notRetired : phase.isRetired = false)
    (ended : phase.afterContext = true → s.viewDone v = true) :
    ViewsInvariant config ((s.releasePermit config v).setPhase v phase) := by
  have sound := inv.inventory.views v
  have heldOnce : (s.views v).phase.gavePermit = false ∧ (s.views v).phase.isRetired = false := by
    cases isPhase : (s.views v).phase <;> rw [isPhase] at held <;>
      first | exact ⟨rfl, rfl⟩ | cases held
  have known : v < s.viewCount := by
    refine inv.inventory.lt_viewCount fun new => ?_
    rw [new] at held
    cases held
  have holderSound :
      { s.views v with
        permitsGiven := (s.views v).permitsGiven + 1
        phase := phase : ViewHolder }.Sound s.stopped := by
    constructor
    · simpa [notRetired, heldOnce.2] using sound.retired
    · exact sound.unassigned
    · exact ended
    · simpa [given.2, heldOnce.1] using sound.given
  have inventory := inv.inventory.placeView le_rfl known holderSound (fun _ => rfl)
  have attachments :
      Attachments
        (s.setView v
          { s.views v with
            permitsGiven := (s.views v).permitsGiven + 1
            phase := phase }) := by
    refine inv.attachments.placeView inv.inventory ?_ (fun _ => rfl)
    rw [ViewHolder.attached_of_not_retired notRetired,
      ViewHolder.attached_of_not_retired heldOnce.2]
  rw [releasePermit_setPhase]
  refine ⟨⟨?_, ?_⟩, { inventory with }, { attachments with }⟩
  · intro w
    by_cases same : w = v
    · subst same
      simp [given.1]
    · rw [setView_views_of_ne same, Finset.mem_erase, ← inv.permits.holders w]
      simp [same]
  · intro limit limited
    obtain ⟨counted, within⟩ := inv.permits.counted limit limited
    have mem := (inv.permits.holders v).mpr held
    change (if config.maxActiveViews = none then s.permits else s.permits - 1)
        = (s.holders.erase v).card ∧
      (if config.maxActiveViews = none then s.permits else s.permits - 1) ≤ limit
    rw [Finset.card_erase_of_mem mem, limited, ← counted]
    simp only [reduceCtorEq, if_false, true_and]
    omega

/-- Either the limiter refuses the view and nothing changes, or a new holder is
allocated together with its permit. -/
theorem makeView_cases
    {params : ViewParameters} (made : s.makeView config viewID params = some next) :
    next = s ∨
      ∃ permits,
        (∀ limit, config.maxActiveViews = some limit →
          permits = s.permits + 1 ∧ s.permits < limit) ∧
        next =
          { s.setView s.viewCount { viewID := viewID, params := params, phase := .acquired } with
            viewCount := s.viewCount + 1
            permits := permits
            holders := insert s.viewCount s.holders } := by
  unfold ViewsState.makeView at made
  split at made
  · cases made
    exact .inl rfl
  · next acquired acquires =>
    cases made
    right
    unfold acquirePermit at acquires
    split at acquires
    · next unlimited =>
      cases acquires
      refine ⟨s.permits, ?_, rfl⟩
      intro limit limited
      rw [unlimited] at limited
      cases limited
    · next limit limited =>
      split at acquires
      · next room =>
        cases acquires
        refine ⟨s.permits + 1, ?_, rfl⟩
        intro other isOther
        rw [limited] at isOther
        cases isOther
        exact ⟨rfl, room⟩
      · cases acquires

theorem ViewsInvariant.makeView (inv : ViewsInvariant config s) {params : ViewParameters}
    (made : s.makeView config viewID params = some next) :
    ViewsInvariant config next := by
  rcases makeView_cases made with rfl | ⟨inUse, counted, rfl⟩
  · exact inv
  have fresh := inv.inventory.fresh s.viewCount le_rfl
  have sound :
      ({ viewID := viewID, params := params, phase := .acquired } : ViewHolder).Sound s.stopped :=
    ⟨rfl, (fun retired => by cases retired), (fun ended => by cases ended), rfl⟩
  have unattached :
      ({ viewID := viewID, params := params, phase := .acquired } : ViewHolder).attached =
        (s.views s.viewCount).attached := by
    rw [fresh]
    rfl
  have inventory :=
    inv.inventory.placeView (Nat.le_succ _) (Nat.lt_succ_self _) sound
      (fun lt => absurd lt (Nat.lt_irrefl _))
  have attachments : Attachments { s.setView s.viewCount _ with viewCount := s.viewCount + 1 } :=
    inv.attachments.placeView inv.inventory unattached (fun lt => absurd lt (Nat.lt_irrefl _))
  refine ⟨⟨?_, ?_⟩, { inventory with }, { attachments with }⟩
  · intro w
    by_cases same : w = s.viewCount
    · subst same
      simp [ViewsState.setView, ViewPhase.holdsPermit]
    · simpa [ViewsState.setView, same] using inv.permits.holders w
  · intro limit limited
    obtain ⟨rfl, room⟩ := counted limit limited
    have before := (inv.permits.counted limit limited).1
    have absent : s.viewCount ∉ s.holders := by
      rw [inv.permits.holders, fresh]
      simp [ViewPhase.holdsPermit]
    change s.permits + 1 = (insert s.viewCount s.holders).card ∧ s.permits + 1 ≤ limit
    rw [Finset.card_insert_of_notMem absent]
    omega

end

section

variable {config : Config} {s : ViewsState} {b : Nat} {batcher : Batcher}

theorem setBatcher_batchers_same : (s.setBatcher b batcher).batchers b = batcher := by
  simp [setBatcher]

theorem setBatcher_batchers_of_ne {other : Nat} (differs : other ≠ b) :
    (s.setBatcher b batcher).batchers other = s.batchers other := by
  simp [setBatcher, differs]

theorem setBatcher_keeps {γ : Type} (property : Batcher → γ)
    (kept : property batcher = property (s.batchers b)) (other : Nat) :
    property ((s.setBatcher b batcher).batchers other) = property (s.batchers other) := by
  by_cases same : other = b
  · subst same
    rw [setBatcher_batchers_same, kept]
  · rw [setBatcher_batchers_of_ne same]

theorem Permits.setBatcher (permits : Permits config s) : Permits config (s.setBatcher b batcher) :=
  ⟨permits.holders, permits.counted⟩

theorem setBatcher_batcherKey {other : Nat} (known : other < s.batcherCount)
    (creator : b < s.batcherCount → batcher.creator = (s.batchers b).creator) :
    (s.setBatcher b batcher).batcherKey other = s.batcherKey other := by
  by_cases same : other = b
  · subst same
    rw [batcherKey, setBatcher_batchers_same, creator known]
    rfl
  · rw [batcherKey, setBatcher_batchers_of_ne same]
    rfl

/-- A batcher replaces one that is there, or it is the next one. -/
theorem Inventory.placeBatcher {count : Nat} (inventory : Inventory config s)
    (grows : s.batcherCount ≤ count) (known : b < count)
    (last : ∀ other, other < count → other ≠ b → other < s.batcherCount)
    (sound : batcher.Sound config)
    (created :
      batcher.creator < s.viewCount ∧
        batcher.options = makeTxOptions (s.views batcher.creator).params)
    (creator : b < s.batcherCount → batcher.creator = (s.batchers b).creator) :
    Inventory config { s.setBatcher b batcher with batcherCount := count } :=
  { inventory with
    batchers := by
      apply (forall_update_iff s.batchers fun _ batcher => batcher.Sound config).mpr
      exact ⟨sound, fun other _ => inventory.batchers other⟩
    freshBatcher := by
      intro other beyond
      change count ≤ other at beyond
      rw [setBatcher_batchers_of_ne (by omega)]
      exact inventory.freshBatcher other (by omega)
    latest := by
      intro key other listed
      obtain ⟨lt, isKey⟩ := inventory.latest key other listed
      exact ⟨Nat.lt_of_lt_of_le lt grows, (setBatcher_batcherKey lt creator).trans isKey⟩
    creators := by
      intro other lt
      by_cases same : other = b
      · subst same
        rw [setBatcher_batchers_same]
        exact created
      · rw [setBatcher_batchers_of_ne same]
        exact inventory.creators other (last other lt same) }

theorem Attachments.placeBatcher {count : Nat} (attachments : Attachments s)
    (inventory : Inventory config s) (joined : batcher.joined = (s.batchers b).joined)
    (creator : b < s.batcherCount → batcher.creator = (s.batchers b).creator) :
    Attachments { s.setBatcher b batcher with batcherCount := count } where
  joined := by
    intro other v
    rw [setBatcher_keeps Batcher.joined joined]
    exact attachments.joined other v
  key := by
    intro v other attached
    have lt := attached_lt inventory attachments attached
    exact (setBatcher_batcherKey lt creator).trans (attachments.key v other attached)

theorem Inventory.setBatcher
    (inventory : Inventory config s) (known : b < s.batcherCount) (sound : batcher.Sound config)
    (creator : batcher.creator = (s.batchers b).creator)
    (options : batcher.options = (s.batchers b).options) :
    Inventory config (s.setBatcher b batcher) := by
  refine inventory.placeBatcher le_rfl known (fun _ lt _ => lt) sound ?_ (fun _ => creator)
  rw [creator, options]
  exact inventory.creators b known

theorem ViewsInvariant.createBatcher
    (inv : ViewsInvariant config s) {v : Nat} (known : v < s.viewCount) :
    ViewsInvariant config (s.createBatcher v) := by
  have unjoined : (s.batchers s.batcherCount).joined = ∅ := by
    rw [inv.inventory.freshBatcher s.batcherCount le_rfl]
  refine ⟨{ inv.permits with }, ?_, ?_⟩
  · exact
      inv.inventory.placeBatcher (Nat.le_succ _) (Nat.lt_succ_self _) (by omega)
        (.of_unjoined config v _) ⟨known, rfl⟩ (fun lt => absurd lt (Nat.lt_irrefl _))
  · exact
      inv.attachments.placeBatcher inv.inventory unjoined.symm
        (fun lt => absurd lt (Nat.lt_irrefl _))

theorem join_cases {v : Nat} (joined : s.join config v b = some next) :
    s.isStale b = false ∧
      (s.batchers b).refCounter < config.maxAggregatedViews ∧
      next =
        (s.setBatcher b
          { s.batchers b with
            refCounter := (s.batchers b).refCounter + 1
            assigned := true
            joined := insert v (s.batchers b).joined }).setView v
          { s.views v with batcher := some b } := by
  unfold ViewsState.join at joined
  simp only at joined
  split at joined
  · cases joined
  · next admitted =>
    cases joined
    push Not at admitted
    exact ⟨by simpa using admitted.1, admitted.2, rfl⟩

theorem Batcher.Sound.join {v : Nat}
    (sound : (s.batchers b).Sound config) (absent : v ∉ (s.batchers b).joined)
    (stale : s.isStale b = false) (room : (s.batchers b).refCounter < config.maxAggregatedViews) :
    { s.batchers b with
      refCounter := (s.batchers b).refCounter + 1
      assigned := true
      joined := insert v (s.batchers b).joined : Batcher }.Sound config where
  refCounter := by
    rw [Finset.card_insert_of_notMem absent, ← sound.refCounter]
  bounded := room
  cancelled := by
    simp only [isStale, Bool.or_eq_false_iff] at stale
    simp [stale.1]
  unassigned := fun impossible => by cases impossible
  opened := sound.opened

theorem Batcher.Sound.leave {v : Nat}
    (sound : (s.batchers b).Sound config) (mem : v ∈ (s.batchers b).joined) :
    { s.batchers b with
      refCounter := (s.batchers b).refCounter - 1
      cancelled := (s.batchers b).cancelled || (s.batchers b).refCounter - 1 == 0
      joined := (s.batchers b).joined.erase v : Batcher }.Sound config := by
  have positive : 0 < (s.batchers b).refCounter := by
    rw [sound.refCounter]
    exact Finset.card_pos.mpr ⟨v, mem⟩
  have assigned : (s.batchers b).assigned = true := by
    by_contra unassigned
    have := sound.unassigned (by simpa using unassigned)
    omega
  have notCancelled : (s.batchers b).cancelled = false := by
    by_contra cancelled
    have := (sound.cancelled.mp (by simpa using cancelled)).2
    omega
  constructor
  · rw [Finset.card_erase_of_mem mem, ← sound.refCounter]
  · exact Nat.le_trans (Nat.sub_le _ _) sound.bounded
  · simp [assigned, notCancelled]
  · intro unassigned
    simp [assigned] at unassigned
  · exact sound.opened

theorem Attachments.change (attachments : Attachments s) {v : Nat} {holder : ViewHolder}
    (params : holder.params = (s.views v).params)
    (creator : batcher.creator = (s.batchers b).creator)
    (others : ∀ w, w ≠ v → (w ∈ batcher.joined ↔ w ∈ (s.batchers b).joined))
    (self : v ∈ batcher.joined ↔ holder.attached = some b)
    (elsewhere :
      ∀ other, other ≠ b → (holder.attached = some other ↔ (s.views v).attached = some other))
    (key : holder.attached = some b → s.batcherKey b = s.viewKey v) :
    Attachments ((s.setBatcher b batcher).setView v holder) := by
  have sameParams : holder.params = ((s.setBatcher b batcher).views v).params := params
  have sameKey :
      ∀ other,
        ((s.setBatcher b batcher).setView v holder).batcherKey other = s.batcherKey other := by
    intro other
    rw [batcherKey, setView_keeps ViewHolder.params sameParams]
    change viewParametersKey (s.views ((s.setBatcher b batcher).batchers other).creator).params = _
    rw [setBatcher_keeps Batcher.creator creator]
    rfl
  have sameViewKey : ∀ w, ((s.setBatcher b batcher).setView v holder).viewKey w = s.viewKey w := by
    intro w
    rw [viewKey, setView_keeps ViewHolder.params sameParams]
    rfl
  constructor
  · intro other w
    change w ∈ ((s.setBatcher b batcher).batchers other).joined ↔ _
    by_cases sameView : w = v
    · subst sameView
      rw [setView_views_same]
      by_cases same : other = b
      · subst same
        rw [setBatcher_batchers_same]
        exact self
      · rw [setBatcher_batchers_of_ne same, elsewhere other same]
        exact attachments.joined other w
    · rw [setView_views_of_ne sameView]
      by_cases same : other = b
      · subst same
        rw [setBatcher_batchers_same, others w sameView]
        exact attachments.joined other w
      · rw [setBatcher_batchers_of_ne same]
        exact attachments.joined other w
  · intro w other attached
    rw [sameKey, sameViewKey]
    by_cases sameView : w = v
    · subst sameView
      rw [setView_views_same] at attached
      by_cases same : other = b
      · subst same
        exact key attached
      · exact attachments.key w other ((elsewhere other same).mp attached)
    · rw [setView_views_of_ne sameView] at attached
      exact attachments.key w other attached

theorem leave_setPhase (v : Nat) (phase : ViewPhase) :
    (s.leave v b).setPhase v phase =
      (s.setBatcher b
        { s.batchers b with
          refCounter := (s.batchers b).refCounter - 1
          cancelled := (s.batchers b).cancelled || (s.batchers b).refCounter - 1 == 0
          joined := (s.batchers b).joined.erase v }).setView v
        { s.views v with phase := phase } := by
  have decremented :
      (if 0 < (s.batchers b).refCounter then (s.batchers b).refCounter - 1
        else (s.batchers b).refCounter) = (s.batchers b).refCounter - 1 := by
    split <;> omega
  simp only [ViewsState.leave, decremented, setPhase]
  rfl

end

namespace ViewsInvariant

variable {config : Config} {s : ViewsState}

theorem initial (config : Config) : ViewsInvariant config {} where
  permits :=
    { holders := by simp [ViewPhase.holdsPermit]
      counted := by simp }
  inventory :=
    { views := fun _ => .initial false
      fresh := fun _ _ => rfl
      listed := by simp
      batchers := fun _ => .of_unjoined config 0 _
      freshBatcher := fun _ _ => rfl
      latest := by simp
      creators := by simp }
  attachments :=
    { joined := by simp [ViewHolder.attached]
      key := by simp [ViewHolder.attached] }

section

variable (inv : ViewsInvariant config s)

include inv

theorem setView
    {v : Nat} {holder : ViewHolder} (known : v < s.viewCount) (sound : holder.Sound s.stopped)
    (params : holder.params = (s.views v).params)
    (permit : holder.phase.holdsPermit = (s.views v).phase.holdsPermit)
    (attached : holder.attached = (s.views v).attached) :
    ViewsInvariant config (s.setView v holder) :=
  ⟨inv.permits.setView permit,
    inv.inventory.placeView le_rfl known sound (fun _ => params),
    inv.attachments.placeView inv.inventory attached (fun _ => params)⟩

theorem setBatcher
    {b : Nat} {batcher : Batcher} (known : b < s.batcherCount) (sound : batcher.Sound config)
    (creator : batcher.creator = (s.batchers b).creator)
    (options : batcher.options = (s.batchers b).options)
    (joined : batcher.joined = (s.batchers b).joined) :
    ViewsInvariant config (s.setBatcher b batcher) :=
  ⟨inv.permits.setBatcher,
    inv.inventory.setBatcher known sound creator options,
    inv.attachments.placeBatcher inv.inventory joined (fun _ => creator)⟩

theorem join {v b : Nat} (knownView : v < s.viewCount) (known : b < s.batcherCount)
    (key : s.batcherKey b = s.viewKey v) (notRetired : (s.views v).retired = false)
    (unassigned : (s.views v).batcher = none) (joined : s.join config v b = some next) :
    ViewsInvariant config next := by
  obtain ⟨stale, room, rfl⟩ := join_cases joined
  have sound := inv.inventory.views v
  have active : (s.views v).phase.isRetired = false := by rw [← sound.retired, notRetired]
  have unattached : (s.views v).attached = none := by
    rw [ViewHolder.attached_of_not_retired active, unassigned]
  have absent : v ∉ (s.batchers b).joined := by
    rw [inv.attachments.joined, unattached]
    simp
  have nowAttached : { s.views v with batcher := some b : ViewHolder }.attached = some b :=
    ViewHolder.attached_of_not_retired active
  refine ⟨?_, ?_, ?_⟩
  · exact inv.permits.setBatcher.setView rfl
  · refine Inventory.placeView ?_ le_rfl knownView ?_ (fun _ => rfl)
    · exact
        inv.inventory.setBatcher known ((inv.inventory.batchers b).join absent stale room) rfl rfl
    · refine ⟨sound.retired, ?_, sound.ended, sound.given⟩
      intro retired
      rw [notRetired] at retired
      cases retired
  · refine inv.attachments.change rfl rfl ?_ ?_ ?_ (fun _ => key)
    · intro w differs
      simp [differs]
    · rw [nowAttached]
      simp
    · intro other differs
      rw [nowAttached, unattached]
      simp [differs.symm]

theorem leave {v b : Nat} (leaving : (s.views v).phase = .leaving (some b)) :
    ViewsInvariant config ((s.leave v b).setPhase v .left) := by
  have sound := inv.inventory.views v
  have attached : (s.views v).attached = some b := by simp [ViewHolder.attached, leaving]
  have retired : (s.views v).retired = true := by
    rw [sound.retired, leaving]
    rfl
  have unassigned := sound.unassigned retired
  have mem := (inv.attachments.joined b v).mpr attached
  have knownView : v < s.viewCount := by
    refine inv.inventory.lt_viewCount ?_
    rw [leaving]
    simp
  have known := attached_lt inv.inventory inv.attachments attached
  have nowUnattached : { s.views v with phase := .left : ViewHolder }.attached = none := unassigned
  rw [leave_setPhase]
  refine ⟨?_, ?_, ?_⟩
  · refine inv.permits.setBatcher.setView ?_
    change ViewPhase.holdsPermit .left = (s.views v).phase.holdsPermit
    rw [leaving]
    rfl
  · refine Inventory.placeView ?_ le_rfl knownView ?_ (fun _ => rfl)
    · exact inv.inventory.setBatcher known ((inv.inventory.batchers b).leave mem) rfl rfl
    · refine ⟨retired, sound.unassigned, ?_, ?_⟩
      · intro _
        exact sound.ended (by rw [leaving]; rfl)
      · have given := sound.given
        rw [leaving] at given
        exact given
  · refine inv.attachments.change rfl rfl ?_ ?_ ?_ ?_
    · intro w differs
      simp [differs]
    · rw [nowUnattached]
      simp
    · intro other differs
      rw [nowUnattached, attached]
      simp [differs.symm]
    · rw [nowUnattached]
      intro impossible
      cases impossible

/-- A step of a view that changes neither its permit, nor its batcher, nor its
retirement. -/
theorem setPhase
    {v : Nat} {old phase : ViewPhase} (wasPhase : (s.views v).phase = old) (used : old ≠ .new)
    (permit : phase.holdsPermit = old.holdsPermit) (given : phase.gavePermit = old.gavePermit)
    (retired : phase.isRetired = old.isRetired)
    (ended : phase.afterContext = true → old.afterContext = true)
    (attached : { s.views v with phase := phase : ViewHolder }.attached = (s.views v).attached) :
    ViewsInvariant config (s.setPhase v phase) := by
  subst wasPhase
  have sound := inv.inventory.views v
  refine inv.setView (inv.inventory.lt_viewCount used) ?_ rfl permit attached
  constructor
  · rw [sound.retired]
    exact retired.symm
  · exact sound.unassigned
  · exact fun isEnded => sound.ended (ended isEnded)
  · rw [sound.given]
    simp [given]

theorem setViewID {entry : Option Nat} (known : ∀ v, entry = some v → v < s.viewCount) :
    ViewsInvariant config (s.setViewID viewID entry) := by
  refine ⟨{ inv.permits with }, { inv.inventory with listed := ?_ }, { inv.attachments with }⟩
  apply (forall_update_iff s.viewIDToViewHolder
    fun _ entry => ∀ v, entry = some v → v < s.viewCount).mpr
  exact ⟨known, fun other _ => inv.inventory.listed other⟩

theorem setLatest {key : Nat} {entry : Option Nat}
    (known : ∀ b, entry = some b → b < s.batcherCount ∧ s.batcherKey b = key) :
    ViewsInvariant config (s.setLatest key entry) := by
  refine ⟨{ inv.permits with }, { inv.inventory with latest := ?_ }, { inv.attachments with }⟩
  apply (forall_update_iff s.viewParametersToLatestBatcher
    fun key entry => ∀ b, entry = some b → b < s.batcherCount ∧ s.batcherKey b = key).mpr
  exact ⟨known, fun other _ => inv.inventory.latest other⟩

theorem setCall (c : Nat) (phase : CallPhase) : ViewsInvariant config (s.setCall c phase) :=
  ⟨{ inv.permits with }, { inv.inventory with }, { inv.attachments with }⟩

theorem stop : ViewsInvariant config { s with stopped := true } := by
  refine ⟨{ inv.permits with }, { inv.inventory with views := ?_ }, { inv.attachments with }⟩
  intro v
  have sound := inv.inventory.views v
  exact ⟨sound.retired, sound.unassigned, fun _ => by simp, sound.given⟩

theorem retire {v : Nat} (unlisted : (s.views v).phase = .unlisted) :
    ViewsInvariant config
      (s.setView v
        { s.views v with
          batcher := none
          retired := true
          phase := .leaving (s.views v).batcher }) := by
  have sound := inv.inventory.views v
  have known : v < s.viewCount := by
    refine inv.inventory.lt_viewCount ?_
    rw [unlisted]
    simp
  refine inv.setView known ?_ rfl ?_ ?_
  · refine ⟨rfl, fun _ => rfl, ?_, ?_⟩
    · intro _
      exact sound.ended (by rw [unlisted]; rfl)
    · have given := sound.given
      rw [unlisted] at given
      exact given
  · rw [unlisted]
    rfl
  · simp [ViewHolder.attached, unlisted]

theorem advanceView {v : Nat} (advanced : s.advanceView config v = some next) :
    ViewsInvariant config next := by
  unfold ViewsState.advanceView at advanced
  have sound := inv.inventory.views v
  -- the steps of a view that is not retired, and does not retire
  have active :
      ∀ {old phase : ViewPhase}, (s.views v).phase = old → old ≠ .new →
        phase.holdsPermit = old.holdsPermit → phase.gavePermit = old.gavePermit →
        phase.isRetired = false → old.isRetired = false →
        (phase.afterContext = true → old.afterContext = true) →
        ViewsInvariant config (s.setPhase v phase) := by
    intro old phase wasPhase used permit given active wasActive ended
    apply inv.setPhase wasPhase used permit given (active.trans wasActive.symm) ended
    subst wasPhase
    rw [ViewHolder.attached_of_not_retired active, ViewHolder.attached_of_not_retired wasActive]
  split at advanced
  · cases advanced
  · next isPhase =>
    have known : v < s.viewCount := inv.inventory.lt_viewCount (by simp [isPhase])
    split at advanced
    · cases advanced
      refine inv.setView known ?_ rfl ?_ ?_
      · refine ⟨?_, sound.unassigned, ?_, ?_⟩
        · rw [sound.retired, isPhase]
          rfl
        · intro ended
          cases ended
        · rw [sound.given, isPhase]
          rfl
      · rw [isPhase]
        rfl
      · simp [ViewHolder.attached, isPhase]
    · cases advanced
      refine setViewID ?_ ?_
      · exact active isPhase (by simp) rfl rfl rfl rfl (fun ended => by cases ended)
      · intro w isView
        cases isView
        exact known
  · next isPhase =>
    cases advanced
    exact inv.release (by rw [isPhase]; rfl) ⟨rfl, rfl⟩ rfl (fun ended => by cases ended)
  · cases advanced
  · next isPhase =>
    cases advanced
    exact active isPhase (by simp) rfl rfl rfl rfl (fun ended => by cases ended)
  · next isPhase =>
    split at advanced
    · next done =>
      cases advanced
      exact inv.release (by rw [isPhase]; rfl) ⟨rfl, rfl⟩ rfl (fun _ => done)
    · cases advanced
  · next isPhase =>
    have unlisted : ViewsInvariant config (s.setPhase v .unlisted) :=
      active isPhase (by simp) rfl rfl rfl rfl (fun _ => rfl)
    split at advanced
    · cases advanced
      refine unlisted.setViewID ?_
      intro w isView
      cases isView
    · cases advanced
      exact unlisted
  · next isPhase =>
    split at advanced
    · cases advanced
      exact inv.retire isPhase
    · cases advanced
  · next isPhase =>
    cases advanced
    have retired := sound.retired
    rw [isPhase] at retired
    refine inv.setPhase isPhase (by simp) rfl rfl rfl (fun _ => rfl) ?_
    simpa [ViewHolder.attached, isPhase] using sound.unassigned retired
  · next isPhase =>
    cases advanced
    exact inv.leave isPhase
  · cases advanced

end

end ViewsInvariant

end FabricXCommitter.Query
