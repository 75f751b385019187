import Mathlib.Data.Option.Basic

/-!
# Lock-free update or creation of a map entry
-/

namespace FabricXCommitter.Library

universe u v w

inductive UpdateStep (Pc : Type w) where
  | running (pc : Pc)
  | returned (updated : Bool)
  deriving DecidableEq, Repr

/-- The operations of one caller, over a shared state: loading and storing the entry
under its key, and the caller's own methods. -/
structure UpdateOrCreate (Shared : Type u) (Value : Type v) (Pc : Type w) where
  load : Shared → Option Value
  store : Shared → Value → Shared
  create : Shared → Shared × Value
  post : Shared → Value → Shared
  start : Pc
  update : Shared → Value → Pc → Option (Shared × UpdateStep Pc)

namespace UpdateOrCreate

/-- What the caller does next. -/
inductive Phase (Value : Type v) (Pc : Type w) where
  | loading
  | attempting (val : Option Value)
  | updating (val : Value) (pc : Pc)
  | creating (val : Option Value)
  | assigning (val : Option Value) (newVal : Value)
  | posting (newVal : Value)
  | updated (val : Value)
  | ended
  deriving DecidableEq, Repr

variable {Shared : Type u} {Value : Type v} {Pc : Type w}

def step [DecidableEq Value]
    (methods : UpdateOrCreate Shared Value Pc) (s : Shared) (ctxEnded : Bool) :
    Phase Value Pc → Option (Shared × Phase Value Pc)
  | .loading => some (s, .attempting (methods.load s))
  | .attempting val =>
    if ctxEnded then
      some (s, .ended)
    else
      match val with
      | some value => some (s, .updating value methods.start)
      | none => some (s, .creating none)
  | .updating value pc =>
    match methods.update s value pc with
    | none => none
    | some (next, .running pc) => some (next, .updating value pc)
    | some (next, .returned true) => some (next, .updated value)
    | some (next, .returned false) => some (next, .creating (some value))
  | .creating val => some ((methods.create s).1, .assigning val (methods.create s).2)
  | .assigning none newVal =>
    match methods.load s with
    | some value => some (s, .attempting (some value))
    | none => some (methods.store s newVal, .posting newVal)
  | .assigning (some value) newVal =>
    if methods.load s = some value then
      some (methods.store s newVal, .posting newVal)
    else
      some (s, .loading)
  | .posting newVal => some (methods.post s newVal, .attempting (some newVal))
  | .updated _ => none
  | .ended => none

def Phase.Knows (known : Value → Prop) : Phase Value Pc → Prop
  | .loading => True
  | .attempting val => ∀ value, val = some value → known value
  | .updating value _ => known value
  | .creating val => ∀ value, val = some value → known value
  | .assigning val newVal => (∀ value, val = some value → known value) ∧ known newVal
  | .posting newVal => known newVal
  | .updated value => known value
  | .ended => True

theorem Phase.Knows.mono {known wider : Value → Prop} (widens : ∀ value, known value → wider value)
    {phase : Phase Value Pc} (knows : phase.Knows known) :
    phase.Knows wider := by
  cases phase with
  | loading => trivial
  | attempting val => exact fun value isVal => widens value (knows value isVal)
  | updating val pc => exact widens val knows
  | creating val => exact fun value isVal => widens value (knows value isVal)
  | assigning val newVal =>
    exact ⟨fun value isVal => widens value (knows.1 value isVal), widens newVal knows.2⟩
  | posting newVal => exact widens newVal knows
  | updated val => exact widens val knows
  | ended => trivial

/-- What the operations keep: `During` holds until the update succeeds, `After` from
then on; `Known` holds of every value that was ever listed or created; `Ready` holds
between the steps of the update. -/
structure Sound (methods : UpdateOrCreate Shared Value Pc)
    (During : Shared → Prop) (After : Shared → Value → Prop)
    (Known : Shared → Value → Prop) (Ready : Shared → Value → Pc → Prop) :
    Prop where
  load : ∀ s value, During s → methods.load s = some value → Known s value
  store :
    ∀ s newVal, During s → Known s newVal →
      During (methods.store s newVal) ∧
        ∀ value, Known s value → Known (methods.store s newVal) value
  create :
    ∀ s, During s →
      During (methods.create s).1 ∧
        Known (methods.create s).1 (methods.create s).2 ∧
        ∀ value, Known s value → Known (methods.create s).1 value
  post :
    ∀ s newVal, During s → Known s newVal →
      During (methods.post s newVal) ∧ ∀ value, Known s value → Known (methods.post s newVal) value
  start : ∀ s value, During s → Known s value → Ready s value methods.start
  running :
    ∀ s value pc next nextPc, During s → Known s value → Ready s value pc →
      methods.update s value pc = some (next, .running nextPc) →
        During next ∧ Known next value ∧ Ready next value nextPc
  refused :
    ∀ s value pc next, During s → Known s value → Ready s value pc →
      methods.update s value pc = some (next, .returned false) → During next ∧ Known next value
  updated :
    ∀ s value pc next, During s → Known s value → Ready s value pc →
      methods.update s value pc = some (next, .returned true) → After next value

def Phase.Holds (During : Shared → Prop) (After : Shared → Value → Prop)
    (Known : Shared → Value → Prop) (Ready : Shared → Value → Pc → Prop)
    (s : Shared) : Phase Value Pc → Prop
  | .updated value => After s value
  | .updating value pc => During s ∧ Known s value ∧ Ready s value pc
  | phase => During s ∧ phase.Knows (Known s)

theorem Phase.Holds.transfer
    {During DuringNext : Shared → Prop} {After AfterNext : Shared → Value → Prop}
    {Known KnownNext : Shared → Value → Prop}
    {Ready ReadyNext : Shared → Value → Pc → Prop} {s next : Shared}
    (during : During s → DuringNext next) (after : ∀ value, After s value → AfterNext next value)
    (known : ∀ value, Known s value → KnownNext next value)
    (ready : ∀ value pc, Ready s value pc → ReadyNext next value pc)
    {phase : Phase Value Pc} (holds : phase.Holds During After Known Ready s) :
    phase.Holds DuringNext AfterNext KnownNext ReadyNext next := by
  cases phase with
  | updated value => exact after value holds
  | updating value pc => exact ⟨during holds.1, known value holds.2.1, ready value pc holds.2.2⟩
  | loading | attempting | creating | assigning | posting | ended =>
    exact ⟨during holds.1, holds.2.mono known⟩

section

variable [DecidableEq Value]
variable {methods : UpdateOrCreate Shared Value Pc}
variable {During : Shared → Prop} {After : Shared → Value → Prop}
variable {Known : Shared → Value → Prop} {Ready : Shared → Value → Pc → Prop}

theorem Sound.step (sound : methods.Sound During After Known Ready)
    {s next : Shared} {ctxEnded : Bool} {phase nextPhase : Phase Value Pc}
    (holds : phase.Holds During After Known Ready s)
    (stepped : methods.step s ctxEnded phase = some (next, nextPhase)) :
    nextPhase.Holds During After Known Ready next := by
  revert stepped
  fun_cases UpdateOrCreate.step methods s ctxEnded phase with
  | case1 =>
    intro stepped
    cases stepped
    exact ⟨holds.1, fun value loaded => sound.load s value holds.1 loaded⟩
  | case2 | case13 =>
    intro stepped
    cases stepped
    exact ⟨holds.1, trivial⟩
  | case3 _ value =>
    intro stepped
    cases stepped
    have known := holds.2 value rfl
    exact ⟨holds.1, known, sound.start s value holds.1 known⟩
  | case4 =>
    intro stepped
    cases stepped
    exact holds
  | case6 value pc _ _ running =>
    intro stepped
    cases stepped
    exact sound.running s value pc _ _ holds.1 holds.2.1 holds.2.2 running
  | case7 value pc _ succeeded =>
    intro stepped
    cases stepped
    exact sound.updated s value pc _ holds.1 holds.2.1 holds.2.2 succeeded
  | case8 value pc _ refused =>
    intro stepped
    cases stepped
    obtain ⟨stillDuring, stillKnown⟩ :=
      sound.refused s value pc _ holds.1 holds.2.1 holds.2.2 refused
    refine ⟨stillDuring, fun refusedValue isValue => ?_⟩
    cases isValue
    exact stillKnown
  | case9 =>
    intro stepped
    cases stepped
    obtain ⟨during, created, kept⟩ := sound.create s holds.1
    exact ⟨during, fun value isVal => kept value (holds.2 value isVal), created⟩
  | case10 newVal value loaded =>
    intro stepped
    cases stepped
    refine ⟨holds.1, fun other isValue => ?_⟩
    cases isValue
    exact sound.load s value holds.1 loaded
  | case11 newVal | case12 value newVal =>
    intro stepped
    cases stepped
    obtain ⟨stored, kept⟩ := sound.store s newVal holds.1 holds.2.2
    exact ⟨stored, kept newVal holds.2.2⟩
  | case14 newVal =>
    intro stepped
    cases stepped
    obtain ⟨during, kept⟩ := sound.post s newVal holds.1 holds.2
    refine ⟨during, fun value isValue => ?_⟩
    cases isValue
    exact kept newVal holds.2
  | _ =>
    intro stepped
    cases stepped

theorem step_leads {s : Shared} {reached : Shared → Prop} (unchanged : reached s)
    (store : ∀ newVal, reached (methods.store s newVal)) (create : reached (methods.create s).1)
    (post : ∀ newVal, reached (methods.post s newVal))
    (update :
      ∀ value pc next outcome, methods.update s value pc = some (next, outcome) → reached next)
    {next : Shared} {ctxEnded : Bool} {phase nextPhase : Phase Value Pc}
    (stepped : methods.step s ctxEnded phase = some (next, nextPhase)) :
    reached next := by
  revert stepped
  fun_cases UpdateOrCreate.step methods s ctxEnded phase with
  | case6 value pc _ _ outcome | case7 value pc _ outcome | case8 value pc _ outcome =>
    intro stepped
    cases stepped
    exact update value pc _ _ outcome
  | case9 =>
    intro stepped
    cases stepped
    exact create
  | case11 newVal | case12 _ newVal =>
    intro stepped
    cases stepped
    exact store newVal
  | case14 newVal =>
    intro stepped
    cases stepped
    exact post newVal
  | case5 | case15 | case16 =>
    intro stepped
    cases stepped
  | _ =>
    intro stepped
    cases stepped
    exact unchanged

end

end UpdateOrCreate

end FabricXCommitter.Library
