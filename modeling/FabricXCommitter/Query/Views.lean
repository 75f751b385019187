import FabricXCommitter.Library.Machine
import FabricXCommitter.Library.UpdateOrCreate
import Mathlib.Data.Finset.Card
import Mathlib.Logic.Function.Basic

/-!
# Views and batchers of the query service

Each step is one operation on a map, the limiter or a context, or one critical section.
-/

namespace FabricXCommitter.Query

open Library Function

/-- An isolation level as the protocol transmits it.  The enumeration is open: a
request can carry any number. -/
abbrev IsoLevel := Int32

namespace IsoLevel

def unspecified : IsoLevel := 0
def serializable : IsoLevel := 1
def repeatableRead : IsoLevel := 2
def readCommitted : IsoLevel := 3
def readUncommitted : IsoLevel := 4

end IsoLevel

structure ViewParameters where
  isoLevel : IsoLevel := IsoLevel.unspecified
  nonDeferrable : Bool := false
  deriving DecidableEq

inductive TxIsoLevel where
  | serializable
  | repeatableRead
  | readCommitted
  | readUncommitted
  deriving DecidableEq, Repr

inductive TxAccessMode where
  | readWrite
  | readOnly
  deriving DecidableEq, Repr

inductive TxDeferrableMode where
  | deferrable
  | notDeferrable
  deriving DecidableEq, Repr

@[ext]
structure TxOptions where
  isoLevel : TxIsoLevel
  accessMode : TxAccessMode
  deferrableMode : TxDeferrableMode
  deriving DecidableEq, Repr

def minIsoLevel : Int := 0

def maxIsoLevel : Int := 3

def deferredBit : Nat := 4

/-- The key under which the batchers for a permutation of the parameters are
listed. -/
def viewParametersKey (p : ViewParameters) : Nat :=
  let index := (max minIsoLevel (min p.isoLevel.toInt maxIsoLevel)).toNat
  if p.nonDeferrable then index ||| deferredBit else index

def makeTxOptions (p : ViewParameters) : TxOptions where
  accessMode := .readOnly
  isoLevel :=
    if p.isoLevel = IsoLevel.serializable ∨ p.isoLevel = IsoLevel.unspecified then
      .serializable
    else if p.isoLevel = IsoLevel.repeatableRead then
      .repeatableRead
    else if p.isoLevel = IsoLevel.readCommitted then
      .readCommitted
    else if p.isoLevel = IsoLevel.readUncommitted then
      .readUncommitted
    else
      .serializable
  deferrableMode := if p.nonDeferrable then .notDeferrable else .deferrable

structure Config where
  maxAggregatedViews : Nat
  /-- The size of the limiter, if there is one. -/
  maxActiveViews : Option Nat

/-- How far the creation of a view, or the function that runs after the end of its
context, has come. -/
inductive ViewPhase where
  | new
  | acquired
  | collided
  | failed
  | stored
  | created
  | released
  | unlisted
  | leaving (batcher : Option Nat)
  | left
  deriving DecidableEq, Repr

structure ViewHolder where
  viewID : String := ""
  params : ViewParameters := {}
  ctxDone : Bool := false
  /-- The call of `getBatcher` that holds the lock of the view. -/
  lock : Option Nat := none
  batcher : Option Nat := none
  retired : Bool := false
  phase : ViewPhase := .new
  /-- How often a permit was given back for this view. -/
  permitsGiven : Nat := 0

structure Batcher where
  /-- The view whose query created the batcher. -/
  creator : Nat := 0
  options : TxOptions := makeTxOptions {}
  cancelled : Bool := false
  refCounter : Nat := 0
  posted : Bool := false
  /-- The options with which the shared transaction was opened. -/
  tx : Option TxOptions := none
  /-- Whether the batcher was ever assigned to a view. -/
  assigned : Bool := false
  /-- The views that joined the batcher and have not left it. -/
  joined : Finset Nat := ∅

/-- How far a call of `getBatcher` has come. -/
inductive CallPhase where
  | idle
  | loading (viewID : String)
  | locking (v : Nat)
  | checking (v : Nat)
  | assigning (v : Nat) (phase : UpdateOrCreate.Phase Nat Unit)
  | staleCheck (v : Nat)
  | returned (v : Nat) (b : Nat)
  | failed
  deriving DecidableEq

structure ViewsState where
  views : Nat → ViewHolder := fun _ => {}
  viewCount : Nat := 0
  batchers : Nat → Batcher := fun _ => {}
  batcherCount : Nat := 0
  calls : Nat → CallPhase := fun _ => .idle
  viewIDToViewHolder : String → Option Nat := fun _ => none
  viewParametersToLatestBatcher : Nat → Option Nat := fun _ => none
  permits : Nat := 0
  /-- The views that hold a permit. -/
  holders : Finset Nat := ∅
  stopped : Bool := false

namespace ViewsState

def setView (s : ViewsState) (v : Nat) (holder : ViewHolder) : ViewsState :=
  { s with views := update s.views v holder }

def setBatcher (s : ViewsState) (b : Nat) (batcher : Batcher) : ViewsState :=
  { s with batchers := update s.batchers b batcher }

def setCall (s : ViewsState) (c : Nat) (phase : CallPhase) : ViewsState :=
  { s with calls := update s.calls c phase }

def setViewID (s : ViewsState) (viewID : String) (holder : Option Nat) : ViewsState :=
  { s with
    viewIDToViewHolder := update s.viewIDToViewHolder viewID holder }

def setLatest (s : ViewsState) (key : Nat) (batcher : Option Nat) : ViewsState :=
  { s with
    viewParametersToLatestBatcher := update s.viewParametersToLatestBatcher key batcher }

def batcherKey (s : ViewsState) (b : Nat) : Nat :=
  viewParametersKey (s.views (s.batchers b).creator).params

def viewKey (s : ViewsState) (v : Nat) : Nat := viewParametersKey (s.views v).params

/-- Take a permit for a new view, if there is a limiter. -/
def acquirePermit (config : Config) (s : ViewsState) (v : Nat) : Option ViewsState :=
  match config.maxActiveViews with
  | none => some { s with holders := insert v s.holders }
  | some limit =>
    if s.permits < limit then
      some
        { s with
          permits := s.permits + 1
          holders := insert v s.holders }
    else
      none

def releasePermit (config : Config) (s : ViewsState) (v : Nat) : ViewsState :=
  { s.setView v { s.views v with permitsGiven := (s.views v).permitsGiven + 1 } with
    permits :=
      if config.maxActiveViews = none then s.permits else s.permits - 1
    holders := s.holders.erase v }

/-- `makeView` up to the permit and the new holder. -/
def makeView (config : Config) (s : ViewsState)
    (viewID : String) (params : ViewParameters) : Option ViewsState :=
  match s.acquirePermit config s.viewCount with
  | none => some s
  | some acquired =>
    some
      { acquired.setView s.viewCount { viewID := viewID, params := params, phase := .acquired } with
        viewCount := s.viewCount + 1 }

def viewDone (s : ViewsState) (v : Nat) : Bool := (s.views v).ctxDone || s.stopped

def isStale (s : ViewsState) (b : Nat) : Bool := (s.batchers b).cancelled || s.stopped

def setPhase (s : ViewsState) (v : Nat) (phase : ViewPhase) : ViewsState :=
  s.setView v { s.views v with phase := phase }

/-- The critical section of `leave`. -/
def leave (s : ViewsState) (v b : Nat) : ViewsState :=
  let batcher := s.batchers b
  let refCounter :=
    if 0 < batcher.refCounter then batcher.refCounter - 1
    else batcher.refCounter
  s.setBatcher b
    { batcher with
      refCounter := refCounter
      cancelled := batcher.cancelled || refCounter == 0
      joined := batcher.joined.erase v }

/-- The next step of the creation of a view, or of the function that runs after the
end of its context. -/
def advanceView (config : Config) (s : ViewsState) (v : Nat) : Option ViewsState :=
  match (s.views v).phase with
  | .new => none
  | .acquired =>
    match s.viewIDToViewHolder (s.views v).viewID with
    | some _ => some (s.setView v { s.views v with ctxDone := true, phase := .collided })
    | none => some ((s.setPhase v .stored).setViewID (s.views v).viewID (some v))
  | .collided => some ((s.releasePermit config v).setPhase v .failed)
  | .failed => none
  | .stored => some (s.setPhase v .created)
  | .created =>
    if s.viewDone v then
      some ((s.releasePermit config v).setPhase v .released)
    else
      none
  | .released =>
    if s.viewIDToViewHolder (s.views v).viewID = some v then
      some ((s.setPhase v .unlisted).setViewID (s.views v).viewID none)
    else
      some (s.setPhase v .unlisted)
  | .unlisted =>
    if (s.views v).lock = none then
      some
        (s.setView v
          { s.views v with
            batcher := none
            retired := true
            phase := .leaving (s.views v).batcher })
    else
      none
  | .leaving none => some (s.setPhase v .left)
  | .leaving (some b) => some ((s.leave v b).setPhase v .left)
  | .left => none

/-- The critical section of `join`. -/
def join (config : Config) (s : ViewsState) (v b : Nat) : Option ViewsState :=
  let batcher := s.batchers b
  if s.isStale b ∨ config.maxAggregatedViews ≤ batcher.refCounter then
    none
  else
    some
      ((s.setBatcher b
        { batcher with
          refCounter := batcher.refCounter + 1
          assigned := true
          joined := insert v batcher.joined }).setView v
        { s.views v with batcher := some b })

def createBatcher (s : ViewsState) (v : Nat) : ViewsState :=
  { s.setBatcher s.batcherCount { creator := v, options := makeTxOptions (s.views v).params } with
    batcherCount := s.batcherCount + 1 }

end ViewsState

open ViewsState

def updateOrCreateBatcher (config : Config) (v : Nat) : UpdateOrCreate ViewsState Nat Unit where
  load s := s.viewParametersToLatestBatcher (s.viewKey v)
  store s b := s.setLatest (s.viewKey v) (some b)
  create s := (s.createBatcher v, s.batcherCount)
  post s b := s.setBatcher b { s.batchers b with posted := true }
  start := ()
  update s b _ :=
    match s.join config v b with
    | some joined => some (joined, .returned true)
    | none => some (s, .returned false)

namespace ViewsState

def lockView (s : ViewsState) (v : Nat) (lock : Option Nat) : ViewsState :=
  s.setView v { s.views v with lock := lock }

/-- The next step of a call of `getBatcher`, whose context ended if `ctxEnded`. -/
def advanceCall (config : Config) (s : ViewsState) (c : Nat) (ctxEnded : Bool) :
    Option ViewsState :=
  match s.calls c with
  | .idle => none
  | .loading viewID =>
    match s.viewIDToViewHolder viewID with
    | none => some (s.setCall c .failed)
    | some v => some (s.setCall c (.locking v))
  | .locking v =>
    if (s.views v).lock = none then
      some ((s.lockView v (some c)).setCall c (.checking v))
    else
      none
  | .checking v =>
    if (s.views v).retired then
      some ((s.lockView v none).setCall c .failed)
    else if (s.views v).batcher = none then
      some (s.setCall c (.assigning v .loading))
    else
      some (s.setCall c (.staleCheck v))
  | .assigning v (.updated _) => some (s.setCall c (.staleCheck v))
  | .assigning v .ended => some ((s.lockView v none).setCall c .failed)
  | .assigning v phase =>
    match (updateOrCreateBatcher config v).step s ctxEnded phase with
    | none => none
    | some (next, nextPhase) => some (next.setCall c (.assigning v nextPhase))
  | .staleCheck v =>
    match (s.views v).batcher with
    | none => none
    | some b =>
      if s.isStale b then
        some ((s.lockView v none).setCall c .failed)
      else
        some ((s.lockView v none).setCall c (.returned v b))
  | .returned _ _ => none
  | .failed => none

end ViewsState

inductive ViewsAction where
  | makeView (viewID : String) (params : ViewParameters)
  | advanceView (v : Nat)
  | endContext (v : Nat)
  | removeViewID (viewID : String)
  | stop
  | getBatcher (c : Nat) (viewID : String)
  | advanceCall (c : Nat) (ctxEnded : Bool)
  | unlistBatcher (b : Nat)
  | acquire (b : Nat)

def viewsStep (config : Config) (s : ViewsState) : ViewsAction → Option ViewsState
  | .makeView viewID params => s.makeView config viewID params
  | .advanceView v => s.advanceView config v
  | .endContext v =>
    if (s.views v).phase = .new then
      none
    else
      some (s.setView v { s.views v with ctxDone := true })
  | .removeViewID viewID => some (s.setViewID viewID none)
  | .stop => some { s with stopped := true }
  | .getBatcher c viewID =>
    if s.calls c = .idle then
      some (s.setCall c (.loading viewID))
    else
      none
  | .advanceCall c ctxEnded => s.advanceCall config c ctxEnded
  | .unlistBatcher b =>
    -- The timer of the aggregation window, or the end of the batcher's context.
    if (s.batchers b).posted then
      if s.viewParametersToLatestBatcher (s.batcherKey b) = some b then
        some (s.setLatest (s.batcherKey b) none)
      else
        some s
    else
      none
  | .acquire b =>
    -- The shared transaction is opened when it is first used.
    if b < s.batcherCount then
      some
        (s.setBatcher b
          { s.batchers b with
            tx := (s.batchers b).tx.or (some (s.batchers b).options) })
    else
      none

def viewsBatcher (config : Config) : Machine ViewsState ViewsAction where
  initial := {}
  step := viewsStep config

end FabricXCommitter.Query
