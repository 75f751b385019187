import FabricXCommitter.Sidecar.Relay
import Mathlib.Data.List.DropRight

/-!
# The loop over coordinator sessions

An error that asks for a delay is retried within one call of `backoff.Retry`, and the
running times of the sessions count against its limit.
-/

namespace FabricXCommitter.Sidecar

open Library List Option

inductive Sentinel where
  | errBackOff
  | errNonRetryable
  | contextCanceled
  deriving DecidableEq, Repr

inductive GoError where
  | sentinel (s : Sentinel)
  | new (message : String)
  | wrap (message : String) (err : GoError)
  | join (first second : GoError)
  | permanent (err : GoError)
  deriving DecidableEq, Repr

namespace GoError

/-- `errors.Is`. -/
def is (target : Sentinel) : GoError → Bool
  | .sentinel s => s == target
  | .new _ => false
  | .wrap _ err => err.is target
  | .join first second => first.is target || second.is target
  | .permanent err => err.is target

/-- `errors.As` for an error that is marked as permanent. -/
def asPermanent : GoError → Option GoError
  | .permanent err => some err
  | .wrap _ err => err.asPermanent
  | .join first second => first.asPermanent.or second.asPermanent
  | .sentinel _ | .new _ => none

end GoError

def processErr (err : Option GoError) (msg : String) : Option GoError := err.map (.wrap msg)

/-- Whether and when the context of the sidecar is cancelled. -/
inductive Cancellation where
  | never
  | running
  | waiting
  deriving DecidableEq, Repr

structure SessionFeedback extends CheckpointFeedback where
  snapshotBlockNumber : UInt64
  reason : String
  deriving DecidableEq, Repr

def processCheckpointFeedback (cancelled : Bool) (feedback : SessionFeedback) : Option GoError :=
  let txID := reprStr (feedback.ref.map TxRef.txId)
  let checkpoint :=
    "checkpoint TX " ++ txID ++ " for snapshot block " ++ toString feedback.snapshotBlockNumber
  match feedback.signal with
  | .unspecified => none
  | .halt =>
    some (.wrap (checkpoint ++ " diverged: " ++ feedback.reason) (.sentinel .errNonRetryable))
  | .hold =>
    if cancelled then
      some (.wrap "context ended while holding a checkpoint" (.sentinel .contextCanceled))
    else
      some
        (.wrap
          (checkpoint ++ " is held until the local snapshot hash is computed")
          (.sentinel .errBackOff))

/-- What ends a session: the recovery or the lookup of the last configuration
fails, feedback or another error ends the relay, or another goroutine ends. -/
inductive SessionEnd where
  | recoverFailed (err : GoError)
  | configFailed (err : GoError)
  | feedback (feedback : SessionFeedback)
  | relay (err : Option GoError)
  | other (err : Option GoError)
  deriving DecidableEq, Repr

def relayRun (err : Option GoError) : Option GoError :=
  processErr err "stream with the coordinator has ended"

def sendBlocksAndReceiveStatus (cancelled : Bool) : SessionEnd → Option GoError
  | .recoverFailed err => some (.join (.sentinel .errBackOff) err)
  | .configFailed err =>
    some (.wrap "failed to fetch latest config block for TLS initialization" err)
  | .feedback feedback => relayRun (processCheckpointFeedback cancelled feedback)
  | .relay err => relayRun err
  | .other err => err

/-- A session, with its running time and the interval that `NextBackOff` yields
after it. -/
structure Session where
  duration : Nat
  ending : SessionEnd
  interval : Nat
  cancellation : Cancellation := .never
  deriving DecidableEq, Repr

namespace Session

def result (session : Session) : Option GoError :=
  sendBlocksAndReceiveStatus (session.cancellation = .running) session.ending

/-- The time from the start of the session to the start of the next one. -/
def time (session : Session) : Nat := session.duration + session.interval

end Session

structure Profile where
  maxElapsedTime : Option Nat := none
  deriving DecidableEq, Repr

def defaultMaxElapsedTime : Nat := 15 * 60 * 1000000000

/-- The limit after `WithDefaults`. -/
def maxElapsedTime (p : Option Profile) : Nat :=
  (p.bind Profile.maxElapsedTime).getD defaultMaxElapsedTime

def sustainedError : Option GoError → GoError
  | none => .permanent (.new "sustained operation ended unexpectedly")
  | some err =>
    if err.is .errBackOff then
      .wrap "sustained operation error" err
    else
      .permanent err

/-- What `backoff.Retry` does after the operation: it waits and calls it again,
or returns. -/
inductive Retry where
  | again (elapsed : Nat)
  | returned (err : GoError)
  deriving DecidableEq, Repr

/-- One round of `backoff.Retry`, given the time since its call. -/
def retry (maxElapsedTime elapsed : Nat) (session : Session) : Retry :=
  let err := sustainedError session.result
  match err.asPermanent with
  | some err => .returned err
  | none =>
    if session.cancellation = .running then
      .returned (.sentinel .contextCanceled)
    else if 0 < maxElapsedTime ∧ maxElapsedTime < elapsed + session.duration + session.interval then
      .returned err
    else if session.cancellation = .waiting then
      .returned (.sentinel .contextCanceled)
    else
      .again (elapsed + session.duration + session.interval)

/-- The state of `Sustain`: the time since the call of `backoff.Retry`, the number
of sessions that were started, and the error that it has returned. -/
structure SustainState where
  elapsed : Nat := 0
  started : Nat := 1
  returned : Option GoError := none
  deriving DecidableEq, Repr

/-- The end of a session.  After the return nothing is started. -/
def sustainStep (maxElapsedTime : Nat) (s : SustainState) (session : Session) :
    Option SustainState :=
  if s.returned ≠ none then
    some s
  else
    match retry maxElapsedTime s.elapsed session with
    | .again elapsed => some { s with elapsed := elapsed, started := s.started + 1 }
    | .returned err =>
      if err.is .errBackOff then
        some { s with returned := some err }
      else if err.is .errNonRetryable then
        some { s with returned := some err }
      else if session.cancellation ≠ .never then
        some
          { s with
            returned := some (.wrap "context has been cancelled" (.sentinel .contextCanceled)) }
      else
        some { s with elapsed := 0, started := s.started + 1 }

def sessionLoop (p : Option Profile) : Machine SustainState Session where
  initial := {}
  step := sustainStep (maxElapsedTime p)

/-! ## When the operation is called again -/

namespace Session

def wraps (target : Sentinel) (session : Session) : Bool := session.result.any (GoError.is target)

/-- The context is live, and the operation has not marked its error as permanent. -/
structure Plain (session : Session) : Prop where
  uncancelled : session.cancellation = .never
  unmarked : ∀ err, session.result = some err → err.asPermanent = none

end Session

/-- The sessions since the last one that did not ask for a delay. -/
def streak (sessions : List Session) : List Session :=
  sessions.rtakeWhile (Session.wraps .errBackOff)

/-- The time since the call of `backoff.Retry`, the last interval included. -/
def streakTime (sessions : List Session) : Nat := ((streak sessions).map Session.time).sum

def GoesOn (limit elapsed : Nat) (session : Session) : Prop :=
  if session.wraps .errBackOff then
    limit = 0 ∨ elapsed + session.time ≤ limit
  else
    session.wraps .errNonRetryable = false

def CallsAgain (p : Option Profile) (sessions : List Session) : Prop :=
  ∃ s, (sessionLoop p).run sessions = some s ∧ s.returned = none ∧ s.started = sessions.length + 1

theorem streakTime_concat (sessions : List Session) (session : Session) :
    streakTime (sessions ++ [session]) =
      if session.wraps .errBackOff then streakTime sessions + session.time else 0 := by
  rw [streakTime, streak, rtakeWhile_concat]
  split <;> simp [streakTime, streak]

theorem sustainStep_plain (limit : Nat) {s : SustainState} {session : Session}
    (plain : session.Plain) (isRunning : s.returned = none) :
    ∃ next, sustainStep limit s session = some next ∧
      (next.returned = none ↔ GoesOn limit s.elapsed session) ∧
      (next.returned = none →
        next.started = s.started + 1 ∧
          next.elapsed =
            if session.wraps .errBackOff then s.elapsed + session.time else 0) := by
  have uncancelled := plain.uncancelled
  rw [sustainStep, if_neg (not_not.mpr isRunning)]
  cases isResult : session.result with
  | none =>
    have isRetry :
        retry limit s.elapsed session =
          .returned (.new "sustained operation ended unexpectedly") := by
      rw [retry, isResult]
      rfl
    simp [isRetry, GoesOn, Session.wraps, isResult, GoError.is, uncancelled, isRunning]
  | some err =>
    have unmarked := plain.unmarked err isResult
    by_cases backsOff : err.is .errBackOff = true
    · have isRetry :
          retry limit s.elapsed session =
            if 0 < limit ∧ limit < s.elapsed + session.time then
              .returned (.wrap "sustained operation error" err)
            else
              .again (s.elapsed + session.time) := by
        have isError : sustainedError (some err) = .wrap "sustained operation error" err :=
          if_pos backsOff
        have stillNone : (GoError.wrap "sustained operation error" err).asPermanent = none :=
          unmarked
        rw [retry, isResult, isError, stillNone, uncancelled, Session.time, Nat.add_assoc]
        rfl
      by_cases beyond : 0 < limit ∧ limit < s.elapsed + session.time
      · have stops : ¬ (limit = 0 ∨ s.elapsed + session.time ≤ limit) := by omega
        simp [isRetry, beyond, GoesOn, Session.wraps, isResult, backsOff, GoError.is, stops]
      · have goes : limit = 0 ∨ s.elapsed + session.time ≤ limit := by omega
        simp [isRetry, beyond, GoesOn, Session.wraps, isResult, backsOff, isRunning, goes]
    · have isRetry : retry limit s.elapsed session = .returned err := by
        rw [retry, isResult, sustainedError, if_neg backsOff]
        rfl
      by_cases nonRetryable : err.is .errNonRetryable = true
      · simp [isRetry, GoesOn, Session.wraps, isResult, backsOff, nonRetryable]
      · simp [isRetry, GoesOn, Session.wraps, isResult, backsOff, nonRetryable, uncancelled,
          isRunning]

section

variable {p : Option Profile} {sessions : List Session}

/-- While `Sustain` runs, its clock shows the time of the last sessions that all
asked for a delay. -/
theorem run_plain (plain : ∀ session ∈ sessions, session.Plain) :
    ∃ s, (sessionLoop p).run sessions = some s ∧
      (s.returned = none → s.started = sessions.length + 1 ∧ s.elapsed = streakTime sessions) := by
  induction sessions using List.reverseRecOn with
  | nil => exact ⟨_, rfl, fun _ => ⟨rfl, rfl⟩⟩
  | append_singleton earlier last ih =>
    obtain ⟨s, reached, known⟩ := ih fun session mem => plain session (mem_append_left _ mem)
    rw [Machine.run_concat, reached, bind_some]
    by_cases isRunning : s.returned = none
    · obtain ⟨next, stepped, _, fields⟩ :=
        sustainStep_plain (maxElapsedTime p) (plain last (by simp)) isRunning
      obtain ⟨started, elapsed⟩ := known isRunning
      refine ⟨next, stepped, fun goesOn => ?_⟩
      obtain ⟨nextStarted, nextElapsed⟩ := fields goesOn
      rw [nextStarted, nextElapsed, started, elapsed, streakTime_concat, length_append]
      exact ⟨rfl, rfl⟩
    · exact ⟨s, if_pos isRunning, fun runs => absurd runs isRunning⟩

theorem callsAgain_iff_of_run (plain : ∀ session ∈ sessions, session.Plain) {s : SustainState}
    (reached : (sessionLoop p).run sessions = some s) :
    CallsAgain p sessions ↔ s.returned = none := by
  obtain ⟨other, isReached, known⟩ := run_plain (p := p) plain
  rw [reached] at isReached
  cases isReached
  constructor
  · rintro ⟨other, isReached, isRunning, _⟩
    rw [reached] at isReached
    cases isReached
    exact isRunning
  · intro isRunning
    exact ⟨s, reached, isRunning, (known isRunning).1⟩

theorem callsAgain_concat
    {session : Session} (plain : ∀ other ∈ sessions ++ [session], other.Plain) :
    CallsAgain p (sessions ++ [session]) ↔
      CallsAgain p sessions ∧ GoesOn (maxElapsedTime p) (streakTime sessions) session := by
  have plainBefore : ∀ other ∈ sessions, other.Plain :=
    fun other mem => plain other (mem_append_left _ mem)
  obtain ⟨s, reached, known⟩ := run_plain (p := p) plainBefore
  have runs := (sessionLoop p).run_concat sessions session
  rw [reached, bind_some] at runs
  rw [callsAgain_iff_of_run plainBefore reached]
  by_cases isRunning : s.returned = none
  · obtain ⟨next, stepped, goesOn, _⟩ :=
      sustainStep_plain (maxElapsedTime p) (plain session (by simp)) isRunning
    rw [callsAgain_iff_of_run plain (runs.trans stepped), goesOn, (known isRunning).2]
    exact (and_iff_right isRunning).symm
  · have stays : (sessionLoop p).step s session = some s := if_pos isRunning
    rw [callsAgain_iff_of_run plain (runs.trans stays)]
    exact ⟨fun runs => absurd runs isRunning, fun both => absurd both.1 isRunning⟩

end

/-- The time from the first error of the last sessions that all asked for a delay to
the error of the last one. -/
def errorPeriod (sessions : List Session) : Nat :=
  ((streak sessions).tail.map Session.duration).sum +
    ((streak sessions).dropLast.map Session.interval).sum

/-- What the comment on `Sustain` promises about the call after the last one. -/
def ContractCallsAgain (p : Option Profile) (sessions : List Session) (last : Session) : Prop :=
  last.wraps .errNonRetryable = false ∧
    ¬ (last.wraps .errBackOff = true ∧ 0 < maxElapsedTime p ∧
      maxElapsedTime p ≤ errorPeriod (sessions ++ [last]))

/-- `Sustain` decides as promised exactly if the result does not ask for a delay, or
if it does not forbid the retry, unless the limit forbids it too, and the limit is
exceeded since the call of `backoff.Retry` exactly if it is reached since the first of
the errors. -/
theorem sustain_contract_iff {p : Option Profile} {sessions : List Session} {last : Session}
    (plain : ∀ session ∈ sessions ++ [last], session.Plain) (isRunning : CallsAgain p sessions) :
    (CallsAgain p (sessions ++ [last]) ↔ ContractCallsAgain p sessions last) ↔
      (last.wraps .errBackOff = true →
        if last.wraps .errNonRetryable = true then
          0 < maxElapsedTime p ∧ maxElapsedTime p < streakTime (sessions ++ [last])
        else
          maxElapsedTime p = 0 ∨
            (maxElapsedTime p < streakTime (sessions ++ [last]) ↔
              maxElapsedTime p ≤ errorPeriod (sessions ++ [last]))) := by
  rw [callsAgain_concat plain, and_iff_right isRunning, GoesOn, ContractCallsAgain,
    streakTime_concat]
  cases backsOff : last.wraps .errBackOff with
  | false => simp
  | true =>
    cases nonRetryable : last.wraps .errNonRetryable with
    | true =>
      simp only [if_true, reduceCtorEq, false_and, iff_false, true_implies]
      omega
    | false =>
      simp only [if_true, Bool.false_eq_true, if_false, true_and, true_implies]
      omega

/-- A call that returned the error after the given time. -/
def callOf (duration : Nat) (err : GoError) : Session where
  duration := duration
  ending := .other (some err)
  interval := 500000000

/-- An error that forbids a retry and asks for a delay is retried. -/
theorem joined_error_retried :
    CallsAgain none [callOf 0 (.join (.sentinel .errNonRetryable) (.sentinel .errBackOff))] ∧
      ¬ ContractCallsAgain none []
        (callOf 0 (.join (.sentinel .errNonRetryable) (.sentinel .errBackOff))) := by
  refine ⟨⟨_, rfl, rfl, rfl⟩, fun contract => ?_⟩
  cases contract.1

/-- A first call that asks for a delay after a second is retried, as promised. -/
theorem short_call_retried :
    CallsAgain none ([] ++ [callOf 1000000000 (.sentinel .errBackOff)]) ↔
      ContractCallsAgain none [] (callOf 1000000000 (.sentinel .errBackOff)) := by
  refine (sustain_contract_iff ?_ ⟨_, rfl, rfl, rfl⟩).mpr fun _ => ?_
  · intro session member
    rw [mem_singleton.mp member]
    refine ⟨rfl, fun err isResult => ?_⟩
    cases isResult
    rfl
  · exact .inr (by decide)

/-- The session ends because a checkpoint is held. -/
structure Session.Held (session : Session) : Prop where
  ending :
    ∃ feedback, session.ending = .feedback feedback ∧ feedback.signal = .hold
  uncancelled : session.cancellation = .never

theorem Session.Held.plain {session : Session} (held : session.Held) :
    session.Plain ∧ session.wraps .errBackOff = true := by
  obtain ⟨err, isResult, backsOff, unmarked⟩ :
      ∃ err, session.result = some err ∧ err.is .errBackOff = true ∧ err.asPermanent = none := by
    obtain ⟨feedback, isEnding, isHold⟩ := held.ending
    rw [Session.result, isEnding, sendBlocksAndReceiveStatus,
      processCheckpointFeedback, isHold, held.uncancelled]
    exact ⟨_, rfl, rfl, rfl⟩
  refine ⟨⟨held.uncancelled, fun other isOther => ?_⟩, ?_⟩
  · rw [isResult] at isOther
    cases isOther
    exact unmarked
  · rw [Session.wraps, isResult]
    exact backsOff

/-- After held sessions the sidecar starts another one exactly if there is no
limit, or the sessions and the intervals between them took no more time than the
limit. -/
theorem held_sessions_continue_iff
    {p : Option Profile} {sessions : List Session} (held : ∀ session ∈ sessions, session.Held) :
    (∃ s, (sessionLoop p).run sessions = some s ∧ s.returned = none ∧
        s.started = sessions.length + 1) ↔
      maxElapsedTime p = 0 ∨ (sessions.map Session.time).sum ≤ maxElapsedTime p := by
  have plain : ∀ session ∈ sessions, session.Plain :=
    fun session member => (held session member).plain.1
  change CallsAgain p sessions ↔ _
  induction sessions using List.reverseRecOn with
  | nil => exact ⟨fun _ => .inr (Nat.zero_le _), fun _ => ⟨_, rfl, rfl, rfl⟩⟩
  | append_singleton earlier last ih =>
    have heldBefore : ∀ session ∈ earlier, session.Held :=
      fun session member => held session (mem_append_left _ member)
    have backsOff := (held last (by simp)).plain.2
    have total : streakTime earlier = (earlier.map Session.time).sum := by
      rw [streakTime, streak, rtakeWhile_eq_self_iff.mpr]
      exact fun session member => (heldBefore session member).plain.2
    rw [callsAgain_concat plain,
      ih heldBefore fun session member => (heldBefore session member).plain.1, GoesOn,
      if_pos backsOff, total, map_append, sum_append]
    simp only [map_cons, map_nil, sum_cons, sum_nil]
    omega

/-- A session that ends after the given time because a checkpoint is held. -/
def heldSession (duration : Nat) : Session where
  duration := duration
  ending :=
    .feedback
      { signal := .hold
        ref := some ⟨[1], 5, 0⟩
        snapshotBlockNumber := 4
        reason := "" }
  interval := 500000000

theorem heldSession_held (duration : Nat) : (heldSession duration).Held := ⟨⟨_, rfl, rfl⟩, rfl⟩

/-- Three sessions of a minute are within the default limit. -/
theorem short_sessions_continue :
    ∃ s,
      (sessionLoop none).run (List.replicate 3 (heldSession 60000000000)) = some s ∧
        s.returned = none ∧ s.started = 4 := by
  have held : ∀ session ∈ List.replicate 3 (heldSession 60000000000), session.Held := by
    intro session member
    rw [eq_of_mem_replicate member]
    exact heldSession_held _
  exact (held_sessions_continue_iff held).mpr (.inr (by decide))

/-- One session of a quarter of an hour stops the sidecar. -/
theorem long_session_stops :
    (heldSession 900000000000).Held ∧
      ∃ s err,
        (sessionLoop none).run [heldSession 900000000000] = some s ∧
          s.returned = some err ∧ err.is .errBackOff = true ∧
            err.is .contextCanceled = false ∧ s.started = 1 :=
  ⟨heldSession_held _, _, _, rfl, rfl, rfl, rfl, rfl⟩

end FabricXCommitter.Sidecar
