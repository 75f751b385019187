import FabricXCommitter.Library.Machine
import FabricXCommitter.Library.Overlay
import FabricXCommitter.Transaction
import Mathlib.Data.Finset.Card
import Mathlib.Data.List.Count

/-!
# Subscriptions to transaction statuses

The notifier is one goroutine, so each event is one step.
-/

namespace FabricXCommitter.Sidecar.Notifier

open Library List Function

inductive Timer where
  | unset
  | running
  | stopped
  deriving DecidableEq, Repr

structure Request where
  txIds : List Bytes := []
  stream : Nat := 0
  pending : Int := 0
  timer : Timer := .unset
  deriving DecidableEq, Repr

/-- The map `txIDToRequests` of sets is kept as the list of its pairs. -/
structure Subscriptions where
  txIDToRequests : List (Bytes × Nat) := []
  availableSlots : Int
  deriving DecidableEq, Repr

/-- The events of a status response carry the requests that they are for. -/
inductive Response where
  | rejectedTxIds (req : Nat) (txIDs : List Bytes) (reason : String)
  | txStatusEvents (stream : Nat) (events : List (Nat × TxStatus))
  | timeoutTxIds (req : Nat) (txIDs : List Bytes)
  deriving DecidableEq, Repr

def answeredBy (event : Nat × TxStatus) : Bytes × Nat := (event.2.ref.txId, event.1)

def Response.answers : Response → List (Bytes × Nat)
  | .rejectedTxIds _ _ _ => []
  | .txStatusEvents _ events => events.map answeredBy
  | .timeoutTxIds req txIDs => txIDs.map fun id => (id, req)

/-- The fields `subscribed` and `timedOut` record what was added, and the requests
whose timeout was processed. -/
structure State where
  subs : Subscriptions
  requests : Nat → Request := fun _ => {}
  received : Nat := 0
  responses : List Response := []
  subscribed : List (Bytes × Nat) := []
  timedOut : List Nat := []

/-- The loop of `addRequest`, with `req.pending` and the rejected IDs. -/
def Subscriptions.addRequest (req : Nat) :
    List Bytes → Subscriptions → Int → (Subscriptions × Int) × List Bytes
  | [], m, pending => ((m, pending), [])
  | id :: rest, m, pending =>
    if (id, req) ∈ m.txIDToRequests then
      addRequest req rest m pending
    else if m.availableSlots ≤ 0 then
      ((m, pending), id :: rest)
    else
      addRequest req rest ⟨m.txIDToRequests ++ [(id, req)], m.availableSlots - 1⟩ (pending + 1)

def State.receive
    (maxTxIDsPerRequest : Nat) (s : State) (txIds : List Bytes) (stream : Nat) : State :=
  let req := s.received
  if txIds.length > maxTxIDsPerRequest then
    { s with
      requests := update s.requests req { txIds := txIds, stream := stream }
      received := req + 1
      responses :=
        s.responses ++
          [.rejectedTxIds req txIds
            ("request contains " ++ toString txIds.length ++ " tx IDs, max allowed is " ++
              toString maxTxIDsPerRequest)] }
  else
    let result := s.subs.addRequest req txIds 0
    { s with
      subs := result.1.1
      requests :=
        update s.requests req
          { txIds := txIds
            stream := stream
            pending := result.1.2
            timer := if 0 < result.1.2 then .running else .unset }
      received := req + 1
      responses :=
        s.responses ++
          if 0 < result.2.length then
            [.rejectedTxIds req result.2 "active tx IDs limit reached"]
          else
            []
      subscribed := s.subscribed ++ result.1.1.txIDToRequests.filter fun pair => pair.2 = req }

def Request.answered (r : Request) : Request :=
  { r with
    pending := r.pending - 1
    timer := if r.pending - 1 = 0 then .stopped else r.timer }

/-- One iteration of the inner loop of `removeAndEnqueueStatusEvents`. -/
def State.answer (status : TxStatus) (result : State × List (Nat × TxStatus)) (req : Nat) :
    State × List (Nat × TxStatus) :=
  ({ result.1 with
      subs.availableSlots := result.1.subs.availableSlots + 1
      requests := update result.1.requests req (result.1.requests req).answered },
    result.2 ++ [(req, status)])

def State.answerAll (result : State × List (Nat × TxStatus)) (status : TxStatus) :
    State × List (Nat × TxStatus) :=
  let pairs := result.1.subs.txIDToRequests
  let reqList := (pairs.filter fun pair => pair.1 = status.ref.txId).map Prod.snd
  reqList.foldl (State.answer status)
    ({ result.1 with
        subs.txIDToRequests := pairs.filter fun pair => ¬ pair.1 = status.ref.txId },
      result.2)

def State.removeAndEnqueueStatusEvents (s : State) (statuses : List TxStatus) : State :=
  let result := statuses.foldl State.answerAll (s, [])
  let streamOf := fun event : Nat × TxStatus => (s.requests event.1).stream
  { result.1 with
    responses :=
      s.responses ++
        (result.2.map streamOf).dedup.map fun stream =>
          .txStatusEvents stream (result.2.filter fun event => streamOf event == stream) }

/-- One iteration of the loop of `removeAndEnqueueTimeoutEvents`. -/
def Subscriptions.expire (req : Nat) (result : Subscriptions × List Bytes) (id : Bytes) :
    Subscriptions × List Bytes :=
  if (id, req) ∈ result.1.txIDToRequests then
    (⟨result.1.txIDToRequests.erase (id, req), result.1.availableSlots + 1⟩, result.2 ++ [id])
  else
    result

def State.removeAndEnqueueTimeoutEvents (s : State) (req : Nat) : State :=
  let result := (s.requests req).txIds.foldl (Subscriptions.expire req) (s.subs, [])
  { s with
    subs := result.1
    responses := s.responses ++ if 0 < result.2.length then [.timeoutTxIds req result.2] else []
    timedOut := req :: s.timedOut }

inductive Action where
  | request (txIds : List Bytes) (stream : Nat)
  | status (statuses : List TxStatus)
  | timeout (req : Nat)

/-- A timer runs out once, if it was set. -/
def State.step (maxTxIDsPerRequest : Nat) (s : State) : Action → Option State
  | .request txIds stream => some (s.receive maxTxIDsPerRequest txIds stream)
  | .status statuses => some (s.removeAndEnqueueStatusEvents statuses)
  | .timeout req =>
    if (s.requests req).timer ≠ .unset ∧ req ∉ s.timedOut then
      some (s.removeAndEnqueueTimeoutEvents req)
    else
      none

def notifier (maxActiveTxIDs maxTxIDsPerRequest : Nat) : Machine State Action where
  initial := { subs := { availableSlots := maxActiveTxIDs } }
  step := State.step maxTxIDsPerRequest

/-! ## What a request is subscribed to -/

theorem forall_split_cons
    {Item : Type} {first : Item} {rest : List Item} {P : List Item → Item → List Item → Prop} :
    (∀ before cut after, first :: rest = before ++ cut :: after → P before cut after) ↔
      P [] first rest ∧
        ∀ before cut after, rest = before ++ cut :: after → P (first :: before) cut after := by
  constructor
  · intro every
    refine ⟨every [] first rest rfl, fun before cut after split => ?_⟩
    exact every (first :: before) cut after (congrArg (first :: ·) split)
  · rintro ⟨atFirst, later⟩ before cut after split
    cases before with
    | nil =>
      cases split
      exact atFirst
    | cons head before =>
      obtain ⟨rfl, sameRest⟩ := List.cons.inj split
      exact later before cut after sameRest

/-- With the slots and the subscribed IDs given, no ID is repeated behind the first one
that does not fit. -/
def CutOnce (slots : Nat) (seen : Finset Bytes) (ids : List Bytes) : Prop :=
  ∀ before cut after, ids = before ++ cut :: after →
    cut ∉ seen ∪ before.toFinset → (before.toFinset \ seen).card = slots →
      ∀ id ∈ seen ∪ before.toFinset, id ∉ after

section

variable {slots : Nat} {seen : Finset Bytes} {id : Bytes} {rest : List Bytes}

theorem cutOnce_cons_of_mem (known : id ∈ seen) :
    CutOnce slots seen (id :: rest) ↔ CutOnce slots seen rest := by
  have same (ids : Finset Bytes) : seen ∪ insert id ids = seen ∪ ids := by grind
  simp only [CutOnce, forall_split_cons, toFinset_cons, Finset.insert_sdiff_of_mem _ known, same]
  exact and_iff_right fun unseen => absurd (Finset.mem_union_left _ known) unseen

theorem cutOnce_cons_of_full (unknown : id ∉ seen) :
    CutOnce 0 seen (id :: rest) ↔ ∀ other ∈ seen, other ∉ rest := by
  simp only [CutOnce, forall_split_cons, toFinset_cons]
  constructor
  · intro cut other known
    exact cut.1 (by simpa using unknown) (by simp) other (Finset.mem_union_left _ known)
  · intro apart
    refine ⟨fun _ _ => by simpa using apart, fun before cut after _ _ none => ?_⟩
    have covered := Finset.sdiff_eq_empty_iff_subset.mp (Finset.card_eq_zero.mp none)
    exact absurd (covered (Finset.mem_insert_self ..)) unknown

theorem cutOnce_cons_of_free (unknown : id ∉ seen) :
    CutOnce (slots + 1) seen (id :: rest) ↔ CutOnce slots (insert id seen) rest := by
  have same (ids : Finset Bytes) : seen ∪ insert id ids = insert id seen ∪ ids := by grind
  have card (ids : Finset Bytes) :
      (insert id ids \ seen).card = (ids \ insert id seen).card + 1 := by
    have split : insert id ids \ seen = insert id (ids \ insert id seen) := by grind
    rw [split, Finset.card_insert_of_notMem (by simp)]
  simp only [CutOnce, forall_split_cons, toFinset_cons, same, card, Nat.add_right_cancel_iff]
  exact and_iff_right fun _ impossible => by simp at impossible

end

namespace Subscriptions

variable {req : Nat}

theorem mem_addRequest (ids : List Bytes) (m : Subscriptions) (pending : Int) (id : Bytes) :
    id ∈ (m.addRequest req ids pending).2 ∨
        (id, req) ∈ (m.addRequest req ids pending).1.1.txIDToRequests ↔
      id ∈ ids ∨ (id, req) ∈ m.txIDToRequests := by
  fun_induction addRequest req ids m pending <;> grind

theorem addRequest_disjoint_iff (ids : List Bytes) (m : Subscriptions) (pending : Int)
    {seen : Finset Bytes} (isSeen : ∀ id, (id, req) ∈ m.txIDToRequests ↔ id ∈ seen) :
    (∀ id ∈ (m.addRequest req ids pending).2,
        (id, req) ∉ (m.addRequest req ids pending).1.1.txIDToRequests) ↔
      CutOnce m.availableSlots.toNat seen ids := by
  fun_induction addRequest req ids m pending generalizing seen with
  | case1 m pending => simp [CutOnce]
  | case2 id rest m pending subscribed ih =>
    rw [ih isSeen, cutOnce_cons_of_mem ((isSeen id).mp subscribed)]
  | case3 id rest m pending unsubscribed full =>
    have empty : m.availableSlots.toNat = 0 := by omega
    rw [isSeen] at unsubscribed
    rw [empty, cutOnce_cons_of_full unsubscribed]
    grind
  | case4 id rest m pending unsubscribed free ih =>
    have slots : m.availableSlots.toNat = (m.availableSlots - 1).toNat + 1 := by omega
    rw [isSeen] at unsubscribed
    rw [slots, cutOnce_cons_of_free unsubscribed]
    exact ih (by grind)

end Subscriptions

/-- The rejected IDs of a new request and those it is subscribed to are a partition of
its IDs exactly if no ID is repeated behind the first one that does not fit. -/
theorem addRequest_partition_iff
    {m : Subscriptions} {req : Nat} (fresh : ∀ id, (id, req) ∉ m.txIDToRequests)
    (ids : List Bytes) :
    ((∀ id ∈ (m.addRequest req ids 0).2, (id, req) ∉ (m.addRequest req ids 0).1.1.txIDToRequests) ∧
        ∀ id, id ∈ (m.addRequest req ids 0).2 ∨
            (id, req) ∈ (m.addRequest req ids 0).1.1.txIDToRequests ↔
          id ∈ ids) ↔
      CutOnce m.availableSlots.toNat ∅ ids := by
  have unseen : ∀ id, (id, req) ∈ m.txIDToRequests ↔ id ∈ (∅ : Finset Bytes) := by
    simpa using fresh
  rw [Subscriptions.addRequest_disjoint_iff ids m 0 unseen]
  refine and_iff_left fun id => ?_
  rw [Subscriptions.mem_addRequest, or_iff_left (fresh id)]

theorem repeated_id_rejected :
    (Subscriptions.addRequest 0 [[1], [2], [1]] ⟨[], 1⟩ 0).2 = [[2], [1]] ∧
      (Subscriptions.addRequest 0 [[1], [2], [1]] ⟨[], 1⟩ 0).1.1.txIDToRequests = [([1], 0)] := by
  decide

theorem early_repetition_partition :
    CutOnce 1 ∅ [[1], [1], [2]] ∧
      ∀ id ∈ (Subscriptions.addRequest 0 [[1], [1], [2]] ⟨[], 1⟩ 0).2,
        (id, 0) ∉ (Subscriptions.addRequest 0 [[1], [1], [2]] ⟨[], 1⟩ 0).1.1.txIDToRequests := by
  have early : CutOnce 1 ∅ [[1], [1], [2]] := by
    simp [CutOnce, forall_split_cons]
  exact ⟨early, ((addRequest_partition_iff (m := ⟨[], 1⟩) (by simp) _).mpr early).1⟩

/-- The timer of a request is stopped if nothing of it is pending and something was. -/
structure Tracked (r : Request) (count : Nat) (was : Prop) : Prop where
  pending : r.pending = count
  timer : r.timer = .stopped ↔ count = 0 ∧ was

structure Balanced (max : Nat) (answered pairs : List (Bytes × Nat)) (s : State) : Prop where
  slots : s.subs.availableSlots + pairs.length = max
  nonneg : 0 ≤ s.subs.availableSlots
  conserved : (answered ++ pairs).Perm s.subscribed
  distinct : s.subscribed.Nodup
  known : ∀ pair ∈ s.subscribed, pair.2 < s.received
  tracked :
    ∀ req, req ∉ s.timedOut →
      Tracked (s.requests req) (pairs.countP fun pair => pair.2 = req)
        (∃ pair ∈ s.subscribed, pair.2 = req)

section

variable {max : Nat} {answered pairs : List (Bytes × Nat)} {s : State} {id : Bytes} {req : Nat}

theorem Balanced.remove (balanced : Balanced max answered ((id, req) :: pairs) s) (after : Request)
    (own : req ∉ s.timedOut → after = (s.requests req).answered) :
    Balanced max (answered ++ [(id, req)]) pairs
      { s with
        subs.availableSlots := s.subs.availableSlots + 1
        requests := update s.requests req after } := by
  have slots := balanced.slots
  have nonneg := balanced.nonneg
  have conserved := balanced.conserved
  refine { balanced with slots := ?_, nonneg := ?_, conserved := ?_, tracked := ?_ }
  · simp only [length_cons] at slots ⊢
    omega
  · dsimp only
    omega
  · simpa using conserved
  · intro other live
    change Tracked (update s.requests req after other) _ (∃ pair ∈ s.subscribed, pair.2 = other)
    have tracked := balanced.tracked other live
    by_cases same : other = req
    · subst same
      have subscribed : ∃ pair ∈ s.subscribed, pair.2 = other :=
        ⟨(id, other), conserved.mem_iff.mp (by simp), rfl⟩
      obtain ⟨count, stopped⟩ := tracked
      simp only [countP_cons, decide_true, if_true] at count stopped
      generalize (pairs.countP fun pair => decide (pair.2 = other)) = left at count stopped ⊢
      rw [update_self, own live]
      refine ⟨by simp only [Request.answered]; omega, ?_⟩
      simp only [Request.answered]
      split
      · simp only [subscribed, and_true, true_iff]
        omega
      · simp only [stopped, subscribed, and_true]
        omega
    · simpa [update_of_ne same, countP_cons, Ne.symm same] using tracked

theorem Balanced.perm {other : List (Bytes × Nat)} (balanced : Balanced max answered pairs s)
    (same : pairs.Perm other) : Balanced max answered other s :=
  { balanced with
    slots := same.length_eq ▸ balanced.slots
    conserved := (same.symm.append_left _).trans balanced.conserved
    tracked := fun req live => same.countP_eq _ ▸ balanced.tracked req live }

theorem Balanced.answer (status : TxStatus) (reqs : List Nat) (events : List (Nat × TxStatus))
    (balanced :
      Balanced max (answered ++ events.map answeredBy)
        (reqs.map (fun req => (status.ref.txId, req)) ++ s.subs.txIDToRequests) s) :
    let result := reqs.foldl (State.answer status) (s, events)
    Balanced max (answered ++ result.2.map answeredBy) result.1.subs.txIDToRequests result.1 := by
  induction reqs generalizing s events with
  | nil => exact balanced
  | cons req rest ih =>
    refine ih (events ++ [(req, status)]) ?_
    simpa [answeredBy] using balanced.remove _ fun _ => rfl

theorem Balanced.answerAll (statuses : List TxStatus) (events : List (Nat × TxStatus))
    (balanced : Balanced max (answered ++ events.map answeredBy) s.subs.txIDToRequests s) :
    let result := statuses.foldl State.answerAll (s, events)
    Balanced max (answered ++ result.2.map answeredBy) result.1.subs.txIDToRequests result.1 := by
  induction statuses generalizing s events with
  | nil => exact balanced
  | cons status rest ih =>
    have listed :
        ((s.subs.txIDToRequests.filter fun pair => pair.1 = status.ref.txId).map Prod.snd).map
            (fun req => (status.ref.txId, req)) =
          s.subs.txIDToRequests.filter fun pair => pair.1 = status.ref.txId := by
      rw [map_map]
      refine (map_congr_left fun pair mem => ?_).trans (map_id _)
      have isId : pair.1 = status.ref.txId := by simpa using of_mem_filter mem
      rw [← isId]
      rfl
    have split :=
      (filter_append_perm (fun pair => decide (pair.1 = status.ref.txId))
        s.subs.txIDToRequests).symm
    simp only [← decide_not] at split
    rw [← listed] at split
    have removed := balanced.perm split
    exact ih _ (Balanced.answer (s := { s with subs := ⟨_, _⟩ }) status _ events { removed with })

theorem Balanced.expire (ids acc : List Bytes) (gone : req ∈ s.timedOut)
    (balanced : Balanced max (answered ++ acc.map fun id => (id, req)) s.subs.txIDToRequests s) :
    let result := ids.foldl (Subscriptions.expire req) (s.subs, acc)
    Balanced max (answered ++ result.2.map fun id => (id, req)) result.1.txIDToRequests
      { s with subs := result.1 } := by
  induction ids generalizing s acc with
  | nil => exact balanced
  | cons id rest ih =>
    rw [foldl_cons, Subscriptions.expire]
    by_cases subscribed : (id, req) ∈ s.subs.txIDToRequests
    · have removed :=
        (balanced.perm (perm_cons_erase subscribed)).remove (s.requests req)
          fun live => absurd gone live
      rw [update_eq_self] at removed
      rw [if_pos subscribed]
      refine ih (s := { s with subs := ⟨_, _⟩ }) (acc ++ [id]) gone ?_
      rw [map_append, map_singleton, ← append_assoc]
      exact { removed with }
    · rw [if_neg subscribed]
      exact ih acc gone balanced

theorem Balanced.add (balanced : Balanced max answered s.subs.txIDToRequests s)
    (added : List Bytes) {m : Subscriptions} {r : Request}
    (isAdded : m.txIDToRequests = s.subs.txIDToRequests ++ added.map fun id => (id, s.received))
    (slots : m.availableSlots = s.subs.availableSlots - added.length)
    (nonneg : 0 ≤ m.availableSlots) (distinct : added.Nodup)
    (pending : r.pending = added.length) (unstopped : r.timer ≠ .stopped) :
    Balanced max answered m.txIDToRequests
      { s with
        subs := m
        requests := update s.requests s.received r
        received := s.received + 1
        subscribed := s.subscribed ++ added.map fun id => (id, s.received) } := by
  have fresh : ∀ pair ∈ s.subscribed, pair.2 ≠ s.received :=
    fun pair mem => Nat.ne_of_lt (balanced.known pair mem)
  have unlisted : ∀ pair ∈ s.subs.txIDToRequests, pair.2 ≠ s.received :=
    fun pair mem => fresh pair (balanced.conserved.mem_iff.mp (mem_append_right _ mem))
  have total := balanced.slots
  constructor
  · simp only [isAdded, length_append, length_map, Nat.cast_add]
    omega
  · exact nonneg
  · rw [isAdded, ← append_assoc]
    exact balanced.conserved.append_right _
  · refine balanced.distinct.append (distinct.map fun first second same => ?_) ?_
    · exact (Prod.mk.inj same).1
    · intro pair old new
      obtain ⟨id, _, rfl⟩ := mem_map.mp new
      exact fresh _ old rfl
  · intro pair mem
    rcases mem_append.mp mem with old | new
    · exact Nat.lt_succ_of_lt (balanced.known pair old)
    · obtain ⟨id, _, rfl⟩ := mem_map.mp new
      exact Nat.lt_succ_self _
  · intro other live
    change Tracked (update s.requests s.received r other) _ _
    rw [isAdded, countP_append]
    by_cases same : other = s.received
    · subst same
      have none : (s.subs.txIDToRequests.countP fun pair => pair.2 = s.received) = 0 := by
        simpa using unlisted
      have all :
          ((added.map fun id => (id, s.received)).countP fun pair => pair.2 = s.received) =
            added.length := by
        simp
      rw [update_self, none, all, Nat.zero_add]
      refine ⟨pending, fun stopped => absurd stopped unstopped, ?_⟩
      rintro ⟨nothing, pair, mem, isReq⟩
      rw [length_eq_zero_iff.mp nothing, map_nil, append_nil] at mem
      exact absurd isReq (fresh pair mem)
    · have none :
          ((added.map fun id => (id, s.received)).countP fun pair => pair.2 = other) = 0 := by
        simp [Ne.symm same]
      rw [update_of_ne same, none, Nat.add_zero]
      have before := balanced.tracked other live
      have was :
          (∃ pair ∈ s.subscribed ++ added.map fun id => (id, s.received), pair.2 = other) ↔
            ∃ pair ∈ s.subscribed, pair.2 = other := by
        simp [or_and_right, exists_or, Ne.symm same]
      exact ⟨before.pending, before.timer.trans (and_congr_right fun _ => was.symm)⟩

end

theorem Subscriptions.addRequest_spec
    (req : Nat) (ids : List Bytes) (m : Subscriptions) (pending : Int)
    (nonneg : 0 ≤ m.availableSlots) :
    ∃ added : List Bytes,
      (m.addRequest req ids pending).1.1.txIDToRequests =
          m.txIDToRequests ++ added.map (fun id => (id, req)) ∧
        (m.addRequest req ids pending).1.1.availableSlots = m.availableSlots - added.length ∧
        0 ≤ (m.addRequest req ids pending).1.1.availableSlots ∧ added.Nodup ∧
        (∀ id ∈ added, (id, req) ∉ m.txIDToRequests) ∧
        (m.addRequest req ids pending).1.2 = pending + added.length := by
  fun_induction addRequest req ids m pending with
  | case1 | case3 => exact ⟨[], by simp [nonneg]⟩
  | case2 id rest m pending subscribed ih => exact ih nonneg
  | case4 id rest m pending unsubscribed free ih =>
    obtain ⟨added, pairs, slots, stays, distinct, new, isPending⟩ := ih (by dsimp only; omega)
    refine ⟨id :: added, by simpa using pairs, ?_, stays, ?_, ?_, ?_⟩
    · rw [slots, length_cons]
      dsimp only
      omega
    · refine nodup_cons.mpr ⟨fun again => ?_, distinct⟩
      exact new id again (by simp)
    · simp only [mem_append, not_or] at new
      exact forall_mem_cons.mpr ⟨unsubscribed, fun other mem => (new other mem).1⟩
    · rw [isPending, length_cons]
      omega

def Sound (max : Nat) (s : State) : Prop :=
  Balanced max (s.responses.flatMap Response.answers) s.subs.txIDToRequests s

theorem Balanced.respond {max : Nat} {answered pairs : List (Bytes × Nat)} {s : State}
    (balanced : Balanced max answered pairs s) (isPairs : s.subs.txIDToRequests = pairs)
    {responses : List Response} (same : answered.Perm (responses.flatMap Response.answers)) :
    Sound max { s with responses := responses } := by
  subst isPairs
  exact { balanced with conserved := (same.symm.append_right _).trans balanced.conserved }

section

variable {max : Nat} {s next : State} (sound : Sound max s)

include sound

theorem Sound.receive (maxTxIDsPerRequest : Nat) (txIds : List Bytes) (stream : Nat) :
    Sound max (s.receive maxTxIDsPerRequest txIds stream) := by
  rw [State.receive]
  split
  · have kept :=
      Balanced.add sound [] (m := s.subs) (r := { txIds := txIds, stream := stream }) (by simp)
        (by simp) sound.nonneg nodup_nil rfl Timer.noConfusion
    rw [map_nil, append_nil] at kept
    exact kept.respond rfl (by simp [Response.answers])
  · obtain ⟨added, pairs, slots, nonneg, distinct, _, pending⟩ :=
      Subscriptions.addRequest_spec s.received txIds s.subs 0 sound.nonneg
    have own :
        ((s.subs.addRequest s.received txIds 0).1.1.txIDToRequests.filter
            fun pair => pair.2 = s.received) =
          added.map fun id => (id, s.received) := by
      rw [pairs, filter_append, filter_eq_nil_iff.mpr, filter_eq_self.mpr, nil_append]
      · simp
      · intro pair mem
        have subscribed := sound.conserved.mem_iff.mp (mem_append_right _ mem)
        simpa using Nat.ne_of_lt (sound.known pair subscribed)
    simp only [own]
    refine (Balanced.add sound added pairs slots nonneg distinct ?_ ?_).respond rfl ?_
    · simpa using pending
    · split <;> exact Timer.noConfusion
    · split <;> simp [Response.answers]

theorem Sound.step {maxTxIDsPerRequest : Nat} {action : Action}
    (stepped : s.step maxTxIDsPerRequest action = some next) :
    Sound max next := by
  cases action with
  | request txIds stream =>
    cases stepped
    exact sound.receive maxTxIDsPerRequest txIds stream
  | status statuses =>
    cases stepped
    have start :
        Balanced max (s.responses.flatMap Response.answers ++ [].map answeredBy)
          s.subs.txIDToRequests s := by
      simpa using show Balanced _ _ _ s from sound
    refine (start.answerAll statuses []).respond rfl ?_
    rw [flatMap_append, flatMap_map]
    refine List.Perm.append_left _ ?_
    simp only [Response.answers, ← map_flatMap]
    refine ((flatMap_filter_perm _ (nodup_dedup _) _ fun event mem => ?_).map _).symm
    exact mem_dedup.mpr (mem_map_of_mem mem)
  | timeout req =>
    obtain ⟨_, same⟩ := Option.ite_none_right_eq_some.mp stepped
    cases same
    have marked :
        Balanced max (s.responses.flatMap Response.answers ++ [].map fun id => (id, req))
          s.subs.txIDToRequests { s with timedOut := req :: s.timedOut } := by
      rw [map_nil, append_nil]
      exact
        { sound with
          tracked := fun other live =>
            sound.tracked other fun late => live (mem_cons_of_mem _ late) }
    have kept :=
      Balanced.expire (s := { s with timedOut := req :: s.timedOut }) (s.requests req).txIds []
        mem_cons_self marked
    refine kept.respond rfl ?_
    rw [flatMap_append]
    refine List.Perm.append_left _ ?_
    split
    · simp [Response.answers]
    · next none => simp [length_eq_zero_iff.mp (Nat.eq_zero_of_not_pos none)]

end

/-- The slots and the subscriptions are balanced, what is pending of a request and its
timer are as its subscriptions say, and each subscription that was ever made is either
open or answered in one response, once. -/
theorem subscriptions_balanced
    {maxActiveTxIDs maxTxIDsPerRequest : Nat} {actions : List Action} {s : State}
    (reached : (notifier maxActiveTxIDs maxTxIDsPerRequest).run actions = some s) :
    s.subs.availableSlots + s.subs.txIDToRequests.length = maxActiveTxIDs ∧
      0 ≤ s.subs.availableSlots ∧
      (∀ req, req ∉ s.timedOut →
        (s.requests req).pending = (s.subs.txIDToRequests.countP fun pair => pair.2 = req : Nat) ∧
          ((s.requests req).timer = .stopped ↔
            (s.requests req).pending = 0 ∧ ∃ pair ∈ s.subscribed, pair.2 = req)) ∧
      (s.responses.flatMap Response.answers ++ s.subs.txIDToRequests).Perm s.subscribed ∧
      s.subscribed.Nodup := by
  have sound : Sound maxActiveTxIDs s := by
    refine (notifier maxActiveTxIDs maxTxIDsPerRequest).invariant_run _ ?_
      (fun _ _ _ sound stepped => sound.step stepped) reached
    refine ⟨by simp [notifier], by simp [notifier], .refl _, nodup_nil, ?_, ?_⟩
    · intro pair member
      cases member
    · exact fun _ _ => ⟨rfl, by simp [notifier]⟩
  refine ⟨sound.slots, sound.nonneg, fun req live => ?_, sound.conserved, sound.distinct⟩
  obtain ⟨pending, timer⟩ := sound.tracked req live
  exact ⟨pending, by rw [timer, pending, Int.natCast_eq_zero]⟩

/-- Two requests share an ID; one is answered by a status, the other also times out. -/
def sharedRun : List Action :=
  [.request [[1], [1]] 0, .request [[1], [2], [3]] 1, .status [⟨⟨[1], 0, 0⟩, .committed⟩],
    .timeout 1]

theorem sharedRun_balanced :
    ∃ s, (notifier 3 5).run sharedRun = some s ∧ (s.requests 0).timer = .stopped ∧
      s.responses =
        [.rejectedTxIds 1 [[3]] "active tx IDs limit reached",
          .txStatusEvents 0 [(0, ⟨⟨[1], 0, 0⟩, .committed⟩)],
          .txStatusEvents 1 [(1, ⟨⟨[1], 0, 0⟩, .committed⟩)], .timeoutTxIds 1 [[2]]] ∧
        s.subs.availableSlots + s.subs.txIDToRequests.length = 3 := by
  have reached : (notifier 3 5).run sharedRun = some _ := rfl
  exact ⟨_, reached, rfl, rfl, (subscriptions_balanced reached).1⟩

end FabricXCommitter.Sidecar.Notifier
