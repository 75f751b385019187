import FabricXCommitter.Sidecar.SubmissionTracking

/-!
# The submission barrier

The slots in use are the queued transactions without an outcome.
-/

namespace FabricXCommitter.Sidecar

open Library List Option

/-- A barrier is queued only if nothing waits, and nothing is queued before the
outcome of a barrier. -/
structure Barriers (queued : List Segment) (outcomes : List TxRef) (todo : List Submission) :
    Prop where
  planned :
    ∃ drained, WellPlanned drained todo ∧
      (drained = true → ∀ ref ∈ queued.flatMap Segment.refs, ref ∈ outcomes)
  cleared :
    todo.head? = some .drain ∨
      ∀ segment ∈ queued, segment.isBarrier = true → ∀ ref ∈ segment.refs, ref ∈ outcomes

structure Accounted (limit : Int) (mapped : List MappedBlock) (slots : Slots)
    (queued : List Segment) (todo : List Submission) (sent : List Segment)
    (outcomes : List TxRef) : Prop where
  size : slots.size = limit
  once :
    ((queued ++ segmentsOf todo).flatMap Segment.refs).Perm (mapped.flatMap MappedBlock.pending)
  taken : ∀ ref ∈ outcomes, ref ∈ sent.flatMap Segment.refs
  nodup : outcomes.Nodup
  slots :
    slots.available + ((queued.flatMap Segment.refs).length : Int) = limit + (outcomes.length : Int)
  barriers : Barriers queued outcomes todo

section

variable {limit : Int} {mapped : List MappedBlock} {slots : Slots}
  {queued : List Segment} {todo : List Submission} {sent : List Segment}
  {outcomes : List TxRef}

theorem Barriers.more_outcomes (barriers : Barriers queued outcomes todo) (more : List TxRef) :
    Barriers queued (outcomes ++ more) todo where
  planned := by
    obtain ⟨drained, wellPlanned, settled⟩ := barriers.planned
    refine ⟨drained, wellPlanned, ?_⟩
    intro isDrained ref mem
    exact mem_append_left _ (settled isDrained ref mem)
  cleared := by
    rcases barriers.cleared with isDrain | cleared
    · exact .inl isDrain
    · right
      intro segment mem isBarrier ref isRef
      exact mem_append_left _ (cleared segment mem isBarrier ref isRef)

variable {rest : List Submission}

theorem Barriers.queue
    {segment : Segment} (barriers : Barriers queued outcomes (.queue segment :: rest)) :
    Barriers (queued ++ [segment]) outcomes rest := by
  obtain ⟨drained, wellPlanned, _⟩ := barriers.planned
  refine ⟨⟨false, wellPlanned.2, fun impossible => nomatch impossible⟩, ?_⟩
  by_cases isBarrier : segment.isBarrier = true
  · exact .inl (wellPlanned.1 isBarrier).2.2
  · rcases barriers.cleared with impossible | cleared
    · cases impossible
    · right
      intro other mem otherBarrier
      rcases mem_append.mp mem with earlier | isLast
      · exact cleared other earlier otherBarrier
      · rw [mem_singleton.mp isLast] at otherBarrier
        exact absurd otherBarrier isBarrier

variable
  (accounted : Accounted limit mapped slots queued todo sent outcomes)

include accounted

theorem Accounted.map (finished : todo = []) {m : MappedBlock} {place : Nat}
    {next : List Submission} (planned : Planned m place next) :
    Accounted limit (mapped ++ [m]) slots queued next sent outcomes where
  size := accounted.size
  once := by
    have once := accounted.once
    rw [finished, segmentsOf_nil, append_nil] at once
    rw [flatMap_append, flatMap_append, flatMap_singleton]
    exact once.append planned.refs
  taken := accounted.taken
  nodup := accounted.nodup
  slots := accounted.slots
  barriers := by
    refine ⟨⟨false, planned.barriers, fun impossible => nomatch impossible⟩, .inr ?_⟩
    rcases accounted.barriers.cleared with impossible | cleared
    · rw [finished] at impossible
      cases impossible
    · exact cleared

theorem Accounted.outcomes_subset (subset : sent ⊆ queued) :
    outcomes ⊆ queued.flatMap Segment.refs := by
  intro ref mem
  obtain ⟨segment, isSent, isRef⟩ := mem_flatMap.mp (accounted.taken ref mem)
  exact mem_flatMap.mpr ⟨segment, subset isSent, isRef⟩

theorem Accounted.drain
    (isTodo : todo = .drain :: rest) (subset : sent ⊆ queued) (isEmpty : slots.isEmpty = true) :
    Accounted limit mapped slots queued rest sent outcomes := by
  subst isTodo
  have free : slots.size ≤ slots.available := by simpa [Slots.isEmpty] using isEmpty
  have all : ∀ ref ∈ queued.flatMap Segment.refs, ref ∈ outcomes := by
    have included := accounted.outcomes_subset subset
    have count := accounted.slots
    have size := accounted.size
    have same := (subperm_of_subset accounted.nodup included).perm_of_length_le (by omega)
    exact fun ref mem => same.mem_iff.mpr mem
  refine { accounted with barriers := ?_ }
  obtain ⟨drained, wellPlanned, _⟩ := accounted.barriers.planned
  refine ⟨⟨true, wellPlanned, fun _ => all⟩, .inr ?_⟩
  intro segment mem _ ref isRef
  exact all ref (mem_flatMap.mpr ⟨segment, mem, isRef⟩)

theorem Accounted.forward {block : Block} (isTodo : todo = .forward block :: rest) :
    Accounted limit mapped slots queued rest sent outcomes := by
  subst isTodo
  refine { accounted with barriers := ⟨accounted.barriers.planned, ?_⟩ }
  rcases accounted.barriers.cleared with impossible | cleared
  · cases impossible
  · exact .inr cleared

theorem Accounted.queue {segment : Segment} (isTodo : todo = .queue segment :: rest) {next : Slots}
    (acquired : slots.acquire segment.block.inFlightTxCount = some next) :
    Accounted limit mapped next (queued ++ [segment]) rest sent outcomes := by
  subst isTodo
  rw [Slots.acquire] at acquired
  split at acquired
  · cases acquired
  cases acquired
  exact
    { accounted with
      once := by
        rw [append_assoc]
        exact accounted.once
      slots := by
        have count := accounted.slots
        have length : segment.refs.length = segment.block.inFlightTxCount := by
          simp [Segment.refs, CoordinatorBatch.refs, CoordinatorBatch.inFlightTxCount]
        rw [flatMap_append, flatMap_singleton, length_append, length]
        push_cast
        omega
      barriers := accounted.barriers.queue }

theorem Accounted.send (segment : Segment) :
    Accounted limit mapped slots queued todo (sent ++ [segment]) outcomes :=
  { accounted with
    taken := by
      intro ref mem
      rw [flatMap_append]
      exact mem_append_left _ (accounted.taken ref mem) }

theorem Accounted.release
    {more : List TxRef} (areSent : ∀ ref ∈ more, ref ∈ sent.flatMap Segment.refs)
    (nodup : more.Nodup) (fresh : ∀ ref ∈ more, ref ∉ outcomes) :
    Accounted limit mapped (slots.release more.length) queued todo sent (outcomes ++ more) where
  size := accounted.size
  once := accounted.once
  taken := by
    intro ref mem
    rcases mem_append.mp mem with earlier | isNew
    · exact accounted.taken ref earlier
    · exact areSent ref isNew
  nodup := by
    refine nodup_append'.mpr ⟨accounted.nodup, nodup, ?_⟩
    intro ref earlier isNew
    exact fresh ref isNew earlier
  slots := by
    have count := accounted.slots
    rw [length_append]
    change slots.available + (more.length : Int) + _ = _
    omega
  barriers := accounted.barriers.more_outcomes more

theorem Accounted.waiting
    (subset : sent ⊆ queued) (distinct : (queued.flatMap Segment.refs).Nodup) :
    slots.size - slots.available =
      (((queued.flatMap Segment.refs).filter fun ref => ref ∉ outcomes).length : Int) := by
  have included := accounted.outcomes_subset subset
  have same : ((queued.flatMap Segment.refs).filter fun ref => ref ∈ outcomes).Perm outcomes := by
    rw [perm_ext_iff_of_nodup (distinct.filter _) accounted.nodup]
    intro ref
    rw [mem_filter, decide_eq_true_eq]
    exact ⟨fun both => both.2, fun mem => ⟨included mem, mem⟩⟩
  have split :=
    length_eq_length_filter_add (l := queued.flatMap Segment.refs)
      fun ref => decide (ref ∈ outcomes)
  have count := accounted.slots
  have size := accounted.size
  rw [same.length_eq] at split
  simp only [decide_not]
  omega

end

/-- The coordinator reports on transactions that were sent, on each of them once,
and what it reports otherwise is not on a transaction of a tracked block. -/
structure Reports (s : SubmissionState) (batch : TxStatusBatch) : Prop where
  final : Final batch.status
  once : (batch.refs.filter (· ∈ s.sentRefs)).Nodup
  fresh : ∀ ref ∈ batch.refs, ref ∈ s.sentRefs → ref ∉ s.reported
  foreign : ∀ ref ∈ batch.refs, ref ∉ s.sentRefs → tracked s.inFlight s.blocks ref = none

instance (s : SubmissionState) (batch : TxStatusBatch) : Decidable (Reports s batch) :=
  decidable_of_iff
    ((∀ status ∈ batch.status, status.status ≠ .unspecified) ∧
      (batch.refs.filter (· ∈ s.sentRefs)).Nodup ∧
        (∀ ref ∈ batch.refs, ref ∈ s.sentRefs → ref ∉ s.reported) ∧
          ∀ ref ∈ batch.refs, ref ∉ s.sentRefs → tracked s.inFlight s.blocks ref = none)
    ⟨fun ⟨final, once, fresh, foreign⟩ => ⟨final, once, fresh, foreign⟩,
      fun reports => ⟨reports.final, reports.once, reports.fresh, reports.foreign⟩⟩

/-- Blocks arrive in the order of their numbers, with a configuration alone in
its block. -/
def Expected (wire : Wire) (platform : Platform) (start : UInt64) (s : SubmissionState) :
    SubmissionAction → Prop
  | .arrive block =>
    block.number.toNat = start.toNat + s.mapped.length ∧ ConfigAlone wire platform block
  | .receive batch => Reports s batch
  | _ => True

instance (wire : Wire) (platform : Platform) (start : UInt64) (s : SubmissionState) :
    ∀ action, Decidable (Expected wire platform start s action)
  | .arrive block =>
    inferInstanceAs
      (Decidable
        (block.number.toNat = start.toNat + s.mapped.length ∧ ConfigAlone wire platform block))
  | .receive batch => inferInstanceAs (Decidable (Reports s batch))
  | .submit | .register | .send | .commit => isTrue trivial

structure SubmissionInvariant (start : UInt64) (limit : Int) (s : SubmissionState) (count : Nat) :
    Prop where
  objects : Objects s.mapped s.finals s.blocks
  placed :
    Placed start s.mapped s.inFlight s.finals s.dropped count
      (s.sent ++ s.sending.toList) (s.queue ++ segmentsOf s.todo)
  accounted : Accounted limit s.mapped s.slots s.queued s.todo s.sent s.outcomes
  running : s.isProcessing = true → s.stoppedAt = none ∧ s.reported = s.finals

theorem sent_subset_queued (s : SubmissionState) : s.sent ⊆ s.queued := by
  intro segment mem
  exact mem_append_left _ (mem_append_left _ mem)

section

variable {start : UInt64} {limit : Int} {s next : SubmissionState} {count : Nat}
  (inv : SubmissionInvariant start limit s count)

include inv

theorem SubmissionInvariant.preProcessBlock {wire : Wire} {platform : Platform} {block : Block}
    (number : block.number.toNat = start.toNat + s.mapped.length)
    (alone : ConfigAlone wire platform block)
    (stepped : s.preProcessBlock wire platform block = some next) :
    SubmissionInvariant start limit next count := by
  simp only [SubmissionState.preProcessBlock] at stepped
  split at stepped
  · cases stepped
  rename_i isReady
  split at stepped
  · cases stepped
    exact { inv with }
  · rename_i mapped after isMapped
    cases stepped
    have finished : s.todo = [] := by
      by_contra unfinished
      exact isReady (.inr unfinished)
    have wellMapped := wellMapped_of_mapBlock isMapped
    have planned :
        Planned mapped s.mapped.length (submitMappedBlock block mapped s.blocks.length) := by
      rw [inv.objects.length]
      exact planned_of_mapBlock isMapped alone _
    have placed := inv.placed
    rw [finished, segmentsOf_nil, append_nil] at placed
    exact
      { objects := inv.objects.map ⟨mapped, _, wellMapped⟩
        placed :=
          placed.map (by rw [blockNumber_of_mapBlock isMapped, number])
            wellMapped.submittable planned
        accounted := inv.accounted.map finished planned
        running := inv.running }

theorem SubmissionInvariant.submit (stepped : s.submit = some next) :
    SubmissionInvariant start limit next count := by
  have placed := inv.placed
  rw [SubmissionState.submit] at stepped
  split at stepped
  · cases stepped
  · rename_i rest isTodo
    rw [isTodo] at placed
    split at stepped
    · rename_i isEmpty
      cases stepped
      exact
        { inv with
          placed := placed
          accounted := inv.accounted.drain isTodo (sent_subset_queued s) isEmpty }
    · cases stepped
  · rename_i block rest isTodo
    rw [isTodo] at placed
    cases stepped
    exact
      { inv with
        placed := placed
        accounted := inv.accounted.forward isTodo }
  · rename_i segment rest isTodo
    rw [isTodo, segmentsOf_queue, append_cons] at placed
    split at stepped
    · cases stepped
    · rename_i slots acquired
      cases stepped
      have accounted := inv.accounted.queue isTodo acquired
      rw [SubmissionState.queued, append_assoc] at accounted
      exact
        { inv with
          placed := placed
          accounted := accounted }

theorem SubmissionInvariant.register (stepped : s.register = some next) :
    ∃ more, SubmissionInvariant start limit next more := by
  rw [SubmissionState.register] at stepped
  split at stepped
  · cases stepped
  rename_i isReady
  have isIdle : s.sending = none := by
    by_contra busy
    exact isReady (.inr busy)
  split at stepped
  · cases stepped
  rename_i segment rest isQueue
  split at stepped
  · cases stepped
    exact ⟨count, { inv with }⟩
  · rename_i alreadyTracked inFlight isRegistered
    cases stepped
    have placed := inv.placed
    rw [isIdle, isQueue, cons_append] at placed
    obtain ⟨more, placed⟩ := placed.register rfl isRegistered
    have accounted := inv.accounted
    rw [SubmissionState.queued, isIdle, isQueue] at accounted
    refine
      ⟨more,
        { inv with
          placed := ?_
          accounted := ?_ }⟩
    · simpa using placed
    · simpa [SubmissionState.queued, SubmissionState.outcomes] using accounted

theorem SubmissionInvariant.send (stepped : s.send = some next) :
    SubmissionInvariant start limit next count := by
  rw [SubmissionState.send] at stepped
  split at stepped
  · cases stepped
  split at stepped
  · cases stepped
  · rename_i segment isSending
    cases stepped
    have placed := inv.placed
    have accounted := inv.accounted.send segment
    rw [isSending] at placed
    rw [SubmissionState.queued, isSending] at accounted
    refine
      { inv with
        placed := ?_
        accounted := ?_ }
    · simpa using placed
    · simpa [SubmissionState.queued, SubmissionState.outcomes] using accounted

theorem SubmissionInvariant.commit (stepped : s.commit = some next) :
    ∃ fewer, SubmissionInvariant start limit next fewer := by
  rw [SubmissionState.commit] at stepped
  split at stepped
  · cases stepped
  rename_i place isFirst
  split at stepped
  · cases stepped
  rename_i b isBlock
  split at stepped
  · cases stepped
  rename_i nothing
  cases stepped
  exact
    ⟨_,
      { inv with
        placed := inv.placed.drop inv.objects isFirst isBlock nothing }⟩

theorem SubmissionInvariant.located
    {ref : TxRef} (isSent : ref ∈ s.sentRefs) (withoutStatus : ref ∉ s.finals) :
    Located s.mapped s.inFlight ref := by
  obtain ⟨segment, mem, isRef⟩ := mem_flatMap.mp isSent
  exact inv.placed.located (mem_append_left _ mem) isRef withoutStatus

section

variable {batch : TxStatusBatch} (reports : Reports s batch)

include reports

theorem SubmissionInvariant.statuses
    (isRunning : s.isProcessing = true) (noFeedback : batch.stopping = none)
    (stepped : s.processStatusBatch batch = some next) :
    SubmissionInvariant start limit next count := by
  obtain ⟨notStopped, allTaken⟩ := inv.running isRunning
  have sameRefs : batch.refs = batch.status.map TxStatus.ref := by
    rw [TxStatusBatch.refs, noFeedback]
    exact append_nil _
  obtain ⟨final, once, fresh, foreign⟩ := reports
  rw [sameRefs] at once fresh foreign
  rw [allTaken] at fresh
  obtain ⟨after, isAfter, objects⟩ :=
    setStatuses_spec inv.objects (fun ref isSent => inv.located isSent) final once fresh foreign
  have accounted :=
    inv.accounted.release
      (fun ref mem => of_decide_eq_true (mem_filter.mp mem).2) once
      (by
        intro ref mem
        obtain ⟨inBatch, isSent⟩ := mem_filter.mp mem
        rw [SubmissionState.outcomes, notStopped, toList_none, append_nil]
        exact fresh ref inBatch (of_decide_eq_true isSent))
  simp only [SubmissionState.processStatusBatch, isRunning, Bool.true_eq_false,
    if_false, noFeedback, isAfter, if_true] at stepped
  cases stepped
  refine
    { objects := objects
      placed := inv.placed.more_finals _
      accounted := ?_
      running := fun _ => ⟨notStopped, ?_⟩ }
  · simp only [SubmissionState.outcomes, notStopped, toList_none, append_nil] at accounted ⊢
    exact accounted
  · rw [allTaken, sameRefs]

theorem SubmissionInvariant.feedback
    (isRunning : s.isProcessing = true) {feedback : CheckpointFeedback}
    (isFeedback : batch.stopping = some feedback)
    (stepped : s.processStatusBatch batch = some next) :
    SubmissionInvariant start limit next count := by
  obtain ⟨notStopped, allTaken⟩ := inv.running isRunning
  simp only [SubmissionState.processStatusBatch, isRunning, Bool.true_eq_false,
    if_false, isFeedback] at stepped
  cases stepped
  rw [SubmissionState.releaseCheckpointSlot]
  split
  · exact
      { inv with
        running := fun impossible => nomatch impossible }
  rename_i ref isRef
  have inBatch : ref ∈ batch.refs := by
    rw [TxStatusBatch.refs, isFeedback, bind_some, isRef]
    exact mem_append_right _ mem_cons_self
  split
  · exact
      { inv with
        running := fun impossible => nomatch impossible }
  · rename_i place isTracked
    have isSent : ref ∈ s.sentRefs := by
      by_contra notSent
      rw [reports.foreign ref inBatch notSent] at isTracked
      cases isTracked
    have withoutOutcome : ref ∉ s.outcomes := by
      rw [SubmissionState.outcomes, notStopped, toList_none, append_nil, ← allTaken]
      exact reports.fresh ref inBatch isSent
    have accounted :=
      inv.accounted.release
        (forall_mem_singleton.mpr isSent) (nodup_singleton ref)
        (forall_mem_singleton.mpr withoutOutcome)
    refine
      { inv with
        accounted := ?_
        running := fun impossible => nomatch impossible }
    simp only [SubmissionState.outcomes, notStopped, toList_none,
      append_nil, toList_some] at accounted ⊢
    exact accounted

theorem SubmissionInvariant.processStatusBatch (stepped : s.processStatusBatch batch = some next) :
    SubmissionInvariant start limit next count := by
  by_cases isRunning : s.isProcessing = true
  · cases isFeedback : batch.stopping with
    | none => exact inv.statuses reports isRunning isFeedback stepped
    | some feedback => exact inv.feedback reports isRunning isFeedback stepped
  · rw [SubmissionState.processStatusBatch, if_pos (Bool.eq_false_iff.mpr isRunning)] at stepped
    cases stepped

end

end

theorem submissionInvariant_run {wire : Wire} {platform : Platform} {start : UInt64} {limit : Int}
    {actions : List SubmissionAction} {s : SubmissionState}
    (expected :
      (submissionSession wire platform start limit).Guarded
        (Expected wire platform start)
        (submissionSession wire platform start limit).initial actions)
    (reached : (submissionSession wire platform start limit).run actions = some s) :
    ∃ count, SubmissionInvariant start limit s count := by
  refine
    (submissionSession wire platform start limit).invariant_guarded
      (Expected wire platform start)
      (fun s => ∃ count, SubmissionInvariant start limit s count) ?_ ?_ expected
      reached
  · intro s action next known meets stepped
    obtain ⟨count, inv⟩ := known
    cases action with
    | arrive block => exact ⟨count, inv.preProcessBlock meets.1 meets.2 stepped⟩
    | submit => exact ⟨count, inv.submit stepped⟩
    | register => exact inv.register stepped
    | send => exact ⟨count, inv.send stepped⟩
    | commit => exact inv.commit stepped
    | receive batch => exact ⟨count, inv.processStatusBatch meets stepped⟩
  · refine ⟨0, ?_, ?_, ?_, fun _ => ⟨rfl, rfl⟩⟩
    · exact
        { length := rfl
          counted := fun _ _ found => nomatch found
          tracks := fun _ _ _ found => nomatch found }
    · exact
        { numbered := fun _ _ found => nomatch found
          tracking := ⟨RingBuffer.holds_empty, (UInt64.add_zero start).symm⟩
          within := Nat.le_refl _
          known := fun _ mem => nomatch mem
          ahead := fun _ mem => nomatch mem
          sorted := List.Pairwise.nil
          found := fun _ mem => nomatch mem }
    · exact
        { size := rfl
          once := List.Perm.nil
          taken := fun _ mem => nomatch mem
          nodup := nodup_nil
          slots := rfl
          barriers :=
            { planned := ⟨false, trivial, fun impossible => nomatch impossible⟩
              cleared := .inr fun _ mem => nomatch mem } }

theorem Placed.nodup_pending
    {start : UInt64} {mapped : List MappedBlock} {inFlight : InFlightBlocks Nat}
    {finals : List TxRef} {dropped count : Nat} {registered upcoming : List Segment}
    (placed : Placed start mapped inFlight finals dropped count registered upcoming) :
    (mapped.flatMap MappedBlock.pending).Nodup := by
  rw [nodup_flatMap]
  refine ⟨?_, ?_⟩
  · intro m mem
    obtain ⟨place, isMapped⟩ := getElem?_of_mem mem
    exact (placed.numbered place m isMapped).2.nodup
  · rw [pairwise_iff_getElem]
    intro first second withinFirst withinSecond before ref inFirst inSecond
    obtain ⟨numberFirst, submittableFirst⟩ :=
      placed.numbered first _ (getElem?_eq_getElem withinFirst)
    obtain ⟨numberSecond, submittableSecond⟩ :=
      placed.numbered second _ (getElem?_eq_getElem withinSecond)
    rw [← submittableFirst.sameBlock ref inFirst] at numberFirst
    rw [← submittableSecond.sameBlock ref inSecond] at numberSecond
    omega

/-- The transactions that are not sent yet. -/
def SubmissionState.unsentRefs (s : SubmissionState) : List TxRef :=
  (s.sending.toList ++ s.queue ++ segmentsOf s.todo).flatMap Segment.refs

theorem submission_barrier {wire : Wire} {platform : Platform} {start : UInt64} {limit : Int}
    {actions : List SubmissionAction} {s : SubmissionState}
    (expected :
      (submissionSession wire platform start limit).Guarded
        (Expected wire platform start)
        (submissionSession wire platform start limit).initial actions)
    (reached : (submissionSession wire platform start limit).run actions = some s) :
    limit - s.slots.available = (s.waiting.length : Int) ∧
      (s.isProcessing = true → s.reported = s.outcomes) ∧
      (∀ segment rest next, s.todo = .queue segment :: rest →
        (submissionSession wire platform start limit).step s .submit = some next →
          (∀ earlier ∈ s.queued, earlier.isBarrier = true →
            ∀ ref ∈ earlier.refs, ref ∈ s.outcomes) ∧
          (segment.isBarrier = true → s.waiting = [] ∧ segment.refs.length = 1)) ∧
      (s.sentRefs ++ s.unsentRefs).Perm (s.mapped.flatMap MappedBlock.pending) ∧
      (s.sentRefs ++ s.unsentRefs).Nodup := by
  obtain ⟨count, invariant⟩ := submissionInvariant_run expected reached
  have accounted := invariant.accounted
  have once : (s.sentRefs ++ s.unsentRefs).Perm (s.mapped.flatMap MappedBlock.pending) := by
    have once := accounted.once
    simp only [SubmissionState.queued, append_assoc, flatMap_append] at once
    simp only [SubmissionState.sentRefs, SubmissionState.unsentRefs, append_assoc, flatMap_append]
    exact once
  have distinct := invariant.placed.nodup_pending
  have distinctQueued : s.queuedRefs.Nodup := by
    have all := accounted.once.nodup_iff.mpr distinct
    rw [flatMap_append] at all
    exact (nodup_append'.mp all).1
  refine ⟨?_, ?_, ?_, once, once.nodup_iff.mpr distinct⟩
  · rw [← accounted.size]
    exact accounted.waiting (sent_subset_queued s) distinctQueued
  · intro isRunning
    obtain ⟨notStopped, allTaken⟩ := invariant.running isRunning
    rw [allTaken, SubmissionState.outcomes, notStopped, toList_none, append_nil]
  · intro segment rest next isTodo _
    have barriers := accounted.barriers
    rw [isTodo] at barriers
    refine ⟨?_, ?_⟩
    · rcases barriers.cleared with impossible | cleared
      · cases impossible
      · exact cleared
    · intro isBarrier
      obtain ⟨drained, wellPlanned, settled⟩ := barriers.planned
      obtain ⟨isDrained, single, _⟩ := wellPlanned.1 isBarrier
      refine ⟨?_, single⟩
      rw [SubmissionState.waiting, filter_eq_nil_iff]
      intro ref member
      simpa using settled isDrained ref member

/-! ## A block in two segments -/

/-- The block of an ordinary transaction and a snapshot request. -/
def splitBlock : Block := sampleBlock [[0, 1, 1], [0, 3, 2]] (by decide)

/-- The ordinary transaction is queued and sent; its status arrives together with
a foreign one, and the relay goes on to the snapshot request. -/
def splitSession : List SubmissionAction :=
  [.arrive splitBlock, .submit, .register, .send,
    .receive { status := [⟨⟨[9], 4, 0⟩, .committed⟩, ⟨⟨[1], 5, 0⟩, .committed⟩] },
    .submit]

theorem splitSession_barrier :
    ∃ s segment rest next,
      (submissionSession sampleWire permissivePlatform 5 1).run splitSession = some s ∧
        s.todo = .queue segment :: rest ∧
          (submissionSession sampleWire permissivePlatform 5 1).step s .submit = some next ∧
            segment.refs = [⟨[3], 5, 1⟩] ∧ segment.isBarrier = true ∧
              s.sentRefs = [⟨[1], 5, 0⟩] ∧ s.waiting = [] := by
  have evaluated :
      ((submissionSession sampleWire permissivePlatform 5 1).run
          splitSession).map
          (fun s =>
            (s.todo.head?.bind Submission.segment,
              (s.submit.map fun next => next.waiting), s.sentRefs)) =
        some
          (some
            ⟨5,
              ⟨[⟨⟨[3], 5, 1⟩, ⟨[{ nsId := snapshotNamespaceID }], [some [some [1]]]⟩⟩], []⟩,
              0⟩,
            some [⟨[3], 5, 1⟩], [⟨[1], 5, 0⟩]) := by
    decide +kernel
  obtain ⟨s, reached, facts⟩ := map_eq_some_iff.mp evaluated
  obtain ⟨isHead, others⟩ := Prod.mk.inj facts
  obtain ⟨isNext, sent⟩ := Prod.mk.inj others
  obtain ⟨next, stepped, _⟩ := map_eq_some_iff.mp isNext
  have expected :
      (submissionSession sampleWire permissivePlatform 5 1).Guarded
        (Expected sampleWire permissivePlatform 5)
        (submissionSession sampleWire permissivePlatform 5 1).initial
        splitSession := by
    decide +kernel
  cases isTodo : s.todo with
  | nil =>
    rw [isTodo] at isHead
    cases isHead
  | cons first rest =>
    rw [isTodo] at isHead
    cases first with
    | drain => cases isHead
    | forward block => cases isHead
    | queue segment =>
      cases isHead
      have barrier := (submission_barrier expected reached).2.2.1 _ _ next isTodo stepped
      exact
        ⟨s, _, rest, next, reached, isTodo, stepped, rfl, by decide, sent,
          (barrier.2 (by decide)).1⟩

end FabricXCommitter.Sidecar
