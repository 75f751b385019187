import FabricXCommitter.Sidecar.RelayOrder
import FabricXCommitter.Sidecar.Submission

/-!
# Where submitted transactions are found
-/

namespace FabricXCommitter.Sidecar

open Library List

/-! ## Pending transactions of a mapped block -/

structure Submittable (mapped : MappedBlock) : Prop where
  sameBlock : ∀ ref ∈ mapped.pending, ref.blockNum = mapped.blockNumber
  distinct : ∀ ref ∈ mapped.pending, ∀ other ∈ mapped.pending, ref.txNum = other.txNum → ref = other
  nodup : mapped.pending.Nodup
  holds : ∀ ref ∈ mapped.pending, mapped.withStatus.holds ref = true
  unset : ∀ ref ∈ mapped.pending, mapped.withStatus.txStatus[ref.txNum.toNat]? = some .unspecified

theorem WellMapped.submittable {settled : List (TxRef × Status)} {mapped : MappedBlock}
    (wellMapped : WellMapped settled mapped) :
    Submittable mapped where
  sameBlock := fun _ mem => (wellMapped.entry_of_pending mem).2
  distinct := by
    intro ref mem other otherMem sameNumber
    have found := (wellMapped.entry_of_pending mem).1
    rw [sameNumber, (wellMapped.entry_of_pending otherMem).1] at found
    exact (Prod.mk.inj (Option.some.inj found)).1.symm
  nodup := List.Nodup.of_map _ wellMapped.pending_positions
  holds := fun _ mem => wellMapped.holds_of_pending mem
  unset := fun _ mem => wellMapped.unset_of_pending mem

structure Tracks (mapped : MappedBlock) (finals : List TxRef) (b : BlockWithStatus) : Prop where
  holds : ∀ ref ∈ mapped.pending, b.holds ref = true
  unset : ∀ ref ∈ mapped.pending, ref ∉ finals → b.txStatus[ref.txNum.toNat]? = some .unspecified

structure Objects
    (mapped : List MappedBlock) (finals : List TxRef) (blocks : List BlockWithStatus) : Prop where
  length : blocks.length = mapped.length
  counted : Counted blocks none
  tracks :
    ∀ (place : Nat) (m : MappedBlock) (b : BlockWithStatus),
      mapped[place]? = some m → blocks[place]? = some b → Tracks m finals b

variable {m : MappedBlock} {b : BlockWithStatus}

section

variable {mapped : List MappedBlock} {finals : List TxRef}
  {blocks : List BlockWithStatus} (objects : Objects mapped finals blocks)

include objects

theorem Objects.block {place : Nat} (isMapped : mapped[place]? = some m) :
    ∃ b, blocks[place]? = some b ∧ Tracks m finals b := by
  obtain ⟨within, _⟩ := List.getElem?_eq_some_iff.mp isMapped
  have found := getElem?_eq_getElem (objects.length.symm ▸ within)
  exact ⟨_, found, objects.tracks place m _ isMapped found⟩

theorem Objects.map (input : MappedInput) :
    Objects (mapped ++ [input.mapped]) finals (blocks ++ [input.mapped.withStatus]) where
  length := by
    rw [length_append, length_append, objects.length]
    rfl
  counted := objects.counted.map (fun _ impossible => nomatch impossible) input
  tracks := by
    intro place m b isMapped found
    by_cases earlier : place < mapped.length
    · rw [getElem?_append_left earlier] at isMapped
      rw [getElem?_append_left (by rw [objects.length]; exact earlier)] at found
      exact objects.tracks place m b isMapped found
    · rw [getElem?_append_right (by omega)] at isMapped
      rw [getElem?_append_right (by rw [objects.length]; omega), objects.length] at found
      obtain ⟨_, isInput⟩ := List.getElem?_eq_some_iff.mp isMapped
      obtain ⟨_, isBlock⟩ := List.getElem?_eq_some_iff.mp found
      rw [getElem_singleton] at isInput isBlock
      subst isInput
      subst isBlock
      have submittable := input.wellMapped.submittable
      exact ⟨submittable.holds, fun ref mem _ => submittable.unset ref mem⟩

theorem Objects.complete
    {place : Nat} (isMapped : mapped[place]? = some m) (found : blocks[place]? = some b)
    (nothing : ¬ 0 < b.pendingCount) :
    ∀ ref ∈ m.pending, ref ∈ finals := by
  intro ref mem
  by_contra withoutStatus
  have unset := (objects.tracks place m b isMapped found).unset ref mem withoutStatus
  exact objects.counted.complete found (by omega) (mem_of_getElem? unset)

theorem Objects.setFinalStatus
    {place : Nat} (isMapped : mapped[place]? = some m) (submittable : Submittable m)
    (found : blocks[place]? = some b) {ref : TxRef} (mem : ref ∈ m.pending)
    (withoutStatus : ref ∉ finals) {status : Status} (final : status ≠ .unspecified) :
    ∃ next, b.setFinalStatus ref.txNum status = .ok next ∧
      next.txs = b.txs ∧ Objects mapped (finals ++ [ref]) (blocks.set place next) := by
  have tracks := objects.tracks place m b isMapped found
  have unset := tracks.unset ref mem withoutStatus
  obtain ⟨within, _⟩ := List.getElem?_eq_some_iff.mp found
  let next : BlockWithStatus :=
    { b with
      txStatus := b.txStatus.set ref.txNum.toNat status
      pendingCount := b.pendingCount - 1 }
  have isNext : b.setFinalStatus ref.txNum status = .ok next := by
    rw [BlockWithStatus.setFinalStatus, unset]
    exact if_neg (not_not.mpr rfl)
  have counted : Counted (blocks.set place next) none := by
    have written := objects.counted.write found unset final
    have count := written.count (getElem?_set_self within)
    rw [set_set] at count
    exact count
  refine ⟨next, isNext, rfl, ?_, counted, ?_⟩
  · rw [length_set]
    exact objects.length
  · intro other otherMapped given isOther isGiven
    by_cases same : place = other
    · subst same
      rw [getElem?_set_self within] at isGiven
      cases isGiven
      rw [isMapped] at isOther
      cases isOther
      refine ⟨tracks.holds, ?_⟩
      intro otherRef otherMem without
      rw [mem_append, mem_singleton, not_or] at without
      have different : ref.txNum.toNat ≠ otherRef.txNum.toNat := by
        intro sameNumber
        exact
          without.2
            (submittable.distinct ref mem otherRef otherMem (UInt32.toNat_inj.mp sameNumber)).symm
      rw [getElem?_set_ne different]
      exact tracks.unset otherRef otherMem without.1
    · rw [getElem?_set_ne same] at isGiven
      have kept := objects.tracks other otherMapped given isOther isGiven
      refine ⟨kept.holds, ?_⟩
      intro otherRef otherMem without
      apply kept.unset otherRef otherMem
      intro earlier
      exact without (mem_append_left _ earlier)

end

/-! ## Statuses of a batch -/

theorem tracked_set (inFlight : InFlightBlocks Nat) {blocks : List BlockWithStatus} {place : Nat}
    {next : BlockWithStatus} (found : blocks[place]? = some b)
    (sameTxs : next.txs = b.txs) (ref : TxRef) :
    tracked inFlight (blocks.set place next) ref = tracked inFlight blocks ref := by
  obtain ⟨within, _⟩ := List.getElem?_eq_some_iff.mp found
  have sameHolds : next.holds ref = b.holds ref := by
    rw [BlockWithStatus.holds, BlockWithStatus.holds, sameTxs]
  rw [tracked, tracked]
  cases inFlight.get ref.blockNum with
  | none => rfl
  | some other =>
    by_cases same : place = other
    · subst same
      dsimp only
      rw [getElem?_set_self within, found]
      dsimp only
      rw [sameHolds]
    · dsimp only
      rw [getElem?_set_ne same]

/-- The transaction is pending in a tracked block. -/
def Located (mapped : List MappedBlock) (inFlight : InFlightBlocks Nat) (ref : TxRef) : Prop :=
  ∃ place m, mapped[place]? = some m ∧ Submittable m ∧ ref ∈ m.pending ∧
    inFlight.get ref.blockNum = some place

theorem tracked_of_located {mapped : List MappedBlock} {finals : List TxRef}
    {blocks : List BlockWithStatus} (objects : Objects mapped finals blocks)
    {inFlight : InFlightBlocks Nat} {ref : TxRef} {place : Nat}
    (isMapped : mapped[place]? = some m) (mem : ref ∈ m.pending)
    (isPlace : inFlight.get ref.blockNum = some place) :
    tracked inFlight blocks ref = some place := by
  obtain ⟨b, found, tracks⟩ := objects.block isMapped
  rw [tracked, isPlace]
  dsimp only
  rw [found]
  dsimp only
  rw [if_pos (tracks.holds ref mem)]

theorem setStatuses_spec {mapped : List MappedBlock} {inFlight : InFlightBlocks Nat}
    {sentRefs : List TxRef} {statuses : List TxStatus} :
    ∀ {finals : List TxRef} {blocks : List BlockWithStatus},
      Objects mapped finals blocks →
      (∀ ref ∈ sentRefs, ref ∉ finals → Located mapped inFlight ref) →
      Final statuses →
      ((statuses.map TxStatus.ref).filter (· ∈ sentRefs)).Nodup →
      (∀ ref ∈ statuses.map TxStatus.ref, ref ∈ sentRefs → ref ∉ finals) →
      (∀ ref ∈ statuses.map TxStatus.ref, ref ∉ sentRefs → tracked inFlight blocks ref = none) →
      ∃ after,
        setStatuses inFlight blocks statuses =
            (after, (statuses.map TxStatus.ref).filter (· ∈ sentRefs), true) ∧
          Objects mapped
            (finals ++ (statuses.map TxStatus.ref).filter (· ∈ sentRefs))
            after := by
  induction statuses with
  | nil =>
    intro finals blocks objects _ _ _ _ _
    refine ⟨blocks, rfl, ?_⟩
    rw [map_nil, filter_nil, append_nil]
    exact objects
  | cons status rest ih =>
    intro finals blocks objects located final nodup fresh foreign
    have finalRest : Final rest := fun other mem => final other (mem_cons_of_mem _ mem)
    rw [map_cons] at nodup fresh foreign ⊢
    by_cases isSent : status.ref ∈ sentRefs
    · rw [filter_cons_of_pos (by simpa using isSent)] at nodup ⊢
      obtain ⟨notLater, nodupRest⟩ := nodup_cons.mp nodup
      have withoutStatus := fresh status.ref mem_cons_self isSent
      obtain ⟨place, m, isMapped, submittable, mem, isPlace⟩ :=
        located status.ref isSent withoutStatus
      obtain ⟨b, found, _⟩ := objects.block isMapped
      obtain ⟨next, isNext, sameTxs, objectsNext⟩ :=
        objects.setFinalStatus isMapped submittable found mem withoutStatus
          (final status mem_cons_self)
      obtain ⟨after, isAfter, objectsAfter⟩ :=
        ih objectsNext
          (by
            intro ref refSent without
            apply located ref refSent
            intro earlier
            exact without (mem_append_left _ earlier))
          finalRest nodupRest
          (by
            intro ref later refSent
            rw [mem_append, mem_singleton, not_or]
            refine ⟨fresh ref (mem_cons_of_mem _ later) refSent, ?_⟩
            rintro rfl
            exact notLater (mem_filter.mpr ⟨later, decide_eq_true refSent⟩))
          (by
            intro ref later notSent
            rw [tracked_set inFlight found sameTxs]
            exact foreign ref (mem_cons_of_mem _ later) notSent)
      refine ⟨after, ?_, ?_⟩
      · rw [setStatuses, tracked_of_located objects isMapped mem isPlace]
        dsimp only
        rw [found]
        dsimp only
        rw [isNext]
        dsimp only
        rw [isAfter]
      · rw [append_assoc] at objectsAfter
        exact objectsAfter
    · rw [filter_cons_of_neg (by simpa using isSent)] at nodup ⊢
      obtain ⟨after, isAfter, objectsAfter⟩ :=
        ih objects located finalRest nodup
          (fun ref later => fresh ref (mem_cons_of_mem _ later))
          (fun ref later => foreign ref (mem_cons_of_mem _ later))
      refine ⟨after, ?_, objectsAfter⟩
      rw [setStatuses, foreign status.ref mem_cons_self isSent]
      exact isAfter

/-- The window holds the blocks at consecutive places. -/
structure Tracking (start : UInt64) (inFlight : InFlightBlocks Nat) (dropped count : Nat) :
    Prop where
  holds : inFlight.ring.Holds (List.range' dropped count)
  next : inFlight.nextBlockNum = start + UInt64.ofNat dropped

section

variable {start : UInt64} {inFlight : InFlightBlocks Nat} {dropped count : Nat}
  (tracking : Tracking start inFlight dropped count)

include tracking

section

variable {number : UInt64} {place : Nat} (isNumber : number.toNat = start.toNat + place)

include isNumber

theorem Tracking.offset (after : dropped ≤ place) :
    (number - inFlight.nextBlockNum).toNat = place - dropped := by
  have bound := UInt64.toNat_lt number
  rw [tracking.next, UInt64.toNat_sub, UInt64.toNat_add, UInt64.toNat_ofNat']
  omega

theorem Tracking.get (after : dropped ≤ place) (before : place < dropped + count) :
    inFlight.get number = some place := by
  rw [InFlightBlocks.get, tracking.offset isNumber after, tracking.holds.get_eq,
    getElem?_range' (by omega)]
  congr 1
  omega

theorem Tracking.register
    (ahead : dropped + count ≤ place + 1) {alreadyTracked : Bool} {next : InFlightBlocks Nat}
    (registered : inFlight.register number place = .ok (alreadyTracked, next)) :
    dropped ≤ place ∧ Tracking start next dropped (place + 1 - dropped) := by
  rcases InFlightBlocks.register_offset tracking.holds registered with
    ⟨offset, same⟩ | ⟨offset, sameNext, holds⟩
  · rw [length_range'] at offset
    have after : dropped ≤ place := by omega
    rw [tracking.offset isNumber after] at offset
    have sameCount : place + 1 - dropped = count := by omega
    rw [sameCount, same]
    exact ⟨after, tracking⟩
  · rw [length_range'] at offset
    have after : dropped ≤ place := by
      by_contra behind
      rw [tracking.next, UInt64.toNat_sub, UInt64.toNat_add, UInt64.toNat_ofNat'] at offset
      omega
    rw [tracking.offset isNumber after] at offset
    have sameCount : place + 1 - dropped = count + 1 := by omega
    have isPlace : dropped + count = place := by omega
    refine ⟨after, ?_, sameNext.trans tracking.next⟩
    rw [sameCount, range'_1_concat, isPlace]
    exact holds

end

theorem Tracking.drop {place : Nat} (isFirst : inFlight.nextBlockToCommit = some place) :
    place = dropped ∧ 0 < count ∧
      Tracking start inFlight.dropCommittedBlock (dropped + 1) (count - 1) := by
  rw [InFlightBlocks.nextBlockToCommit_eq tracking.holds] at isFirst
  cases count with
  | zero => cases isFirst
  | succ count =>
    cases isFirst
    refine ⟨rfl, Nat.succ_pos _, ?_, ?_⟩
    · exact InFlightBlocks.dropCommittedBlock_holds tracking.holds range'_succ
    · change inFlight.nextBlockNum + 1 = _
      rw [tracking.next, UInt64.ofNat_add, UInt64.add_assoc]
      rfl

end

/-- Where the segments of a session stand: the blocks of those that the sender
has taken are tracked as long as one of their transactions has no status, and the
others are ahead of the window. -/
structure Placed (start : UInt64) (mapped : List MappedBlock) (inFlight : InFlightBlocks Nat)
    (finals : List TxRef) (dropped count : Nat) (registered upcoming : List Segment) : Prop where
  numbered :
    ∀ (place : Nat) (m : MappedBlock), mapped[place]? = some m →
      m.blockNumber.toNat = start.toNat + place ∧ Submittable m
  tracking : Tracking start inFlight dropped count
  within : dropped + count ≤ mapped.length
  known :
    ∀ segment ∈ registered ++ upcoming, ∃ m,
      mapped[segment.withStatus]? = some m ∧
        segment.blockNumber = m.blockNumber ∧ ∀ ref ∈ segment.refs, ref ∈ m.pending
  ahead : ∀ segment ∈ upcoming, dropped + count ≤ segment.withStatus + 1
  sorted : upcoming.Pairwise fun first second => first.withStatus ≤ second.withStatus
  found :
    ∀ segment ∈ registered, ∀ ref ∈ segment.refs, ref ∉ finals →
      dropped ≤ segment.withStatus ∧ segment.withStatus < dropped + count

section

variable {start : UInt64} {mapped : List MappedBlock}
  {inFlight : InFlightBlocks Nat} {finals : List TxRef} {dropped count : Nat}
  {registered upcoming : List Segment}
  (placed : Placed start mapped inFlight finals dropped count registered upcoming)

include placed

theorem Placed.located {segment : Segment} (mem : segment ∈ registered) {ref : TxRef}
    (isRef : ref ∈ segment.refs) (withoutStatus : ref ∉ finals) :
    Located mapped inFlight ref := by
  obtain ⟨m, isMapped, _, pending⟩ := placed.known segment (mem_append_left _ mem)
  obtain ⟨number, submittable⟩ := placed.numbered _ m isMapped
  obtain ⟨after, before⟩ := placed.found segment mem ref isRef withoutStatus
  refine ⟨segment.withStatus, m, isMapped, submittable, pending ref isRef, ?_⟩
  rw [submittable.sameBlock ref (pending ref isRef)]
  exact placed.tracking.get number after before

theorem Placed.more_finals (more : List TxRef) :
    Placed start mapped inFlight (finals ++ more) dropped count registered upcoming :=
  { placed with
    found := by
      intro segment mem ref isRef withoutStatus
      apply placed.found segment mem ref isRef
      intro earlier
      exact withoutStatus (mem_append_left _ earlier) }

theorem Placed.map (number : m.blockNumber.toNat = start.toNat + mapped.length)
    (submittable : Submittable m) {todo : List Submission}
    (planned : Planned m mapped.length todo) :
    Placed start (mapped ++ [m]) inFlight finals dropped count registered
      (upcoming ++ segmentsOf todo) where
  numbered := by
    intro place other found
    by_cases earlier : place < mapped.length
    · rw [getElem?_append_left earlier] at found
      exact placed.numbered place other found
    · rw [getElem?_append_right (by omega)] at found
      obtain ⟨within, isOther⟩ := List.getElem?_eq_some_iff.mp found
      rw [length_singleton] at within
      rw [getElem_singleton] at isOther
      subst isOther
      have isPlace : place = mapped.length := by omega
      rw [isPlace]
      exact ⟨number, submittable⟩
  tracking := placed.tracking
  within := by
    have within := placed.within
    rw [length_append]
    omega
  known := by
    intro segment mem
    rw [← append_assoc, mem_append] at mem
    rcases mem with earlier | isNew
    · obtain ⟨other, isMapped, facts⟩ := placed.known segment earlier
      obtain ⟨within, _⟩ := List.getElem?_eq_some_iff.mp isMapped
      refine ⟨other, ?_, facts⟩
      rw [getElem?_append_left within]
      exact isMapped
    · obtain ⟨sameNumber, place⟩ := planned.segments segment isNew
      refine ⟨m, ?_, sameNumber, ?_⟩
      · rw [place]
        exact getElem?_concat_length
      · intro ref isRef
        exact planned.refs.mem_iff.mp (mem_flatMap.mpr ⟨segment, isNew, isRef⟩)
  ahead := by
    intro segment mem
    rcases mem_append.mp mem with earlier | isNew
    · exact placed.ahead segment earlier
    · have within := placed.within
      rw [(planned.segments segment isNew).2]
      omega
  sorted := by
    refine pairwise_append.mpr ⟨placed.sorted, ?_, ?_⟩
    · apply pairwise_of_forall_mem_list
      intro first isFirst second isSecond
      rw [(planned.segments first isFirst).2, (planned.segments second isSecond).2]
    · intro first isFirst second isSecond
      obtain ⟨other, isMapped, _⟩ := placed.known first (mem_append_right _ isFirst)
      obtain ⟨within, _⟩ := List.getElem?_eq_some_iff.mp isMapped
      rw [(planned.segments second isSecond).2]
      omega
  found := placed.found

theorem Placed.register {segment : Segment} {rest : List Segment}
    (isUpcoming : upcoming = segment :: rest) {alreadyTracked : Bool} {next : InFlightBlocks Nat}
    (isRegistered :
      inFlight.register segment.blockNumber segment.withStatus = .ok (alreadyTracked, next)) :
    ∃ more, Placed start mapped next finals dropped more (registered ++ [segment]) rest := by
  subst isUpcoming
  have ahead := placed.ahead segment mem_cons_self
  obtain ⟨m, isMapped, sameNumber, pending⟩ :=
    placed.known segment (mem_append_right _ mem_cons_self)
  obtain ⟨within, _⟩ := List.getElem?_eq_some_iff.mp isMapped
  obtain ⟨number, _⟩ := placed.numbered _ m isMapped
  rw [← sameNumber] at number
  obtain ⟨after, tracking⟩ := placed.tracking.register number ahead isRegistered
  obtain ⟨sortedFirst, sortedRest⟩ := pairwise_cons.mp placed.sorted
  refine
    ⟨_,
      { numbered := placed.numbered
        tracking := tracking
        within := by omega
        known := ?_
        ahead := ?_
        sorted := sortedRest
        found := ?_ }⟩
  · rw [append_assoc]
    exact placed.known
  · intro other mem
    have later := sortedFirst other mem
    omega
  · intro other mem ref isRef withoutStatus
    rcases mem_append.mp mem with earlier | isLast
    · have facts := placed.found other earlier ref isRef withoutStatus
      omega
    · rw [mem_singleton.mp isLast]
      omega

theorem Placed.drop {blocks : List BlockWithStatus} (objects : Objects mapped finals blocks)
    {place : Nat} (isFirst : inFlight.nextBlockToCommit = some place)
    (isBlock : blocks[place]? = some b) (nothing : ¬ 0 < b.pendingCount) :
    Placed start mapped inFlight.dropCommittedBlock finals (dropped + 1)
      (count - 1) registered upcoming := by
  obtain ⟨isDropped, positive, tracking⟩ := placed.tracking.drop isFirst
  have sameEnd : dropped + 1 + (count - 1) = dropped + count := by omega
  exact
    { placed with
      tracking := tracking
      within := by
        rw [sameEnd]
        exact placed.within
      ahead := by
        rw [sameEnd]
        exact placed.ahead
      found := by
        intro segment mem ref isRef withoutStatus
        obtain ⟨after, before⟩ := placed.found segment mem ref isRef withoutStatus
        obtain ⟨m, isMapped, _, pending⟩ := placed.known segment (mem_append_left _ mem)
        -- The transaction has no status, so its block is not the dropped one.
        have different : segment.withStatus ≠ dropped := by
          intro same
          rw [same, ← isDropped] at isMapped
          exact
            withoutStatus (objects.complete isMapped isBlock nothing ref (pending ref isRef))
        omega }

end

end FabricXCommitter.Sidecar
