import FabricXCommitter.Sidecar.Partition

/-!
# The events of a committed block

The event builder reads the content if endorsements or metadata are asked for, and the
mapping sets the content of accepted transactions only.
-/

namespace FabricXCommitter.Sidecar

open List Option

structure BlockStream where
  filterNamespaces : List Bytes := []
  filterStatuses : List Status := []
  includeReadWriteSets : Bool := false
  includeEndorsements : Bool := false
  includeMetadata : Bool := false

structure TxEvent where
  ref : TxRef
  status : Status
  namespaces : List TxNamespace := []
  endorsements : List Endorsements := []
  deriving DecidableEq, Repr

def filterNamespaces (tx : BlockTx) (names : List Bytes) : List TxNamespace :=
  match tx.content with
  | none => []
  | some content =>
    if names = [] then content.namespaces
    else names.filterMap fun name => content.namespaces.find? fun ns => ns.nsId = name

def uses (names : List Bytes) (tx : BlockTx) : Bool :=
  tx.content.any fun content => content.namespaces.any fun ns => names.contains ns.nsId

namespace BlockStream

variable (s : BlockStream)

def readsContent : Bool := s.includeEndorsements || s.includeMetadata

/-- The event of a transaction; there is none if a nil content is dereferenced. -/
def buildEvent (tx : BlockTx) (status : Status) : Option TxEvent :=
  let event : TxEvent :=
    { ref := tx.ref
      status := status
      namespaces :=
        if s.includeReadWriteSets then Sidecar.filterNamespaces tx s.filterNamespaces else [] }
  if s.readsContent then
    tx.content.map fun content =>
      { event with endorsements := if s.includeEndorsements then content.endorsements else [] }
  else
    some event

/-- The loop over the transactions of a block.  There is no result if a content is nil
or a status is missing. -/
def filterAndBuildEvents : List BlockTx → List Status → Option (List TxEvent)
  | [], _ => some []
  | _ :: _, [] => none
  | tx :: txs, status :: statuses =>
    if s.filterStatuses ≠ [] ∧ status ∉ s.filterStatuses then
      filterAndBuildEvents txs statuses
    else if s.filterNamespaces ≠ [] ∧ Sidecar.filterNamespaces tx s.filterNamespaces = [] then
      filterAndBuildEvents txs statuses
    else
      (s.buildEvent tx status).bind fun event =>
        (filterAndBuildEvents txs statuses).map (event :: ·)

def Selects (entry : BlockTx × Status) : Prop :=
  (s.filterStatuses = [] ∨ entry.2 ∈ s.filterStatuses) ∧
    (s.filterNamespaces = [] ∨ uses s.filterNamespaces entry.1 = true)

instance (entry : BlockTx × Status) : Decidable (s.Selects entry) :=
  inferInstanceAs (Decidable (_ ∧ _))

end BlockStream

theorem filterNamespaces_ne_nil_iff {tx : BlockTx} {names : List Bytes} (filtered : names ≠ []) :
    filterNamespaces tx names ≠ [] ↔ uses names tx = true := by
  rw [filterNamespaces, uses]
  cases tx.content with
  | none => simp
  | some content =>
    simp only [if_neg filtered, ne_eq, filterMap_eq_nil_iff, find?_eq_none,
      any_some, List.any_eq_true, contains_iff_mem, decide_eq_true_eq,
      not_forall, not_not]
    constructor
    · rintro ⟨name, listed, ns, mem, same⟩
      exact ⟨ns, mem, same ▸ listed⟩
    · rintro ⟨ns, mem, listed⟩
      exact ⟨ns.nsId, listed, ns, mem, rfl⟩

section

variable {s : BlockStream} {tx : BlockTx} {status : Status} {txs : List BlockTx}
  {statuses : List Status}

theorem filterAndBuildEvents_skip (unselected : ¬ s.Selects (tx, status)) :
    s.filterAndBuildEvents (tx :: txs) (status :: statuses) =
      s.filterAndBuildEvents txs statuses := by
  rw [BlockStream.filterAndBuildEvents]
  by_cases byStatus : s.filterStatuses ≠ [] ∧ status ∉ s.filterStatuses
  · rw [if_pos byStatus]
  · rw [if_neg byStatus]
    refine if_pos ?_
    by_contra chosen
    apply unselected
    rw [not_and_or, not_not, not_not] at byStatus
    refine ⟨byStatus, ?_⟩
    by_cases unfiltered : s.filterNamespaces = []
    · exact Or.inl unfiltered
    · exact Or.inr ((filterNamespaces_ne_nil_iff unfiltered).mp fun none => chosen ⟨unfiltered, none⟩)

theorem filterAndBuildEvents_select (selected : s.Selects (tx, status)) :
    s.filterAndBuildEvents (tx :: txs) (status :: statuses) =
      (s.buildEvent tx status).bind fun event =>
        (s.filterAndBuildEvents txs statuses).map (event :: ·) := by
  rw [BlockStream.filterAndBuildEvents, if_neg, if_neg]
  · rintro ⟨filtered, none⟩
    exact (filterNamespaces_ne_nil_iff filtered).mpr (selected.2.resolve_left filtered) none
  · rintro ⟨filtered, outside⟩
    exact outside (selected.1.resolve_left filtered)

theorem buildEvent_eq_some {event : TxEvent} (built : s.buildEvent tx status = some event) :
    (event.ref, event.status) = (tx.ref, status) := by
  rw [BlockStream.buildEvent] at built
  split at built
  · obtain ⟨content, _, same⟩ := map_eq_some_iff.mp built
    rw [← same]
  · cases built
    rfl

theorem buildEvent_eq_none_iff :
    s.buildEvent tx status = none ↔ s.readsContent = true ∧ tx.content = none := by
  rw [BlockStream.buildEvent]
  by_cases reads : s.readsContent = true
  · simp [reads]
  · simp [reads]

end

/-- One event for each selected transaction, in the order of the block. -/
def Delivers
    (s : BlockStream) (txs : List BlockTx) (statuses : List Status) (events : List TxEvent) :
    Prop :=
  events.map (fun event => (event.ref, event.status)) =
    ((txs.zip statuses).filter fun entry => s.Selects entry).map fun entry => (entry.1.ref, entry.2)

theorem delivers_iff (s : BlockStream) (txs : List BlockTx) :
    ∀ statuses : List Status, statuses.length = txs.length →
      ((∃ events, s.filterAndBuildEvents txs statuses = some events ∧
          Delivers s txs statuses events) ↔
        (s.readsContent = true →
          ∀ entry ∈ txs.zip statuses, s.Selects entry → entry.1.content ≠ none)) := by
  induction txs with
  | nil =>
    intro statuses _
    simp [BlockStream.filterAndBuildEvents, Delivers]
  | cons tx txs ih =>
    intro statuses sameLength
    cases statuses with
    | nil => cases sameLength
    | cons status statuses =>
      have rest := ih statuses (Nat.succ.inj sameLength)
      by_cases selected : s.Selects (tx, status)
      · rw [filterAndBuildEvents_select selected]
        constructor
        · rintro ⟨events, built, delivers⟩ reads entry mem isSelected noContent
          obtain ⟨event, isEvent, others⟩ := bind_eq_some_iff.mp built
          obtain ⟨later, isLater, same⟩ := map_eq_some_iff.mp others
          subst same
          rcases mem_cons.mp mem with isFirst | isRest
          · subst isFirst
            rw [buildEvent_eq_none_iff.mpr ⟨reads, noContent⟩] at isEvent
            cases isEvent
          · refine rest.mp ⟨later, isLater, ?_⟩ reads entry isRest isSelected noContent
            simpa [Delivers, selected, buildEvent_eq_some isEvent] using delivers
        · intro filled
          obtain ⟨later, isLater, delivers⟩ :=
            rest.mpr fun reads entry mem => filled reads entry (mem_cons_of_mem _ mem)
          cases isEvent : s.buildEvent tx status with
          | none =>
            obtain ⟨reads, noContent⟩ := buildEvent_eq_none_iff.mp isEvent
            exact absurd noContent (filled reads _ mem_cons_self selected)
          | some event =>
            refine ⟨event :: later, by simp [isLater], ?_⟩
            have first := Prod.mk.inj (buildEvent_eq_some isEvent)
            simpa [Delivers, selected, first.1, first.2] using delivers
      · rw [filterAndBuildEvents_skip selected]
        have same : ∀ events,
            Delivers s (tx :: txs) (status :: statuses) events ↔ Delivers s txs statuses events := by
          intro events
          simp [Delivers, selected]
        simp only [same, rest, zip_cons_cons, forall_mem_cons]
        simp [selected]

/-- The contents of accepted transactions are set, and no others. -/
def Filled (m : BlockMapper) : Prop :=
  ∀ index tx, m.withStatus.txs[index]? = some tx →
    (tx.content ≠ none ↔ index ∈ m.accepted ++ m.snapshot)

theorem Filled.setContent {m next : BlockMapper} {ref : TxRef} {tx : Tx} (filled : Filled m)
    (txs : next.withStatus.txs = (m.setContent ref tx).withStatus.txs)
    (places :
      ∀ index, index ∈ next.accepted ++ next.snapshot ↔
        index = msgIndex ref ∨ index ∈ m.accepted ++ m.snapshot) :
    Filled next := by
  intro index entry found
  rw [txs, BlockMapper.setContent, getElem?_modify] at found
  obtain ⟨given, isGiven, same⟩ := map_eq_some_iff.mp found
  rw [places]
  by_cases here : ref.txNum.toNat = index
  · subst same
    simp [msgIndex, here]
  · rw [if_neg here] at same
    subst same
    simpa [msgIndex, Ne.symm here] using filled index given isGiven

theorem Placement.filled {m next : BlockMapper} {ref : TxRef} {parsed : ParsedTX}
    (placement : Placement m ref parsed next) (filled : Filled m) :
    Filled next := by
  cases placement with
  | final status isFirst unstored => exact filled
  | accepted tx isFirst isParsed =>
    refine filled.setContent rfl fun index => ?_
    simp [MappedBlock.accepted, MappedBlock.snapshot, recordID, BlockMapper.setContent]
    exact or_left_comm
  | config tx isFirst isParsed =>
    refine filled.setContent rfl fun index => ?_
    simp [MappedBlock.accepted, MappedBlock.snapshot, recordID, BlockMapper.setContent]
    exact or_left_comm
  | snapshot tx isFirst isParsed isOnly =>
    refine filled.setContent rfl fun index => ?_
    simp [MappedBlock.accepted, MappedBlock.snapshot, recordID, BlockMapper.setContent, isOnly]
    exact or_comm
  | rejected status isFirst stored => exact filled

theorem filled_applyParsed {messages : List (TxRef × ParsedTX)} :
    ∀ {m final : BlockMapper}, m.applyParsed messages = .ok final → Filled m → Filled final := by
  induction messages with
  | nil =>
    intro m final isFinal filled
    cases isFinal
    exact filled
  | cons message rest ih =>
    intro m final isFinal filled
    obtain ⟨next, placement, later⟩ := applyParsed_cons isFinal
    exact ih later (placement.filled filled)

/-- The subscriber of a mapped block gets its events exactly if no transaction that was
not accepted is selected while contents are asked for. -/
theorem block_events_iff
    {wire : Wire} {platform : Platform} {block : Block} {dedup after : TxIDDedup}
    {mapped : MappedBlock} (isMapped : mapBlock wire platform block dedup = .ok (mapped, after))
    (s : BlockStream) (statuses : List Status)
    (sameLength : statuses.length = mapped.withStatus.txs.length) :
    (∃ events, s.filterAndBuildEvents mapped.withStatus.txs statuses = some events ∧
        Delivers s mapped.withStatus.txs statuses events) ↔
      (s.readsContent = true →
        ∀ (index : Nat) (entry : BlockTx × Status),
          (mapped.withStatus.txs.zip statuses)[index]? = some entry → s.Selects entry →
            index ∈ mapped.accepted ++ mapped.snapshot) := by
  obtain ⟨m, same, _, isFinal⟩ := mapper_of_mapBlock isMapped
  have filled : Filled m := by
    refine filled_applyParsed isFinal ?_
    intro index tx found
    simp only [newBlockMapper, getElem?_map] at found
    obtain ⟨message, _, isTx⟩ := map_eq_some_iff.mp found
    subst isTx
    simp [MappedBlock.accepted, MappedBlock.snapshot, newBlockMapper]
  subst same
  rw [delivers_iff s _ statuses sameLength]
  constructor
  · intro contents reads index entry found selected
    have content := contents reads entry (mem_of_getElem? found) selected
    obtain ⟨isTx, _⟩ := getElem?_zip_eq_some.mp found
    exact (filled index entry.1 isTx).mp content
  · intro places reads entry member selected
    obtain ⟨index, found⟩ := getElem?_of_mem member
    obtain ⟨isTx, _⟩ := getElem?_zip_eq_some.mp found
    exact (filled index entry.1 isTx).mpr (places reads index entry found selected)

/-- A subscriber that asks for endorsements, and a block with a malformed message. -/
theorem malformed_message_faults :
    ∃ mapped after,
      mapBlock sampleWire permissivePlatform (sampleBlock [[]] (by decide)) {} =
          .ok (mapped, after) ∧
        mapped.withStatus.txStatus = [.malformedBadEnvelope] ∧
          BlockStream.filterAndBuildEvents { includeEndorsements := true }
            mapped.withStatus.txs mapped.withStatus.txStatus = none :=
  ⟨_, _, rfl, by decide +kernel, by decide +kernel⟩

theorem accepted_message_delivered :
    ∃ mapped after,
      mapBlock sampleWire permissivePlatform (sampleBlock [[0, 1, 1]] (by decide)) {} =
          .ok (mapped, after) ∧
        ∃ events,
          BlockStream.filterAndBuildEvents { includeEndorsements := true }
              mapped.withStatus.txs [.committed] = some events ∧
            Delivers { includeEndorsements := true } mapped.withStatus.txs [.committed] events := by
  have evaluated :
      (mapBlock sampleWire permissivePlatform (sampleBlock [[0, 1, 1]] (by decide)) {}).toOption.map
          (fun entry => (entry.1.withStatus.txs.length, entry.1.accepted)) =
        some (1, [0]) := by
    decide +kernel
  obtain ⟨⟨mapped, after⟩, isEntry, facts⟩ := map_eq_some_iff.mp evaluated
  obtain ⟨isLength, isAccepted⟩ := Prod.mk.inj facts
  cases isMapped : mapBlock sampleWire permissivePlatform (sampleBlock [[0, 1, 1]] (by decide)) {} with
  | error err =>
    rw [isMapped] at isEntry
    cases isEntry
  | ok result =>
    rw [isMapped] at isEntry
    cases isEntry
    refine
      ⟨mapped, after, rfl,
        (block_events_iff isMapped { includeEndorsements := true } [.committed]
          isLength.symm).mpr ?_⟩
    intro _ index entry found _
    have below := (List.getElem?_eq_some_iff.mp found).1
    have isFirst : index = 0 := by
      simp at below
      omega
    rw [isFirst, show mapped.accepted = [0] from isAccepted]
    exact mem_cons_self

end FabricXCommitter.Sidecar
