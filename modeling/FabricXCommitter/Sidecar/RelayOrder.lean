import FabricXCommitter.Sidecar.Relay

/-!
# The order of committed blocks

The counter of a block is the number of its transactions without a status, plus one
while the processor has set a status and not yet counted it.
-/

namespace FabricXCommitter.Sidecar

open Library List Option

variable {blocks : List BlockWithStatus} {ptr : Nat} {b : BlockWithStatus}
  {dropped window : List Nat} {lock : Option (Emitter × EmitStage)} {start : UInt64}
  {owner : Emitter} {s : RelayState}

/-- The block whose last status was set and not counted. -/
def uncounted : ProcessorStage → Option Nat
  | .count ptr _ => some ptr
  | _ => none

def Counted (blocks : List BlockWithStatus) (current : Option Nat) : Prop :=
  ∀ (ptr : Nat) (b : BlockWithStatus), blocks[ptr]? = some b →
    b.pendingCount =
      (b.txStatus.count .unspecified : Int) +
        if current = some ptr then 1 else 0

theorem WellMapped.counted {settled : List (TxRef × Status)} {mapped : MappedBlock}
    (wellMapped : WellMapped settled mapped) :
    mapped.withStatus.pendingCount = (mapped.withStatus.txStatus.count .unspecified : Int) := by
  have same : (settled.map Prod.snd).count .unspecified = (pendingOf settled).length := by
    rw [pendingOf, length_map, count_eq_countP, countP_map, countP_eq_length_filter]
    congr 1
  rw [wellMapped.pendingCount, wellMapped.statuses, same]

theorem Counted.complete {current : Option Nat} (counted : Counted blocks current)
    (found : blocks[ptr]? = some b) (none : b.pendingCount ≤ 0) :
    .unspecified ∉ b.txStatus := by
  have count := counted ptr b found
  apply count_eq_zero.mp
  split at count <;> omega

theorem Counted.map {current : Option Nat} (counted : Counted blocks current)
    (within : ∀ ptr, current = some ptr → ptr < blocks.length) (input : MappedInput) :
    Counted (blocks ++ [input.mapped.withStatus]) current := by
  intro ptr b found
  by_cases earlier : ptr < blocks.length
  · rw [getElem?_append_left earlier] at found
    exact counted ptr b found
  · rw [getElem?_append_right (by omega)] at found
    obtain ⟨inside, isBlock⟩ := List.getElem?_eq_some_iff.mp found
    rw [getElem_singleton] at isBlock
    subst isBlock
    rw [if_neg]
    · exact input.wellMapped.counted
    · intro isOpen
      exact earlier (within ptr isOpen)

theorem Counted.write
    (counted : Counted blocks none) (found : blocks[ptr]? = some b) {position : Nat}
    (unset : b.txStatus[position]? = some .unspecified) {status : Status}
    (final : status ≠ .unspecified) :
    Counted
      (blocks.set ptr { b with txStatus := b.txStatus.set position status })
      (some ptr) := by
  obtain ⟨withinBlock, isUnset⟩ := List.getElem?_eq_some_iff.mp unset
  obtain ⟨within, _⟩ := List.getElem?_eq_some_iff.mp found
  have before := counted ptr b found
  intro other given isGiven
  by_cases same : ptr = other
  · subst same
    rw [getElem?_set_self within] at isGiven
    cases isGiven
    have positive : 0 < b.txStatus.count .unspecified := count_pos_iff.mpr (mem_of_getElem? unset)
    rw [count_set withinBlock, isUnset, before]
    simp only [beq_self_eq_true, if_true, beq_iff_eq, final, if_false]
    rw [if_neg (by simp)]
    omega
  · rw [getElem?_set_ne same] at isGiven
    have kept := counted other given isGiven
    rw [if_neg (by simpa using same)]
    exact kept

theorem Counted.count (counted : Counted blocks (some ptr)) (found : blocks[ptr]? = some b) :
    Counted (blocks.set ptr { b with pendingCount := b.pendingCount - 1 }) none := by
  obtain ⟨within, _⟩ := List.getElem?_eq_some_iff.mp found
  have before := counted ptr b found
  intro other given isGiven
  by_cases same : ptr = other
  · subst same
    rw [getElem?_set_self within] at isGiven
    cases isGiven
    rw [if_pos rfl] at before
    rw [if_neg (by simp)]
    dsimp only
    omega
  · rw [getElem?_set_ne same] at isGiven
    have kept := counted other given isGiven
    rw [if_neg (by simpa using same)] at kept
    exact kept

/-- Blocks keep their numbers and their transactions, and those with nothing
pending do not change. -/
def Kept (blocks after : List BlockWithStatus) : Prop :=
  ∀ (ptr : Nat) (b : BlockWithStatus), blocks[ptr]? = some b →
    ∃ next, after[ptr]? = some next ∧ next.block = b.block ∧
      next.txs = b.txs ∧ (b.pendingCount ≤ 0 → next = b)

theorem Kept.refl (blocks : List BlockWithStatus) : Kept blocks blocks :=
  fun _ b found => ⟨b, found, rfl, rfl, fun _ => rfl⟩

theorem kept_append (blocks more : List BlockWithStatus) : Kept blocks (blocks ++ more) := by
  intro ptr b found
  obtain ⟨within, _⟩ := List.getElem?_eq_some_iff.mp found
  refine ⟨b, ?_, rfl, rfl, fun _ => rfl⟩
  rw [getElem?_append_left within]
  exact found

theorem kept_set
    {next : BlockWithStatus} (found : blocks[ptr]? = some b) (sameBlock : next.block = b.block)
    (sameTxs : next.txs = b.txs) (pending : 0 < b.pendingCount) :
    Kept blocks (blocks.set ptr next) := by
  obtain ⟨within, _⟩ := List.getElem?_eq_some_iff.mp found
  intro other given isGiven
  by_cases same : ptr = other
  · subst same
    rw [found] at isGiven
    cases isGiven
    refine ⟨next, getElem?_set_self within, sameBlock, sameTxs, ?_⟩
    intro nothing
    omega
  · refine ⟨given, ?_, rfl, rfl, fun _ => rfl⟩
    rw [getElem?_set_ne same]
    exact isGiven

def SameNumbers (blocks after : List BlockWithStatus) : Prop :=
  ∀ (ptr : Nat) (b : BlockWithStatus), blocks[ptr]? = some b →
    ∃ next, after[ptr]? = some next ∧ next.block.number = b.block.number

variable {after : List BlockWithStatus}

theorem Kept.sameNumbers (kept : Kept blocks after) : SameNumbers blocks after := by
  intro ptr b found
  obtain ⟨next, isNext, sameBlock, _⟩ := kept ptr b found
  exact ⟨next, isNext, by rw [sameBlock]⟩

structure Windowed (start : UInt64) (blocks : List BlockWithStatus)
    (inFlight : InFlightBlocks Nat) (dropped window : List Nat) : Prop where
  holds : inFlight.ring.Holds window
  next : inFlight.nextBlockNum = start + UInt64.ofNat dropped.length
  numbers :
    ∀ (index ptr : Nat), (dropped ++ window)[index]? = some ptr →
      ∃ b, blocks[ptr]? = some b ∧ b.block.number = start + UInt64.ofNat index

section

variable {start : UInt64} {blocks : List BlockWithStatus}
  {inFlight : InFlightBlocks Nat} {dropped window : List Nat}
  (windowed : Windowed start blocks inFlight dropped window)

include windowed

theorem Windowed.kept (kept : SameNumbers blocks after) :
    Windowed start after inFlight dropped window where
  holds := windowed.holds
  next := windowed.next
  numbers := by
    intro index ptr found
    obtain ⟨b, isBlock, number⟩ := windowed.numbers index ptr found
    obtain ⟨next, isNext, sameNumber⟩ := kept ptr b isBlock
    exact ⟨next, isNext, sameNumber.trans number⟩

theorem Windowed.register
    (found : blocks[ptr]? = some b) {alreadyTracked : Bool} {after : InFlightBlocks Nat}
    (registered : inFlight.register b.block.number ptr = .ok (alreadyTracked, after)) :
    ∃ more, Windowed start blocks after dropped (window ++ more) := by
  rcases InFlightBlocks.register_cases windowed.holds registered with
    same | ⟨number, sameNext, holds⟩
  · refine ⟨[], ?_⟩
    rw [same, append_nil]
    exact windowed
  · refine ⟨[ptr], holds, sameNext.trans windowed.next, ?_⟩
    intro index other isOther
    rw [← append_assoc] at isOther
    by_cases earlier : index < (dropped ++ window).length
    · rw [getElem?_append_left earlier] at isOther
      exact windowed.numbers index other isOther
    · rw [getElem?_append_right (by omega)] at isOther
      obtain ⟨inside, isPtr⟩ := List.getElem?_eq_some_iff.mp isOther
      rw [getElem_singleton] at isPtr
      subst isPtr
      refine ⟨b, found, ?_⟩
      rw [length_singleton] at inside
      have isIndex : index = dropped.length + window.length := by
        rw [length_append] at earlier inside
        omega
      rw [number, windowed.next, isIndex, UInt64.ofNat_add, UInt64.add_assoc]

theorem Windowed.drop {rest : List Nat} (isWindow : window = ptr :: rest) :
    Windowed start blocks inFlight.dropCommittedBlock (dropped ++ [ptr]) rest where
  holds := InFlightBlocks.dropCommittedBlock_holds windowed.holds isWindow
  next := by
    change inFlight.nextBlockNum + 1 = _
    rw [windowed.next, length_append, length_singleton, UInt64.ofNat_add, UInt64.add_assoc]
    rfl
  numbers := by
    intro index other isOther
    apply windowed.numbers index other
    rw [isWindow]
    rw [append_assoc] at isOther
    exact isOther

theorem Windowed.number_of_get
    {blockNumber : UInt64} (found : inFlight.get blockNumber = some ptr) :
    ∃ b, blocks[ptr]? = some b ∧ b.block.number = blockNumber := by
  obtain ⟨offset, inWindow, isNumber⟩ := InFlightBlocks.get_eq_some windowed.holds found
  have inOrder : (dropped ++ window)[dropped.length + offset]? = some ptr := by
    rw [getElem?_append_right (by omega), Nat.add_sub_cancel_left]
    exact inWindow
  obtain ⟨b, isBlock, number⟩ := windowed.numbers _ ptr inOrder
  refine ⟨b, isBlock, ?_⟩
  rw [number, isNumber, windowed.next, UInt64.ofNat_add, UInt64.add_assoc]

end

/-- The dropped blocks and the window are consecutive, and nothing is pending in
a dropped block. -/
structure Ordered (start : UInt64) (blocks : List BlockWithStatus)
    (inFlight : InFlightBlocks Nat) (dropped window : List Nat) : Prop where
  holds : inFlight.ring.Holds window
  next : inFlight.nextBlockNum = start + UInt64.ofNat dropped.length
  numbers :
    ∀ (index ptr : Nat), (dropped ++ window)[index]? = some ptr →
      ∃ b, blocks[ptr]? = some b ∧ b.block.number = start + UInt64.ofNat index
  finished : ∀ ptr ∈ dropped, ∃ b, blocks[ptr]? = some b ∧ b.pendingCount ≤ 0

section

variable {start : UInt64} {blocks : List BlockWithStatus}
  {inFlight : InFlightBlocks Nat} {dropped window : List Nat}

theorem Windowed.ordered (windowed : Windowed start blocks inFlight dropped window)
    (finished : ∀ ptr ∈ dropped, ∃ b, blocks[ptr]? = some b ∧ b.pendingCount ≤ 0) :
    Ordered start blocks inFlight dropped window :=
  ⟨windowed.holds, windowed.next, windowed.numbers, finished⟩

variable (ordered : Ordered start blocks inFlight dropped window)

include ordered

theorem Ordered.windowed : Windowed start blocks inFlight dropped window :=
  ⟨ordered.holds, ordered.next, ordered.numbers⟩

theorem Ordered.kept (kept : Kept blocks after) : Ordered start after inFlight dropped window := by
  apply (ordered.windowed.kept kept.sameNumbers).ordered
  intro ptr mem
  obtain ⟨b, isBlock, nothing⟩ := ordered.finished ptr mem
  obtain ⟨next, isNext, _, _, unchanged⟩ := kept ptr b isBlock
  rw [unchanged nothing] at isNext
  exact ⟨b, isNext, nothing⟩

theorem Ordered.register
    (found : blocks[ptr]? = some b) {alreadyTracked : Bool} {after : InFlightBlocks Nat}
    (registered : inFlight.register b.block.number ptr = .ok (alreadyTracked, after)) :
    ∃ more, Ordered start blocks after dropped (window ++ more) := by
  obtain ⟨more, windowed⟩ := ordered.windowed.register found registered
  exact ⟨more, windowed.ordered ordered.finished⟩

theorem Ordered.drop
    {rest : List Nat} (isWindow : window = ptr :: rest) (found : blocks[ptr]? = some b)
    (nothing : b.pendingCount ≤ 0) :
    Ordered start blocks inFlight.dropCommittedBlock (dropped ++ [ptr]) rest := by
  apply (ordered.windowed.drop isWindow).ordered
  intro other mem
  rcases mem_append.mp mem with earlier | isLast
  · exact ordered.finished other earlier
  · rw [mem_singleton.mp isLast]
    exact ⟨b, found, nothing⟩

end

def Images (blocks : List BlockWithStatus) (ptrs : List Nat)
    (written : List BlockWithStatus) : Prop :=
  ptrs.map (fun ptr => blocks[ptr]?) = written.map some

/-- All dropped blocks are written, or all but the last one and the context is
cancelled. -/
def Flushed (blocks : List BlockWithStatus) (dropped : List Nat)
    (committed : List BlockWithStatus) (cancelled : Bool) : Prop :=
  Images blocks dropped committed ∨
    cancelled = true ∧ ∃ earlier ptr, dropped = earlier ++ [ptr] ∧ Images blocks earlier committed

/-- What the holder of the lock knows. -/
def Emission (blocks : List BlockWithStatus) (dropped window : List Nat)
    (committed : List BlockWithStatus) (cancelled : Bool) :
    Option (Emitter × EmitStage) → Prop
  | some (_, .peek) => Images blocks dropped committed
  | some (_, .load ptr) => Images blocks dropped committed ∧ window.head? = some ptr
  | some (_, .drop ptr) =>
    Images blocks dropped committed ∧ window.head? = some ptr ∧
      ∃ b, blocks[ptr]? = some b ∧ b.pendingCount ≤ 0
  | some (_, .write ptr) =>
    ∃ earlier, dropped = earlier ++ [ptr] ∧ Images blocks earlier committed
  | _ => Flushed blocks dropped committed cancelled

theorem Images.kept
    {ptrs : List Nat} {written : List BlockWithStatus} (images : Images blocks ptrs written)
    (kept : Kept blocks after)
    (finished : ∀ ptr ∈ ptrs, ∃ b, blocks[ptr]? = some b ∧ b.pendingCount ≤ 0) :
    Images after ptrs written := by
  rw [Images, ← images]
  apply map_congr_left
  intro ptr mem
  obtain ⟨b, found, nothing⟩ := finished ptr mem
  obtain ⟨next, isNext, _, _, unchanged⟩ := kept ptr b found
  rw [isNext, unchanged nothing, found]

/-- The facts of the holder of the lock are carried over if the written blocks stay
where they are, the window keeps its head and a cancelled context stays cancelled. -/
theorem Emission.transfer {committed : List BlockWithStatus} {windowAfter : List Nat}
    {cancelled cancelledAfter : Bool} (kept : Kept blocks after)
    (finished : ∀ ptr ∈ dropped, ∃ b, blocks[ptr]? = some b ∧ b.pendingCount ≤ 0)
    (head : ∀ ptr, window.head? = some ptr → windowAfter.head? = some ptr)
    (cancels : cancelled = true → cancelledAfter = true)
    (emission : Emission blocks dropped window committed cancelled lock) :
    Emission after dropped windowAfter committed cancelledAfter lock := by
  have earlierFinished :
      ∀ {earlier ptr}, dropped = earlier ++ [ptr] →
        ∀ other ∈ earlier, ∃ b, blocks[other]? = some b ∧ b.pendingCount ≤ 0 := by
    intro earlier ptr same other mem
    apply finished other
    rw [same]
    exact mem_append_left _ mem
  have flushed :
      Flushed blocks dropped committed cancelled →
        Flushed after dropped committed cancelledAfter := by
    intro known
    rcases known with images | ⟨isCancelled, earlier, ptr, same, images⟩
    · exact .inl (images.kept kept finished)
    · exact .inr ⟨cancels isCancelled, earlier, ptr, same, images.kept kept (earlierFinished same)⟩
  match lock, emission with
  | none, known => exact flushed known
  | some (_, .checkContext), known => exact flushed known
  | some (_, .writeTxs _), known => exact flushed known
  | some (_, .peek), images => exact Images.kept images kept finished
  | some (_, .load ptr), ⟨images, isHead⟩ => exact ⟨images.kept kept finished, head ptr isHead⟩
  | some (_, .drop ptr), ⟨images, isHead, b, found, nothing⟩ =>
    obtain ⟨next, isNext, _, _, unchanged⟩ := kept _ b found
    rw [unchanged nothing] at isNext
    exact ⟨images.kept kept finished, head ptr isHead, b, isNext, nothing⟩
  | some (_, .write _), ⟨earlier, same, images⟩ =>
    exact ⟨earlier, same, images.kept kept (earlierFinished same)⟩

def Final (statuses : List TxStatus) : Prop := ∀ s ∈ statuses, s.status ≠ .unspecified

def Processing (blocks : List BlockWithStatus) : ProcessorStage → Prop
  | .next rest => Final rest
  | .write ptr status rest =>
    Final (status :: rest) ∧
      ∃ b, blocks[ptr]? = some b ∧ b.block.number = status.ref.blockNum ∧ b.holds status.ref = true
  | .count ptr rest => Final rest ∧ ptr < blocks.length
  | _ => True

/-- A number is that of a dropped block. -/
def Reached (start : UInt64) (dropped : List Nat) (blkNum : UInt64) : Prop :=
  ∃ index < dropped.length, blkNum = start + UInt64.ofNat index

def Reporting (start : UInt64) (dropped : List Nat) : ReporterStage → Prop
  | .load => 0 < dropped.length
  | .call blkNum => Reached start dropped blkNum
  | _ => True

variable {stage : ProcessorStage}

theorem Processing.kept (kept : Kept blocks after) (longer : blocks.length ≤ after.length)
    (processing : Processing blocks stage) : Processing after stage := by
  cases stage with
  | write ptr status rest =>
    obtain ⟨final, b, found, number, held⟩ := processing
    obtain ⟨next, isNext, sameBlock, sameTxs, _⟩ := kept ptr b found
    refine ⟨final, next, isNext, sameBlock ▸ number, ?_⟩
    rw [BlockWithStatus.holds, sameTxs]
    exact held
  | count ptr rest => exact ⟨processing.1, Nat.lt_of_lt_of_le processing.2 longer⟩
  | next rest => exact processing
  | _ => trivial

theorem Reached.extend
    {blkNum : UInt64} (more : List Nat) (reached : Reached start dropped blkNum) :
    Reached start (dropped ++ more) blkNum := by
  obtain ⟨index, within, same⟩ := reached
  refine ⟨index, ?_, same⟩
  rw [length_append]
  omega

theorem Reporting.extend
    {stage : ReporterStage} (more : List Nat) (reporting : Reporting start dropped stage) :
    Reporting start (dropped ++ more) stage := by
  cases stage with
  | load =>
    have positive : 0 < dropped.length := reporting
    change 0 < (dropped ++ more).length
    rw [length_append]
    omega
  | call blkNum => exact Reached.extend more reporting
  | _ => trivial

structure RelayInvariant (start : UInt64) (s : RelayState) (window : List Nat) : Prop where
  counted : Counted s.blocks (uncounted s.processor)
  ordered : Ordered start s.blocks s.inFlight s.dropped window
  emission : Emission s.blocks s.dropped window s.committed s.cancelled s.lock
  processing : Processing s.blocks s.processor
  queued : ∀ batch ∈ s.statuses, Final batch.status
  reporting : Reporting start s.dropped s.reporter
  acknowledged : ∃ index ≤ s.dropped.length, s.expected = start + UInt64.ofNat index
  reported : ∀ blkNum ∈ s.reported, Reached start s.dropped blkNum

variable {written : Bool}

section

variable {start : UInt64} {s next : RelayState} {window : List Nat}
  (inv : RelayInvariant start s window)

include inv

theorem RelayInvariant.keptEmission (kept : Kept s.blocks after) :
    Emission after s.dropped window s.committed s.cancelled s.lock :=
  inv.emission.transfer kept inv.ordered.finished (fun _ isHead => isHead) id

theorem RelayInvariant.withLock
    (emission : Emission s.blocks s.dropped window s.committed s.cancelled lock) :
    RelayInvariant start { s with lock := lock } window :=
  { inv with emission := emission }

section

variable (idle : owner = .processor → s.processor = .emit)

include idle

theorem RelayInvariant.release (flushed : Flushed s.blocks s.dropped s.committed s.cancelled) :
    RelayInvariant start (s.release owner) window := by
  cases owner with
  | sender => exact { inv with emission := flushed }
  | processor =>
    have counted := inv.counted
    rw [idle rfl] at counted
    exact { inv with counted := counted, emission := flushed, processing := trivial }

theorem RelayInvariant.emitStep {stage : EmitStage} (isStage : s.lock = some (owner, stage))
    (stepped : s.emitStep owner written stage = some next) :
    ∃ window, RelayInvariant start next window := by
  have emission := inv.emission
  rw [isStage] at emission
  revert stepped
  fun_cases RelayState.emitStep s owner written stage with
  | case1 =>
    intro stepped
    cases stepped
    exact ⟨window, inv.release idle emission⟩
  | case2 running =>
    intro stepped
    cases stepped
    refine ⟨window, inv.withLock ?_⟩
    rcases emission with images | ⟨isCancelled, _⟩
    · exact images
    · exact absurd isCancelled running
  | case3 =>
    intro stepped
    cases stepped
    exact ⟨window, inv.release idle (.inl emission)⟩
  | case4 ptr isNext =>
    intro stepped
    cases stepped
    rw [InFlightBlocks.nextBlockToCommit_eq inv.ordered.holds] at isNext
    exact ⟨window, inv.withLock ⟨emission, isNext⟩⟩
  | case6 =>
    intro stepped
    cases stepped
    exact ⟨window, inv.release idle (.inl emission.1)⟩
  | case7 ptr b found notPending =>
    intro stepped
    cases stepped
    exact ⟨window, inv.withLock ⟨emission.1, emission.2, b, found, by omega⟩⟩
  | case8 ptr =>
    intro stepped
    cases stepped
    obtain ⟨images, isHead, b, found, nothing⟩ := emission
    obtain ⟨rest, isWindow⟩ := head?_eq_some_iff.mp isHead
    obtain ⟨index, within, isExpected⟩ := inv.acknowledged
    refine ⟨rest, inv.counted,
        inv.ordered.drop isWindow found nothing,
        ⟨s.dropped, rfl, images⟩, inv.processing, inv.queued,
        inv.reporting.extend [ptr], ⟨index, ?_, isExpected⟩, ?_⟩
    · rw [length_append]
      omega
    · intro blkNum mem
      exact (inv.reported blkNum mem).extend [ptr]
  | case10 ptr b found =>
    intro stepped
    cases stepped
    obtain ⟨earlier, isDropped, images⟩ := emission
    refine ⟨window, { inv with emission := .inl ?_ }⟩
    rw [isDropped, Images, map_append, map_append, images, map_singleton, found]
    rfl
  | case11 ptr b found _ isCancelled =>
    intro stepped
    cases stepped
    obtain ⟨earlier, isDropped, images⟩ := emission
    exact ⟨window, inv.withLock (.inr ⟨isCancelled, earlier, ptr, isDropped, images⟩)⟩
  | case14 =>
    intro stepped
    cases stepped
    exact ⟨window, { inv with emission := emission }⟩
  | case15 =>
    intro stepped
    cases stepped
    exact ⟨window, inv.withLock emission⟩
  | _ =>
    intro stepped
    cases stepped

theorem RelayInvariant.emit (stepped : s.emit owner written = some next) :
    ∃ window, RelayInvariant start next window := by
  rw [RelayState.emit] at stepped
  split at stepped
  · rename_i isFree
    cases stepped
    have emission := inv.emission
    rw [isFree] at emission
    exact ⟨window, inv.withLock emission⟩
  · rename_i holder stage isHeld
    split at stepped
    · rename_i same
      subst same
      exact inv.emitStep idle isHeld stepped
    · cases stepped

end

theorem RelayInvariant.senderStep (stepped : s.senderStep written = some next) :
    ∃ window, RelayInvariant start next window := by
  revert stepped
  fun_cases RelayState.senderStep s written with
  | case1 | case4 | case7 | case8 =>
    intro stepped
    cases stepped
    exact ⟨window, { inv with }⟩
  | case5 _ _ ptr rest _ b found tracked inFlight registered =>
    intro stepped
    cases stepped
    obtain ⟨more, ordered⟩ := inv.ordered.register found registered
    refine
      ⟨window ++ more, { inv with
        ordered := ordered
        emission := ?_ }⟩
    apply inv.emission.transfer (.refl _) inv.ordered.finished ?_ id
    intro ptr isHead
    rw [head?_append, isHead]
    rfl
  | case9 =>
    apply inv.emit
    intro impossible
    cases impossible
  | _ =>
    intro stepped
    cases stepped

theorem RelayInvariant.withProcessor
    {old : ProcessorStage} (isOld : s.processor = old) (counted : uncounted old = none)
    (closed : uncounted stage = none) (processing : Processing s.blocks stage) :
    RelayInvariant start { s with processor := stage } window := by
  have before := inv.counted
  rw [isOld, counted, ← closed] at before
  exact { inv with counted := before, processing := processing }

theorem RelayInvariant.withBlock {after : BlockWithStatus}
    (found : s.blocks[ptr]? = some b) (sameBlock : after.block = b.block)
    (sameTxs : after.txs = b.txs) (pending : 0 < b.pendingCount)
    (counted : Counted (s.blocks.set ptr after) (uncounted stage))
    (processing : Processing (s.blocks.set ptr after) stage) :
    RelayInvariant start
      { s with blocks := s.blocks.set ptr after, processor := stage }
      window := by
  have kept := kept_set found sameBlock sameTxs pending
  exact
    { inv with
      counted := counted
      ordered := inv.ordered.kept kept
      emission := inv.keptEmission kept
      processing := processing }

theorem RelayInvariant.processorStep (stepped : s.processorStep written = some next) :
    ∃ window, RelayInvariant start next window := by
  have processing := inv.processing
  have counted := inv.counted
  revert stepped
  fun_cases RelayState.processorStep s written with
  | case1 isStage =>
    intro stepped
    cases stepped
    exact ⟨window, inv.withProcessor isStage rfl rfl trivial⟩
  | case3 isStage _ batch rest isQueue =>
    intro stepped
    cases stepped
    have queued := inv.queued
    rw [isQueue] at queued
    rw [isStage] at counted
    exact
      ⟨window, { inv with
        counted := counted
        processing := trivial
        queued := fun later mem => queued later (mem_cons_of_mem _ mem) }⟩
  | case4 isStage _ batch rest isQueue =>
    intro stepped
    cases stepped
    have queued := inv.queued
    rw [isQueue] at queued
    rw [isStage] at counted
    exact
      ⟨window, { inv with
        counted := counted
        processing := queued batch mem_cons_self
        queued := fun later mem => queued later (mem_cons_of_mem _ mem) }⟩
  | case5 isStage =>
    intro stepped
    cases stepped
    exact ⟨window, inv.withProcessor isStage rfl rfl trivial⟩
  | case6 status rest isStage | case9 status rest isStage =>
    intro stepped
    cases stepped
    rw [isStage] at processing
    refine ⟨window, inv.withProcessor isStage rfl rfl ?_⟩
    exact fun later mem => processing later (mem_cons_of_mem _ mem)
  | case8 status rest isStage ptr isTracked b found held =>
    intro stepped
    cases stepped
    rw [isStage] at processing
    obtain ⟨given, isGiven, number⟩ := inv.ordered.windowed.number_of_get isTracked
    rw [found] at isGiven
    cases isGiven
    exact ⟨window, inv.withProcessor isStage rfl rfl ⟨processing, b, found, number, held⟩⟩
  | case11 ptr status rest isStage b found unset =>
    intro stepped
    cases stepped
    rw [isStage] at processing counted
    change Counted s.blocks none at counted
    obtain ⟨finals, _⟩ := processing
    have positive : 0 < b.txStatus.count .unspecified := count_pos_iff.mpr (mem_of_getElem? unset)
    have count := counted ptr b found
    have counting := counted.write found unset (finals status mem_cons_self)
    refine ⟨window, inv.withBlock found ?_ ?_ ?_ counting ⟨?_, ?_⟩⟩
    · rfl
    · rfl
    · omega
    · exact fun later mem => finals later (mem_cons_of_mem _ mem)
    · rw [length_set]
      exact (List.getElem?_eq_some_iff.mp found).1
  | case12 ptr status rest isStage =>
    intro stepped
    cases stepped
    exact ⟨window, inv.withProcessor isStage rfl rfl trivial⟩
  | case14 ptr rest isStage b found =>
    intro stepped
    cases stepped
    rw [isStage] at processing counted
    change Counted s.blocks (some ptr) at counted
    have count := counted ptr b found
    refine ⟨window, inv.withBlock found ?_ ?_ ?_ (counted.count found) processing.1⟩
    · rfl
    · rfl
    · rw [if_pos rfl] at count
      omega
  | case15 isStage => exact inv.emit fun _ => isStage
  | _ =>
    intro stepped
    cases stepped

theorem RelayInvariant.reporterStep
    {acknowledged : Bool} (stepped : s.reporterStep acknowledged = some next) :
    ∃ window, RelayInvariant start next window := by
  have reporting := inv.reporting
  have isNext := inv.ordered.next
  obtain ⟨index, within, isExpected⟩ := inv.acknowledged
  have reported :
      ∀ {blkNum}, s.reporter = .call blkNum →
        ∀ other ∈ s.reported ++ [blkNum], Reached start s.dropped other := by
    intro blkNum isStage other mem
    rw [isStage] at reporting
    rcases mem_append.mp mem with earlier | isLast
    · exact inv.reported other earlier
    · rw [mem_singleton.mp isLast]
      exact reporting
  revert stepped
  fun_cases RelayState.reporterStep s acknowledged with
  | case1 =>
    intro stepped
    cases stepped
    exact ⟨window, { inv with reporting := trivial }⟩
  | case2 =>
    intro stepped
    cases stepped
    exact ⟨window, inv⟩
  | case3 _ _ advanced =>
    intro stepped
    cases stepped
    refine ⟨window, { inv with reporting := ?_ }⟩
    change 0 < s.dropped.length
    by_contra nothing
    apply advanced
    have noIndex : index = s.dropped.length := by omega
    rw [isExpected, noIndex]
    exact isNext
  | case4 isStage =>
    intro stepped
    cases stepped
    rw [isStage] at reporting
    have positive : 0 < s.dropped.length := reporting
    have previous : s.dropped.length - 1 < s.dropped.length := by omega
    refine ⟨window, { inv with reporting := ⟨s.dropped.length - 1, previous, ?_⟩ }⟩
    change s.inFlight.nextBlockNum - 1 = _
    obtain ⟨count, isCount⟩ := Nat.exists_eq_add_of_lt positive
    rw [isNext, isCount, Nat.add_sub_cancel, UInt64.ofNat_add, ← UInt64.add_assoc]
    exact UInt64.add_sub_cancel _ _
  | case5 blkNum isStage =>
    intro stepped
    cases stepped
    rw [isStage] at reporting
    obtain ⟨last, withinLast, isNumber⟩ := reporting
    refine
      ⟨window, { inv with
        reporting := trivial
        acknowledged := ⟨last + 1, withinLast, ?_⟩
        reported := reported isStage }⟩
    rw [isNumber, UInt64.ofNat_add, UInt64.add_assoc]
    rfl
  | case6 blkNum isStage =>
    intro stepped
    cases stepped
    exact ⟨window, { inv with reporting := trivial, reported := reported isStage }⟩
  | case7 =>
    intro stepped
    cases stepped

/-- The statuses that arrive are final. -/
def DeliversFinal (_ : RelayState) : RelayAction → Prop
  | .deliver batch => Final batch.status
  | _ => True

theorem RelayInvariant.step {action : RelayAction} (delivers : DeliversFinal s action)
    (stepped : relayStep s action = some next) :
    ∃ window, RelayInvariant start next window := by
  cases action with
  | map input =>
    cases stepped
    have kept := kept_append s.blocks [input.mapped.withStatus]
    have processing := inv.processing
    have within : ∀ ptr, uncounted s.processor = some ptr → ptr < s.blocks.length := by
      intro ptr isOpen
      cases isStage : s.processor with
      | count given rest =>
        rw [isStage] at isOpen processing
        cases isOpen
        exact processing.2
      | _ =>
        rw [isStage] at isOpen
        cases isOpen
    refine
      ⟨window, { inv with
        counted := inv.counted.map within input
        ordered := inv.ordered.kept kept
        emission := inv.keptEmission kept
        processing := processing.kept kept ?_ }⟩
    rw [length_append]
    omega
  | queue ptr =>
    cases stepped
    exact ⟨window, { inv with }⟩
  | deliver batch =>
    cases stepped
    refine ⟨window, { inv with queued := ?_ }⟩
    intro given mem
    rcases mem_append.mp mem with earlier | isLast
    · exact inv.queued given earlier
    · rw [mem_singleton.mp isLast]
      exact delivers
  | cancel =>
    cases stepped
    refine ⟨window, { inv with emission := ?_ }⟩
    exact
      inv.emission.transfer (.refl _) inv.ordered.finished (fun _ isHead => isHead) (fun _ => rfl)
  | sender written => exact inv.senderStep stepped
  | processor written => exact inv.processorStep stepped
  | reporter acknowledged => exact inv.reporterStep stepped

end

theorem relayInvariant_initial (start : UInt64) :
    RelayInvariant start (relaySession start).initial [] where
  counted := by
    intro ptr b found
    cases found
  ordered :=
    { holds := RingBuffer.holds_empty
      next := (UInt64.add_zero start).symm
      numbers := by
        intro index ptr found
        cases found
      finished := by
        intro ptr mem
        cases mem }
  emission := .inl rfl
  processing := trivial
  queued := by
    intro batch mem
    cases mem
  reporting := trivial
  acknowledged := ⟨0, Nat.le_refl _, (UInt64.add_zero start).symm⟩
  reported := by
    intro blkNum mem
    cases mem

theorem relayInvariant_run {actions : List RelayAction}
    (delivers : (relaySession start).Guarded DeliversFinal (relaySession start).initial actions)
    (reached : (relaySession start).run actions = some s) :
    ∃ window, RelayInvariant start s window := by
  refine
    (relaySession start).invariant_guarded DeliversFinal
      (fun state => ∃ window, RelayInvariant start state window) ?_
      ⟨[], relayInvariant_initial start⟩ delivers reached
  intro state action next known final stepped
  obtain ⟨window, inv⟩ := known
  exact inv.step final stepped

theorem RelayInvariant.images (inv : RelayInvariant start s window) :
    ∃ earlier rest, s.dropped = earlier ++ rest ∧ rest.length ≤ 1 ∧
      Images s.blocks earlier s.committed := by
  have emission := inv.emission
  have flushed :
      Flushed s.blocks s.dropped s.committed s.cancelled →
        ∃ earlier rest, s.dropped = earlier ++ rest ∧ rest.length ≤ 1 ∧
          Images s.blocks earlier s.committed := by
    intro known
    rcases known with images | ⟨_, earlier, ptr, isDropped, images⟩
    · exact ⟨s.dropped, [], (append_nil _).symm, Nat.zero_le 1, images⟩
    · exact ⟨earlier, [ptr], isDropped, Nat.le_refl 1, images⟩
  generalize s.lock = lock at emission
  match lock, emission with
  | none, known => exact flushed known
  | some (_, .checkContext), known => exact flushed known
  | some (_, .writeTxs _), known => exact flushed known
  | some (_, .peek), images => exact flushed (.inl images)
  | some (_, .load _), known => exact flushed (.inl known.1)
  | some (_, .drop _), known => exact flushed (.inl known.1)
  | some (_, .write ptr), ⟨earlier, isDropped, images⟩ =>
    exact ⟨earlier, [ptr], isDropped, Nat.le_refl 1, images⟩

theorem RelayInvariant.dropped_complete (inv : RelayInvariant start s window) {index : Nat}
    (isDropped : s.dropped[index]? = some ptr) :
    ∃ b, s.blocks[ptr]? = some b ∧
      b.block.number = start + UInt64.ofNat index ∧ .unspecified ∉ b.txStatus := by
  have inOrder : (s.dropped ++ window)[index]? = some ptr := by
    rw [getElem?_append_left (List.getElem?_eq_some_iff.mp isDropped).1]
    exact isDropped
  obtain ⟨b, found, number⟩ := inv.ordered.numbers index ptr inOrder
  obtain ⟨given, isGiven, nothing⟩ := inv.ordered.finished ptr (mem_of_getElem? isDropped)
  rw [found] at isGiven
  cases isGiven
  exact ⟨b, found, number, inv.counted.complete found nothing⟩

theorem RelayInvariant.committed_complete (inv : RelayInvariant start s window) {index : Nat}
    (isCommitted : s.committed[index]? = some b) :
    b.block.number = start + UInt64.ofNat index ∧ .unspecified ∉ b.txStatus := by
  obtain ⟨earlier, rest, isDropped, _, images⟩ := inv.images
  have image : (earlier.map fun ptr => s.blocks[ptr]?)[index]? = some (some b) := by
    rw [images, getElem?_map, isCommitted]
    rfl
  rw [getElem?_map] at image
  obtain ⟨ptr, isPtr, found⟩ := map_eq_some_iff.mp image
  have isDroppedPtr : s.dropped[index]? = some ptr := by
    rw [isDropped, getElem?_append_left (List.getElem?_eq_some_iff.mp isPtr).1]
    exact isPtr
  obtain ⟨given, isGiven, facts⟩ := inv.dropped_complete isDroppedPtr
  rw [found] at isGiven
  cases isGiven
  exact facts

/-- A status of a block that is not tracked, or that the block does not hold. -/
def Foreign (s : RelayState) (status : TxStatus) : Prop :=
  ∀ ptr b, s.inFlight.get status.ref.blockNum = some ptr →
    s.blocks[ptr]? = some b → b.holds status.ref = false

theorem processorStep_foreign {next : RelayState} {status : TxStatus} {rest : List TxStatus}
    (isStage : s.processor = .next (status :: rest)) (foreign : Foreign s status)
    (stepped : s.processorStep written = some next) :
    next = { s with processor := .next rest } := by
  rw [RelayState.processorStep, isStage] at stepped
  dsimp only at stepped
  split at stepped
  · cases stepped
    rfl
  rename_i ptr isTracked
  split at stepped
  · cases stepped
  rename_i b found
  rw [foreign ptr b isTracked found] at stepped
  cases stepped
  rfl

theorem blocks_release (s : RelayState) (owner : Emitter) :
    (s.release owner).blocks = s.blocks := by
  cases owner <;> rfl

theorem blocks_emitStep {next : RelayState} {stage : EmitStage}
    (stepped : s.emitStep owner written stage = some next) :
    next.blocks = s.blocks := by
  revert stepped
  fun_cases RelayState.emitStep s owner written stage with
  | case1 | case3 | case6 =>
    intro stepped
    cases stepped
    exact blocks_release s owner
  | _ =>
    intro stepped
    cases stepped <;> rfl

theorem blocks_emit {next : RelayState} (stepped : s.emit owner written = some next) :
    next.blocks = s.blocks := by
  rw [RelayState.emit] at stepped
  split at stepped
  · cases stepped
    rfl
  · split at stepped
    · exact blocks_emitStep stepped
    · cases stepped

theorem blocks_senderStep {next : RelayState} (stepped : s.senderStep written = some next) :
    next.blocks = s.blocks := by
  revert stepped
  fun_cases RelayState.senderStep s written with
  | case9 => exact blocks_emit
  | _ =>
    intro stepped
    cases stepped <;> rfl

theorem blocks_reporterStep {next : RelayState} {acknowledged : Bool}
    (stepped : s.reporterStep acknowledged = some next) :
    next.blocks = s.blocks := by
  revert stepped
  fun_cases RelayState.reporterStep s acknowledged <;> intro stepped <;> cases stepped <;> rfl

theorem blocks_processorStep {next : RelayState} (stepped : s.processorStep written = some next) :
    next.blocks = s.blocks ∨
      (∃ ptr status rest b, s.processor = .write ptr status rest ∧
        s.blocks[ptr]? = some b ∧
          next.blocks =
            s.blocks.set ptr
              { b with
                txStatus := b.txStatus.set status.ref.txNum.toNat status.status }) ∨
        ∃ ptr rest b, s.processor = .count ptr rest ∧
          s.blocks[ptr]? = some b ∧
            next.blocks = s.blocks.set ptr { b with pendingCount := b.pendingCount - 1 } := by
  revert stepped
  fun_cases RelayState.processorStep s written with
  | case11 ptr status rest isStage b found unset =>
    intro stepped
    cases stepped
    exact .inr (.inl ⟨ptr, status, rest, b, isStage, found, rfl⟩)
  | case14 ptr rest isStage b found =>
    intro stepped
    cases stepped
    exact .inr (.inr ⟨ptr, rest, b, isStage, found, rfl⟩)
  | case15 => exact fun stepped => .inl (blocks_emit stepped)
  | _ =>
    intro stepped
    left
    cases stepped <;> rfl

theorem RelayInvariant.held_of_changed
    {next : RelayState} (inv : RelayInvariant start s window) {action : RelayAction}
    (stepped : relayStep s action = some next)
    {after : BlockWithStatus} (found : s.blocks[ptr]? = some b)
    (isAfter : next.blocks[ptr]? = some after) (changed : after.txStatus ≠ b.txStatus) :
    ∃ status rest, s.processor = .write ptr status rest ∧
      b.block.number = status.ref.blockNum ∧ b.holds status.ref = true := by
  have unchanged : next.blocks ≠ s.blocks := by
    intro same
    rw [same, found] at isAfter
    cases isAfter
    exact changed rfl
  cases action with
  | map input =>
    cases stepped
    rw [getElem?_append_left (List.getElem?_eq_some_iff.mp found).1, found] at isAfter
    cases isAfter
    exact absurd rfl changed
  | queue | deliver | cancel =>
    cases stepped
    exact absurd rfl unchanged
  | sender _ => exact absurd (blocks_senderStep stepped) unchanged
  | reporter _ => exact absurd (blocks_reporterStep stepped) unchanged
  | processor written =>
    have processing := inv.processing
    rcases blocks_processorStep stepped with
      same | ⟨given, status, rest, held, isStage, isHeld, isNext⟩ |
        ⟨given, rest, counted, isStage, isCounted, isNext⟩
    · exact absurd same unchanged
    · rw [isNext, getElem?_set] at isAfter
      split at isAfter
      · rename_i same
        subst same
        rw [isStage] at processing
        obtain ⟨_, known, isKnown, facts⟩ := processing
        rw [found] at isKnown
        cases isKnown
        exact ⟨status, rest, isStage, facts⟩
      · rw [found] at isAfter
        cases isAfter
        exact absurd rfl changed
    · rw [isNext, getElem?_set] at isAfter
      split at isAfter
      · rename_i same
        subst same
        rw [found] at isCounted
        cases isCounted
        split at isAfter
        · cases isAfter
          exact absurd rfl changed
        · cases isAfter
      · rw [found] at isAfter
        cases isAfter
        exact absurd rfl changed

/-- The blocks that a session writes are consecutive and complete, so are those
that it reports, and a foreign status changes no block. -/
theorem relay_commits_in_order {start : UInt64} {actions : List RelayAction} {s : RelayState}
    (delivers : (relaySession start).Guarded DeliversFinal (relaySession start).initial actions)
    (reached : (relaySession start).run actions = some s) :
    s.committed.map (fun b => b.block.number) =
        (List.range s.committed.length).map (fun index => start + UInt64.ofNat index) ∧
      (∀ b ∈ s.committed, .unspecified ∉ b.txStatus) ∧
      (∀ blkNum ∈ s.reported, ∃ last : Nat,
        blkNum = start + UInt64.ofNat last ∧
          ∀ index ≤ last, ∃ ptr b, s.dropped[index]? = some ptr ∧
            s.blocks[ptr]? = some b ∧
              b.block.number = start + UInt64.ofNat index ∧ .unspecified ∉ b.txStatus) ∧
      (∀ status rest written next, s.processor = .next (status :: rest) →
        Foreign s status →
          (relaySession start).step s (.processor written) = some next →
            next = { s with processor := .next rest }) ∧
      ∀ action next, (relaySession start).step s action = some next →
        ∀ (ptr : Nat) (b after : BlockWithStatus), s.blocks[ptr]? = some b →
          next.blocks[ptr]? = some after → after.txStatus ≠ b.txStatus →
            ∃ status rest, s.processor = .write ptr status rest ∧
              b.block.number = status.ref.blockNum ∧ b.holds status.ref = true := by
  obtain ⟨window, invariant⟩ := relayInvariant_run delivers reached
  refine ⟨?_, ?_, ?_, ?_, ?_⟩
  · apply ext_getElem?
    intro index
    rw [getElem?_map, getElem?_map]
    by_cases within : index < s.committed.length
    · rw [getElem?_range within, getElem?_eq_getElem within]
      exact congrArg some (invariant.committed_complete (getElem?_eq_getElem within)).1
    · rw [getElem?_eq_none (by omega), getElem?_eq_none (by rw [length_range]; omega)]
      rfl
  · intro b member
    obtain ⟨index, found⟩ := getElem?_of_mem member
    exact (invariant.committed_complete found).2
  · intro blkNum member
    obtain ⟨last, within, isNumber⟩ := invariant.reported blkNum member
    refine ⟨last, isNumber, ?_⟩
    intro index earlier
    have inside : index < s.dropped.length := by omega
    obtain ⟨b, found, facts⟩ := invariant.dropped_complete (getElem?_eq_getElem inside)
    exact ⟨_, b, getElem?_eq_getElem inside, found, facts⟩
  · intro status rest written next isStage foreign stepped
    exact processorStep_foreign isStage foreign stepped
  · intro action next stepped ptr b after found isAfter changed
    exact invariant.held_of_changed stepped found isAfter changed

/-- A block with one transaction. -/
def singleInput : MappedInput where
  mapped :=
    { blockNumber := 5
      txs := [⟨⟨[1], 5, 0⟩, ⟨[], []⟩⟩]
      withStatus :=
        { block :=
            { number := 5
              data := none
              metadata := []
              bounded := by
                intro messages impossible
                cases impossible }
          txStatus := [.unspecified]
          pendingCount := 1
          txs := [{ ref := ⟨[1], 5, 0⟩ }] } }
  settled := [(⟨[1], 5, 0⟩, .unspecified)]
  wellMapped :=
    { statuses := rfl
      refs := rfl
      numbered := by
        intro index entry found
        cases index with
        | zero =>
          cases found
          exact ⟨rfl, rfl⟩
        | succ index => cases found
      pendingCount := rfl
      pending := List.Perm.refl _
      number := rfl }

/-- The block is registered, a foreign status and its own status arrive, the
processor writes the block, and the reporter reports it. -/
def singleSession : List RelayAction :=
  [.map singleInput, .queue 0, .sender true, .sender true,
    .deliver { status := [⟨⟨[2], 5, 0⟩, .committed⟩, ⟨⟨[1], 5, 0⟩, .committed⟩] }] ++
    List.replicate 14 (.processor true) ++ List.replicate 3 (.reporter true)

theorem singleSession_commits :
    ∃ s,
      (relaySession 5).run singleSession = some s ∧
        s.committed.map (fun b => (b.block.number, b.txStatus)) = [(5, [.committed])] ∧
          s.reported = [5] ∧
            s.committed.map (fun b => b.block.number) =
              (List.range s.committed.length).map (fun index => 5 + UInt64.ofNat index) := by
  have evaluated :
      ((relaySession 5).run singleSession).map
          (fun s => (s.committed.map (fun b => (b.block.number, b.txStatus)), s.reported)) =
        some ([(5, [.committed])], [5]) := by
    decide +kernel
  obtain ⟨s, reached, outcome⟩ := map_eq_some_iff.mp evaluated
  obtain ⟨committed, reported⟩ := Prod.mk.inj outcome
  have delivers :
      (relaySession 5).Guarded DeliversFinal (relaySession 5).initial singleSession := by
    apply Machine.guarded_of_forall
    intro state
    simp [singleSession, DeliversFinal, Final]
  exact ⟨s, reached, committed, reported, (relay_commits_in_order delivers reached).1⟩

end FabricXCommitter.Sidecar
