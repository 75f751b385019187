import FabricXCommitter.Library.RingBuffer
import FabricXCommitter.Transaction

/-!
# The blocks in flight

A number below the window is far above it in the arithmetic of 64 bits.
-/

namespace FabricXCommitter.Sidecar

open Library

def initialInFlightBlocksCapacity : Nat := 64

structure InFlightBlocks (α : Type) where
  nextBlockNum : UInt64
  ring : RingBuffer α
  deriving DecidableEq, Repr

namespace InFlightBlocks

variable {α : Type}

def reset (nextBlockNum : UInt64) : InFlightBlocks α where
  nextBlockNum := nextBlockNum
  ring := {}

def nextBlockNumberToCommit (b : InFlightBlocks α) : UInt64 := b.nextBlockNum

/-- Whether the number is tracked already, and the window after it. -/
def register (b : InFlightBlocks α) (blockNumber : UInt64) (blk : α) :
    Except String (Bool × InFlightBlocks α) :=
  let offset := blockNumber - b.nextBlockNum
  if offset.toNat < b.ring.count then
    .ok (true, b)
  else if b.ring.count < offset.toNat then
    .error
      ("block " ++ toString blockNumber ++
        " is not the next block to be tracked [" ++
          toString (b.nextBlockNum + UInt64.ofNat b.ring.count) ++ "]")
  else
    .ok (false, { b with ring := b.ring.push initialInFlightBlocksCapacity blk })

def get (b : InFlightBlocks α) (blockNumber : UInt64) : Option α :=
  b.ring.get (blockNumber - b.nextBlockNum).toNat

def nextBlockToCommit (b : InFlightBlocks α) : Option α := b.ring.peek

def dropCommittedBlock (b : InFlightBlocks α) : InFlightBlocks α where
  nextBlockNum := b.nextBlockNum + 1
  ring := b.ring.pop

section

variable {b : InFlightBlocks α} {window : List α}
  (holds : b.ring.Holds window)

include holds

variable {blockNumber : UInt64}

theorem register_offset {blk : α} {alreadyTracked : Bool} {next : InFlightBlocks α}
    (registered : b.register blockNumber blk = .ok (alreadyTracked, next)) :
    (blockNumber - b.nextBlockNum).toNat < window.length ∧ next = b ∨
      (blockNumber - b.nextBlockNum).toNat = window.length ∧
        next.nextBlockNum = b.nextBlockNum ∧ next.ring.Holds (window ++ [blk]) := by
  have count := holds.count
  simp only [register] at registered
  split at registered
  · cases registered
    exact .inl ⟨by omega, rfl⟩
  split at registered
  · cases registered
  cases registered
  exact .inr ⟨by omega, rfl, holds.push (by rfl : _ = 2 ^ 6) blk⟩

theorem register_cases {blk : α} {alreadyTracked : Bool} {next : InFlightBlocks α}
    (registered : b.register blockNumber blk = .ok (alreadyTracked, next)) :
    next = b ∨
      blockNumber = b.nextBlockNum + UInt64.ofNat window.length ∧
        next.nextBlockNum = b.nextBlockNum ∧ next.ring.Holds (window ++ [blk]) := by
  rcases register_offset holds registered with ⟨_, same⟩ | ⟨offset, sameNext, after⟩
  · exact .inl same
  · refine .inr ⟨?_, sameNext, after⟩
    rw [← offset, UInt64.ofNat_toNat, UInt64.add_comm, UInt64.sub_add_cancel]

theorem get_eq_some {blk : α} (found : b.get blockNumber = some blk) :
    ∃ offset : Nat, window[offset]? = some blk ∧
      blockNumber = b.nextBlockNum + UInt64.ofNat offset := by
  rw [get, holds.get_eq] at found
  refine ⟨_, found, ?_⟩
  rw [UInt64.ofNat_toNat, UInt64.add_comm, UInt64.sub_add_cancel]

theorem nextBlockToCommit_eq : b.nextBlockToCommit = window.head? := holds.peek_eq

theorem dropCommittedBlock_holds {first : α} {rest : List α} (isWindow : window = first :: rest) :
    b.dropCommittedBlock.ring.Holds rest :=
  holds.pop isWindow

end

end InFlightBlocks

/-- A queue of blocks; the first one has the number `first`, the others follow. -/
structure BlockQueue (α : Type) where
  first : UInt64
  blocks : List α

inductive WindowOp (α : Type) where
  | reset (nextBlockNum : UInt64)
  | register (blockNumber : UInt64) (blk : α)
  | get (blockNumber : UInt64)
  | nextBlockToCommit
  | dropCommittedBlock

inductive WindowAnswer (α : Type) where
  | done
  | registered
  | alreadyTracked
  | rejected
  | block (blk : Option α)

section

variable {α : Type}

def numbered : UInt64 → List α → List (UInt64 × α)
  | _, [] => []
  | number, blk :: rest => (number, blk) :: numbered (number + 1) rest

def BlockQueue.find (q : BlockQueue α) (blockNumber : UInt64) : Option α :=
  (numbered q.first q.blocks).lookup blockNumber

/-- An operation on the queue; there is no answer to a drop from the empty queue. -/
def BlockQueue.perform (q : BlockQueue α) : WindowOp α → Option (WindowAnswer α × BlockQueue α)
  | .reset nextBlockNum => some (.done, ⟨nextBlockNum, []⟩)
  | .register blockNumber blk =>
    if (q.find blockNumber).isSome then
      some (.alreadyTracked, q)
    else if blockNumber = q.first + UInt64.ofNat q.blocks.length then
      some (.registered, { q with blocks := q.blocks ++ [blk] })
    else
      some (.rejected, q)
  | .get blockNumber => some (.block (q.find blockNumber), q)
  | .nextBlockToCommit => some (.block q.blocks.head?, q)
  | .dropCommittedBlock =>
    match q.blocks with
    | [] => none
    | _ :: rest => some (.done, ⟨q.first + 1, rest⟩)

def InFlightBlocks.perform (b : InFlightBlocks α) :
    WindowOp α → Option (WindowAnswer α × InFlightBlocks α)
  | .reset nextBlockNum => some (.done, .reset nextBlockNum)
  | .register blockNumber blk =>
    match b.register blockNumber blk with
    | .error _ => some (.rejected, b)
    | .ok (true, next) => some (.alreadyTracked, next)
    | .ok (false, next) => some (.registered, next)
  | .get blockNumber => some (.block (b.get blockNumber), b)
  | .nextBlockToCommit => some (.block b.nextBlockToCommit, b)
  | .dropCommittedBlock => if b.ring.count = 0 then none else some (.done, b.dropCommittedBlock)

/-- The answers to a sequence of operations. -/
def answers {State : Type} (perform : State → WindowOp α → Option (WindowAnswer α × State)) :
    State → List (WindowOp α) → Option (List (WindowAnswer α))
  | _, [] => some []
  | state, op :: rest =>
    (perform state op).bind fun result => (answers perform result.2 rest).map (result.1 :: ·)

theorem lookup_numbered (blockNumber : UInt64) (blocks : List α) :
    ∀ first, (numbered first blocks).lookup blockNumber = blocks[(blockNumber - first).toNat]? := by
  induction blocks with
  | nil =>
    intro first
    rfl
  | cons blk rest ih =>
    intro first
    by_cases isFirst : blockNumber = first
    · simp [numbered, isFirst]
    · have later : (blockNumber - first).toNat = (blockNumber - (first + 1)).toNat + 1 := by
        have differs : blockNumber.toNat ≠ first.toNat := fun same =>
          isFirst (UInt64.toNat_inj.mp same)
        have bound := blockNumber.toNat_lt
        have firstBound := first.toNat_lt
        rw [UInt64.toNat_sub, UInt64.toNat_sub, UInt64.toNat_add, UInt64.toNat_one]
        omega
      rw [later, List.getElem?_cons_succ, ← ih]
      rw [numbered, List.lookup_cons, beq_eq_false_iff_ne.mpr isFirst]

structure WindowRefines (b : InFlightBlocks α) (q : BlockQueue α) : Prop where
  first : b.nextBlockNum = q.first
  holds : b.ring.Holds q.blocks

section

variable {b : InFlightBlocks α} {q : BlockQueue α} (same : WindowRefines b q)

include same

theorem WindowRefines.find_eq (blockNumber : UInt64) : q.find blockNumber = b.get blockNumber := by
  rw [BlockQueue.find, lookup_numbered, InFlightBlocks.get, same.holds.get_eq, same.first]

theorem WindowRefines.perform (op : WindowOp α) :
    b.perform op = none ∧ q.perform op = none ∨
      ∃ answer next nextQueue, b.perform op = some (answer, next) ∧
        q.perform op = some (answer, nextQueue) ∧ WindowRefines next nextQueue := by
  cases op with
  | reset nextBlockNum => exact .inr ⟨_, _, _, rfl, rfl, rfl, RingBuffer.holds_empty⟩
  | register blockNumber blk =>
    have count := same.holds.count
    have tracked : (q.find blockNumber).isSome ↔
        (blockNumber - b.nextBlockNum).toNat < q.blocks.length := by
      rw [same.find_eq, InFlightBlocks.get, same.holds.get_eq]
      simp
    have isNext (notTracked : q.blocks.length ≤ (blockNumber - b.nextBlockNum).toNat) :
        blockNumber = q.first + UInt64.ofNat q.blocks.length ↔
          (blockNumber - b.nextBlockNum).toNat = q.blocks.length := by
      have within := b.nextBlockNum.toNat_lt
      have later := blockNumber.toNat_lt
      rw [UInt64.toNat_sub] at notTracked ⊢
      rw [← UInt64.toNat_inj, ← same.first, UInt64.toNat_add, UInt64.toNat_ofNat']
      omega
    right
    rcases Nat.lt_trichotomy (blockNumber - b.nextBlockNum).toNat q.blocks.length with
      inside | atEnd | beyond
    · refine ⟨.alreadyTracked, b, q, ?_, if_pos (tracked.mpr inside), same⟩
      simp [InFlightBlocks.perform, InFlightBlocks.register, count, inside]
    · refine
        ⟨.registered, { b with ring := b.ring.push initialInFlightBlocksCapacity blk },
          { q with blocks := q.blocks ++ [blk] }, ?_, ?_, same.first,
          same.holds.push (by rfl : _ = 2 ^ 6) blk⟩
      · simp [InFlightBlocks.perform, InFlightBlocks.register, count, atEnd]
      · simp [BlockQueue.perform, tracked, isNext, atEnd]
    · refine ⟨.rejected, b, q, ?_, ?_, same⟩
      · simp [InFlightBlocks.perform, InFlightBlocks.register, count, beyond, Nat.lt_asymm beyond]
      · simp [BlockQueue.perform, tracked, isNext, beyond.le, beyond.ne', Nat.lt_asymm beyond]
  | get blockNumber =>
    refine .inr ⟨_, _, _, rfl, ?_, same⟩
    rw [BlockQueue.perform, same.find_eq]
  | nextBlockToCommit =>
    refine .inr ⟨_, _, _, rfl, ?_, same⟩
    rw [BlockQueue.perform, InFlightBlocks.nextBlockToCommit_eq same.holds]
  | dropCommittedBlock =>
    have count := same.holds.count
    cases isBlocks : q.blocks with
    | nil => exact .inl ⟨if_pos (by simp [count, isBlocks]), by simp [BlockQueue.perform, isBlocks]⟩
    | cons first rest =>
      refine .inr ⟨.done, b.dropCommittedBlock, ⟨q.first + 1, rest⟩, if_neg ?_, ?_, ?_, ?_⟩
      · simp [count, isBlocks]
      · simp [BlockQueue.perform, isBlocks]
      · exact congrArg (· + 1) same.first
      · exact same.holds.pop isBlocks

end

/-- The window answers every sequence of operations as the queue of the blocks with
consecutive numbers does. -/
theorem inFlight_window (start : UInt64) (ops : List (WindowOp α)) :
    answers InFlightBlocks.perform (.reset start) ops =
      answers BlockQueue.perform ⟨start, []⟩ ops := by
  have refines (ops : List (WindowOp α)) :
      ∀ {b q}, WindowRefines b q →
        answers InFlightBlocks.perform b ops = answers BlockQueue.perform q ops := by
    induction ops with
    | nil =>
      intro b q _
      rfl
    | cons op rest ih =>
      intro b q same
      rcases same.perform op with
        ⟨stops, stopsToo⟩ | ⟨answer, next, nextQueue, moves, movesToo, after⟩
      · simp only [answers, stops, stopsToo, Option.bind_none]
      · simp only [answers, moves, movesToo, Option.bind_some, ih after]
  exact refines ops ⟨rfl, RingBuffer.holds_empty⟩

end

end FabricXCommitter.Sidecar
