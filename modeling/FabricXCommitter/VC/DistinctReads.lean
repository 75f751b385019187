import FabricXCommitter.VC.PreparedBatch
import FabricXCommitter.VC.Screening

/-!
# Reads as keys of a map

A missing version has the signed form of the greatest version.
-/

namespace FabricXCommitter.VC

open Library List Option

/-- The version whose signed form is `-1`. -/
def greatestVersion : UInt64 := 0xffffffffffffffff

/-- The reads of one key of which one has no version and the other the greatest
one. -/
def Collide (read other : Read) : Prop :=
  read.key = other.key ∧
    (read.version = none ∧ other.version = some greatestVersion ∨
      read.version = some greatestVersion ∧ other.version = none)

instance (read other : Read) : Decidable (Collide read other) := inferInstanceAs (Decidable (_ ∧ _))

theorem toInt_eq_neg_one_iff {version : UInt64} :
    version.toBitVec.toInt = -1 ↔ version = greatestVersion := by
  have signed : greatestVersion.toBitVec.toInt = -1 := by decide
  rw [← signed, BitVec.toInt_inj, UInt64.toBitVec_inj]

theorem newCmpRead_eq_iff {nsId otherNs : Bytes} {read other : Read} :
    newCmpRead nsId read = newCmpRead otherNs other ↔
      nsId = otherNs ∧ (read = other ∨ Collide read other) := by
  obtain ⟨key, version⟩ := read
  obtain ⟨otherKey, otherVersion⟩ := other
  cases version with
  | none =>
    cases otherVersion with
    | none => simp [newCmpRead, Collide]
    | some otherNumber => simp [newCmpRead, Collide, eq_comm, ← toInt_eq_neg_one_iff]
  | some number =>
    cases otherVersion with
    | none => simp [newCmpRead, Collide, toInt_eq_neg_one_iff]
    | some otherNumber => simp [newCmpRead, Collide, BitVec.toInt_inj, UInt64.toBitVec_inj]

theorem firstEvent_of_listed
    {events : List ReadEvent} {entry : Bytes × Read} (listed : entry ∈ (indexOf events).1) :
    ∃ first, firstEvent events (newCmpRead entry.1 entry.2) = some first ∧
      first.validated = true := by
  induction events using List.reverseRec with
  | nil => cases listed
  | append_singleton front last ih =>
    have earlier :
        entry ∈ (indexOf front).1 →
          ∃ first,
            firstEvent (front ++ [last]) (newCmpRead entry.1 entry.2) = some first ∧
              first.validated = true := by
      intro inFront
      obtain ⟨first, isFirst, validated⟩ := ih inFront
      refine ⟨first, ?_, validated⟩
      rw [firstEvent_append_singleton, isFirst, some_or]
    rw [indexOf_append_singleton, register] at listed
    split at listed
    · rename_i appended
      rw [Bool.and_eq_true] at appended
      rcases mem_append.mp listed with inFront | isLast
      · exact earlier inFront
      · rw [mem_singleton.mp isLast]
        have unread : firstEvent front last.cmp = none := by
          have empty := List.isEmpty_iff.mp appended.2
          rw [readers_indexOf, map_eq_nil_iff, filter_eq_nil_iff] at empty
          exact find?_eq_none.mpr empty
        refine ⟨last, ?_, appended.1⟩
        rw [firstEvent_append_singleton]
        change
          (firstEvent front last.cmp).or (if last.cmp = last.cmp then some last else none) =
            some last
        rw [unread, if_pos rfl]
        rfl
    · exact earlier listed

def preparedReads (codec : SnapshotCodec) (batch : List VcTx) : List ReadEvent :=
  ((firstCopies batch).map (expandTx codec)).flatMap expandedTxEvents

def firstMaker (events : List ReadEvent) (nsId : Bytes) (read : Read) : Option ReadEvent :=
  events.find? fun event => event.nsId == nsId && event.read == read

/-- A transaction made one of the reads. -/
def madeOneOf (codec : SnapshotCodec) (conflicts : List (Bytes × Read)) (tx : VcTx) : Bool :=
  (expandedTxEvents (expandTx codec tx)).any fun event =>
    decide ((event.nsId, event.read) ∈ conflicts)

/-- Different reads have different entries, every read that is to be validated
is listed, and conflicts on listed reads invalidate the transactions that made
these reads. -/
structure ReadsKeptApart (codec : SnapshotCodec) (batch : List VcTx) (p : PreparedTransactions) :
    Prop where
  separate :
    ∀ event ∈ preparedReads codec batch, ∀ other ∈ preparedReads codec batch,
      event.cmp = other.cmp → event.nsId = other.nsId ∧ event.read = other.read
  listed :
    ∀ event ∈ preparedReads codec batch, event.validated = true →
      (event.nsId, event.read) ∈ p.nsToReads
  blamed :
    ∀ conflicts : List (Bytes × Read),
      (∀ conflict ∈ conflicts, conflict ∈ p.nsToReads) →
        ∃ v, invalidateTxsOnReadConflicts (.ofPrepared p) conflicts = some v ∧
          ∀ tx ∈ firstCopies batch,
            v.invalidTxStatus tx.ref.txId =
              if madeOneOf codec conflicts tx then
                some .abortedMvccConflict
              else
                tx.prelimInvalidTxStatus

/-- No two reads of the batch collide, and no read that is to be validated was
registered before by a read-write without a version. -/
structure Separable (events : List ReadEvent) : Prop where
  apart :
    ∀ event ∈ events, ∀ other ∈ events, event.nsId = other.nsId → ¬ Collide event.read other.read
  unshadowed :
    ∀ event ∈ events, event.validated = true →
      (firstMaker events event.nsId event.read).all ReadEvent.validated = true

variable {event : ReadEvent}

section

variable {events : List ReadEvent}

theorem Separable.same_of_cmp (separable : Separable events) {other : ReadEvent}
    (mem : event ∈ events) (otherMem : other ∈ events) (sameCmp : event.cmp = other.cmp) :
    event.nsId = other.nsId ∧ event.read = other.read := by
  obtain ⟨sameNs, same | collide⟩ := newCmpRead_eq_iff.mp sameCmp
  · exact ⟨sameNs, same⟩
  · exact absurd collide (separable.apart event mem other otherMem sameNs)

theorem firstEvent_eq_firstMaker
    (separate :
      ∀ event ∈ events, ∀ other ∈ events, event.cmp = other.cmp →
        event.nsId = other.nsId ∧ event.read = other.read) (mem : event ∈ events) :
    firstEvent events event.cmp = firstMaker events event.nsId event.read := by
  rw [firstEvent, firstMaker, ← head?_filter, ← head?_filter]
  congr 1
  apply filter_congr
  intro other otherMem
  rw [Bool.eq_iff_iff, beq_iff_eq, Bool.and_eq_true, beq_iff_eq, beq_iff_eq]
  constructor
  · intro sameCmp
    exact separate other otherMem event mem sameCmp
  · intro same
    rw [ReadEvent.cmp, ReadEvent.cmp, same.1, same.2]

theorem Separable.listed (separable : Separable events)
    (mem : event ∈ events) (validated : event.validated = true) :
    (event.nsId, event.read) ∈ (indexOf events).1 := by
  have separate :
      ∀ event ∈ events, ∀ other ∈ events, event.cmp = other.cmp →
        event.nsId = other.nsId ∧ event.read = other.read :=
    fun event mem other otherMem => separable.same_of_cmp mem otherMem
  rcases covered_indexOf mem with ⟨entry, isListed, sameCmp⟩ | isHidden
  · obtain ⟨source, isSource, _, isEntry⟩ := listed_indexOf isListed
    rw [← isEntry] at sameCmp isListed
    obtain ⟨sameNs, sameRead⟩ := separate source isSource event mem sameCmp
    rw [sameNs, sameRead] at isListed
    exact isListed
  · obtain ⟨first, isFirst, unvalidated⟩ := hidden_iff.mp isHidden
    have shown := separable.unshadowed event mem validated
    rw [← firstEvent_eq_firstMaker separate mem, isFirst, all_some, unvalidated] at shown
    cases shown

end

theorem mem_preparedReads {codec : SnapshotCodec} {batch : List VcTx} :
    event ∈ preparedReads codec batch ↔
      ∃ tx ∈ firstCopies batch, event ∈ expandedTxEvents (expandTx codec tx) := by
  simp [preparedReads]

theorem blamed_of_separable {codec : SnapshotCodec} {batch : List VcTx} {p : PreparedTransactions}
    (preparedAs : PreparedAs codec (firstCopies batch) p)
    (separable : Separable (preparedReads codec batch)) {conflicts : List (Bytes × Read)}
    (fromList : ∀ conflict ∈ conflicts, conflict ∈ p.nsToReads) :
    ∃ v, invalidateTxsOnReadConflicts (.ofPrepared p) conflicts = some v ∧
      ∀ tx ∈ firstCopies batch,
        v.invalidTxStatus tx.ref.txId =
          if madeOneOf codec conflicts tx then
            some .abortedMvccConflict
          else
            tx.prelimInvalidTxStatus := by
  have source :
      ∀ conflict ∈ conflicts, ∃ event ∈ preparedReads codec batch,
        (event.nsId, event.read) = conflict := by
    intro conflict mem
    have listed := fromList conflict mem
    rw [preparedAs.listed] at listed
    obtain ⟨event, inside, _, same⟩ := listed_indexOf listed
    exact ⟨event, inside, same⟩
  have readers :
      ∀ conflict ∈ conflicts,
        (ValidatedTransactions.ofPrepared p).readToTxIDs
          (newCmpRead conflict.1 conflict.2) ≠ [] := by
    intro conflict mem
    obtain ⟨event, inside, same⟩ := source conflict mem
    obtain ⟨tx, txMem, ofTx⟩ := mem_preparedReads.mp inside
    have reader : tx.ref.txId ∈ p.readToTxIDs event.cmp :=
      preparedAs.mem_readers.mpr ⟨tx, txMem, rfl, event, ofTx, rfl⟩
    rw [← same]
    exact ne_nil_of_mem reader
  have invalidated := invalidateTxsOnReadConflicts_masked (fun _ => none) readers
  rw [masked_none] at invalidated
  refine ⟨_, invalidated, ?_⟩
  intro tx mem
  have blame :
      (tx.ref.txId ∈
          conflicts.flatMap fun conflict =>
            (ValidatedTransactions.ofPrepared p).readToTxIDs (newCmpRead conflict.1 conflict.2)) ↔
        madeOneOf codec conflicts tx = true := by
    rw [mem_flatMap, madeOneOf, List.any_eq_true]
    constructor
    · intro found
      obtain ⟨conflict, isConflict, isReader⟩ := found
      obtain ⟨event, inside, same⟩ := source conflict isConflict
      obtain ⟨other, otherMem, sameId, made, ofOther, sameCmp⟩ := preparedAs.mem_readers.mp isReader
      have isTx : other = tx := inj_on_of_nodup_map preparedAs.distinct otherMem mem sameId
      subst isTx
      rw [← same] at sameCmp
      obtain ⟨sameNs, sameRead⟩ :=
        separable.same_of_cmp (mem_preparedReads.mpr ⟨other, mem, ofOther⟩) inside sameCmp
      refine ⟨made, ofOther, decide_eq_true ?_⟩
      rw [sameNs, sameRead, same]
      exact isConflict
    · intro found
      obtain ⟨event, ofTx, isConflict⟩ := found
      refine ⟨_, of_decide_eq_true isConflict, ?_⟩
      exact preparedAs.mem_readers.mpr ⟨tx, mem, rfl, event, ofTx, rfl⟩
  change (kill _ _ (fun _ => none) tx.ref.txId).or (p.invalidTxIDStatus tx.ref.txId) = _
  rw [preparedAs.prelim tx mem]
  by_cases made : madeOneOf codec conflicts tx = true
  · rw [if_pos made, kill_of_mem (blame.mpr made)]
    rfl
  · rw [if_neg made, kill_of_not_mem (fun inside => made (blame.mp inside))]
    rfl

/-- Reads share a signed form exactly if they are equal or collide, and the
reads of a batch are kept apart exactly if the batch is separable. -/
theorem reads_kept_apart_iff (codec : SnapshotCodec) {batch : List VcTx} {p : PreparedTransactions}
    (prepared : prepare codec batch = some p) :
    (∀ nsId otherNs read other,
        (newCmpRead nsId read = newCmpRead otherNs other → nsId = otherNs ∧ read = other) ↔
          ¬ (nsId = otherNs ∧ Collide read other)) ∧
      (ReadsKeptApart codec batch p ↔ Separable (preparedReads codec batch)) := by
  have preparedAs := preparedAs_of_prepare prepared
  refine ⟨?_, ?_, ?_⟩
  · intro nsId otherNs read other
    rw [newCmpRead_eq_iff]
    constructor
    · intro injective collide
      obtain ⟨_, same⟩ := injective ⟨collide.1, Or.inr collide.2⟩
      obtain ⟨_, isCollision⟩ := collide
      rw [same] at isCollision
      obtain ⟨_, ⟨absent, present⟩ | ⟨present, absent⟩⟩ := isCollision
      · rw [absent] at present
        cases present
      · rw [absent] at present
        cases present
    · intro apart sameForm
      obtain ⟨sameNs, same | collide⟩ := sameForm
      · exact ⟨sameNs, same⟩
      · exact absurd ⟨sameNs, collide⟩ apart
  · intro kept
    constructor
    · intro event member other otherMember sameNs collide
      have sameCmp : event.cmp = other.cmp := newCmpRead_eq_iff.mpr ⟨sameNs, Or.inr collide⟩
      obtain ⟨_, same⟩ := kept.separate event member other otherMember sameCmp
      obtain ⟨_, ⟨absent, present⟩ | ⟨present, absent⟩⟩ := collide
      · rw [same, present] at absent
        cases absent
      · rw [same, absent] at present
        cases present
    · intro event member validated
      have listed := kept.listed event member validated
      rw [preparedAs.listed] at listed
      obtain ⟨first, isFirst, firstValidated⟩ := firstEvent_of_listed listed
      have sameFirst := firstEvent_eq_firstMaker kept.separate member
      rw [← sameFirst]
      rw [show firstEvent (preparedReads codec batch) event.cmp = some first from isFirst]
      exact firstValidated
  · intro separable
    exact
      { separate := fun event member other otherMember =>
          separable.same_of_cmp member otherMember
        listed := by
          intro event member validated
          rw [preparedAs.listed]
          exact separable.listed member validated
        blamed := fun conflicts => blamed_of_separable preparedAs separable }

/-- A transaction that reads one key of the namespace `a` and writes another
one. -/
def keyReader (txNum : UInt32) (version : Option UInt64) : VcTx where
  ref := ⟨[txNum.toUInt8], 9, txNum⟩
  namespaces :=
    [{ nsId := [0x61]
       readsOnly := [⟨[1], version⟩]
       blindWrites := [⟨[txNum.toUInt8 + 1], [0]⟩] }]

theorem two_versions_kept_apart :
    ∃ p, prepare fieldCodec [keyReader 1 none, keyReader 2 (some 7)] = some p ∧
      ReadsKeptApart fieldCodec [keyReader 1 none, keyReader 2 (some 7)] p := by
  obtain ⟨p, prepared⟩ :=
    isSome_iff_exists.mp
      (by decide +kernel :
        (prepare fieldCodec [keyReader 1 none, keyReader 2 (some 7)]).isSome = true)
  refine ⟨p, prepared, (reads_kept_apart_iff fieldCodec prepared).2.mpr ?_⟩
  exact ⟨by decide +kernel, by decide +kernel⟩

/-- A transaction that inserts the key that `keyReader` reads. -/
def keyInserter (txNum : UInt32) : VcTx where
  ref := ⟨[txNum.toUInt8], 9, txNum⟩
  namespaces := [{ nsId := [0x61], readWrites := [⟨[1], none, [0]⟩] }]

/-- The reads of a batch that are listed for the namespace `a`, and the
transactions that are blamed for a read without a version. -/
def listedAndBlamed (batch : List VcTx) : Option (List (Bytes × Read) × List Bytes) :=
  (prepare fieldCodec batch).map fun p =>
    (p.nsToReads.filter fun entry => entry.1 == [0x61],
      p.readToTxIDs (newCmpRead [0x61] ⟨[1], none⟩))

/-- Two transactions read one key, one without a version and one with the
greatest version: one read is listed, and a conflict on it blames both.  A read
without a version is not listed after an insertion of its key. -/
theorem greatest_version_collides :
    newCmpRead [0x61] ⟨[1], none⟩ = newCmpRead [0x61] ⟨[1], some greatestVersion⟩ ∧
      listedAndBlamed [keyReader 1 none, keyReader 2 (some greatestVersion)] =
          some ([([0x61], ⟨[1], none⟩)], [[1], [2]]) ∧
        listedAndBlamed [keyInserter 1, keyReader 2 none] = some ([], [[1], [2]]) := by
  decide +kernel

end FabricXCommitter.VC
