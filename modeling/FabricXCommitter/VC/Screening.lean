import FabricXCommitter.VC.Settlement

/-!
# The verdicts of the validator

A read is missed only if a read-write without a version of the same key hides it.
-/

namespace FabricXCommitter.VC

open Library List Option

theorem toInt_eq_toNat {version : UInt64} (fits : fitsBigint version = true) :
    version.toBitVec.toInt = version.toNat := by
  have small : version.toNat < 2 ^ 63 := of_decide_eq_true fits
  have asNat : version.toBitVec.toNat = version.toNat := rfl
  rw [BitVec.toInt_eq_toNat_cond, asNat]
  split
  · rfl
  · omega

theorem newCmpRead_injective
    {nsId otherNs : Bytes} {read other : Read} (fits : read.version.all fitsBigint = true)
    (otherFits : other.version.all fitsBigint = true)
    (equal : newCmpRead nsId read = newCmpRead otherNs other) :
    nsId = otherNs ∧ read = other := by
  obtain ⟨key, version⟩ := read
  obtain ⟨otherKey, otherVersion⟩ := other
  cases version with
  | none =>
    cases otherVersion with
    | none =>
      simp only [newCmpRead, CmpRead.mk.injEq, and_true] at equal
      rw [equal.1, equal.2]
      exact ⟨rfl, rfl⟩
    | some number =>
      simp only [newCmpRead, CmpRead.mk.injEq] at equal
      have signed := toInt_eq_toNat otherFits
      omega
  | some number =>
    cases otherVersion with
    | none =>
      simp only [newCmpRead, CmpRead.mk.injEq] at equal
      have signed := toInt_eq_toNat fits
      omega
    | some otherNumber =>
      simp only [newCmpRead, CmpRead.mk.injEq] at equal
      have signed := toInt_eq_toNat fits
      have otherSigned := toInt_eq_toNat otherFits
      have sameNat : number.toNat = otherNumber.toNat := by omega
      rw [equal.1, equal.2.1, UInt64.toNat_inj.mp sameNat]
      exact ⟨rfl, rfl⟩

variable {event : ReadEvent}

theorem mem_batchEvents {batch : List VcTx} :
    event ∈ batchEvents batch ↔ ∃ tx ∈ batch, event ∈ txEvents tx :=
  mem_flatMap

theorem id_of_mem_txEvents {tx : VcTx} (mem : event ∈ txEvents tx) : event.id = tx.ref.txId := by
  obtain ⟨ns, _, inside⟩ := mem_flatMap.mp mem
  exact id_of_mem_namespaceEvents inside

theorem valid_of_mem_txEvents {tx : VcTx} (mem : event ∈ txEvents tx) :
    tx.prelimInvalidTxStatus = none := by
  by_contra invalid
  have rejected : tx.prelimInvalidTxStatus.isNone = false := by
    rw [isNone_eq_false_iff, isSome_iff_ne_none]
    exact invalid
  rw [txEvents, preparedNamespaces_of_invalid rejected] at mem
  cases mem

section

variable {batch : List VcTx}

theorem mem_readers {cr : CmpRead} {id : Bytes} :
    id ∈ (indexOf (batchEvents batch)).2 cr ↔
      ∃ tx ∈ batch, tx.ref.txId = id ∧ ∃ event ∈ txEvents tx, event.cmp = cr := by
  rw [mem_readers_indexOf]
  constructor
  · intro found
    obtain ⟨event, mem, sameCmp, sameId⟩ := found
    obtain ⟨tx, inBatch, inside⟩ := mem_batchEvents.mp mem
    refine ⟨tx, inBatch, ?_, event, inside, sameCmp⟩
    rw [← id_of_mem_txEvents inside]
    exact sameId
  · intro found
    obtain ⟨tx, inBatch, sameId, event, inside, sameCmp⟩ := found
    refine ⟨event, mem_batchEvents.mpr ⟨tx, inBatch, inside⟩, sameCmp, ?_⟩
    rw [id_of_mem_txEvents inside]
    exact sameId

variable (admissible : Admissible batch)

include admissible

theorem fits_of_mem_txEvents {tx : VcTx} (mem : tx ∈ batch) (eventMem : event ∈ txEvents tx) :
    event.read.version.all fitsBigint = true :=
  (admissible.plain tx mem (valid_of_mem_txEvents eventMem)).fits _ (mem_txReads_of_event eventMem)

theorem same_read_of_cmp {tx other : VcTx} (mem : tx ∈ batch) (otherMem : other ∈ batch)
    {otherEvent : ReadEvent} (eventMem : event ∈ txEvents tx)
    (otherEventMember : otherEvent ∈ txEvents other) (sameCmp : event.cmp = otherEvent.cmp) :
    event.nsId = otherEvent.nsId ∧ event.read = otherEvent.read :=
  newCmpRead_injective (fits_of_mem_txEvents admissible mem eventMem)
    (fits_of_mem_txEvents admissible otherMem otherEventMember) sameCmp

theorem sound_kill_readers {db : Database} {dead : Invalidated} {conflicts : List (Bytes × Read)}
    (sound :
      ∀ tx ∈ batch, db.txStatus tx.ref.txId = none →
        ∀ status, dead tx.ref.txId = some status →
          status = .abortedMvccConflict ∧ tx.prelimInvalidTxStatus = none ∧
            readsMatch db tx = false)
    (mismatch :
      ∀ conflict ∈ conflicts, ∀ tx ∈ batch,
        db.txStatus tx.ref.txId = none →
          ∀ event ∈ txEvents tx,
            event.cmp = newCmpRead conflict.1 conflict.2 →
              readMismatch db event.nsId event.read = true) :
    ∀ tx ∈ batch, db.txStatus tx.ref.txId = none →
      ∀ status,
        kill
            (conflicts.flatMap fun conflict =>
              (indexOf (batchEvents batch)).2 (newCmpRead conflict.1 conflict.2))
            .abortedMvccConflict dead tx.ref.txId = some status →
          status = .abortedMvccConflict ∧ tx.prelimInvalidTxStatus = none ∧
            readsMatch db tx = false := by
  intro tx mem unrecorded status verdict
  by_cases killed :
      tx.ref.txId ∈
        conflicts.flatMap fun conflict =>
          (indexOf (batchEvents batch)).2 (newCmpRead conflict.1 conflict.2)
  · rw [kill_of_mem killed] at verdict
    obtain ⟨conflict, conflictMem, reader⟩ := mem_flatMap.mp killed
    obtain ⟨other, otherMem, sameId, event, eventMem, sameCmp⟩ := mem_readers.mp reader
    have same := inj_on_of_nodup_map admissible.distinct otherMem mem sameId
    subst same
    refine ⟨(Option.some.inj verdict).symm, valid_of_mem_txEvents eventMem, ?_⟩
    by_contra matched
    rw [Bool.not_eq_false] at matched
    have agrees := readsMatch_iff.mp matched event eventMem
    rw [mismatch conflict conflictMem other otherMem unrecorded event eventMem sameCmp] at agrees
    cases agrees
  · rw [kill_of_not_mem killed] at verdict
    exact sound tx mem unrecorded status verdict

/-- The verdicts after the comparison of the listed reads.  The reads need to
be compared with the final rows only as far as unrecorded transactions made
them. -/
theorem screened_of_conflicts {db : Database} {conflicts : List (Bytes × Read)}
    (decided :
      ∀ entry ∈ (indexOf (batchEvents batch)).1, ∀ tx ∈ batch,
        db.txStatus tx.ref.txId = none →
          (∃ event ∈ txEvents tx, event.cmp = newCmpRead entry.1 entry.2) →
            (entry ∈ conflicts ↔ readMismatch db entry.1 entry.2 = true))
    (listed : ∀ entry ∈ conflicts, entry ∈ (indexOf (batchEvents batch)).1)
    (unhidden :
      ∀ tx ∈ batch, db.txStatus tx.ref.txId = none →
        ∀ event ∈ txEvents tx, event.validated = true →
          hidden (batchEvents batch) event.cmp = true →
            readMismatch db event.nsId event.read = false) :
    Screened db batch
      (kill
        (conflicts.flatMap fun conflict =>
          (indexOf (batchEvents batch)).2 (newCmpRead conflict.1 conflict.2))
        .abortedMvccConflict fun _ => none) where
  sound := by
    apply sound_kill_readers admissible
    · intro tx _ _ status verdict
      cases verdict
    · intro conflict mem tx inBatch unrecorded event eventMem sameCmp
      have inIndex := listed conflict mem
      obtain ⟨source, sourceMem, _, sourceEquality⟩ := listed_indexOf inIndex
      obtain ⟨owner, ownerMem, inside⟩ := mem_batchEvents.mp sourceMem
      have sourceCmp : event.cmp = source.cmp := by
        rw [sameCmp, ← sourceEquality]
        rfl
      obtain ⟨sameNs, sameRead⟩ :=
        same_read_of_cmp admissible inBatch ownerMem eventMem inside sourceCmp
      have mismatch :=
        (decided conflict inIndex tx inBatch unrecorded ⟨event, eventMem, sameCmp⟩).mp mem
      rw [← sourceEquality] at mismatch
      rw [sameNs, sameRead]
      exact mismatch
  complete := by
    intro tx mem unrecorded alive event eventMem validated
    obtain ⟨_, spared⟩ := live_of_live_kill alive
    have inBatch : event ∈ batchEvents batch := mem_batchEvents.mpr ⟨tx, mem, eventMem⟩
    rcases covered_indexOf inBatch with ⟨entry, inIndex, sameCmp⟩ | hiddenRead
    · obtain ⟨source, sourceMem, _, sourceEquality⟩ := listed_indexOf inIndex
      obtain ⟨owner, ownerMem, inside⟩ := mem_batchEvents.mp sourceMem
      have sourceCmp : event.cmp = source.cmp := by
        rw [← sameCmp, ← sourceEquality]
        rfl
      obtain ⟨sameNs, sameRead⟩ :=
        same_read_of_cmp admissible mem ownerMem eventMem inside sourceCmp
      by_contra mismatch
      apply spared
      refine mem_flatMap.mpr ⟨entry, ?_, ?_⟩
      · rw [decided entry inIndex tx mem unrecorded
          ⟨event, eventMem, sameCmp.symm⟩, ← sourceEquality]
        rw [sameNs, sameRead, Bool.not_eq_false] at mismatch
        exact mismatch
      · exact mem_readers.mpr ⟨tx, mem, rfl, event, eventMem, sameCmp.symm⟩
    · exact unhidden tx mem unrecorded event eventMem validated hiddenRead

end

end FabricXCommitter.VC
