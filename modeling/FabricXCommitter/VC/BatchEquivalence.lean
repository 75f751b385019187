import FabricXCommitter.VC.FormValid
import FabricXCommitter.VC.Pipeline

/-!
# Batches and sequences

A batch fails on a committed write to a row with the last `BIGINT` version.
-/

namespace FabricXCommitter.VC

open DependencyGraph

section

variable {platform : Platform} {batch : List VcTx}

theorem admissible_of_formValid (distinct : (batch.map fun tx => tx.ref.txId).Nodup)
    (formed : ∀ tx ∈ batch, tx.prelimInvalidTxStatus = none → FormValid platform tx) :
    Admissible batch where
  distinct := distinct
  plain := fun tx mem unspoiled => (formed tx mem unspoiled).plain unspoiled

theorem pairwise_independent (distinct : (batch.map fun tx => tx.ref.txId).Nodup)
    (formed : ∀ tx ∈ batch, tx.prelimInvalidTxStatus = none → FormValid platform tx)
    (apart :
      batch.Pairwise fun first second =>
        first.prelimInvalidTxStatus = none →
          second.prelimInvalidTxStatus = none →
            ¬ Conflicting platform first.namespaces second.namespaces) :
    batch.Pairwise Independent := by
  rw [List.Nodup, List.pairwise_map] at distinct
  apply (distinct.and apart).imp_of_mem
  intro first second firstMem secondMem facts
  exact
    independent_of_not_conflicting facts.1 (formed first firstMem) (formed second secondMem) facts.2

end

/-- A database with a namespace `a` that holds one row. -/
def singleRowDatabase (version : Nat) : Database where
  hasTable := fun nsId => decide (nsId = metaNamespaceID ∨ nsId = configNamespaceID ∨ nsId = [0x61])
  row := fun nsId key =>
    if nsId = metaNamespaceID ∧ key = [0x61] then
      some ⟨[], 0⟩
    else if nsId = [0x61] ∧ key = [1] then
      some ⟨[], version⟩
    else
      none
  txStatus := fun _ => none
  latestSnapshotKey := []
  snapshotDatabases := fun _ => false
  rowsInTables := by
    intro nsId key missing
    rw [decide_eq_false_iff_not, not_or, not_or] at missing
    rw [if_neg (fun both => missing.1 both.1), if_neg (fun both => missing.2.2 both.1)]

theorem singleRowDatabase_valid {version : Nat} (small : version < bigintLimit) :
    (singleRowDatabase version).Valid where
  metaTable := rfl
  configTable := rfl
  bounded := by
    intro nsId key row stored
    simp only [singleRowDatabase] at stored
    split at stored
    · rw [← Option.some.inj stored]
      exact Nat.two_pow_pos 63
    · split at stored
      · rw [← Option.some.inj stored]
        exact small
      · cases stored

def readWriteTx (txNum : UInt32) (key : Bytes) (version : Option UInt64) : VcTx where
  ref := ⟨[txNum.toUInt8], 1, txNum⟩
  namespaces := [{ nsId := [0x61], readWrites := [⟨key, version, [2]⟩] }]

end FabricXCommitter.VC
