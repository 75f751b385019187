import FabricXCommitter.VC.FormValid
import FabricXCommitter.VC.PreparedBatch

/-!
# What the form verification guarantees to the committer
-/

namespace FabricXCommitter.VC

open Sidecar List

theorem endorsements_of_accepted
    {tx : Tx} (endorsed : checkEndorsements tx = statusNotYetValidated) :
    tx.endorsements.length = tx.namespaces.length ∧
      ∀ endorsements ∈ tx.endorsements, ∃ entries, endorsements = some entries ∧ entries ≠ [] := by
  rw [checkEndorsements] at endorsed
  split at endorsed
  · cases endorsed
  rename_i lengths
  split at endorsed
  · cases endorsed
  rename_i missing
  refine ⟨(not_not.mp lengths).symm, ?_⟩
  intro endorsements mem
  rw [any_eq_true, not_exists] at missing
  have present := missing endorsements
  cases endorsements with
  | none => exact absurd ⟨mem, rfl⟩ present
  | some entries =>
    refine ⟨entries, rfl, ?_⟩
    rintro rfl
    exact present ⟨mem, rfl⟩

/-- The entries that the preparer collects under the ID of an accepted transaction
have distinct keys, also if the transaction is a snapshot request. -/
theorem writeKeys_expandTx_nodup
    {platform : Platform} {form : Tx} (formed : WellFormed platform form)
    (codec : SnapshotCodec) {tx : VcTx} (same : tx.namespaces = form.namespaces) :
    (writeKeys (expandTx codec tx)).Nodup := by
  apply writeKeys_nodup
  · rw [expandTx, map_map, same]
    simpa only [Function.comp_def, nsId_expandNamespace] using formed.distinct
  · intro expanded mem
    obtain ⟨ns, isNs, rfl⟩ := mem_map.mp mem
    rw [expandNamespace]
    split
    · exact nodup_singleton _
    · have distinct := (formed.each ns (same ▸ isNs)).keysNodup
      exact distinct.of_append_right

theorem preparedPairs_nodup {codec : SnapshotCodec} {batch : List VcTx} {p : PreparedTransactions}
    (preparedAs : PreparedAs codec batch p) {tx : VcTx} (mem : tx ∈ batch)
    (distinct : (writeKeys (expandTx codec tx)).Nodup) :
    ((p.txIDToNsNonBlindWrites tx.ref.txId ++ p.txIDToNsBlindWrites tx.ref.txId ++
        p.txIDToNsNewWrites tx.ref.txId).map WriteEntry.pair).Nodup := by
  rw [preparedAs.updates, preparedAs.blinds, preparedAs.news, preparedAs.entries_of_mem _ mem,
    preparedAs.entries_of_mem _ mem, preparedAs.entries_of_mem _ mem]
  by_cases unspoiled : tx.prelimInvalidTxStatus = none
  · -- With no row present, every blind write is resolved to a new entry.
    have entries :=
      (@pairs_perm (expandTx codec tx) (fun _ _ => none) unspoiled).nodup_iff.mpr distinct
    have resolved (blinds : List WriteEntry) :
        (blinds.map fun entry => { entry with version := 0 }).map WriteEntry.pair =
          blinds.map WriteEntry.pair := by
      rw [map_map]
      rfl
    simp only [txNews, txUpdates, Option.map_none, filterMap_none, append_nil,
      Option.isSome_none, Bool.false_eq_true, if_false, map_append, filterMap_eq_map',
      resolved] at entries
    rw [map_append, map_append]
    refine (List.Perm.nodup_iff ?_).mp entries
    refine perm_append_comm.trans ?_
    rw [append_assoc]
    exact perm_append_comm.append_left _
  · have nothing : preparedNamespaces (expandTx codec tx) = [] :=
      preparedNamespaces_of_invalid (by simpa [Option.ne_none_iff_isSome] using unspoiled)
    rw [nothing]
    exact nodup_nil

/-- What holds of every transaction that the form verification accepts. -/
theorem accepted_form {platform : Platform} {tx : Tx}
    (accepted : verifyTxForm platform tx = statusNotYetValidated) :
    (tx.namespaces.map TxNamespace.nsId).Nodup ∧
      (∀ ns ∈ tx.namespaces, ns.nsId ≠ configNamespaceID) ∧
      tx.endorsements.length = tx.namespaces.length ∧
      (∀ endorsements ∈ tx.endorsements, ∃ entries, endorsements = some entries ∧ entries ≠ []) ∧
      (∀ ns ∈ tx.namespaces, (∀ key ∈ nsKeys ns, key ≠ []) ∧ (nsKeys ns).Nodup) ∧
      (∀ ns ∈ tx.namespaces,
        ns.nsId = snapshotNamespaceID ∨ ns.nsId = checkpointNamespaceID → tx.namespaces = [ns]) ∧
      (∀ ns ∈ tx.namespaces, ns.nsId = metaNamespaceID →
        ns.blindWrites = [] ∧ (ns.readWrites.map ReadWrite.key).Nodup ∧
          ∀ policy ∈ ns.readWrites,
            platform.isSystemNamespace policy.key = false ∧
              validateNamespaceID policy.key = true ∧ platform.policyAccepted policy.value = true) ∧
      ∀ codec batch p, prepare codec batch = some p →
        ∀ copy ∈ firstCopies batch, copy.namespaces = tx.namespaces →
          ((p.txIDToNsNonBlindWrites copy.ref.txId ++ p.txIDToNsBlindWrites copy.ref.txId ++
              p.txIDToNsNewWrites copy.ref.txId).map WriteEntry.pair).Nodup := by
  have formed := wellFormed_of_verifyTxForm accepted
  obtain ⟨lengths, endorsed⟩ := endorsements_of_accepted formed.endorsed
  refine
    ⟨formed.distinct, fun ns member => (formed.each ns member).notConfig, lengths, endorsed,
      fun ns member => (formed.each ns member).keysForm, fun ns => formed.alone, ?_, ?_⟩
  · intro ns member isMeta
    obtain ⟨noBlindWrites, policies⟩ := (formed.each ns member).lifecycleForm isMeta
    have distinct := (formed.each ns member).keysNodup
    exact ⟨noBlindWrites, distinct.of_append_right.of_append_left, policies⟩
  · intro codec batch p prepared copy member same
    exact
      preparedPairs_nodup (preparedAs_of_prepare prepared) member
        (writeKeys_expandTx_nodup formed codec same)

/-- A transaction that reads a key, updates another and writes a third blindly. -/
def mixedTx : Tx where
  namespaces :=
    [{ nsId := [0x61]
       readsOnly := [⟨[1], none⟩]
       readWrites := [⟨[2], some 4, [7]⟩]
       blindWrites := [⟨[3], [8]⟩] }]
  endorsements := [some [some [1]]]

theorem mixedTx_form :
    verifyTxForm permissivePlatform mixedTx = statusNotYetValidated ∧
      ∀ ns ∈ mixedTx.namespaces, (∀ key ∈ nsKeys ns, key ≠ []) ∧ (nsKeys ns).Nodup := by
  have accepted : verifyTxForm permissivePlatform mixedTx = statusNotYetValidated := by
    decide +kernel
  exact ⟨accepted, (accepted_form accepted).2.2.2.2.1⟩

end FabricXCommitter.VC
