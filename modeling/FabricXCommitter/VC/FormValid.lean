import FabricXCommitter.DependencyGraph.Detector
import FabricXCommitter.Sidecar.Form
import FabricXCommitter.VC.Screening

/-!
# Transactions accepted by the form verification

Two accepted data or lifecycle transactions that do not conflict are independent.
-/

namespace FabricXCommitter.VC

open Sidecar DependencyGraph List

/-- An accepted transaction that uses the meta-namespace and no other system
namespace, and whose read versions can be sent to the database. -/
structure FormValid (platform : Platform) (tx : VcTx) : Prop where
  accepted :
    ∃ endorsements, verifyTxForm platform ⟨tx.namespaces, endorsements⟩ = statusNotYetValidated
  lifecycle :
    ∀ ns ∈ tx.namespaces, platform.isSystemNamespace ns.nsId = true → ns.nsId = metaNamespaceID
  versions : ∀ entry ∈ txReads tx, entry.2.version.all fitsBigint = true

theorem writeKeys_nodup {tx : VcTx} (distinct : (tx.namespaces.map TxNamespace.nsId).Nodup)
    (keysDistinct :
      ∀ ns ∈ tx.namespaces,
        (ns.readWrites.map ReadWrite.key ++ ns.blindWrites.map Write.key).Nodup) :
    (writeKeys tx).Nodup := by
  by_cases unspoiled : tx.prelimInvalidTxStatus.isNone = true
  · have asPairs :
        writeKeys tx =
          tx.namespaces.flatMap fun ns =>
            (ns.readWrites.map ReadWrite.key ++
              ns.blindWrites.map Write.key).map fun key => (ns.nsId, key) := by
      rw [writeKeys, txWrites, preparedNamespaces, if_pos unspoiled, map_flatMap]
      apply flatMap_congr
      intro ns _
      simp [VC.namespaceWrites, Function.comp_def]
    rw [asPairs]
    exact nodup_flatMap_pairs distinct _ keysDistinct
  · rw [writeKeys, txWrites, preparedNamespaces, if_neg unspoiled]
    exact nodup_nil

section

variable {platform : Platform} {tx : VcTx}

section

variable (formed : FormValid platform tx)

include formed

theorem FormValid.namespaceFormed {ns : TxNamespace} (mem : ns ∈ tx.namespaces) :
    WellFormedNamespace platform ns := by
  obtain ⟨endorsements, accepted⟩ := formed.accepted
  exact (wellFormed_of_verifyTxForm accepted).each ns mem

theorem FormValid.distinctNamespaces : (tx.namespaces.map TxNamespace.nsId).Nodup := by
  obtain ⟨endorsements, accepted⟩ := formed.accepted
  exact (wellFormed_of_verifyTxForm accepted).distinct

section

variable {ns : TxNamespace} (mem : ns ∈ tx.namespaces)

include mem

theorem FormValid.systemFree : ns.nsId ≠ snapshotNamespaceID ∧ ns.nsId ≠ checkpointNamespaceID := by
  constructor
  · intro same
    have system : platform.isSystemNamespace ns.nsId = true :=
      (platform.isSystemNamespace_iff ns.nsId).mpr (.inr (.inr (.inl same)))
    have isMeta := formed.lifecycle ns mem system
    rw [same] at isMeta
    revert isMeta
    decide
  · intro same
    have system : platform.isSystemNamespace ns.nsId = true :=
      (platform.isSystemNamespace_iff ns.nsId).mpr (.inr (.inr (.inr same)))
    have isMeta := formed.lifecycle ns mem system
    rw [same] at isMeta
    revert isMeta
    decide

theorem FormValid.namespaceWrites : namespaceWrites ns ≠ [] := by
  intro nothing
  obtain ⟨noReadWrites, noBlindWrites⟩ := append_eq_nil_iff.mp nothing
  rw [map_eq_nil_iff] at noReadWrites noBlindWrites
  rcases
    (formed.namespaceFormed mem).writesSome (formed.systemFree mem).1
    with readWrites | blindWrites
  · exact readWrites noReadWrites
  · exact blindWrites noBlindWrites

theorem FormValid.metaBlind (isMeta : ns.nsId = metaNamespaceID) : ns.blindWrites = [] :=
  ((formed.namespaceFormed mem).lifecycleForm isMeta).1

theorem FormValid.readOnlyApart {read : Read} (isRead : read ∈ ns.readsOnly) {rw : ReadWrite}
    (isReadWrite : rw ∈ ns.readWrites) :
    read.key ≠ rw.key := by
  have distinct := (formed.namespaceFormed mem).keysNodup
  rw [nsKeys, nodup_append] at distinct
  exact
    distinct.2.2 read.key (mem_map_of_mem isRead) rw.key
      (mem_append_left _ (mem_map_of_mem isReadWrite))

end

theorem FormValid.writeKeysNodup : (writeKeys tx).Nodup := by
  apply writeKeys_nodup formed.distinctNamespaces
  intro ns mem
  have distinct := (formed.namespaceFormed mem).keysNodup
  exact distinct.of_append_right

theorem FormValid.apart (unspoiled : tx.prelimInvalidTxStatus = none) :
    ∀ event ∈ txEvents tx, event.validated = true →
      ∀ other ∈ txEvents tx, other.validated = false → event.cmp ≠ other.cmp := by
  intro event eventMem validated other otherMem unvalidated sameCmp
  obtain ⟨sameNs, sameRead⟩ :=
    newCmpRead_injective (formed.versions _ (mem_txReads_of_event eventMem))
      (formed.versions _ (mem_txReads_of_event otherMem)) sameCmp
  obtain ⟨ns, nsMem, rw, rwMem, noVersion, otherNs, otherRead⟩ :=
    unvalidated_event otherMem unvalidated
  rw [otherNs] at sameNs
  rw [otherRead] at sameRead
  obtain ⟨owner, ownerMem, inside⟩ := mem_flatMap.mp eventMem
  rw [preparedNamespaces_of_valid unspoiled] at nsMem ownerMem
  rcases mem_append.mp inside with readOnly | rest
  · obtain ⟨read, readMem, eq⟩ := mem_map.mp readOnly
    rw [← eq] at sameNs sameRead
    have sameOwner : owner = ns :=
      inj_on_of_nodup_map formed.distinctNamespaces ownerMem nsMem sameNs
    subst sameOwner
    exact formed.readOnlyApart ownerMem readMem rwMem (congrArg Read.key sameRead)
  · rcases mem_append.mp rest with readWrite | version
    · obtain ⟨versioned, _, eq⟩ := mem_map.mp readWrite
      rw [← eq] at validated sameRead
      have missing : versioned.version = none := congrArg Read.version sameRead
      simp [missing] at validated
    · obtain ⟨entry, entryMem, eq⟩ := mem_map.mp version
      rw [← eq] at sameRead
      have missing : entry.2.version = none := congrArg Read.version sameRead
      rw [Option.mem_toList, versionRead] at entryMem
      split at entryMem
      · rw [← Option.some.inj entryMem] at missing
        cases missing
      · split at entryMem
        · cases entryMem
        · rw [← Option.some.inj entryMem] at missing
          cases missing

theorem FormValid.plain (unspoiled : tx.prelimInvalidTxStatus = none) : Plain tx where
  systemFree := fun _ mem => formed.systemFree mem
  writesSome := by
    obtain ⟨endorsements, accepted⟩ := formed.accepted
    obtain ⟨ns, mem⟩ := exists_mem_of_ne_nil _ (wellFormed_of_verifyTxForm accepted).nonempty
    obtain ⟨write, writeMem⟩ := exists_mem_of_ne_nil _ (formed.namespaceWrites mem)
    rw [txWrites, preparedNamespaces_of_valid unspoiled]
    exact ne_nil_of_mem (mem_flatMap.mpr ⟨ns, mem, writeMem⟩)
  keysDistinct := formed.writeKeysNodup
  metaBlind := fun _ mem isMeta => formed.metaBlind mem isMeta
  apart := formed.apart unspoiled
  fits := formed.versions

end

end

variable {pair : Bytes × Bytes}

theorem accessed_of_mem_writeKeys
    (platform : Platform) {tx : VcTx} (unspoiled : tx.prelimInvalidTxStatus = none)
    (mem : pair ∈ writeKeys tx) :
    ∃ access, access ≠ .readOnly ∧ pair ∈ accessedPairs platform tx.namespaces access := by
  obtain ⟨write, writeMem, eq⟩ := mem_map.mp mem
  obtain ⟨ns, nsMem, inside⟩ := mem_flatMap.mp writeMem
  rw [preparedNamespaces_of_valid unspoiled] at nsMem
  rcases mem_append.mp inside with readWrite | blind
  · obtain ⟨rw, rwMem, same⟩ := mem_map.mp readWrite
    refine ⟨.readWrite, by decide, mem_flatMap.mpr ⟨ns, nsMem, ?_⟩⟩
    rw [← eq, ← same]
    exact mem_map_of_mem (f := fun rw : ReadWrite => (ns.nsId, rw.key)) rwMem
  · obtain ⟨w, wMem, same⟩ := mem_map.mp blind
    refine ⟨.writeOnly, by decide, mem_flatMap.mpr ⟨ns, nsMem, ?_⟩⟩
    rw [← eq, ← same]
    exact mem_map_of_mem (f := fun w : Write => (ns.nsId, w.key)) wMem

theorem accessed_of_mem_readKeys {platform : Platform} {tx : VcTx} (formed : FormValid platform tx)
    (unspoiled : tx.prelimInvalidTxStatus = none) (mem : pair ∈ readKeys tx) :
    (∃ access, pair ∈ accessedPairs platform tx.namespaces access) ∨
      pair.1 = configNamespaceID := by
  obtain ⟨entry, entryMem, eq⟩ := mem_map.mp mem
  obtain ⟨ns, nsMem, inside⟩ := mem_flatMap.mp entryMem
  rw [preparedNamespaces_of_valid unspoiled] at nsMem
  rw [← eq]
  rcases mem_append.mp inside with readOnly | rest
  · obtain ⟨read, readMem, same⟩ := mem_map.mp readOnly
    refine .inl ⟨.readOnly, mem_flatMap.mpr ⟨ns, nsMem, ?_⟩⟩
    rw [← same]
    exact mem_append_right _ (mem_map_of_mem (f := fun ro : Read => (ns.nsId, ro.key)) readMem)
  · rcases mem_append.mp rest with readWrite | version
    · obtain ⟨rw, rwMem, same⟩ := mem_map.mp readWrite
      refine .inl ⟨.readWrite, mem_flatMap.mpr ⟨ns, nsMem, ?_⟩⟩
      rw [← same]
      exact mem_map_of_mem (f := fun rw : ReadWrite => (ns.nsId, rw.key)) rwMem
    · rw [Option.mem_toList, versionRead] at version
      split at version
      · right
        rw [← Option.some.inj version]
      · rename_i notMeta
        split at version
        · cases version
        · left
          have data : platform.isSystemNamespace ns.nsId = false := by
            rw [← Bool.not_eq_true]
            intro system
            exact notMeta (formed.lifecycle ns nsMem system)
          refine ⟨.readOnly, mem_flatMap.mpr ⟨ns, nsMem, ?_⟩⟩
          rw [← Option.some.inj version, data]
          exact mem_append_left _ mem_cons_self

theorem not_config_of_mem_writeKeys
    {platform : Platform} {tx : VcTx} (formed : FormValid platform tx)
    (unspoiled : tx.prelimInvalidTxStatus = none) (mem : pair ∈ writeKeys tx) :
    pair.1 ≠ configNamespaceID := by
  obtain ⟨write, writeMem, eq⟩ := mem_map.mp mem
  obtain ⟨ns, nsMem, sameNs⟩ := namespace_of_mem_txWrites writeMem
  rw [preparedNamespaces_of_valid unspoiled] at nsMem
  rw [← eq, sameNs]
  exact (formed.namespaceFormed nsMem).notConfig

theorem keys_of_rejected {tx : VcTx} (rejected : tx.prelimInvalidTxStatus ≠ none) :
    readKeys tx = [] ∧ writeKeys tx = [] := by
  have invalid : tx.prelimInvalidTxStatus.isNone = false := by
    rw [Option.isNone_eq_false_iff, Option.isSome_iff_ne_none]
    exact rejected
  rw [readKeys, writeKeys, txReads, txWrites, preparedNamespaces_of_invalid invalid]
  exact ⟨rfl, rfl⟩

/-- A written pair of one transaction is not read by another that does not
conflict with it. -/
theorem unread_of_not_conflicting {platform : Platform} {reader writer : VcTx}
    (readerFormed : reader.prelimInvalidTxStatus = none → FormValid platform reader)
    (writerFormed : writer.prelimInvalidTxStatus = none → FormValid platform writer)
    (apart :
      reader.prelimInvalidTxStatus = none →
        writer.prelimInvalidTxStatus = none →
          ¬ Conflicting platform reader.namespaces writer.namespaces) :
    ∀ pair ∈ writeKeys writer, pair ∉ readKeys reader := by
  intro pair written read
  by_cases readerValid : reader.prelimInvalidTxStatus = none
  · by_cases writerValid : writer.prelimInvalidTxStatus = none
    · obtain ⟨writerAccess, writes, writerPair⟩ :=
        accessed_of_mem_writeKeys platform writerValid written
      rcases accessed_of_mem_readKeys (readerFormed readerValid) readerValid
          read with ⟨readerAccess, readerPair⟩ | config
      · exact
          apart readerValid writerValid
            ⟨pair.1, pair.2, readerAccess, writerAccess, readerPair,
              writerPair, fun both => writes both.2⟩
      · exact not_config_of_mem_writeKeys (writerFormed writerValid) writerValid written config
    · rw [(keys_of_rejected writerValid).2] at written
      cases written
  · rw [(keys_of_rejected readerValid).1] at read
    cases read

theorem conflicting_symm {platform : Platform} {first second : List TxNamespace}
    (conflict : Conflicting platform first second) :
    Conflicting platform second first := by
  obtain ⟨ns, key, access, otherAccess, firstPair, secondPair, writes⟩ := conflict
  exact ⟨ns, key, otherAccess, access, secondPair, firstPair, fun both => writes both.symm⟩

theorem independent_of_not_conflicting
    {platform : Platform} {first second : VcTx} (ids : first.ref.txId ≠ second.ref.txId)
    (firstFormed : first.prelimInvalidTxStatus = none → FormValid platform first)
    (secondFormed : second.prelimInvalidTxStatus = none → FormValid platform second)
    (apart :
      first.prelimInvalidTxStatus = none →
        second.prelimInvalidTxStatus = none →
          ¬ Conflicting platform first.namespaces second.namespaces) :
    Independent first second where
  ids := ids
  readByFirst := unread_of_not_conflicting firstFormed secondFormed apart
  readBySecond :=
    unread_of_not_conflicting secondFormed firstFormed
      fun secondValid firstValid conflict =>
        apart firstValid secondValid (conflicting_symm conflict)
  written := by
    intro pair inFirst inSecond
    by_cases firstValid : first.prelimInvalidTxStatus = none
    · by_cases secondValid : second.prelimInvalidTxStatus = none
      · obtain ⟨access, _, firstPair⟩ := accessed_of_mem_writeKeys platform firstValid inFirst
        obtain ⟨otherAccess, writes, secondPair⟩ :=
          accessed_of_mem_writeKeys platform secondValid inSecond
        exact
          apart firstValid secondValid
            ⟨pair.1, pair.2, access, otherAccess, firstPair, secondPair, fun both => writes both.2⟩
      · rw [(keys_of_rejected secondValid).2] at inSecond
        cases inSecond
    · rw [(keys_of_rejected firstValid).2] at inFirst
      cases inFirst

end FabricXCommitter.VC
