import FabricXCommitter.Encoding
import Mathlib.Data.List.Dedup
import Mathlib.Data.List.GetD
import Mathlib.Data.List.Nodup

/-!
# Form verification of transactions

The checks of the sidecar, each under its name in the source.
-/

namespace FabricXCommitter.Sidecar

open List

def statusNotYetValidated : Status := .unspecified

def maxKeysForPairwiseCheck : Nat := 24

def maxNamespaceIDLength : Nat := 60

/-- The characters of the expression `^[a-z0-9_]+$`. -/
def namespaceIDByte (byte : UInt8) : Bool :=
  (0x61 ≤ byte && byte ≤ 0x7a) || (0x30 ≤ byte && byte ≤ 0x39) || byte == 0x5f

def validateNamespaceID (nsId : Bytes) : Bool :=
  !(nsId.length == 0 || decide (maxNamespaceIDLength < nsId.length)) && nsId.all namespaceIDByte

inductive PolicyError where
  | invalidNamespaceID
  | invalidPolicy
  deriving DecidableEq, Repr

def createNamespaceVerifier (platform : Platform) (nsId policy : Bytes) : Option PolicyError :=
  if platform.isSystemNamespace nsId then
    some .invalidNamespaceID
  else if !validateNamespaceID nsId then
    some .invalidNamespaceID
  else if !platform.policyAccepted policy then
    some .invalidPolicy
  else
    none

def nsKey (ns : TxNamespace) (index : Nat) : Bytes :=
  if index < ns.readsOnly.length then
    (ns.readsOnly.map Read.key).getD index []
  else if index - ns.readsOnly.length < ns.readWrites.length then
    (ns.readWrites.map ReadWrite.key).getD (index - ns.readsOnly.length) []
  else
    (ns.blindWrites.map Write.key).getD (index - ns.readsOnly.length - ns.readWrites.length) []

def keyCount (ns : TxNamespace) : Nat :=
  ns.readsOnly.length + ns.readWrites.length + ns.blindWrites.length

/-- `checkKeys`: no key is empty and no key occurs twice.  Large namespaces
collect their keys into a set, small ones compare them pairwise. -/
def checkKeys (ns : TxNamespace) : Status :=
  if (List.range (keyCount ns)).any fun index => (nsKey ns index).length == 0 then
    .malformedEmptyKey
  else if maxKeysForPairwiseCheck < keyCount ns then
    if ((List.range (keyCount ns)).map (nsKey ns)).dedup.length ≠ keyCount ns then
      .malformedDuplicateKeyInReadWriteSet
    else
      statusNotYetValidated
  else if (List.range (keyCount ns)).any fun first =>
      (List.range (keyCount ns)).any fun second =>
        decide (first < second) && nsKey ns first == nsKey ns second then
    .malformedDuplicateKeyInReadWriteSet
  else
    statusNotYetValidated

def checkNamespaceReadsWrites (ns : TxNamespace) : Status :=
  if ns.readWrites.length = 0 ∧ ns.blindWrites.length = 0 ∧
      ns.nsId ≠ snapshotNamespaceID ∧ ns.nsId ≠ checkpointNamespaceID then
    .malformedNoWrites
  else
    checkKeys ns

/-- The loop of `checkMetaNamespace` over the policies; `nsUpdate` holds the
namespaces seen so far. -/
def checkPolicies (platform : Platform) : List Bytes → List ReadWrite → Status
  | _, [] => statusNotYetValidated
  | nsUpdate, policy :: rest =>
    match createNamespaceVerifier platform policy.key policy.value with
    | some .invalidNamespaceID => .malformedNamespaceIdInvalid
    | some .invalidPolicy => .malformedNamespacePolicyInvalid
    | none =>
      if policy.key = metaNamespaceID then
        .malformedNamespacePolicyInvalid
      else if policy.key ∈ nsUpdate then
        .malformedNamespacePolicyInvalid
      else
        checkPolicies platform (policy.key :: nsUpdate) rest

def checkMetaNamespace (platform : Platform) (ns : TxNamespace) : Status :=
  if ns.nsId ≠ metaNamespaceID then
    statusNotYetValidated
  else if 0 < ns.blindWrites.length then
    .malformedBlindWritesNotAllowed
  else
    checkPolicies platform [] ns.readWrites

def checkCheckpointNamespace (ns : TxNamespace) : Status :=
  if 0 < ns.readsOnly.length ∨ 0 < ns.blindWrites.length then
    .malformedCheckpointInvalidKey
  else
    match ns.readWrites with
    | [entry] =>
      if entry.version ≠ none then
        .malformedCheckpointInvalidKey
      else if blockNumFromCheckpointKey entry.key = none then
        .malformedCheckpointInvalidKey
      else if !isValidCheckpointValue entry.value then
        .malformedCheckpointInvalidValue
      else
        statusNotYetValidated
    | _ => .malformedCheckpointInvalidKey

def checkSystemNamespace (platform : Platform) (ns : TxNamespace) : Status :=
  if ns.nsId = metaNamespaceID then
    checkMetaNamespace platform ns
  else if ns.nsId = snapshotNamespaceID then
    if 0 < ns.readsOnly.length ∨ 0 < ns.readWrites.length ∨ 0 < ns.blindWrites.length then
      .malformedSnapshotNotMarkerOnly
    else
      statusNotYetValidated
  else if ns.nsId = checkpointNamespaceID then
    checkCheckpointNamespace ns
  else
    statusNotYetValidated

def checkEndorsements (tx : Tx) : Status :=
  if tx.namespaces.length ≠ tx.endorsements.length then
    .malformedMissingSignature
  else if tx.endorsements.any fun endorsements =>
      match endorsements with
      | none => true
      | some entries =>
        entries.length == 0 || entries.any fun entry =>
          match entry with
          | none => true
          | some endorsement => endorsement.length == 0 then
    .malformedMissingSignature
  else
    statusNotYetValidated

def checkStandaloneSystemTx (tx : Tx) : Status :=
  if tx.namespaces.any fun ns =>
      (ns.nsId == snapshotNamespaceID || ns.nsId == checkpointNamespaceID) &&
        tx.namespaces.length != 1 then
    .malformedSystemTxNotStandalone
  else
    statusNotYetValidated

/-- The loop of `verifyTxForm` over the namespaces; `nsIDs` holds the IDs seen
so far. -/
def checkNamespaces (platform : Platform) : List Bytes → List TxNamespace → Status
  | _, [] => statusNotYetValidated
  | nsIDs, ns :: rest =>
    if ns.nsId = configNamespaceID then
      .malformedNamespaceIdInvalid
    else if !platform.isSystemNamespace ns.nsId && !validateNamespaceID ns.nsId then
      .malformedNamespaceIdInvalid
    else if ns.nsId ∈ nsIDs then
      .malformedDuplicateNamespace
    else if checkNamespaceReadsWrites ns ≠ statusNotYetValidated then
      checkNamespaceReadsWrites ns
    else if checkSystemNamespace platform ns ≠ statusNotYetValidated then
      checkSystemNamespace platform ns
    else
      checkNamespaces platform (ns.nsId :: nsIDs) rest

def verifyTxForm (platform : Platform) (tx : Tx) : Status :=
  if tx.namespaces.length = 0 then
    .malformedEmptyNamespaces
  else if checkEndorsements tx ≠ statusNotYetValidated then
    checkEndorsements tx
  else if checkStandaloneSystemTx tx ≠ statusNotYetValidated then
    checkStandaloneSystemTx tx
  else
    checkNamespaces platform [] tx.namespaces

/-- The transaction of a configuration block, which is not verified. -/
def configTx (value : Bytes) : Tx where
  namespaces :=
    [{ nsId := configNamespaceID
       nsVersion := 0
       blindWrites := [⟨configKey, value⟩] }]
  endorsements := []

/-- The transactions that the sidecar hands to the coordinator without a status:
those it accepted, and configurations. -/
def Forwarded (platform : Platform) (tx : Tx) : Prop :=
  verifyTxForm platform tx = statusNotYetValidated ∨ ∃ value, tx = configTx value

/-! ## The keys of an accepted namespace -/

def nsKeys (ns : TxNamespace) : List Bytes :=
  ns.readsOnly.map Read.key ++ (ns.readWrites.map ReadWrite.key ++ ns.blindWrites.map Write.key)

theorem nsKeys_length (ns : TxNamespace) : (nsKeys ns).length = keyCount ns := by
  simp [nsKeys, keyCount, Nat.add_assoc]

theorem nsKey_eq_getD (ns : TxNamespace) (index : Nat) :
    nsKey ns index = (nsKeys ns).getD index [] := by
  unfold nsKey nsKeys
  split
  · rename_i inReads
    rw [getD_append]
    simpa using inReads
  · rename_i afterReads
    rw [getD_append_right _ _ _ _ (by simpa using afterReads)]
    simp only [length_map]
    split
    · rename_i inReadWrites
      rw [getD_append]
      simpa using inReadWrites
    · rename_i afterReadWrites
      rw [getD_append_right _ _ _ _ (by simpa using afterReadWrites)]
      simp only [length_map]

theorem map_nsKey_range (ns : TxNamespace) :
    (List.range (keyCount ns)).map (nsKey ns) = nsKeys ns := by
  apply ext_getElem
  · simp [nsKeys_length]
  · intro index inRange inKeys
    simp [nsKey_eq_getD, inKeys]

private theorem equal_pair_iff (ns : TxNamespace) :
    (∃ first < keyCount ns, ∃ second < keyCount ns,
        first < second ∧ nsKey ns first = nsKey ns second) ↔
      ¬ (nsKeys ns).Nodup := by
  constructor
  · rintro ⟨first, _, second, inRange, less, equal⟩ nodup
    rw [← nsKeys_length] at inRange
    rw [nsKey_eq_getD, nsKey_eq_getD,
      getD_eq_getElem _ _ (Nat.lt_trans less inRange),
      getD_eq_getElem _ _ inRange] at equal
    exact Nat.ne_of_lt less (nodup.getElem_inj_iff.mp equal)
  · intro repeated
    by_contra none
    apply repeated
    rw [List.Nodup, pairwise_iff_getElem]
    intro first second firstIn secondIn less equal
    apply none
    rw [nsKeys_length] at firstIn secondIn
    refine ⟨first, firstIn, second, secondIn, less, ?_⟩
    rw [← nsKeys_length] at firstIn secondIn
    rw [nsKey_eq_getD, nsKey_eq_getD, getD_eq_getElem _ _ firstIn,
      getD_eq_getElem _ _ secondIn, equal]

private theorem emptySearch_iff (ns : TxNamespace) :
    ((List.range (keyCount ns)).any fun index => (nsKey ns index).length == 0) = true ↔
      [] ∈ nsKeys ns := by
  rw [← map_nsKey_range]
  simp

private theorem pairSearch_iff (ns : TxNamespace) :
    ((List.range (keyCount ns)).any fun first =>
        (List.range (keyCount ns)).any fun second =>
          decide (first < second) && nsKey ns first == nsKey ns second) = true ↔
      ¬ (nsKeys ns).Nodup := by
  rw [← equal_pair_iff]
  simp

private theorem setSearch_iff (ns : TxNamespace) :
    ((List.range (keyCount ns)).map (nsKey ns)).dedup.length ≠ keyCount ns ↔
      ¬ (nsKeys ns).Nodup := by
  rw [map_nsKey_range, ← nsKeys_length]
  constructor
  · intro shorter nodup
    exact shorter (by rw [nodup.dedup])
  · intro repeated same
    apply repeated
    rw [← dedup_eq_self]
    exact (dedup_sublist _).eq_of_length same

theorem checkKeys_eq (ns : TxNamespace) :
    checkKeys ns =
      if [] ∈ nsKeys ns then .malformedEmptyKey
      else if (nsKeys ns).Nodup then statusNotYetValidated
      else .malformedDuplicateKeyInReadWriteSet := by
  unfold checkKeys
  simp only [emptySearch_iff, setSearch_iff, pairSearch_iff, ite_not, ite_self]

theorem checkKeys_accepts_iff (ns : TxNamespace) :
    checkKeys ns = statusNotYetValidated ↔ (∀ key ∈ nsKeys ns, key ≠ []) ∧ (nsKeys ns).Nodup := by
  have nonempty : (∀ key ∈ nsKeys ns, key ≠ []) ↔ [] ∉ nsKeys ns :=
    ⟨fun each mem => each [] mem rfl, fun notMem _ mem empty => notMem (empty ▸ mem)⟩
  rw [checkKeys_eq, nonempty]
  split
  · simp [*, statusNotYetValidated]
  · split <;> simp [*, statusNotYetValidated]

def EqualKeys (ns : TxNamespace) : Prop :=
  ∃ first second, first < second ∧ second < (nsKeys ns).length ∧
    (nsKeys ns)[first]? = (nsKeys ns)[second]?

/-- An empty key is reported first, then a key at two positions.  The search in a set
and the search by pairs agree for any number of keys. -/
theorem duplicate_key_searches_agree (ns : TxNamespace) :
    (checkKeys ns = .malformedEmptyKey ↔ [] ∈ nsKeys ns) ∧
    (checkKeys ns = .malformedDuplicateKeyInReadWriteSet ↔ [] ∉ nsKeys ns ∧ EqualKeys ns) ∧
    (checkKeys ns = statusNotYetValidated ↔ [] ∉ nsKeys ns ∧ ¬ EqualKeys ns) ∧
    (((List.range (keyCount ns)).map (nsKey ns)).dedup.length ≠ keyCount ns ↔
      ((List.range (keyCount ns)).any fun first =>
        (List.range (keyCount ns)).any fun second =>
          decide (first < second) && nsKey ns first == nsKey ns second) = true) := by
  have equalKeys : EqualKeys ns ↔ ¬ (nsKeys ns).Nodup := by
    simp [EqualKeys, nodup_iff_getElem?_ne_getElem?]
  rw [checkKeys_eq, equalKeys]
  refine ⟨?_, ?_, ?_, (setSearch_iff ns).trans (pairSearch_iff ns).symm⟩
  all_goals
    split
    · simp [*, statusNotYetValidated]
    · split <;> simp [*, statusNotYetValidated]

structure WellFormedNamespace (platform : Platform) (ns : TxNamespace) : Prop where
  notConfig : ns.nsId ≠ configNamespaceID
  validId : platform.isSystemNamespace ns.nsId = true ∨ validateNamespaceID ns.nsId = true
  readsWrites : checkNamespaceReadsWrites ns = statusNotYetValidated
  systemForm : checkSystemNamespace platform ns = statusNotYetValidated

/-- What an accepted transaction satisfies. -/
structure WellFormed (platform : Platform) (tx : Tx) : Prop where
  nonempty : tx.namespaces ≠ []
  endorsed : checkEndorsements tx = statusNotYetValidated
  standalone : checkStandaloneSystemTx tx = statusNotYetValidated
  each : ∀ ns ∈ tx.namespaces, WellFormedNamespace platform ns
  distinct : (tx.namespaces.map TxNamespace.nsId).Nodup

private theorem checkNamespaces_accepts (platform : Platform) (namespaces : List TxNamespace) :
    ∀ nsIDs : List Bytes,
      checkNamespaces platform nsIDs namespaces = statusNotYetValidated →
        (∀ ns ∈ namespaces,
          WellFormedNamespace platform ns ∧ ns.nsId ∉ nsIDs) ∧
          (namespaces.map TxNamespace.nsId).Nodup := by
  induction namespaces with
  | nil =>
    intro nsIDs _
    simp
  | cons ns rest ih =>
    intro nsIDs accepted
    rw [checkNamespaces] at accepted
    split at accepted
    · simp [statusNotYetValidated] at accepted
    rename_i notConfig
    split at accepted
    · simp [statusNotYetValidated] at accepted
    rename_i validId
    split at accepted
    · simp [statusNotYetValidated] at accepted
    rename_i fresh
    split at accepted
    · exact absurd accepted ‹_›
    rename_i readsWrites
    split at accepted
    · exact absurd accepted ‹_›
    rename_i systemForm
    obtain ⟨restFormed, restDistinct⟩ := ih (ns.nsId :: nsIDs) accepted
    have headFormed : WellFormedNamespace platform ns :=
      { notConfig := notConfig
        validId := by
          by_cases system : platform.isSystemNamespace ns.nsId = true
          · exact Or.inl system
          · right
            simpa [system] using validId
        readsWrites := not_not.mp readsWrites
        systemForm := not_not.mp systemForm }
    refine ⟨?_, ?_⟩
    · intro candidate mem
      rcases mem_cons.mp mem with rfl | later
      · exact ⟨headFormed, fresh⟩
      · obtain ⟨formed, unseen⟩ := restFormed candidate later
        exact ⟨formed, fun seen => unseen (mem_cons_of_mem _ seen)⟩
    · rw [map_cons, nodup_cons]
      refine ⟨?_, restDistinct⟩
      intro repeated
      obtain ⟨other, mem, same⟩ := mem_map.mp repeated
      exact (restFormed other mem).2 (same ▸ mem_cons_self)

variable {platform : Platform}

theorem wellFormed_of_verifyTxForm
    {tx : Tx} (accepted : verifyTxForm platform tx = statusNotYetValidated) :
    WellFormed platform tx := by
  unfold verifyTxForm at accepted
  split at accepted
  · simp [statusNotYetValidated] at accepted
  rename_i nonempty
  split at accepted
  · exact absurd accepted ‹_›
  rename_i endorsed
  split at accepted
  · exact absurd accepted ‹_›
  rename_i standalone
  obtain ⟨formed, distinct⟩ := checkNamespaces_accepts platform tx.namespaces [] accepted
  exact
    { nonempty := by simpa using nonempty
      endorsed := not_not.mp endorsed
      standalone := not_not.mp standalone
      each := fun ns mem => (formed ns mem).1
      distinct := distinct }

variable {ns : TxNamespace}

theorem WellFormedNamespace.keysForm (formed : WellFormedNamespace platform ns) :
    (∀ key ∈ nsKeys ns, key ≠ []) ∧ (nsKeys ns).Nodup := by
  have accepted := formed.readsWrites
  unfold checkNamespaceReadsWrites at accepted
  split at accepted
  · simp [statusNotYetValidated] at accepted
  · exact (checkKeys_accepts_iff ns).mp accepted

theorem WellFormedNamespace.keysNodup (formed : WellFormedNamespace platform ns) :
    (nsKeys ns).Nodup :=
  formed.keysForm.2

theorem WellFormedNamespace.nsId_length (formed : WellFormedNamespace platform ns) :
    ns.nsId.length < 256 := by
  rcases formed.validId with system | valid
  · rcases (platform.isSystemNamespace_iff ns.nsId).mp system with
      same | same | same | same <;> rw [same] <;> decide
  · have bounded : ns.nsId.length ≤ maxNamespaceIDLength := by
      simp only [validateNamespaceID, Bool.and_eq_true, Bool.not_eq_true',
        Bool.or_eq_false_iff, decide_eq_false_iff_not] at valid
      exact Nat.le_of_not_lt valid.1.2
    unfold maxNamespaceIDLength at bounded
    omega

theorem WellFormed.alone {tx : Tx} (formed : WellFormed platform tx) (mem : ns ∈ tx.namespaces)
    (system : ns.nsId = snapshotNamespaceID ∨ ns.nsId = checkpointNamespaceID) :
    tx.namespaces = [ns] := by
  have accepted := formed.standalone
  rw [checkStandaloneSystemTx] at accepted
  split at accepted
  · simp [statusNotYetValidated] at accepted
  rename_i standalone
  have single : tx.namespaces.length = 1 := by
    by_contra several
    apply standalone
    rw [any_eq_true]
    exact ⟨ns, mem, by rcases system with same | same <;> simp [same, several]⟩
  obtain ⟨only, shape⟩ := length_eq_one_iff.mp single
  rw [shape, mem_singleton] at mem
  rw [shape, mem]

theorem WellFormedNamespace.checkpointForm
    (formed : WellFormedNamespace platform ns) (checkpoint : ns.nsId = checkpointNamespaceID) :
    ns.readsOnly = [] ∧ ns.blindWrites = [] ∧
      ∃ key value blockNum,
        ns.readWrites = [⟨key, none, value⟩] ∧
          blockNumFromCheckpointKey key = some blockNum ∧ isValidCheckpointValue value = true := by
  have accepted := formed.systemForm
  have notMeta : ns.nsId ≠ metaNamespaceID := by
    rw [checkpoint]
    decide
  have notSnapshot : ns.nsId ≠ snapshotNamespaceID := by
    rw [checkpoint]
    decide
  rw [checkSystemNamespace, if_neg notMeta, if_neg notSnapshot,
    if_pos checkpoint, checkCheckpointNamespace] at accepted
  split at accepted
  · simp [statusNotYetValidated] at accepted
  rename_i noOther
  rw [not_or, Nat.not_lt, Nat.not_lt, Nat.le_zero, Nat.le_zero,
    length_eq_zero_iff, length_eq_zero_iff] at noOther
  refine ⟨noOther.1, noOther.2, ?_⟩
  split at accepted
  · rename_i entry shape
    obtain ⟨key, version, value⟩ := entry
    split at accepted
    · simp [statusNotYetValidated] at accepted
    rename_i noVersion
    split at accepted
    · simp [statusNotYetValidated] at accepted
    rename_i decodable
    split at accepted
    · simp [statusNotYetValidated] at accepted
    rename_i validValue
    obtain ⟨blockNum, decoded⟩ := Option.ne_none_iff_exists'.mp decodable
    obtain rfl : version = none := not_not.mp noVersion
    exact ⟨key, value, blockNum, shape, decoded, by simpa using validValue⟩
  · simp [statusNotYetValidated] at accepted

private theorem checkPolicies_accepts {policies : List ReadWrite} :
    ∀ {nsUpdate : List Bytes},
      checkPolicies platform nsUpdate policies = statusNotYetValidated →
        ∀ policy ∈ policies, createNamespaceVerifier platform policy.key policy.value = none := by
  induction policies with
  | nil =>
    intro nsUpdate _ policy mem
    cases mem
  | cons first rest ih =>
    intro nsUpdate accepted policy mem
    rw [checkPolicies] at accepted
    split at accepted
    · cases accepted
    · cases accepted
    · next created =>
      split at accepted
      · cases accepted
      split at accepted
      · cases accepted
      rcases mem_cons.mp mem with rfl | later
      · exact created
      · exact ih accepted policy later

theorem createNamespaceVerifier_eq_none
    {nsId policy : Bytes} (created : createNamespaceVerifier platform nsId policy = none) :
    platform.isSystemNamespace nsId = false ∧ validateNamespaceID nsId = true ∧
      platform.policyAccepted policy = true := by
  unfold createNamespaceVerifier at created
  split_ifs at created with system invalid rejected
  simp only [Bool.not_eq_true', Bool.not_eq_false, Bool.not_eq_true] at system invalid rejected
  exact ⟨system, invalid, rejected⟩

/-- A lifecycle transaction writes accepted policies of ordinary namespaces, and
writes none of them blindly. -/
theorem WellFormedNamespace.lifecycleForm
    (formed : WellFormedNamespace platform ns) (lifecycle : ns.nsId = metaNamespaceID) :
    ns.blindWrites = [] ∧
      ∀ policy ∈ ns.readWrites,
        platform.isSystemNamespace policy.key = false ∧ validateNamespaceID policy.key = true ∧
          platform.policyAccepted policy.value = true := by
  have accepted := formed.systemForm
  rw [checkSystemNamespace, if_pos lifecycle, checkMetaNamespace] at accepted
  simp only [lifecycle, ne_eq, not_true_eq_false, if_false] at accepted
  split at accepted
  · cases accepted
  · next noBlindWrites =>
    exact
      ⟨length_eq_zero_iff.mp (Nat.eq_zero_of_not_pos noBlindWrites),
        fun policy mem =>
          createNamespaceVerifier_eq_none (checkPolicies_accepts accepted policy mem)⟩

theorem WellFormedNamespace.writesSome
    (formed : WellFormedNamespace platform ns) (notSnapshot : ns.nsId ≠ snapshotNamespaceID) :
    ns.readWrites ≠ [] ∨ ns.blindWrites ≠ [] := by
  by_cases checkpoint : ns.nsId = checkpointNamespaceID
  · obtain ⟨_, _, key, value, _, shape, _⟩ := formed.checkpointForm checkpoint
    left
    rw [shape]
    exact cons_ne_nil _ _
  · have accepted := formed.readsWrites
    by_contra nothing
    rw [not_or, not_not, not_not] at nothing
    rw [checkNamespaceReadsWrites, nothing.1, nothing.2] at accepted
    simp [notSnapshot, checkpoint, statusNotYetValidated] at accepted

end FabricXCommitter.Sidecar
