import FabricXCommitter.Library.VersionedItems
import FabricXCommitter.Verifier.Policies

/-!
# Sequences of policy updates

An update faults if it brings a configuration and carries over a namespace without
signatures.
-/

namespace FabricXCommitter.Verifier

open List Function

variable {Policy Msp DigestVerifier : Type}
variable {parsers : Parsers Policy Msp DigestVerifier} {platform : Platform}
  {bundle : Bundle Policy Msp} {idDeserializer : Msp} {item : PolicyItem}
  {nsVerifier updated : NsVerifier Policy Msp DigestVerifier} {nsId : Bytes}
  {order : List Bytes} {v : VerifierState Policy Msp DigestVerifier} {u : VerifierUpdates}
  {added : VerifierMap Policy Msp DigestVerifier} {history : List VerifierUpdates}

def lastItem (nsId : Bytes) : List PolicyItem → Option PolicyItem
  | [] => none
  | pd :: rest => (lastItem nsId rest).or (if pd.nsId = nsId then some pd else none)

def itemsOf (history : List VerifierUpdates) : List PolicyItem :=
  history.flatMap VerifierUpdates.items

def lastConfig (history : List VerifierUpdates) : Option Bytes :=
  (history.filterMap VerifierUpdates.config).getLast?

theorem lastItem_eq_lastOf (nsId : Bytes) (items : List PolicyItem) :
    lastItem nsId items = Library.Versioned.lastOf PolicyItem.nsId nsId items := by
  induction items with
  | nil => rfl
  | cons pd rest ih =>
    rw [lastItem, ih, Library.Versioned.lastOf]

theorem lastItem_append (nsId : Bytes) (first second : List PolicyItem) :
    lastItem nsId (first ++ second) = (lastItem nsId second).or (lastItem nsId first) := by
  simp only [lastItem_eq_lastOf, Library.Versioned.lastOf_append]

theorem lastItem_eq_none_iff (nsId : Bytes) (items : List PolicyItem) :
    lastItem nsId items = none ↔ ∀ pd ∈ items, pd.nsId ≠ nsId := by
  rw [lastItem_eq_lastOf, Library.Versioned.lastOf_eq_none_iff]

theorem itemsOf_snoc (history : List VerifierUpdates) (u : VerifierUpdates) :
    itemsOf (history ++ [u]) = itemsOf history ++ u.items := by
  simp [itemsOf]

theorem lastConfig_snoc (history : List VerifierUpdates) (u : VerifierUpdates) :
    lastConfig (history ++ [u]) = u.config.or (lastConfig history) := by
  cases config_eq : u.config with
  | none => simp [lastConfig, config_eq]
  | some envelope => simp [lastConfig, config_eq]

/-! ## The verifiers of one update -/

variable {present : VerifierMap Policy Msp DigestVerifier}

theorem addSystemVerifiers_spec
    {entries : List (Bytes × String)} {result : VerifierMap Policy Msp DigestVerifier}
    (nodup : (entries.map Prod.fst).Nodup)
    (added : addSystemVerifiers bundle entries present = .ok result) :
    (∀ nsId path, (nsId, path) ∈ entries →
      ∃ policy, bundle.getPolicy path = some policy ∧
        result nsId = some (newNsVerifierFromChannelPolicy policy)) ∧
    (∀ nsId, nsId ∉ entries.map Prod.fst → result nsId = present nsId) := by
  fun_induction addSystemVerifiers bundle entries present with
  | case1 =>
    cases added
    simp
  | case2 => cases added
  | case3 entryId entryPath rest present nsVerifier parsed ih =>
    rw [map_cons, nodup_cons] at nodup
    obtain ⟨known, others⟩ := ih nodup.2 added
    constructor
    · intro nsId path mem
      rcases mem_cons.mp mem with same | mem
      · cases same
        revert parsed
        fun_cases parseChannelPolicy bundle entryPath with
        | case1 =>
          intro parsed
          cases parsed
        | case2 policy found =>
          intro parsed
          cases parsed
          refine ⟨policy, found, ?_⟩
          rw [others entryId nodup.1, update_self]
      · exact known nsId path mem
    · intro nsId absent
      rw [map_cons, mem_cons, not_or] at absent
      rw [others nsId absent.2, update_of_ne absent.1]

variable {items : List PolicyItem}

theorem addNamespaceVerifiers_spec {result : VerifierMap Policy Msp DigestVerifier}
    (added : addNamespaceVerifiers parsers platform idDeserializer items present = .ok result)
    (nsId : Bytes) :
    (lastItem nsId items = none → result nsId = present nsId) ∧
    (∀ item, lastItem nsId items = some item →
      ∃ nsVerifier,
        createNamespaceVerifier parsers platform item idDeserializer = .ok nsVerifier ∧
        result nsId = some nsVerifier) := by
  fun_induction addNamespaceVerifiers parsers platform idDeserializer items present with
  | case1 =>
    cases added
    simp [lastItem]
  | case2 => cases added
  | case3 pd rest present nsVerifier created ih =>
    obtain ⟨unnamed, named⟩ := ih added
    cases later : lastItem nsId rest with
    | some item => simpa [lastItem, later] using named item later
    | none =>
      have result_eq := unnamed later
      by_cases same : pd.nsId = nsId
      · subst same
        rw [update_self] at result_eq
        simpa [lastItem, later] using ⟨nsVerifier, created, result_eq⟩
      · rw [update_of_ne (Ne.symm same)] at result_eq
        simp [lastItem, later, same, result_eq]

theorem createNamespaceVerifier_ordinary
    (created : createNamespaceVerifier parsers platform item idDeserializer = .ok nsVerifier) :
    item.nsId ∉ systemNamespacePolicies.map Prod.fst := by
  intro mem
  have isSystem : platform.isSystemNamespace item.nsId = true := by
    rw [platform.isSystemNamespace_iff]
    simp only [systemNamespacePolicies, map_cons, map_nil, mem_cons, not_mem_nil, or_false] at mem
    rcases mem with same | same | same
    · exact .inl same
    · exact .inr (.inr (.inl same))
    · exact .inr (.inr (.inr same))
  have invalid : validateNamespaceIDInPolicy platform item.nsId = false := by
    simp [validateNamespaceIDInPolicy, isSystem]
  rw [createNamespaceVerifier, if_pos invalid] at created
  cases created

theorem lastItem_nsId (found : lastItem nsId items = some item) : item.nsId = nsId := by
  rw [lastItem_eq_lastOf] at found
  exact (Library.Versioned.mem_of_lastOf found).2

/-! ## Verifiers that are carried over -/

def carried (parsers : Parsers Policy Msp DigestVerifier) (identities : Option Msp)
    (nsVerifier : NsVerifier Policy Msp DigestVerifier) :
    Outcome (NsVerifier Policy Msp DigestVerifier) :=
  match identities with
  | none => .ok nsVerifier
  | some idDeserializer => nsVerifier.updateIdentities parsers idDeserializer

theorem carryOver_spec {identities : Option Msp} {result : VerifierMap Policy Msp DigestVerifier}
    (done : carryOver parsers identities order present added = .ok result) (nsId : Bytes) :
    (added nsId ≠ none ∨ present nsId = none ∨ nsId ∉ order → result nsId = added nsId) ∧
    (added nsId = none → nsId ∈ order → ∀ nsVerifier, present nsId = some nsVerifier →
      ∃ updated,
        carried parsers identities nsVerifier = .ok updated ∧ result nsId = some updated) := by
  fun_induction carryOver parsers identities order present added with
  | case1 =>
    cases done
    simp
  | case2 visited rest present added _ isAdded ih =>
    obtain ⟨kept, carries⟩ := ih done
    grind
  | case3 visited rest present added isAbsent _ ih =>
    obtain ⟨kept, carries⟩ := ih done
    grind
  | case4 visited rest present added nsVerifier found unset noIdentities ih =>
    subst noIdentities
    obtain ⟨kept, carries⟩ := ih done
    by_cases same : nsId = visited
    · subst same
      grind [carried]
    · grind
  | case5 | case6 => cases done
  | case7 visited rest present added nsVerifier found unset _ identified updated isUpdated ih =>
    subst identified
    obtain ⟨kept, carries⟩ := ih done
    by_cases same : nsId = visited
    · subst same
      grind [carried]
    · grind

theorem mapped_shape {parsed : Except String DigestVerifier}
    (created : parsed.map (fun dv => ⟨some (.keyVerifier dv)⟩) = .ok nsVerifier) :
    ∃ dv, nsVerifier.verifier = some (.keyVerifier dv) := by
  cases parsed with
  | error err => cases created
  | ok dv =>
    cases created
    exact ⟨dv, rfl⟩

theorem newNsVerifierFromKey_shape {scheme : String} {key : Bytes}
    (created : newNsVerifierFromKey parsers scheme key = .ok nsVerifier) :
    nsVerifier.verifier = none ∨ ∃ dv, nsVerifier.verifier = some (.keyVerifier dv) := by
  revert created
  fun_cases newNsVerifierFromKey parsers scheme key with
  | case1 | case4 =>
    intro created
    cases created
    simp
  | case2 | case3 =>
    intro created
    exact .inr (mapped_shape created)
  | case5 =>
    intro created
    cases created

theorem updateIdentities_fromMsp {rule : Bytes} {former : Msp}
    (created : newNsVerifierFromMsp parsers rule former = .ok nsVerifier)
    (identified : nsVerifier.updateIdentities parsers idDeserializer = .ok updated) :
    newNsVerifierFromMsp parsers rule idDeserializer = .ok updated := by
  revert created
  fun_cases newNsVerifierFromMsp parsers rule former with
  | case1 =>
    intro created
    cases created
  | case2 policy built =>
    intro created
    cases created
    simp only [NsVerifier.updateIdentities] at identified
    split at identified
    · cases identified
    · cases identified
      assumption

theorem updateIdentities_fromKey {scheme : String} {key : Bytes}
    (created : newNsVerifierFromKey parsers scheme key = .ok nsVerifier)
    (identified : nsVerifier.updateIdentities parsers idDeserializer = .ok updated) :
    updated = nsVerifier := by
  have shape : nsVerifier.verifier = none ∨ ∃ dv, nsVerifier.verifier = some (.keyVerifier dv) :=
    newNsVerifierFromKey_shape created
  rcases shape with unsigned | ⟨dv, signed⟩
  · simp only [NsVerifier.updateIdentities, unsigned] at identified
    cases identified
  · simp only [NsVerifier.updateIdentities, signed] at identified
    cases identified
    rfl

/-- Giving a verifier a new MSP manager yields what building it with that manager
yields. -/
theorem updateIdentities_created {former : Msp}
    (created : createNamespaceVerifier parsers platform item former = .ok nsVerifier)
    (identified : nsVerifier.updateIdentities parsers idDeserializer = .ok updated) :
    createNamespaceVerifier parsers platform item idDeserializer = .ok updated := by
  revert created
  fun_cases createNamespaceVerifier parsers platform item former with
  | case1 | case2 =>
    intro created
    cases created
  | case3 valid rule unmarshalled =>
    intro created
    rw [createNamespaceVerifier, if_neg valid, unmarshalled]
    cases rule with
    | thresholdRule scheme publicKey =>
      -- The rule does not read the MSP manager.
      have kept : updated = nsVerifier := updateIdentities_fromKey created identified
      rw [kept]
      exact created
    | mspRule rule => exact updateIdentities_fromMsp created identified
    | unsupported text => cases created

/-- The verifiers after a history of updates, given the bundle of its last
configuration. -/
structure Conforms (parsers : Parsers Policy Msp DigestVerifier) (platform : Platform)
    (history : List VerifierUpdates) (bundle : Bundle Policy Msp)
    (v : VerifierState Policy Msp DigestVerifier) : Prop where
  bundle_eq : v.bundle = some bundle
  config :
    ∃ envelope, lastConfig history = some envelope ∧ parseConfig parsers envelope = .ok bundle
  system :
    ∀ nsId path, (nsId, path) ∈ systemNamespacePolicies →
      ∃ policy, bundle.getPolicy path = some policy ∧
        v.verifiers nsId = some (newNsVerifierFromChannelPolicy policy)
  named :
    ∀ nsId item, lastItem nsId (itemsOf history) = some item →
      ∃ nsVerifier,
        createNamespaceVerifier parsers platform item bundle.mspManager = .ok nsVerifier ∧
        v.verifiers nsId = some nsVerifier
  others :
    ∀ nsId, nsId ∉ systemNamespacePolicies.map Prod.fst →
      lastItem nsId (itemsOf history) = none → v.verifiers nsId = none

/-- Before the first configuration there are no verifiers. -/
def Unconfigured
    (history : List VerifierUpdates) (v : VerifierState Policy Msp DigestVerifier) : Prop :=
  v = newVerifier ∧ lastConfig history = none ∧ itemsOf history = []

def Visits (order : List Bytes) (verifiers : VerifierMap Policy Msp DigestVerifier) : Prop :=
  order.Nodup ∧ ∀ nsId, nsId ∈ order ↔ (verifiers nsId).isSome

theorem updatePolicies_ok {next : VerifierState Policy Msp DigestVerifier}
    (updated : updatePolicies parsers platform v u order = .ok next) :
    (u.config = none ∧ u.namespacePolicies = none ∧ next = v) ∨
    (∃ bundle added result,
      updateBundle parsers v u = .ok (some bundle) ∧
      createVerifiers parsers platform u bundle = .ok added ∧
      carryOver parsers
        (if u.config.isSome then some bundle.mspManager else none) order
        v.verifiers added = .ok result ∧
      next = { verifiers := result, bundle := some bundle }) := by
  revert updated
  fun_cases updatePolicies parsers platform v u order with
  | case1 empty =>
    intro updated
    cases updated
    exact .inl ⟨empty.1, empty.2, rfl⟩
  | case7 _ bundle loaded _ added created _ result carries =>
    intro updated
    cases updated
    exact .inr ⟨bundle, added, result, loaded, created, carries, rfl⟩
  | _ =>
    intro updated
    cases updated

theorem unnamed_of_created
    {idDeserializer : Msp} {verifiers : VerifierMap Policy Msp DigestVerifier}
    (named :
      ∀ nsId item, lastItem nsId items = some item →
        ∃ nsVerifier,
          createNamespaceVerifier parsers platform item idDeserializer = .ok nsVerifier ∧
            verifiers nsId = some nsVerifier)
    {nsId : Bytes} (isSystem : nsId ∈ systemNamespacePolicies.map Prod.fst) :
    lastItem nsId items = none := by
  cases found : lastItem nsId items with
  | none => rfl
  | some item =>
    obtain ⟨_, created, _⟩ := named nsId item found
    have ordinary := createNamespaceVerifier_ordinary created
    rw [lastItem_nsId found] at ordinary
    exact absurd isSystem ordinary

/-- The new verifiers: the policies of the update, and with a configuration the
system namespaces. -/
theorem createVerifiers_spec (created : createVerifiers parsers platform u bundle = .ok added) :
    (u.config.isSome →
      ∀ nsId path, (nsId, path) ∈ systemNamespacePolicies →
        ∃ policy, bundle.getPolicy path = some policy ∧
          added nsId = some (newNsVerifierFromChannelPolicy policy)) ∧
    (∀ nsId item, lastItem nsId u.items = some item →
      ∃ nsVerifier,
        createNamespaceVerifier parsers platform item bundle.mspManager = .ok nsVerifier ∧
        added nsId = some nsVerifier) ∧
    (∀ nsId, lastItem nsId u.items = none →
      (u.config = none ∨ nsId ∉ systemNamespacePolicies.map Prod.fst) → added nsId = none) := by
  unfold createVerifiers at created
  split at created
  · cases created
  · next base systemAdded =>
    have named := addNamespaceVerifiers_spec created
    refine ⟨?_, fun nsId => (named nsId).2, ?_⟩
    · intro configured nsId path mem
      rw [if_pos configured] at systemAdded
      obtain ⟨known, _⟩ := addSystemVerifiers_spec (by decide) systemAdded
      obtain ⟨policy, found, base_eq⟩ := known nsId path mem
      have unnamed : lastItem nsId u.items = none :=
        unnamed_of_created (fun nsId => (named nsId).2) (mem_map_of_mem mem)
      exact ⟨policy, found, ((named nsId).1 unnamed).trans base_eq⟩
    · intro nsId unnamed outside
      rw [(named nsId).1 unnamed]
      rcases outside with unconfigured | ordinary
      · rw [unconfigured] at systemAdded
        cases systemAdded
        rfl
      · by_cases configured : u.config.isSome = true
        · rw [if_pos configured] at systemAdded
          exact (addSystemVerifiers_spec (by decide) systemAdded).2 nsId ordinary
        · rw [if_neg configured] at systemAdded
          cases systemAdded
          rfl

theorem system_unnamed (created : createVerifiers parsers platform u bundle = .ok added)
    {nsId : Bytes} (isSystem : nsId ∈ systemNamespacePolicies.map Prod.fst) :
    lastItem nsId u.items = none :=
  unnamed_of_created (createVerifiers_spec created).2.1 isSystem

/-- What is known of the present verifiers when an update is applied with the
given bundle. -/
structure Carriable (parsers : Parsers Policy Msp DigestVerifier) (platform : Platform)
    (history : List VerifierUpdates) (u : VerifierUpdates) (bundle : Bundle Policy Msp)
    (verifiers : VerifierMap Policy Msp DigestVerifier) : Prop where
  system :
    u.config = none →
      ∀ nsId path, (nsId, path) ∈ systemNamespacePolicies →
        ∃ policy, bundle.getPolicy path = some policy ∧
          verifiers nsId = some (newNsVerifierFromChannelPolicy policy)
  named :
    ∀ nsId item, lastItem nsId (itemsOf history) = some item →
      ∃ former nsVerifier,
        createNamespaceVerifier parsers platform item former = .ok nsVerifier ∧
        verifiers nsId = some nsVerifier ∧
        (u.config = none → former = bundle.mspManager)
  others :
    ∀ nsId, nsId ∉ systemNamespacePolicies.map Prod.fst →
      lastItem nsId (itemsOf history) = none → verifiers nsId = none

def Tracked (parsers : Parsers Policy Msp DigestVerifier) (platform : Platform)
    (history : List VerifierUpdates) (v : VerifierState Policy Msp DigestVerifier) : Prop :=
  Unconfigured history v ∨ ∃ bundle, Conforms parsers platform history bundle v

theorem updateBundle_config (tracked : Tracked parsers platform history v)
    (loaded : updateBundle parsers v u = .ok (some bundle)) :
    ∃ envelope, lastConfig (history ++ [u]) = some envelope ∧
      parseConfig parsers envelope = .ok bundle := by
  unfold updateBundle at loaded
  rw [lastConfig_snoc]
  cases config_eq : u.config with
  | some envelope =>
    simp only [config_eq] at loaded
    split at loaded
    · cases loaded
    · next parsed =>
      cases loaded
      exact ⟨envelope, rfl, parsed⟩
  | none =>
    simp only [config_eq] at loaded
    injection loaded with bundle_eq
    rcases tracked with ⟨rfl, _⟩ | ⟨former, conforms⟩
    · cases bundle_eq
    · rw [conforms.bundle_eq] at bundle_eq
      cases bundle_eq
      simpa using conforms.config

theorem tracked_carriable (tracked : Tracked parsers platform history v)
    (loaded : updateBundle parsers v u = .ok (some bundle)) :
    Carriable parsers platform history u bundle v.verifiers := by
  have kept : u.config = none → v.bundle = some bundle := by
    intro unconfigured
    simp only [updateBundle, unconfigured] at loaded
    injection loaded
  rcases tracked with ⟨rfl, _, noItems⟩ | ⟨former, conforms⟩
  · refine ⟨?_, ?_, fun _ _ _ => rfl⟩
    · intro unconfigured
      cases kept unconfigured
    · intro nsId item found
      rw [noItems] at found
      cases found
  · have same : u.config = none → former = bundle := by
      intro unconfigured
      exact Option.some.inj (conforms.bundle_eq.symm.trans (kept unconfigured))
    refine ⟨?_, ?_, conforms.others⟩
    · intro unconfigured
      rw [← same unconfigured]
      exact conforms.system
    · intro nsId item found
      obtain ⟨nsVerifier, created, verifier_eq⟩ := conforms.named nsId item found
      refine ⟨former.mspManager, nsVerifier, created, verifier_eq, ?_⟩
      intro unconfigured
      rw [same unconfigured]

def identitiesOf (u : VerifierUpdates) (bundle : Bundle Policy Msp) : Option Msp :=
  if u.config.isSome then some bundle.mspManager else none

theorem carried_created {former : Msp}
    (created : createNamespaceVerifier parsers platform item former = .ok nsVerifier)
    (same : u.config = none → former = bundle.mspManager)
    (carries : carried parsers (identitiesOf u bundle) nsVerifier = .ok updated) :
    createNamespaceVerifier parsers platform item bundle.mspManager = .ok updated := by
  cases config_eq : u.config with
  | none =>
    simp only [identitiesOf, config_eq, carried] at carries
    cases carries
    rw [← same config_eq]
    exact created
  | some envelope =>
    simp only [identitiesOf, config_eq, carried] at carries
    exact updateIdentities_created created carries

theorem conforms_after {result : VerifierMap Policy Msp DigestVerifier}
    (tracked : Tracked parsers platform history v) (visits : Visits order v.verifiers)
    (loaded : updateBundle parsers v u = .ok (some bundle))
    (created : createVerifiers parsers platform u bundle = .ok added)
    (carries : carryOver parsers (identitiesOf u bundle) order v.verifiers added = .ok result) :
    Conforms parsers platform (history ++ [u]) bundle
      { verifiers := result, bundle := some bundle } := by
  have carriable := tracked_carriable tracked loaded
  obtain ⟨addedSystem, addedNamed, notAdded⟩ := createVerifiers_spec created
  have carryOver := carryOver_spec carries
  have kept : ∀ {nsId nsVerifier}, added nsId = some nsVerifier → result nsId = added nsId := by
    intro nsId nsVerifier added_eq
    exact (carryOver nsId).1 (.inl (by simp [added_eq]))
  have visited : ∀ nsId nsVerifier, v.verifiers nsId = some nsVerifier → nsId ∈ order := by
    intro nsId nsVerifier found
    rw [visits.2, found]
    rfl
  refine
    { bundle_eq := rfl
      config := updateBundle_config tracked loaded
      system := ?_
      named := ?_
      others := ?_ }
  · intro nsId path mem
    by_cases configured : u.config.isSome = true
    · obtain ⟨policy, found, added_eq⟩ := addedSystem configured nsId path mem
      exact ⟨policy, found, (kept added_eq).trans added_eq⟩
    · have unconfigured : u.config = none := by simpa using configured
      obtain ⟨policy, found, present_eq⟩ := carriable.system unconfigured nsId path mem
      have absent :=
        notAdded nsId
          (system_unnamed created (mem_map_of_mem mem))
          (.inl unconfigured)
      obtain ⟨updated, carried_eq, result_eq⟩ :=
        (carryOver nsId).2 absent (visited nsId _ present_eq) _ present_eq
      simp only [identitiesOf, unconfigured, carried] at carried_eq
      cases carried_eq
      exact ⟨policy, found, result_eq⟩
  · intro nsId item found
    rw [itemsOf_snoc, lastItem_append] at found
    cases named : lastItem nsId u.items with
    | some last =>
      rw [named] at found
      cases found
      obtain ⟨nsVerifier, created, added_eq⟩ := addedNamed nsId item named
      exact ⟨nsVerifier, created, (kept added_eq).trans added_eq⟩
    | none =>
      rw [named, Option.none_or] at found
      obtain ⟨former, nsVerifier, built, present_eq, same⟩ := carriable.named nsId item found
      have ordinary := createNamespaceVerifier_ordinary built
      rw [lastItem_nsId found] at ordinary
      have absent := notAdded nsId named (.inr ordinary)
      obtain ⟨updated, carried_eq, result_eq⟩ :=
        (carryOver nsId).2 absent (visited nsId _ present_eq) _ present_eq
      exact ⟨updated, carried_created built same carried_eq, result_eq⟩
  · intro nsId ordinary unnamed
    rw [itemsOf_snoc, lastItem_append, Option.or_eq_none_iff] at unnamed
    have absent := notAdded nsId unnamed.1 (.inr ordinary)
    have missing := carriable.others nsId ordinary unnamed.2
    exact ((carryOver nsId).1 (.inr (.inl missing))).trans absent

theorem tracked_step {next : VerifierState Policy Msp DigestVerifier}
    (tracked : Tracked parsers platform history v) (visits : Visits order v.verifiers)
    (updated : updatePolicies parsers platform v u order = .ok next) :
    Tracked parsers platform (history ++ [u]) next := by
  rcases updatePolicies_ok updated with
    ⟨noConfig, noPolicies, rfl⟩ | ⟨bundle, added, result, loaded, created, carries, rfl⟩
  · have items_eq : itemsOf (history ++ [u]) = itemsOf history := by
      simp [itemsOf_snoc, VerifierUpdates.items, noPolicies]
    have config_eq : lastConfig (history ++ [u]) = lastConfig history := by
      simp [lastConfig_snoc, noConfig]
    rcases tracked with ⟨isNew, noneYet, noItems⟩ | ⟨bundle, conforms⟩
    · exact .inl ⟨isNew, config_eq.trans noneYet, items_eq.trans noItems⟩
    · refine .inr ⟨bundle, ?_⟩
      exact
        { conforms with
          config := config_eq ▸ conforms.config
          named := items_eq ▸ conforms.named
          others := items_eq ▸ conforms.others }
  · exact .inr ⟨bundle, conforms_after tracked visits loaded created carries⟩

def Creates (parsers : Parsers Policy Msp DigestVerifier) (platform : Platform)
    (v : VerifierState Policy Msp DigestVerifier) (u : VerifierUpdates) :
    Prop :=
  ∃ bundle added,
    updateBundle parsers v u = .ok (some bundle) ∧
      createVerifiers parsers platform u bundle = .ok added

def NamesUnsigned (v : VerifierState Policy Msp DigestVerifier) (u : VerifierUpdates) : Prop :=
  u.config.isSome →
    ∀ nsId nsVerifier, v.verifiers nsId = some nsVerifier →
      nsVerifier.verifier = none → ∃ pd ∈ u.items, pd.nsId = nsId

theorem updateIdentities_signed (signed : nsVerifier.verifier ≠ none) :
    nsVerifier.updateIdentities parsers idDeserializer ≠ .fault := by
  fun_cases NsVerifier.updateIdentities parsers nsVerifier idDeserializer with
  | case1 unsigned => exact absurd unsigned signed
  | _ => simp

theorem carryOver_no_fault {identities : Option Msp}
    (named :
      identities ≠ none → ∀ nsId nsVerifier, present nsId = some nsVerifier →
        nsVerifier.verifier = none → added nsId ≠ none) :
    carryOver parsers identities order present added ≠ .fault := by
  fun_induction carryOver parsers identities order present added with
  | case1 | case6 => simp
  | case2 _ _ _ _ _ _ ih | case3 _ _ _ _ _ _ ih => exact ih named
  | case4 _ _ _ _ _ _ _ noIdentities ih =>
    subst noIdentities
    exact ih fun identified => absurd rfl identified
  | case5 visited rest present added nsVerifier found unset _ identified faults =>
    refine absurd faults (updateIdentities_signed ?_)
    intro unsigned
    exact named (by simp [identified]) visited nsVerifier found unsigned unset
  | case7 visited rest present added nsVerifier _ _ _ isIdentities _ _ ih =>
    subst isIdentities
    apply ih
    intro identified nsId other other_eq unsigned
    by_cases same : nsId = visited
    · subst same
      simp
    · rw [update_of_ne same] at other_eq ⊢
      exact named identified nsId other other_eq unsigned

theorem carryOver_faults
    {rest : List Bytes} (unset : added nsId = none) (found : present nsId = some nsVerifier)
    (unsigned : nsVerifier.verifier = none) :
    carryOver parsers (some idDeserializer) (nsId :: rest) present added = .fault := by
  simp [carryOver, unset, found, NsVerifier.updateIdentities, unsigned]

theorem exists_visits_first (conforms : Conforms parsers platform history bundle v)
    (found : v.verifiers nsId = some nsVerifier) :
    ∃ rest, Visits (nsId :: rest) v.verifiers := by
  let candidates := systemNamespacePolicies.map Prod.fst ++ (itemsOf history).map PolicyItem.nsId
  let others := candidates.dedup.filter fun other => (v.verifiers other).isSome && other ≠ nsId
  have listed : ∀ other, (v.verifiers other).isSome → other ∈ candidates := by
    intro other present
    by_contra unlisted
    rw [mem_append, not_or] at unlisted
    have unnamed : lastItem other (itemsOf history) = none := by
      rw [lastItem_eq_none_iff]
      intro pd mem same
      exact unlisted.2 (mem_map.mpr ⟨pd, mem, same⟩)
    rw [conforms.others other unlisted.1 unnamed] at present
    cases present
  refine ⟨others, ?_, ?_⟩
  · rw [nodup_cons]
    refine ⟨by simp [others], ?_⟩
    exact (nodup_dedup candidates).filter _
  · intro other
    by_cases same : other = nsId
    · subst same
      simp [found]
    · simp only [mem_cons, same, false_or, others, mem_filter, mem_dedup]
      constructor
      · intro mem
        simpa [same] using mem.2
      · intro present
        exact ⟨listed other present, by simp [same, present]⟩

theorem no_fault_iff (tracked : Tracked parsers platform history v)
    (configured : v.bundle = none → u.config.isSome = true) :
    (∀ order, Visits order v.verifiers → updatePolicies parsers platform v u order ≠ .fault) ↔
    (Creates parsers platform v u → NamesUnsigned v u) := by
  constructor
  · intro noFault creates hasConfig nsId nsVerifier found unsigned
    obtain ⟨bundle, added, loaded, created⟩ := creates
    by_contra unnamed
    rcases tracked with ⟨rfl, _⟩ | ⟨former, conforms⟩
    · cases found
    have unlisted : lastItem nsId u.items = none := by
      rw [lastItem_eq_none_iff]
      intro pd mem same
      exact unnamed ⟨pd, mem, same⟩
    -- The verifiers of system namespaces are channel policies.
    have ordinary : nsId ∉ systemNamespacePolicies.map Prod.fst := by
      intro isSystem
      obtain ⟨⟨_, path⟩, mem, rfl⟩ := mem_map.mp isSystem
      obtain ⟨policy, _, verifier_eq⟩ := conforms.system _ path mem
      rw [verifier_eq] at found
      cases found
      cases unsigned
    have unset := (createVerifiers_spec created).2.2 nsId unlisted (.inr ordinary)
    obtain ⟨rest, visits⟩ := exists_visits_first conforms found
    apply noFault (nsId :: rest) visits
    have nonempty : ¬ (u.config = none ∧ u.namespacePolicies = none) := by
      intro empty
      rw [empty.1] at hasConfig
      cases hasConfig
    have faults :
        carryOver parsers (some bundle.mspManager) (nsId :: rest) v.verifiers added = .fault :=
      carryOver_faults unset found unsigned
    simp only [updatePolicies, if_neg nonempty, loaded, created, hasConfig, if_true, faults]
  · intro named order visits
    fun_cases updatePolicies parsers platform v u order with
    | case3 _ missing =>
      -- The bundle is missing only before the first configuration.
      revert missing
      fun_cases updateBundle parsers v u with
      | case1 noConfig =>
        intro missing
        have present := configured (Except.ok.inj missing)
        rw [noConfig] at present
        cases present
      | case2 | case3 =>
        intro missing
        cases missing
    | case5 _ bundle loaded _ added created _ faults =>
      refine absurd faults (carryOver_no_fault ?_)
      intro identified nsId nsVerifier found unsigned
      have hasConfig : u.config.isSome = true := by
        by_contra absent
        exact identified (if_neg absent)
      obtain ⟨pd, mem, same⟩ :=
        named ⟨bundle, added, loaded, created⟩ hasConfig nsId nsVerifier found unsigned
      cases last : lastItem nsId u.items with
      | none =>
        rw [lastItem_eq_none_iff] at last
        exact absurd same (last pd mem)
      | some item =>
        obtain ⟨_, _, added_eq⟩ := (createVerifiers_spec created).2.1 nsId item last
        rw [added_eq]
        simp
    | _ => simp

inductive Accepted (parsers : Parsers Policy Msp DigestVerifier) (platform : Platform) :
    List VerifierUpdates → VerifierState Policy Msp DigestVerifier → Prop
  | start : Accepted parsers platform [] newVerifier
  | update
      {history : List VerifierUpdates}
      {v next : VerifierState Policy Msp DigestVerifier}
      {u : VerifierUpdates} {order : List Bytes}
      (accepted : Accepted parsers platform history v)
      (visits : Visits order v.verifiers)
      (updated : updatePolicies parsers platform v u order = .ok next) :
      Accepted parsers platform (history ++ [u]) next

theorem accepted_tracked (accepted : Accepted parsers platform history v) :
    Tracked parsers platform history v := by
  induction accepted with
  | start => exact .inl ⟨rfl, rfl, rfl⟩
  | update _ visits updated ih =>
    exact tracked_step ih visits updated

theorem lastConfig_of_first
    (nonempty : history ≠ []) (configFirst : ∀ u ∈ history.head?, u.config.isSome = true) :
    lastConfig history ≠ none := by
  cases history with
  | nil => exact absurd rfl nonempty
  | cons u rest =>
    have first := configFirst u rfl
    obtain ⟨envelope, config_eq⟩ := Option.isSome_iff_exists.mp first
    simp [lastConfig, config_eq]

/-! ## Small updates

The policy `[0]` has no signatures, and other policies are MSP rules.  The MSP
manager of a configuration is its first byte. -/

def sampleParsers : Parsers Bytes UInt8 Bytes where
  toUpper scheme := String.ofList (scheme.toList.map Char.toUpper)
  newEcdsaVerifier key := .ok key
  newBLSVerifier key := .ok key
  edDSAVerifier key := key
  newPolicy msp rule := .ok (msp :: rule)
  unmarshalNamespacePolicy policy :=
    .ok (if policy = [0] then .thresholdRule "NONE" [] else .mspRule policy)
  unmarshalEnvelope envelope := .ok envelope
  newBundleFromEnvelope envelope :=
    .ok
      { mspManager := envelope.headD 0
        getPolicy := fun _ => some envelope }

def sampleNs : Bytes := [0x61]

/-- A configuration together with a policy. -/
def firstUpdate (policy : Bytes) : VerifierUpdates where
  config := some [1]
  namespacePolicies := some [⟨sampleNs, policy⟩]

def configUpdate : VerifierUpdates where
  config := some [2]

def sampleOrder : List Bytes :=
  [sampleNs, metaNamespaceID, snapshotNamespaceID, checkpointNamespaceID]

def firstState (nsVerifier : NsVerifier Bytes UInt8 Bytes) : VerifierState Bytes UInt8 Bytes :=
  let system := some (newNsVerifierFromChannelPolicy [1])
  let verifiers := update (fun _ => none) metaNamespaceID system
  let verifiers := update verifiers snapshotNamespaceID system
  let verifiers := update verifiers checkpointNamespaceID system
  { verifiers := update verifiers sampleNs (some nsVerifier)
    bundle := some { mspManager := 1, getPolicy := fun _ => some [1] } }

theorem sampleOrder_visits (nsVerifier : NsVerifier Bytes UInt8 Bytes) :
    Visits sampleOrder (firstState nsVerifier).verifiers := by
  refine ⟨by decide, ?_⟩
  intro nsId
  simp only [sampleOrder, firstState, update_apply, mem_cons, not_mem_nil, or_false]
  split
  · next same =>
    simp [same]
  · next differs =>
    simp only [differs, false_or]
    by_cases isCheckpoint : nsId = checkpointNamespaceID
    · simp [isCheckpoint]
    · by_cases isSnapshot : nsId = snapshotNamespaceID
      · simp [isSnapshot]
      · by_cases isMeta : nsId = metaNamespaceID
        · simp [isMeta]
        · simp [isCheckpoint, isSnapshot, isMeta]

theorem empty_visits : Visits [] (newVerifier : VerifierState Bytes UInt8 Bytes).verifiers :=
  ⟨nodup_nil, fun _ => by simp [newVerifier]⟩

/-- After every sequence of accepted updates that starts with a configuration, the
verifiers are those of the last policies and the last configuration.  The next
update faults, for some order of the map, exactly if it could be created, brings a
configuration, and does not name a namespace without signatures. -/
theorem policies_conform_fault_iff
    {history : List VerifierUpdates} {v : VerifierState Policy Msp DigestVerifier}
    (accepted : Accepted parsers platform history v)
    (configFirst : ∀ u ∈ history.head?, u.config.isSome = true) :
    (history ≠ [] → ∃ bundle, Conforms parsers platform history bundle v) ∧
    (∀ u : VerifierUpdates, (history = [] → u.config.isSome = true) →
      ((∀ order, Visits order v.verifiers → updatePolicies parsers platform v u order ≠ .fault) ↔
      (Creates parsers platform v u → NamesUnsigned v u))) := by
  have tracked := accepted_tracked accepted
  have conforms : history ≠ [] → ∃ bundle, Conforms parsers platform history bundle v := by
    intro nonempty
    rcases tracked with ⟨_, noneYet, _⟩ | conforms
    · exact absurd noneYet (lastConfig_of_first nonempty configFirst)
    · exact conforms
  refine ⟨conforms, ?_⟩
  intro u first
  refine no_fault_iff tracked ?_
  intro missing
  by_cases empty : history = []
  · exact first empty
  · obtain ⟨bundle, conforming⟩ := conforms empty
    rw [conforming.bundle_eq] at missing
    cases missing

/-- A namespace without signatures and then a second configuration. -/
theorem unsigned_namespace_faults :
    ∃ v,
      Accepted sampleParsers permissivePlatform [firstUpdate [0]] v ∧
      Visits sampleOrder v.verifiers ∧
      updatePolicies sampleParsers permissivePlatform v configUpdate sampleOrder = .fault := by
  refine ⟨firstState ⟨none⟩, ?_, sampleOrder_visits _, rfl⟩
  exact .update .start empty_visits rfl

theorem msp_namespace_conforms :
    ∃ v bundle,
      Accepted sampleParsers permissivePlatform [firstUpdate [5], configUpdate] v ∧
      v.verifiers sampleNs = some ⟨some (.mspVerifier [2, 5] [5] 2)⟩ ∧
      Conforms sampleParsers permissivePlatform [firstUpdate [5], configUpdate] bundle v := by
  have first :
      Accepted sampleParsers permissivePlatform [firstUpdate [5]]
        (firstState ⟨some (.mspVerifier [1, 5] [5] 1)⟩) :=
    .update .start empty_visits rfl
  have second :
      ∃ v,
        updatePolicies sampleParsers permissivePlatform
            (firstState ⟨some (.mspVerifier [1, 5] [5] 1)⟩) configUpdate
            sampleOrder = .ok v ∧
          v.verifiers sampleNs = some ⟨some (.mspVerifier [2, 5] [5] 2)⟩ :=
    ⟨_, rfl, by decide⟩
  obtain ⟨v, updated, verifier_eq⟩ := second
  have accepted := first.update (sampleOrder_visits _) updated
  obtain ⟨bundle, conforms⟩ := (policies_conform_fault_iff accepted (by decide)).1 (by simp)
  exact ⟨v, bundle, accepted, verifier_eq, conforms⟩

end FabricXCommitter.Verifier
