import FabricXCommitter.Sidecar.Form

/-!
# The policies and the requests of a verifier

The verifier of a namespace without signatures is a nil interface.
-/

namespace FabricXCommitter.Verifier

open Function

inductive PolicyRule where
  | thresholdRule (scheme : String) (publicKey : Bytes)
  | mspRule (rule : Bytes)
  | unsupported (text : String)
  deriving DecidableEq, Repr

structure PolicyItem where
  nsId : Bytes
  policy : Bytes
  deriving DecidableEq, Repr

structure VerifierUpdates where
  config : Option Bytes := none
  namespacePolicies : Option (List PolicyItem) := none
  deriving DecidableEq, Repr

/-- What is read of a channel configuration. -/
structure Bundle (Policy Msp : Type) where
  mspManager : Msp
  getPolicy : String → Option Policy

/-- The functions of Fabric and of the Go libraries. -/
structure Parsers (Policy Msp DigestVerifier : Type) where
  toUpper : String → String
  newEcdsaVerifier : Bytes → Except String DigestVerifier
  newBLSVerifier : Bytes → Except String DigestVerifier
  edDSAVerifier : Bytes → DigestVerifier
  newPolicy : Msp → Bytes → Except String Policy
  unmarshalNamespacePolicy : Bytes → Except String PolicyRule
  unmarshalEnvelope : Bytes → Except String Bytes
  newBundleFromEnvelope : Bytes → Except String (Bundle Policy Msp)

inductive SignatureVerifier (Policy Msp DigestVerifier : Type) where
  | channelPolicyVerifier (policy : Policy)
  | mspVerifier (policy : Policy) (mspRule : Bytes) (identityDeserializer : Msp)
  | keyVerifier (digestVerifier : DigestVerifier)
  deriving DecidableEq, Repr

structure NsVerifier (Policy Msp DigestVerifier : Type) where
  verifier : Option (SignatureVerifier Policy Msp DigestVerifier)
  deriving DecidableEq, Repr

/-- The result of code that may fail or fault.  After an error the state is what
the code has made of it. -/
inductive Outcome (State : Type) where
  | ok (state : State)
  | error (message : String) (state : State)
  | fault

section

variable {Policy Msp DigestVerifier : Type}
variable (parsers : Parsers Policy Msp DigestVerifier)

def newNsVerifierFromMsp (mspRule : Bytes) (idDeserializer : Msp) :
    Except String (NsVerifier Policy Msp DigestVerifier) :=
  match parsers.newPolicy idDeserializer mspRule with
  | .error err => .error ("error updating msp verifier: " ++ err)
  | .ok policy => .ok ⟨some (.mspVerifier policy mspRule idDeserializer)⟩

def newNsVerifierFromKey (scheme : String) (key : Bytes) :
    Except String (NsVerifier Policy Msp DigestVerifier) :=
  let upper := parsers.toUpper scheme
  if upper = "NONE" ∨ upper = "" then
    .ok ⟨none⟩
  else if upper = "ECDSA" then
    (parsers.newEcdsaVerifier key).map fun dv => ⟨some (.keyVerifier dv)⟩
  else if upper = "BLS" then
    (parsers.newBLSVerifier key).map fun dv => ⟨some (.keyVerifier dv)⟩
  else if upper = "EDDSA" then
    .ok ⟨some (.keyVerifier (parsers.edDSAVerifier key))⟩
  else
    .error ("scheme '" ++ scheme ++ "' not supported")

def newNsVerifier (rule : PolicyRule) (idDeserializer : Msp) :
    Except String (NsVerifier Policy Msp DigestVerifier) :=
  match rule with
  | .thresholdRule scheme publicKey => newNsVerifierFromKey parsers scheme publicKey
  | .mspRule rule => newNsVerifierFromMsp parsers rule idDeserializer
  | .unsupported text => .error ("policy rule '" ++ text ++ "' not supported")

def newNsVerifierFromChannelPolicy (policy : Policy) : NsVerifier Policy Msp DigestVerifier :=
  ⟨some (.channelPolicyVerifier policy)⟩

/-- `UpdateIdentities`.  The call on a nil interface faults. -/
def NsVerifier.updateIdentities (v : NsVerifier Policy Msp DigestVerifier) (idDeserializer : Msp) :
    Outcome (NsVerifier Policy Msp DigestVerifier) :=
  match v.verifier with
  | none => .fault
  | some (.channelPolicyVerifier _) => .ok v
  | some (.keyVerifier _) => .ok v
  | some (.mspVerifier _ mspRule _) =>
    match newNsVerifierFromMsp parsers mspRule idDeserializer with
    | .error err => .error err v
    | .ok updated => .ok updated

def systemNamespacePolicies : List (Bytes × String) :=
  [(metaNamespaceID, "/Channel/Application/LifecycleEndorsement"),
    (snapshotNamespaceID, "/Channel/Application/SnapshotEndorsement"),
    (checkpointNamespaceID, "/Channel/Application/CheckpointEndorsement")]

def validateNamespaceIDInPolicy (platform : Platform) (nsId : Bytes) : Bool :=
  !platform.isSystemNamespace nsId && Sidecar.validateNamespaceID nsId

variable (platform : Platform)

def createNamespaceVerifier (pd : PolicyItem) (idDeserializer : Msp) :
    Except String (NsVerifier Policy Msp DigestVerifier) :=
  if validateNamespaceIDInPolicy platform pd.nsId = false then
    .error "invalid namespace ID"
  else
    match parsers.unmarshalNamespacePolicy pd.policy with
    | .error err => .error ("failed to unmarshal namespace policy bytes: " ++ err)
    | .ok rule => newNsVerifier parsers rule idDeserializer

def parseChannelPolicy (bundle : Bundle Policy Msp) (path : String) :
    Except String (NsVerifier Policy Msp DigestVerifier) :=
  match bundle.getPolicy path with
  | none => .error ("policy not found in channel config: " ++ path)
  | some policy => .ok (newNsVerifierFromChannelPolicy policy)

/-- A Go map from namespaces to verifiers. -/
abbrev VerifierMap (Policy Msp DigestVerifier : Type) :=
  Bytes → Option (NsVerifier Policy Msp DigestVerifier)

/-- The loop over the system namespaces. -/
def addSystemVerifiers (bundle : Bundle Policy Msp) :
    List (Bytes × String) → VerifierMap Policy Msp DigestVerifier →
      Except String (VerifierMap Policy Msp DigestVerifier)
  | [], newPolicies => .ok newPolicies
  | (nsId, path) :: rest, newPolicies =>
    match parseChannelPolicy bundle path with
    | .error err => .error err
    | .ok nsVerifier =>
      addSystemVerifiers bundle rest (update newPolicies nsId (some nsVerifier))

/-- The loop over the policies of namespaces. -/
def addNamespaceVerifiers (idDeserializer : Msp) :
    List PolicyItem → VerifierMap Policy Msp DigestVerifier →
      Except String (VerifierMap Policy Msp DigestVerifier)
  | [], newPolicies => .ok newPolicies
  | pd :: rest, newPolicies =>
    match createNamespaceVerifier parsers platform pd idDeserializer with
    | .error err => .error err
    | .ok nsVerifier =>
      addNamespaceVerifiers idDeserializer rest (update newPolicies pd.nsId (some nsVerifier))

def VerifierUpdates.items (update : VerifierUpdates) : List PolicyItem :=
  update.namespacePolicies.getD []

def getUpdatesFromNamespace (nsTx : TxNamespace) : Option VerifierUpdates :=
  if nsTx.nsId = metaNamespaceID then
    some { namespacePolicies := some (nsTx.readWrites.map fun rw => ⟨rw.key, rw.value⟩) }
  else if nsTx.nsId = configNamespaceID then
    (nsTx.blindWrites.find? fun rw => rw.key = configKey).map fun rw => { config := some rw.value }
  else
    none

def createVerifiers (update : VerifierUpdates) (bundle : Bundle Policy Msp) :
    Except String (VerifierMap Policy Msp DigestVerifier) :=
  match
      addSystemVerifiers bundle
        (if update.config.isSome then systemNamespacePolicies else [])
        (fun _ => none) with
  | .error err => .error err
  | .ok newPolicies =>
    addNamespaceVerifiers parsers platform bundle.mspManager update.items newPolicies

structure VerifierState (Policy Msp DigestVerifier : Type) where
  verifiers : VerifierMap Policy Msp DigestVerifier := fun _ => none
  bundle : Option (Bundle Policy Msp) := none

def newVerifier : VerifierState Policy Msp DigestVerifier := {}

def parseConfig (envelope : Bytes) : Except String (Bundle Policy Msp) :=
  match parsers.unmarshalEnvelope envelope with
  | .error err => .error ("error unmarshalling envelope: " ++ err)
  | .ok envelope =>
    match parsers.newBundleFromEnvelope envelope with
    | .error err => .error ("error parsing config: " ++ err)
    | .ok bundle => .ok bundle

def updateBundle (v : VerifierState Policy Msp DigestVerifier) (update : VerifierUpdates) :
    Except String (Option (Bundle Policy Msp)) :=
  match update.config with
  | none => .ok v.bundle
  | some envelope =>
    match parseConfig parsers envelope with
    | .error err => .error err
    | .ok bundle => .ok (some bundle)

/-- The loop over the present verifiers, in the order in which the map is
visited.  A verifier is updated in place, so that an error leaves the present
map changed up to the namespace that failed. -/
def carryOver (identities : Option Msp) :
    List Bytes → VerifierMap Policy Msp DigestVerifier →
      VerifierMap Policy Msp DigestVerifier → Outcome (VerifierMap Policy Msp DigestVerifier)
  | [], _, newVerifiers => .ok newVerifiers
  | nsId :: rest, present, newVerifiers =>
    match newVerifiers nsId, present nsId with
    | some _, _ => carryOver identities rest present newVerifiers
    | none, none => carryOver identities rest present newVerifiers
    | none, some nsVerifier =>
      match identities with
      | none =>
        carryOver identities rest present (update newVerifiers nsId (some nsVerifier))
      | some idDeserializer =>
        match nsVerifier.updateIdentities parsers idDeserializer with
        | .fault => .fault
        | .error err _ => .error err present
        | .ok updated =>
          carryOver identities rest
            (update present nsId (some updated))
            (update newVerifiers nsId (some updated))

/-- `updatePolicies`, given the order in which the loop visits the present
verifiers.  Reading the MSP manager of a missing bundle faults. -/
def updatePolicies (v : VerifierState Policy Msp DigestVerifier) (update : VerifierUpdates)
    (order : List Bytes) :
    Outcome (VerifierState Policy Msp DigestVerifier) :=
  if update.config = none ∧ update.namespacePolicies = none then
    .ok v
  else
    match updateBundle parsers v update with
    | .error err => .error err v
    | .ok none => .fault
    | .ok (some bundle) =>
      let v := { v with bundle := some bundle }
      match createVerifiers parsers platform update bundle with
      | .error err => .error err v
      | .ok newVerifiers =>
        let identities :=
          if update.config.isSome then some bundle.mspManager else none
        match carryOver parsers identities order v.verifiers newVerifiers with
        | .fault => .fault
        | .error err present => .error err { v with verifiers := present }
        | .ok newVerifiers => .ok { v with verifiers := newVerifiers }

end

/-- The identity may be a nil pointer. -/
structure EndorsementWithIdentity where
  endorsement : Bytes
  identity : Option Bytes
  deriving DecidableEq, Repr

structure SignedData where
  data : Bytes
  identity : Bytes
  signature : Bytes
  deriving DecidableEq, Repr

/-- What a verifier reads of a transaction. Decoded lists have no nil elements. -/
structure Request where
  ref : TxRef
  namespaces : List TxNamespace
  metadata : List Bytes
  endorsements : List (List EndorsementWithIdentity)
  deriving DecidableEq, Repr

/-- The functions of the libraries that check signatures. -/
structure Checks (Policy DigestVerifier : Type) where
  asn1Marshal : TxNamespace → Bytes → List Bytes → Except String Bytes
  sha256 : Bytes → Bytes
  verifyDigest : DigestVerifier → Bytes → Bytes → Except String Unit
  evaluateSignedData : Policy → List SignedData → Except String Unit

section

variable {Policy Msp DigestVerifier : Type} (checks : Checks Policy DigestVerifier)

def evaluateEndorsements (policy : Policy) (data : Bytes)
    (endorsements : List EndorsementWithIdentity) : Except String Unit :=
  if endorsements = [] then
    .error "no endorsements provided for MSP-based verification"
  else
    match endorsements.mapM fun s => s.identity.map (⟨data, ·, s.endorsement⟩) with
    | none => .error "endorsement has nil identity"
    | some signedData => checks.evaluateSignedData policy signedData

def SignatureVerifier.verify (data : Bytes) (endorsements : List EndorsementWithIdentity) :
    SignatureVerifier Policy Msp DigestVerifier → Except String Unit
  | .channelPolicyVerifier policy => evaluateEndorsements checks policy data endorsements
  | .mspVerifier policy _ _ => evaluateEndorsements checks policy data endorsements
  | .keyVerifier digestVerifier =>
    match endorsements with
    | [] => .error "no endorsements provided for key-based verification"
    | first :: _ => checks.verifyDigest digestVerifier (checks.sha256 data) first.endorsement

def NsVerifier.verifyNs (v : NsVerifier Policy Msp DigestVerifier) (tx : Request) (nsIndex : Nat) :
    Except String Unit :=
  match tx.namespaces[nsIndex]?, tx.endorsements[nsIndex]? with
  | some ns, some endorsements =>
    match v.verifier with
    | none => .ok ()
    | some verifier =>
      (checks.asn1Marshal ns tx.ref.txId tx.metadata).bind fun data =>
        verifier.verify checks data endorsements
  | _, _ => .error "namespace index out of range"

/-- The loop of `verifyRequest`. -/
def verifyNamespaces (verifiers : VerifierMap Policy Msp DigestVerifier) (tx : Request) :
    List (TxNamespace × Nat) → Status
  | [] => .committed
  | (ns, nsIndex) :: rest =>
    if ns.nsId = configNamespaceID then
      verifyNamespaces verifiers tx rest
    else
      match verifiers ns.nsId with
      | none => .abortedSignatureInvalid
      | some nsVerifier =>
        match nsVerifier.verifyNs checks tx nsIndex with
        | .error _ => .abortedSignatureInvalid
        | .ok _ => verifyNamespaces verifiers tx rest

def verifyRequest (v : VerifierState Policy Msp DigestVerifier) (tx : Request) : TxStatus :=
  ⟨tx.ref, verifyNamespaces checks v.verifiers tx tx.namespaces.zipIdx⟩

theorem verifyNamespaces_eq_committed {verifiers : VerifierMap Policy Msp DigestVerifier}
    {tx : Request} {entries : List (TxNamespace × Nat)} :
    verifyNamespaces checks verifiers tx entries = .committed ↔
      ∀ entry ∈ entries, entry.1.nsId ≠ configNamespaceID →
        ∃ nsVerifier, verifiers entry.1.nsId = some nsVerifier ∧
          nsVerifier.verifyNs checks tx entry.2 = .ok () := by
  induction entries with
  | nil => simp [verifyNamespaces]
  | cons entry rest ih =>
    rw [verifyNamespaces, List.forall_mem_cons, ← ih]
    split
    · simp_all
    · split
      · simp_all
      · split <;> simp_all

end

end FabricXCommitter.Verifier
