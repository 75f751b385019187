import FabricXCommitter.DependencyGraph.Manager
import FabricXCommitter.Verifier.PolicyUpdates

/-!
# The policy manager, its clients and the streams to the verifiers

A stream or a receiver may take any transaction that the graph has output.
-/

namespace FabricXCommitter.Coordinator

open Library Verifier List Option

/-- The maps `nsPolicies` and `nsVersions` have the same keys and are kept as one
list of entries. -/
structure PolicyManager where
  latestVersion : Nat := 0
  nsPolicies : List (Versioned.Entry PolicyItem) := []
  configTransaction : Option Bytes := none
  configVersion : Nat := 0
  deriving DecidableEq, Repr

namespace PolicyManager

def isUpdateEmpty (updates : List VerifierUpdates) : Bool :=
  updates.all fun u => u.config.isNone && u.namespacePolicies.isNone

/-- One iteration of the loop of `update`. -/
def apply (version : Nat) (pm : PolicyManager) (u : VerifierUpdates) : PolicyManager :=
  { pm with
    nsPolicies := Versioned.putAll PolicyItem.nsId version pm.nsPolicies u.items
    configTransaction :=
      if u.config.isSome then u.config else pm.configTransaction
    configVersion := if u.config.isSome then version else pm.configVersion }

def update (pm : PolicyManager) (updates : List VerifierUpdates) : PolicyManager :=
  if isUpdateEmpty updates then
    pm
  else
    let version := pm.latestVersion + 1
    updates.foldl (apply version) { pm with latestVersion := version }

def updateFromTx (pm : PolicyManager) (namespaces : List TxNamespace) : PolicyManager :=
  pm.update (namespaces.filterMap getUpdatesFromNamespace)

/-- The part of `getUpdates` under the lock; `visited` is the order in which the
loop visits the map. -/
def getUpdates (pm : PolicyManager) (visited : List (Versioned.Entry PolicyItem))
    (version : Nat) : VerifierUpdates :=
  let nsUpdates := Versioned.newerThan version visited
  { config := if version < pm.configVersion then pm.configTransaction else none
    namespacePolicies := if 0 < nsUpdates.length then some nsUpdates else none }

/-- What the coordinator stores at its start. -/
def recoverPolicyManagerFromStateDB
    (pm : PolicyManager) (policies : List PolicyItem) (envelope : Option Bytes) :
    PolicyManager :=
  if policies.length = 0 ∧ envelope = none then
    pm
  else
    pm.update [{ config := some (envelope.getD []), namespacePolicies := some policies }]

theorem foldl_apply (version : Nat) (updates : List VerifierUpdates) :
    ∀ pm : PolicyManager,
      (updates.foldl (apply version) pm).nsPolicies =
          Versioned.putAll PolicyItem.nsId version pm.nsPolicies (itemsOf updates) ∧
        (updates.foldl (apply version) pm).latestVersion = pm.latestVersion := by
  induction updates with
  | nil =>
    intro pm
    exact ⟨rfl, rfl⟩
  | cons u rest ih =>
    intro pm
    obtain ⟨stored, kept⟩ := ih (apply version pm u)
    have split : itemsOf (u :: rest) = u.items ++ itemsOf rest := rfl
    rw [foldl_cons, stored, split, Versioned.putAll_append]
    exact ⟨rfl, kept⟩

theorem itemsOf_empty {updates : List VerifierUpdates} (empty : isUpdateEmpty updates = true) :
    itemsOf updates = [] := by
  rw [itemsOf, flatMap_eq_nil_iff]
  intro u mem
  have nothing := List.all_eq_true.mp empty u mem
  rw [Bool.and_eq_true, isNone_iff_eq_none, isNone_iff_eq_none] at nothing
  rw [VerifierUpdates.items, nothing.2, getD_none]

theorem nsPolicies_update (pm : PolicyManager) (updates : List VerifierUpdates) :
    (pm.update updates).nsPolicies =
      Versioned.putAll PolicyItem.nsId (pm.latestVersion + 1) pm.nsPolicies (itemsOf updates) := by
  by_cases empty : isUpdateEmpty updates = true
  · rw [update, if_pos empty, itemsOf_empty empty]
    rfl
  · rw [update, if_neg empty]
    exact (foldl_apply _ updates _).1

theorem latestVersion_update_nonempty (pm : PolicyManager) {updates : List VerifierUpdates}
    (nonempty : isUpdateEmpty updates = false) :
    (pm.update updates).latestVersion = pm.latestVersion + 1 := by
  rw [update, if_neg (Bool.eq_false_iff.mp nonempty)]
  exact (foldl_apply _ updates _).2

theorem latestVersion_update (pm : PolicyManager) (updates : List VerifierUpdates) :
    pm.latestVersion ≤ (pm.update updates).latestVersion := by
  by_cases empty : isUpdateEmpty updates = true
  · rw [update, if_pos empty]
  · rw [pm.latestVersion_update_nonempty (Bool.eq_false_iff.mpr empty)]
    exact Nat.le_succ _

def Stamped (pm : PolicyManager) : Prop :=
  Versioned.Stamped PolicyItem.nsId pm.latestVersion pm.nsPolicies

theorem Stamped.update
    {pm : PolicyManager} (stamped : pm.Stamped) (updates : List VerifierUpdates) :
    (pm.update updates).Stamped := by
  by_cases empty : isUpdateEmpty updates = true
  · rw [PolicyManager.update, if_pos empty]
    exact stamped
  · have stored := nsPolicies_update pm updates
    have version := pm.latestVersion_update_nonempty (Bool.eq_false_iff.mpr empty)
    rw [Stamped, stored, version]
    exact Versioned.Stamped.putAll stamped (Nat.le_succ _) _

theorem items_getUpdates
    (pm : PolicyManager) (visited : List (Versioned.Entry PolicyItem)) (version : Nat) :
    (pm.getUpdates visited version).items = Versioned.newerThan version visited := by
  by_cases some : 0 < (Versioned.newerThan version visited).length
  · simp [getUpdates, VerifierUpdates.items, some]
  · have none : Versioned.newerThan version visited = [] :=
      length_eq_zero_iff.mp (Nat.eq_zero_of_not_pos some)
    simp [getUpdates, VerifierUpdates.items, none]

theorem nsPolicies_recover (policies : List PolicyItem) (envelope : Option Bytes) :
    (recoverPolicyManagerFromStateDB {} policies envelope).nsPolicies =
      Versioned.putAll PolicyItem.nsId 1 [] policies := by
  by_cases nothing : policies.length = 0 ∧ envelope = none
  · rw [recoverPolicyManagerFromStateDB, if_pos nothing, length_eq_zero_iff.mp nothing.1]
    rfl
  · rw [recoverPolicyManagerFromStateDB, if_neg nothing, nsPolicies_update]
    simp [itemsOf, VerifierUpdates.items]

theorem stamped_recover (policies : List PolicyItem) (envelope : Option Bytes) :
    (recoverPolicyManagerFromStateDB {} policies envelope).Stamped := by
  have new : ({} : PolicyManager).Stamped := ⟨nodup_nil, fun entry mem => absurd mem not_mem_nil⟩
  by_cases nothing : policies.length = 0 ∧ envelope = none
  · rw [recoverPolicyManagerFromStateDB, if_pos nothing]
    exact new
  · rw [recoverPolicyManagerFromStateDB, if_neg nothing]
    exact new.update _

end PolicyManager

structure VerifierBatch where
  update : Option VerifierUpdates := none
  requests : List Nat
  deriving DecidableEq, Repr

/-- The position of the loop of `sendTransactionsToSVService`. -/
inductive SenderPhase where
  | reading
  | received (txBatch : List Nat)
  | outdated (txBatch : List Nat)
  | splitting (request : VerifierBatch)
  | sending (requests : List VerifierBatch)
  | stopped
  deriving DecidableEq, Repr

/-- A stream to a verifier; `sent` records what was sent on it. -/
structure Stream where
  policyVersion : Nat := 0
  firstBatch : Bool := true
  phase : SenderPhase := .reading
  sent : List VerifierBatch := []
  deriving DecidableEq, Repr

inductive SenderAction where
  | read (txBatch : List Nat)
  | loadVersion
  | getUpdates (visited : List (Versioned.Entry PolicyItem))
  | split (blocks : List UInt64)
  | send
  | fail
  deriving DecidableEq, Repr

/-- The request goes to all of the loop that remains of the iteration. -/
def Stream.submit (stream : Stream) (request : VerifierBatch) : Stream :=
  { stream with
    phase :=
      if stream.firstBatch then .splitting request else .sending [request]
    firstBatch := false }

def blockNum (input : List (List TxWithRef)) (n : Nat) : UInt64 :=
  match input.flatten[n]? with
  | some tx => tx.ref.blockNum
  | none => 0

/-- The update goes with the first message. -/
def attachUpdate (update : Option VerifierUpdates) : List VerifierBatch → List VerifierBatch
  | [] => []
  | rBatch :: rest => { rBatch with update := update } :: rest

/-- The messages of `splitAndSendToVerifier`; `blocks` is the order in which the loop
visits the map of blocks. -/
def splitByBlock (input : List (List TxWithRef)) (request : VerifierBatch)
    (blocks : List UInt64) : List VerifierBatch :=
  attachUpdate request.update
    (blocks.map fun block =>
      { requests := request.requests.filter fun n => blockNum input n = block })

section

variable (input : List (List TxWithRef)) (pm : PolicyManager)
variable (outgoing : Multiset Nat)

/-- Batches that reach the sender are not empty.  The comparison of the versions
is made without the lock. -/
def senderStep (stream : Stream) : SenderAction → Option Stream
  | .read txBatch =>
    if stream.phase = .reading ∧ txBatch ≠ [] ∧ ∀ n ∈ txBatch, n ∈ outgoing then
      some { stream with phase := .received txBatch }
    else
      none
  | .loadVersion =>
    match stream.phase with
    | .received txBatch =>
      if stream.policyVersion = pm.latestVersion then
        some (stream.submit { requests := txBatch })
      else
        some { stream with phase := .outdated txBatch }
    | _ => none
  | .getUpdates visited =>
    match stream.phase with
    | .outdated txBatch =>
      if visited.Perm pm.nsPolicies then
        some
          ({ stream with policyVersion := pm.latestVersion }.submit
            { update := some (pm.getUpdates visited stream.policyVersion)
              requests := txBatch })
      else
        none
    | _ => none
  | .split blocks =>
    match stream.phase with
    | .splitting request =>
      if blocks.Perm (request.requests.map (blockNum input)).dedup then
        some
          { stream with
            phase := .sending (splitByBlock input request blocks) }
      else
        none
    | _ => none
  | .send =>
    match stream.phase with
    | .sending (request :: rest) =>
      some
        { stream with
          phase := if rest = [] then .reading else .sending rest
          sent := stream.sent ++ [request] }
    | _ => none
  | .fail => some { stream with phase := .stopped }

end

/-- The dependency graph, the policy manager and the streams.  The receivers of the
validator-committers have handled the answers of `answered`, and have written the
nodes of `forwarded` to the dependency graph; `committed` records the transactions
that were answered as committed. -/
structure CoordinatorState where
  graph : DependencyGraph.State
  policyManager : PolicyManager
  answered : Finset Nat
  forwarded : Finset Nat
  committed : Finset Nat
  streams : Nat → Stream

inductive CoordinatorAction where
  | graph (action : DependencyGraph.Action)
  | answer (n : Nat) (status : Status)
  | forward (n : Nat)
  | restore (n : Nat)
  | sender (index : Nat) (action : SenderAction)
  deriving DecidableEq, Repr

section

variable (platform : Platform) (input : List (List TxWithRef))

def namespacesOf (n : Nat) : List TxNamespace :=
  match input.flatten[n]? with
  | some tx => tx.content.namespaces
  | none => []

/-- One iteration of `getTxsAndUpdatePolicies`.  A node is in at most one map of
transactions being validated, and it is taken out of it with its answer. -/
def answer (s : CoordinatorState) (n : Nat) (status : Status) : Option CoordinatorState :=
  if n ∈ s.graph.outgoing ∧ n ∉ s.answered then
    if status = .committed then
      some
        { s with
          policyManager := s.policyManager.updateFromTx (namespacesOf input n)
          answered := insert n s.answered
          committed := insert n s.committed }
    else
      some { s with answered := insert n s.answered }
  else
    none

/-- Between its answer and its return to the dependency graph a node is held by the
receiver.  If the write fails, the node is restored to the map. -/
def coordinatorStep (s : CoordinatorState) : CoordinatorAction → Option CoordinatorState
  | .graph action =>
    if ∀ n ∈ action.reports, n ∈ s.forwarded then
      (DependencyGraph.step platform input s.graph action).map fun graph =>
        { s with graph := graph }
    else
      none
  | .answer n status => answer input s n status
  | .forward n =>
    if n ∈ s.answered ∧ n ∉ s.forwarded then
      some { s with forwarded := insert n s.forwarded }
    else
      none
  | .restore n =>
    if n ∈ s.answered ∧ n ∉ s.forwarded then
      some { s with answered := s.answered.erase n }
    else
      none
  | .sender index action =>
    (senderStep input s.policyManager s.graph.outgoing (s.streams index) action).map fun stream =>
      { s with streams := Function.update s.streams index stream }

/-- The coordinator after it recovered the policies and the configuration of the
state database. -/
def coordinator (waitingTxsLimit : Nat) (policies : List PolicyItem)
    (envelope : Option Bytes) : Machine CoordinatorState CoordinatorAction where
  initial :=
    { graph := DependencyGraph.initialState waitingTxsLimit
      policyManager := PolicyManager.recoverPolicyManagerFromStateDB {} policies envelope
      answered := ∅
      forwarded := ∅
      committed := ∅
      streams := fun _ => {} }
  step := coordinatorStep platform input

end

open Function

/-- A client and what it has folded: of each namespace the last policy counts. -/
structure Client where
  version : Nat := 0
  /-- It saw another version and waits for the lock. -/
  waiting : Bool := false
  items : List PolicyItem := []
  config : Option Bytes := none

/-- The version is one ahead of the rest of the manager while an update holds the
lock.  The field `history` records the manager as of each version. -/
structure DeltaState where
  latestVersion : Nat := 0
  pm : PolicyManager := {}
  updating : Option (List VerifierUpdates) := none
  history : List PolicyManager := [{}]
  clients : Nat → Client := fun _ => {}

inductive DeltaAction where
  | beginUpdate (updates : List VerifierUpdates)
  | endUpdate
  | loadVersion (client : Nat)
  | getUpdates (client : Nat) (visited : List (Versioned.Entry PolicyItem))

def Client.receive (client : Client) (updates : VerifierUpdates) (version : Nat) : Client where
  version := version
  items := client.items ++ updates.items
  config := updates.config.or client.config

def deltaStep (s : DeltaState) : DeltaAction → Option DeltaState
  | .beginUpdate updates =>
    if PolicyManager.isUpdateEmpty updates then
      some s
    else if s.updating = none then
      some
        { s with
          latestVersion := s.latestVersion + 1
          updating := some updates }
    else
      none
  | .endUpdate =>
    s.updating.map fun updates =>
      { s with
        pm := s.pm.update updates
        updating := none
        history := s.history ++ [s.pm.update updates] }
  | .loadVersion c =>
    if (s.clients c).version = s.latestVersion then
      some s
    else
      some
        { s with
          clients := update s.clients c { s.clients c with waiting := true } }
  | .getUpdates c visited =>
    if (s.clients c).waiting ∧ s.updating = none ∧ visited.Perm s.pm.nsPolicies then
      some
        { s with
          clients :=
            update s.clients c
              ((s.clients c).receive (s.pm.getUpdates visited (s.clients c).version)
                s.latestVersion) }
    else
      none

def policyClients : Machine DeltaState DeltaAction where
  initial := {}
  step := deltaStep

theorem config_update (pm : PolicyManager) (updates : List VerifierUpdates) :
    ((pm.update updates).configTransaction = pm.configTransaction ∧
        (pm.update updates).configVersion = pm.configVersion) ∨
      ((pm.update updates).configTransaction.isSome = true ∧
        (pm.update updates).configVersion = pm.latestVersion + 1) := by
  rw [PolicyManager.update]
  split
  · exact .inl ⟨rfl, rfl⟩
  · rename_i nonempty
    clear nonempty
    generalize pm.latestVersion + 1 = version
    induction updates using List.reverseRecOn with
    | nil => exact .inl ⟨rfl, rfl⟩
    | append_singleton earlier last ih =>
      rw [foldl_append, foldl_cons, foldl_nil, PolicyManager.apply]
      cases config : last.config with
      | none => exact ih
      | some value => exact .inr ⟨rfl, rfl⟩

/-! ## What a client holds -/

def Client.Holds (client : Client) (pm : PolicyManager) : Prop :=
  (∀ nsId,
    Versioned.lastOf PolicyItem.nsId nsId client.items =
      Versioned.lastOf PolicyItem.nsId nsId (pm.nsPolicies.map Versioned.Entry.item)) ∧
    client.config = pm.configTransaction

/-- What relates a client to the present manager: it has what was stored up to its
version, and nothing that the manager has not. -/
structure Client.Tracks (client : Client) (pm : PolicyManager) : Prop where
  below : client.version ≤ pm.latestVersion
  follows : Versioned.Follows PolicyItem.nsId pm.nsPolicies client.version client.items
  known : Versioned.Known PolicyItem.nsId pm.nsPolicies client.items
  config : pm.configVersion ≤ client.version → client.config = pm.configTransaction

structure Synchronized (s : DeltaState) : Prop where
  version : s.latestVersion = s.pm.latestVersion + if s.updating = none then 0 else 1
  nonempty : ∀ updates, s.updating = some updates → PolicyManager.isUpdateEmpty updates = false
  stamped : s.pm.Stamped
  stored : 0 < s.pm.configVersion → s.pm.configTransaction.isSome = true
  recorded : s.history.length = s.pm.latestVersion + 1
  present : s.history[s.pm.latestVersion]? = some s.pm
  tracks : ∀ c, (s.clients c).Tracks s.pm
  holds : ∀ c, ∃ pm, s.history[(s.clients c).version]? = some pm ∧ (s.clients c).Holds pm

theorem Client.Tracks.update {client : Client} {pm : PolicyManager} (tracks : client.Tracks pm)
    (updates : List VerifierUpdates) :
    client.Tracks (pm.update updates) where
  below := Nat.le_trans tracks.below (pm.latestVersion_update updates)
  follows := by
    rw [PolicyManager.nsPolicies_update]
    exact tracks.follows.putAll (Nat.lt_succ_of_le tracks.below) _
  known := by
    rw [PolicyManager.nsPolicies_update]
    exact tracks.known.putAll _ _
  config := by
    intro upTo
    rcases config_update pm updates with ⟨same, version⟩ | ⟨_, version⟩
    · rw [version] at upTo
      rw [same]
      exact tracks.config upTo
    · have below := tracks.below
      omega

theorem Client.Tracks.receive
    {client : Client} {pm : PolicyManager} (tracks : client.Tracks pm) (stamped : pm.Stamped)
    (stored : 0 < pm.configVersion → pm.configTransaction.isSome = true)
    {visited : List (Versioned.Entry PolicyItem)} (order : visited.Perm pm.nsPolicies) :
    (client.receive (pm.getUpdates visited client.version) pm.latestVersion).Tracks pm ∧
      (client.receive (pm.getUpdates visited client.version) pm.latestVersion).Holds pm := by
  have follows := tracks.follows.catchUp stamped order pm.latestVersion
  have known := tracks.known.catchUp order client.version
  have config : (pm.getUpdates visited client.version).config.or client.config =
      pm.configTransaction := by
    rw [PolicyManager.getUpdates]
    by_cases newer : client.version < pm.configVersion
    · obtain ⟨value, isStored⟩ := isSome_iff_exists.mp (stored (by omega))
      rw [if_pos newer, isStored, some_or]
    · rw [if_neg newer, none_or, tracks.config (Nat.le_of_not_lt newer)]
  rw [← pm.items_getUpdates] at follows known
  exact
    ⟨⟨Nat.le_refl _, follows, known, fun _ => config⟩,
      fun nsId => follows.lastOf_eq stamped known nsId, config⟩

theorem Synchronized.initial : Synchronized {} where
  version := rfl
  nonempty := by
    intro updates impossible
    cases impossible
  stamped := ⟨nodup_nil, fun entry mem => absurd mem not_mem_nil⟩
  stored := fun impossible => absurd impossible (Nat.lt_irrefl 0)
  recorded := rfl
  present := rfl
  tracks _ :=
    ⟨Nat.le_refl 0, fun entry mem => absurd mem not_mem_nil,
      fun item mem => absurd mem not_mem_nil, fun _ => rfl⟩
  holds _ := ⟨{}, rfl, fun _ => rfl, rfl⟩

theorem Synchronized.setClient
    {s : DeltaState} (synchronized : Synchronized s) {c : Nat} {client : Client}
    (tracks : client.Tracks s.pm)
    (holds : ∃ pm, s.history[client.version]? = some pm ∧ client.Holds pm) :
    Synchronized { s with clients := update s.clients c client } :=
  { synchronized with
    tracks :=
      (forall_update_iff s.clients fun _ client => client.Tracks s.pm).mpr
        ⟨tracks, fun other _ => synchronized.tracks other⟩
    holds :=
      (forall_update_iff s.clients fun _ client =>
          ∃ pm, s.history[client.version]? = some pm ∧ client.Holds pm).mpr
        ⟨holds, fun other _ => synchronized.holds other⟩ }

theorem Synchronized.endUpdate
    {s : DeltaState} (synchronized : Synchronized s) {updates : List VerifierUpdates}
    (isUpdating : s.updating = some updates) :
    Synchronized
      { s with
        pm := s.pm.update updates
        updating := none
        history := s.history ++ [s.pm.update updates] } := by
  have version : (s.pm.update updates).latestVersion = s.pm.latestVersion + 1 :=
    PolicyManager.latestVersion_update_nonempty _ (synchronized.nonempty updates isUpdating)
  have recorded := synchronized.recorded
  constructor
  · rw [version, synchronized.version, isUpdating]
    rfl
  · intro other impossible
    cases impossible
  · exact synchronized.stamped.update updates
  · rcases config_update s.pm updates with ⟨same, sameVersion⟩ | ⟨isSome, _⟩
    · rw [same, sameVersion]
      exact synchronized.stored
    · exact fun _ => isSome
  · rw [length_append, length_singleton, recorded, version]
  · rw [version, ← recorded, getElem?_concat_length]
  · intro c
    exact (synchronized.tracks c).update updates
  · intro c
    obtain ⟨pm, found, holds⟩ := synchronized.holds c
    have within := (List.getElem?_eq_some_iff.mp found).1
    exact ⟨pm, (getElem?_append_left within).trans found, holds⟩

theorem Synchronized.step
    {s next : DeltaState} (synchronized : Synchronized s) {action : DeltaAction}
    (stepped : deltaStep s action = some next) :
    Synchronized next := by
  cases action with
  | beginUpdate updates =>
    simp only [deltaStep] at stepped
    split_ifs at stepped with empty free
    · cases stepped
      exact synchronized
    · cases stepped
      have version := synchronized.version
      rw [if_pos free] at version
      refine { synchronized with version := ?_, nonempty := ?_ }
      · simp [version]
      · intro other same
        cases same
        exact Bool.eq_false_iff.mpr empty
  | endUpdate =>
    obtain ⟨updates, isUpdating, rfl⟩ := map_eq_some_iff.mp stepped
    exact synchronized.endUpdate isUpdating
  | loadVersion c =>
    simp only [deltaStep] at stepped
    split_ifs at stepped with same
    · cases stepped
      exact synchronized
    · cases stepped
      have tracks := synchronized.tracks c
      exact synchronized.setClient { tracks with } (synchronized.holds c)
  | getUpdates c visited =>
    simp only [deltaStep] at stepped
    split_ifs at stepped with ready
    cases stepped
    obtain ⟨_, free, order⟩ := ready
    have version : s.latestVersion = s.pm.latestVersion := by
      rw [synchronized.version, if_pos free, Nat.add_zero]
    obtain ⟨tracks, holds⟩ :=
      (synchronized.tracks c).receive synchronized.stamped synchronized.stored order
    have kept := synchronized.setClient (c := c) tracks ⟨s.pm, synchronized.present, holds⟩
    rw [← version] at kept
    exact kept

/-- At every time each client holds exactly the policies and the configuration of the
manager as of the version that it got last. -/
theorem policy_deltas_compose {actions : List DeltaAction} {s : DeltaState}
    (reached : policyClients.run actions = some s) (c : Nat) :
    ∃ pm, s.history[(s.clients c).version]? = some pm ∧ (s.clients c).Holds pm := by
  have synchronized :=
    policyClients.invariant_run Synchronized .initial
      (fun _ _ _ kept stepped => kept.step stepped) reached
  exact synchronized.holds c

/-- Two updates of one namespace, the second with a configuration, between two calls. -/
def deltaActions : List DeltaAction :=
  [.beginUpdate [{ namespacePolicies := some [⟨[1], [7]⟩] }], .loadVersion 0, .endUpdate,
    .beginUpdate [{ config := some [9], namespacePolicies := some [⟨[1], [8]⟩] }], .endUpdate,
    .getUpdates 0 [⟨⟨[1], [8]⟩, 2⟩]]

theorem deltaActions_compose :
    ∃ s, policyClients.run deltaActions = some s ∧ (s.clients 0).version = 2 ∧
      ∃ pm, s.history[(s.clients 0).version]? = some pm ∧ (s.clients 0).Holds pm := by
  have evaluated :
      (policyClients.run deltaActions).map (fun s => (s.clients 0).version) = some 2 := by
    decide +kernel
  obtain ⟨s, reached, version⟩ := map_eq_some_iff.mp evaluated
  exact ⟨s, reached, version, policy_deltas_compose reached 0⟩

end FabricXCommitter.Coordinator
