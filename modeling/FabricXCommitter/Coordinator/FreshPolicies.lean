import FabricXCommitter.Coordinator.PolicyOrigins

/-!
# No transaction is verified against a stale policy

A stream sends the updates no later than the transaction that needs them.
-/

namespace FabricXCommitter.Coordinator

open DependencyGraph Library Verifier List Option

/-! ## The messages of a stream -/

def receivedItems (messages : List VerifierBatch) : List PolicyItem :=
  itemsOf (messages.filterMap VerifierBatch.update)

theorem receivedItems_append (first second : List VerifierBatch) :
    receivedItems (first ++ second) = receivedItems first ++ receivedItems second := by
  simp [receivedItems, itemsOf]

theorem receivedItems_singleton (message : VerifierBatch) :
    receivedItems [message] = itemsOf message.update.toList := by
  cases message with
  | mk update requests => cases update <;> rfl

def Everywhere
    (holds : List VerifierBatch → VerifierBatch → Prop)
    (log : List VerifierBatch) : Prop :=
  ∀ before message after, log = before ++ message :: after → holds before message

variable {holds : List VerifierBatch → VerifierBatch → Prop}

theorem Everywhere.of_append
    {first second : List VerifierBatch} (everywhere : Everywhere holds (first ++ second)) :
    Everywhere holds first := by
  intro before message after split
  apply everywhere before message (after ++ second)
  rw [split, append_assoc, cons_append]

theorem Everywhere.append {first second : List VerifierBatch} (everywhere : Everywhere holds first)
    (added :
      ∀ before message after, second = before ++ message :: after →
        holds (first ++ before) message) :
    Everywhere holds (first ++ second) := by
  intro before message after split
  rcases append_eq_append_iff.mp split with ⟨more, same, rest⟩ | ⟨more, same, rest⟩
  · rw [same]
    exact added more message after rest
  · cases more with
    | nil =>
      rw [append_nil] at same
      rw [← same, ← append_nil first]
      exact added [] message after rest.symm
    | cons head tail =>
      obtain ⟨rfl, _⟩ := List.cons.inj rest
      exact everywhere before _ tail same

theorem Everywhere.imp {holds' : List VerifierBatch → VerifierBatch → Prop}
    {log : List VerifierBatch} (everywhere : Everywhere holds log)
    (imp : ∀ before message, holds before message → holds' before message) :
    Everywhere holds' log :=
  fun before message after split => imp before message (everywhere before message after split)

/-- Messages that were formed and not sent yet. -/
def SenderPhase.pending : SenderPhase → List VerifierBatch
  | .reading | .received _ | .outdated _ | .stopped => []
  | .splitting request => [request]
  | .sending requests => requests

/-- The transactions for which no message was formed yet, or only one to be split. -/
def SenderPhase.batch : SenderPhase → Option (List Nat)
  | .received txBatch => some txBatch
  | .outdated txBatch => some txBatch
  | .splitting request => some request.requests
  | .reading | .sending _ | .stopped => none

def Stream.log (stream : Stream) : List VerifierBatch := stream.sent ++ stream.phase.pending

theorem Stream.log_submit (stream : Stream) (request : VerifierBatch) :
    (stream.submit request).log = stream.sent ++ [request] := by
  by_cases first : stream.firstBatch = true
  · simp [log, submit, first, SenderPhase.pending]
  · simp [log, submit, first, SenderPhase.pending]

theorem attachUpdate_split {update : Option VerifierUpdates}
    {batches before after : List VerifierBatch} {message : VerifierBatch}
    (plain : ∀ rBatch ∈ batches, rBatch.update = none)
    (split : attachUpdate update batches = before ++ message :: after) :
    (before ++ [message]).filterMap VerifierBatch.update = update.toList ∧
      ∃ rBatch ∈ batches, message.requests = rBatch.requests := by
  cases batches with
  | nil =>
    cases before <;> cases split
  | cons rBatch rest =>
    cases before with
    | nil =>
      obtain ⟨rfl, rfl⟩ := List.cons.inj split
      cases update with
      | none => exact ⟨rfl, rBatch, mem_cons_self, rfl⟩
      | some u => exact ⟨rfl, rBatch, mem_cons_self, rfl⟩
    | cons head tail =>
      obtain ⟨rfl, restSplit⟩ := List.cons.inj split
      have mem : message ∈ rest := by
        rw [restSplit]
        exact mem_append_right tail mem_cons_self
      have noUpdates : (tail ++ [message]).filterMap VerifierBatch.update = [] := by
        rw [filterMap_eq_nil_iff]
        intro other otherMem
        apply plain other
        apply mem_cons_of_mem
        rw [restSplit]
        rcases mem_append.mp otherMem with inTail | last
        · exact mem_append_left _ inTail
        · rw [mem_singleton.mp last]
          exact mem_append_right tail mem_cons_self
      refine ⟨?_, message, mem_cons_of_mem _ mem, rfl⟩
      cases update with
      | none => simpa using noUpdates
      | some u => simpa using noUpdates

variable {request : VerifierBatch}

theorem splitByBlock_split {input : List (List TxWithRef)}
    {blocks : List UInt64} {before after : List VerifierBatch} {message : VerifierBatch}
    (split : splitByBlock input request blocks = before ++ message :: after) :
    receivedItems (before ++ [message]) = receivedItems [request] ∧
      ∀ n ∈ message.requests, n ∈ request.requests := by
  have plain :
      ∀ rBatch ∈
          blocks.map fun block =>
            ({ requests := request.requests.filter fun n => blockNum input n = block } :
              VerifierBatch),
        rBatch.update = none := by
    intro rBatch mem
    obtain ⟨block, _, rfl⟩ := List.mem_map.mp mem
    rfl
  obtain ⟨updates, rBatch, mem, same⟩ := attachUpdate_split plain split
  constructor
  · rw [receivedItems, updates, receivedItems_singleton]
  · intro n inMessage
    obtain ⟨block, _, rfl⟩ := List.mem_map.mp mem
    rw [same] at inMessage
    exact (mem_filter.mp inMessage).1

theorem receivedItems_splitByBlock
    {input : List (List TxWithRef)} {blocks : List UInt64} (some : blocks ≠ []) :
    receivedItems (splitByBlock input request blocks) = receivedItems [request] := by
  have nonempty : splitByBlock input request blocks ≠ [] := by
    cases blocks with
    | nil => exact absurd rfl some
    | cons block rest => exact cons_ne_nil _ _
  rcases eq_nil_or_concat' (splitByBlock input request blocks) with empty | ⟨before, message, whole⟩
  · exact absurd empty nonempty
  · rw [whole]
    exact (splitByBlock_split whole).1

section

variable (platform : Platform) (input : List (List TxWithRef))
variable (policies : List PolicyItem) (s : CoordinatorState)

/-- The transactions of a message were output, and the updates up to the message are
fresh for them. -/
def FreshMessage (before : List VerifierBatch) (message : VerifierBatch) : Prop :=
  ∀ n ∈ message.requests, n ∈ s.graph.outgoing ∧
    Fresh platform input policies s.committed n (receivedItems (before ++ [message]))

/-- The messages of a stream, with those that are formed and not sent.  As long as the
stream is not stopped, they hold what was stored up to `policyVersion`. -/
structure StreamSound (stream : Stream) : Prop where
  version : stream.policyVersion ≤ s.policyManager.latestVersion
  follows :
    stream.phase ≠ .stopped →
      Versioned.Follows PolicyItem.nsId s.policyManager.nsPolicies
        stream.policyVersion (receivedItems stream.log)
  taken :
    ∀ txBatch, stream.phase.batch = some txBatch →
      txBatch ≠ [] ∧ ∀ n ∈ txBatch, n ∈ s.graph.outgoing
  fresh : Everywhere (FreshMessage platform input policies s) stream.log

variable {platform input policies s}
  {stream : Stream}

theorem StreamSound.mono
    (sound : StreamSound platform input policies s stream) {s' : CoordinatorState}
    (version : s.policyManager.latestVersion ≤ s'.policyManager.latestVersion)
    (follows :
      ∀ version ≤ s.policyManager.latestVersion, ∀ received,
        Versioned.Follows PolicyItem.nsId s.policyManager.nsPolicies version received →
          Versioned.Follows PolicyItem.nsId s'.policyManager.nsPolicies version received)
    (outgoing : ∀ n ∈ s.graph.outgoing, n ∈ s'.graph.outgoing)
    (fresh :
      ∀ n ∈ s.graph.outgoing, ∀ items,
        Fresh platform input policies s.committed n items →
          Fresh platform input policies s'.committed n items) :
    StreamSound platform input policies s' stream where
  version := Nat.le_trans sound.version version
  follows := fun running => follows stream.policyVersion sound.version _ (sound.follows running)
  taken := by
    intro txBatch holds
    obtain ⟨nonempty, output⟩ := sound.taken txBatch holds
    exact ⟨nonempty, fun n mem => outgoing n (output n mem)⟩
  fresh := by
    refine sound.fresh.imp ?_
    intro before message isFresh n mem
    obtain ⟨output, isFreshFor⟩ := isFresh n mem
    exact ⟨outgoing n output, fresh n output _ isFreshFor⟩

theorem StreamSound.of_same_log
    {next : Stream} (sound : StreamSound platform input policies s stream)
    (running : stream.phase ≠ .stopped) (version : next.policyVersion = stream.policyVersion)
    (log : next.log = stream.log)
    (taken :
      ∀ txBatch, next.phase.batch = some txBatch →
        txBatch ≠ [] ∧ ∀ n ∈ txBatch, n ∈ s.graph.outgoing) :
    StreamSound platform input policies s next where
  version := by
    rw [version]
    exact sound.version
  follows := by
    intro _
    rw [version, log]
    exact sound.follows running
  taken := taken
  fresh := by
    rw [log]
    exact sound.fresh

theorem streamSound_submit (stamped : s.policyManager.Stamped)
    (current : Current platform input policies s.committed s.policyManager.nsPolicies)
    (sentFresh : Everywhere (FreshMessage platform input policies s) stream.sent)
    (latest : stream.policyVersion = s.policyManager.latestVersion)
    (follows :
      Versioned.Follows PolicyItem.nsId s.policyManager.nsPolicies
        s.policyManager.latestVersion (receivedItems (stream.sent ++ [request])))
    (nonempty : request.requests ≠ []) (output : ∀ n ∈ request.requests, n ∈ s.graph.outgoing) :
    StreamSound platform input policies s (stream.submit request) where
  version := Nat.le_of_eq latest
  follows := by
    intro _
    rw [Stream.log_submit]
    exact latest ▸ follows
  taken := by
    intro txBatch holds
    by_cases first : stream.firstBatch = true
    · simp only [Stream.submit, first, if_true, SenderPhase.batch, Option.some.injEq] at holds
      exact holds ▸ ⟨nonempty, output⟩
    · simp [Stream.submit, first, SenderPhase.batch] at holds
  fresh := by
    rw [Stream.log_submit]
    apply sentFresh.append
    intro before message after split n mem
    obtain ⟨rfl, rfl⟩ : before = [] ∧ message = request := by
      cases before with
      | nil => exact ⟨rfl, (List.cons.inj split).1.symm⟩
      | cons head tail =>
        obtain ⟨_, rest⟩ := List.cons.inj split
        cases tail <;> cases rest
    rw [append_nil]
    exact ⟨output n mem, current.fresh stamped follows n⟩

theorem StreamSound.sentFresh (sound : StreamSound platform input policies s stream) :
    Everywhere (FreshMessage platform input policies s) stream.sent :=
  sound.fresh.of_append

theorem StreamSound.step (stamped : s.policyManager.Stamped)
    (current : Current platform input policies s.committed s.policyManager.nsPolicies)
    {next : Stream} (sound : StreamSound platform input policies s stream) {action : SenderAction}
    (stepped : senderStep input s.policyManager s.graph.outgoing stream action = some next) :
    StreamSound platform input policies s next := by
  cases action with
  | read txBatch =>
    simp only [senderStep] at stepped
    split at stepped
    · next accepted =>
      obtain ⟨idle, nonempty, output⟩ := accepted
      cases stepped
      apply sound.of_same_log
      · rw [idle]
        exact SenderPhase.noConfusion
      · rfl
      · simp [Stream.log, idle, SenderPhase.pending]
      · intro other holds
        cases holds
        exact ⟨nonempty, output⟩
    · cases stepped
  | loadVersion =>
    simp only [senderStep] at stepped
    split at stepped
    · next txBatch received =>
      have running : stream.phase ≠ .stopped := by
        rw [received]
        exact SenderPhase.noConfusion
      have taken := sound.taken txBatch (by rw [received]; rfl)
      split at stepped
      · next latest =>
        cases stepped
        refine streamSound_submit stamped current sound.sentFresh latest ?_ taken.1 taken.2
        have follows := sound.follows running
        rw [Stream.log, received, latest] at follows
        simpa [SenderPhase.pending, receivedItems, itemsOf] using follows
      · cases stepped
        apply sound.of_same_log running
        · rfl
        · simp [Stream.log, received, SenderPhase.pending]
        · intro other holds
          cases holds
          exact taken
    · cases stepped
  | getUpdates visited =>
    simp only [senderStep] at stepped
    split at stepped
    · next txBatch outdated =>
      have running : stream.phase ≠ .stopped := by
        rw [outdated]
        exact SenderPhase.noConfusion
      have taken := sound.taken txBatch (by rw [outdated]; rfl)
      split at stepped
      · next order =>
        cases stepped
        refine streamSound_submit stamped current sound.sentFresh rfl ?_ taken.1 taken.2
        have follows := sound.follows running
        rw [Stream.log, outdated, SenderPhase.pending, append_nil] at follows
        have caughtUp := follows.catchUp stamped order s.policyManager.latestVersion
        rw [receivedItems_append, receivedItems_singleton,
          toList_some, itemsOf, flatMap_singleton,
          PolicyManager.items_getUpdates]
        exact caughtUp
      · cases stepped
    · cases stepped
  | split blocks =>
    simp only [senderStep] at stepped
    split at stepped
    · next request splitting =>
      have running : stream.phase ≠ .stopped := by
        rw [splitting]
        exact SenderPhase.noConfusion
      have taken := sound.taken request.requests (by rw [splitting]; rfl)
      split at stepped
      · next order =>
        cases stepped
        have some : blocks ≠ [] := by
          rintro rfl
          rw [nil_perm, dedup_eq_nil, map_eq_nil_iff] at order
          exact taken.1 order
        have follows := sound.follows running
        have fresh := sound.fresh
        rw [Stream.log, splitting, SenderPhase.pending] at follows fresh
        constructor
        · exact sound.version
        · intro _
          rw [Stream.log, SenderPhase.pending, receivedItems_append,
            receivedItems_splitByBlock some, ← receivedItems_append]
          exact follows
        · intro other holds
          cases holds
        · apply sound.sentFresh.append
          intro before message after parts n mem
          obtain ⟨items, subset⟩ := splitByBlock_split parts
          have whole := fresh stream.sent request [] rfl n (subset n mem)
          rw [receivedItems_append] at whole
          rw [append_assoc, receivedItems_append, items]
          exact whole
      · cases stepped
    · cases stepped
  | send =>
    simp only [senderStep] at stepped
    split at stepped
    · next request rest sending =>
      cases stepped
      apply sound.of_same_log
      · rw [sending]
        exact SenderPhase.noConfusion
      · rfl
      · by_cases last : rest = []
        · simp [Stream.log, sending, last, SenderPhase.pending]
        · simp [Stream.log, sending, last, SenderPhase.pending]
      · intro other holds
        by_cases last : rest = []
        · simp [last, SenderPhase.batch] at holds
        · simp [last, SenderPhase.batch] at holds
    · cases stepped
  | fail =>
    cases stepped
    constructor
    · exact sound.version
    · intro running
      exact absurd rfl running
    · intro other holds
      cases holds
    · rw [Stream.log, SenderPhase.pending, append_nil]
      exact sound.sentFresh

end

/-! ## Runs of the coordinator -/

section

variable (platform : Platform) (input : List (List TxWithRef))
variable (policies : List PolicyItem)

/-- The way of the nodes from the dependency graph to the validator-committers and
back. -/
structure NodePaths (s : CoordinatorState) : Prop where
  pipeline : PipelineInvariant platform input s.graph
  graph : GraphInvariant platform input s.graph
  writers : WriterInvariant platform input s.graph
  reported : s.graph.reported ⊆ s.forwarded
  forwarded : s.forwarded ⊆ s.answered
  committed : ∀ n ∈ s.committed, n ∈ s.graph.outgoing

structure FreshInvariant (s : CoordinatorState) : Prop where
  paths : NodePaths platform input s
  stamped : s.policyManager.Stamped
  current : Current platform input policies s.committed s.policyManager.nsPolicies
  streams : ∀ index, StreamSound platform input policies s (s.streams index)

variable {platform input policies} {s next : CoordinatorState}

theorem NodePaths.answered_of_output (paths : NodePaths platform input s) {earlier later : Nat}
    (output : later ∈ s.graph.outgoing) (order : earlier < later)
    (follows : FollowsWriter (rwKeys platform input later) (rwKeys platform input earlier)) :
    earlier ∈ s.answered := by
  have validated := paths.writers.validated_of_output paths.graph output order follows
  exact paths.forwarded (paths.reported (paths.graph.validatedReported validated))

theorem freshInvariant_initial (waitingTxsLimit : Nat) (envelope : Option Bytes) :
    FreshInvariant platform input policies
      (coordinator platform input waitingTxsLimit policies envelope).initial := by
  have stored :
      (coordinator platform input waitingTxsLimit policies
          envelope).initial.policyManager.nsPolicies =
        Versioned.putAll PolicyItem.nsId 1 [] policies :=
    PolicyManager.nsPolicies_recover policies envelope
  constructor
  · exact
      { pipeline := pipelineInvariant_initial waitingTxsLimit
        graph := graphInvariant_initial waitingTxsLimit
        writers := writerInvariant_initial waitingTxsLimit
        reported := Finset.Subset.rfl
        forwarded := Finset.Subset.rfl
        committed := fun n mem => absurd mem (Finset.notMem_empty n) }
  · exact PolicyManager.stamped_recover policies envelope
  · rw [stored]
    exact current_recovered 1
  · intro index
    constructor
    · exact Nat.zero_le _
    · intro _
      rw [stored]
      -- What was recovered has version 1.
      apply Versioned.Follows.putAll _ Nat.zero_lt_one
      intro entry mem
      cases mem
    · intro txBatch holds
      cases holds
    · intro before message after split
      cases before <;> cases split

theorem FreshInvariant.graph (distinct : DistinctWrites platform input)
    (inv : FreshInvariant platform input policies s)
    {action : Action} {graph : DependencyGraph.State}
    (allowed : ∀ n ∈ action.reports, n ∈ s.forwarded)
    (stepped : DependencyGraph.step platform input s.graph action = some graph) :
    FreshInvariant platform input policies { s with graph := graph } := by
  obtain ⟨grows, reported⟩ := history_of_step stepped
  have paths := inv.paths
  have outgoing : ∀ n ∈ s.graph.outgoing, n ∈ graph.outgoing := fun n mem =>
    Multiset.mem_of_le grows mem
  constructor
  · constructor
    · exact paths.pipeline.step stepped
    · exact paths.graph.step paths.pipeline stepped
    · exact paths.writers.step distinct paths.pipeline paths.graph stepped
    · rw [reported]
      apply Finset.union_subset paths.reported
      intro n mem
      exact allowed n (List.mem_toFinset.mp mem)
    · exact paths.forwarded
    · exact fun n mem => outgoing n (paths.committed n mem)
  · exact inv.stamped
  · exact inv.current
  · intro index
    exact
      (inv.streams index).mono (Nat.le_refl _)
        (fun _ _ _ follows => follows) outgoing (fun _ _ _ fresh => fresh)

/-- The policies of a committed transaction are stored before its node is returned, so
that nobody who needs them was output. -/
theorem FreshInvariant.answerCommitted
    (isForwarded : ∀ tx ∈ input.flatten, Sidecar.Forwarded platform tx.content)
    (inv : FreshInvariant platform input policies s) {n : Nat}
    (output : n ∈ s.graph.outgoing) (unanswered : n ∉ s.answered) :
    FreshInvariant platform input policies
      { s with
        policyManager := s.policyManager.updateFromTx (namespacesOf input n)
        answered := insert n s.answered
        committed := insert n s.committed } := by
  have paths := inv.paths
  have notFollowed :
      ∀ m ∈ s.graph.outgoing, n < m →
        ¬ FollowsWriter (rwKeys platform input m) (rwKeys platform input n) :=
    fun m mOutput order follows => unanswered (paths.answered_of_output mOutput order follows)
  constructor
  · constructor
    · exact paths.pipeline
    · exact paths.graph
    · exact paths.writers
    · exact paths.reported
    · exact paths.forwarded.trans (Finset.subset_insert n _)
    · intro m mem
      rcases Finset.mem_insert.mp mem with rfl | old
      · exact output
      · exact paths.committed m old
  · exact inv.stamped.update _
  · have current :=
      inv.current.insert isForwarded
        (fun m mem => notFollowed m (paths.committed m mem))
        (s.policyManager.latestVersion + 1)
    rw [← PolicyManager.nsPolicies_update] at current
    exact current
  · intro index
    refine
      (inv.streams index).mono (PolicyManager.latestVersion_update _ _) ?_ (fun _ mem => mem) ?_
    · intro version bounded received follows
      change Versioned.Follows _ (PolicyManager.nsPolicies (PolicyManager.update _ _)) _ _
      rw [PolicyManager.nsPolicies_update]
      exact follows.putAll (Nat.lt_succ_of_le bounded) _
    · intro m mOutput items fresh
      apply fresh.insert
      intro ns uses order writes
      exact notFollowed m mOutput order (followsWriter_of_uses isForwarded writes uses)

theorem FreshInvariant.of_same
    (inv : FreshInvariant platform input policies s) (graph : next.graph = s.graph)
    (policyManager : next.policyManager = s.policyManager)
    (committed : next.committed = s.committed) (streams : next.streams = s.streams)
    (reported : s.graph.reported ⊆ next.forwarded) (forwarded : next.forwarded ⊆ next.answered) :
    FreshInvariant platform input policies next := by
  have paths := inv.paths
  constructor
  · constructor
    · rw [graph]
      exact paths.pipeline
    · rw [graph]
      exact paths.graph
    · rw [graph]
      exact paths.writers
    · rw [graph]
      exact reported
    · exact forwarded
    · rw [graph, committed]
      exact paths.committed
  · rw [policyManager]
    exact inv.stamped
  · rw [policyManager, committed]
    exact inv.current
  · intro index
    rw [streams]
    apply (inv.streams index).mono
    · rw [policyManager]
    · rw [policyManager]
      exact fun _ _ _ follows => follows
    · rw [graph]
      exact fun _ mem => mem
    · rw [committed]
      exact fun _ _ _ fresh => fresh

theorem FreshInvariant.step
    (isForwarded : ∀ tx ∈ input.flatten, Sidecar.Forwarded platform tx.content)
    (inv : FreshInvariant platform input policies s) {action : CoordinatorAction}
    (stepped : coordinatorStep platform input s action = some next) :
    FreshInvariant platform input policies next := by
  have paths := inv.paths
  cases action with
  | graph action =>
    simp only [coordinatorStep] at stepped
    split at stepped
    · next allowed =>
      obtain ⟨graph, graphStepped, rfl⟩ := map_eq_some_iff.mp stepped
      exact inv.graph (distinctWrites_of_forwarded isForwarded) allowed graphStepped
    · cases stepped
  | answer n status =>
    simp only [coordinatorStep, answer] at stepped
    split at stepped
    · next accepted =>
      split at stepped
      · cases stepped
        exact inv.answerCommitted isForwarded accepted.1 accepted.2
      · cases stepped
        exact
          inv.of_same rfl rfl rfl rfl paths.reported
            (paths.forwarded.trans (Finset.subset_insert n _))
    · cases stepped
  | forward n =>
    simp only [coordinatorStep] at stepped
    split at stepped
    · next accepted =>
      cases stepped
      refine inv.of_same rfl rfl rfl rfl (paths.reported.trans (Finset.subset_insert n _)) ?_
      exact Finset.insert_subset accepted.1 paths.forwarded
    · cases stepped
  | restore n =>
    simp only [coordinatorStep] at stepped
    split at stepped
    · next accepted =>
      cases stepped
      refine inv.of_same rfl rfl rfl rfl paths.reported ?_
      intro m mem
      refine Finset.mem_erase.mpr ⟨?_, paths.forwarded mem⟩
      rintro rfl
      exact accepted.2 mem
    · cases stepped
  | sender index action =>
    obtain ⟨stream, senderStepped, rfl⟩ := map_eq_some_iff.mp stepped
    refine ⟨⟨?_, ?_, ?_, ?_, ?_, ?_⟩, inv.stamped, inv.current, ?_⟩
    · exact paths.pipeline
    · exact paths.graph
    · exact paths.writers
    · exact paths.reported
    · exact paths.forwarded
    · exact paths.committed
    · intro other
      have sound :
          StreamSound platform input policies s (Function.update s.streams index stream other) := by
        by_cases same : other = index
        · rw [same, Function.update_self]
          exact (inv.streams index).step inv.stamped inv.current senderStepped
        · rw [Function.update_of_ne same]
          exact inv.streams other
      exact
        sound.mono (Nat.le_refl _) (fun _ _ _ follows => follows)
          (fun _ mem => mem) (fun _ _ _ fresh => fresh)

/-- Whenever a transaction is sent on a stream, the updates sent on it up to and
including the message give, for every namespace the transaction uses, a policy at least
as recent as that of every committed lifecycle transaction before it. -/
theorem sent_policies_fresh
    (isForwarded : ∀ tx ∈ input.flatten, Sidecar.Forwarded platform tx.content)
    {waitingTxsLimit : Nat} {envelope : Option Bytes} {actions : List CoordinatorAction}
    (reached : (coordinator platform input waitingTxsLimit policies envelope).run actions = some s)
    {index : Nat} {before after : List VerifierBatch} {message : VerifierBatch}
    (sent : (s.streams index).sent = before ++ message :: after)
    {n : Nat} (carried : n ∈ message.requests) {ns : Bytes} (uses : UsesNamespace input n ns)
    {origin : Origin} (earlier : origin.Before n) (isCommitted : origin.IsCommitted s.committed)
    (hasPolicy : HasPolicy platform input policies ns origin) :
    AtLeast input policies s.committed ns origin fun item =>
      lastItem ns (receivedItems (before ++ [message])) = some item := by
  have invariant :=
    (coordinator platform input waitingTxsLimit policies envelope).invariant_run
      (FreshInvariant platform input policies)
      (freshInvariant_initial waitingTxsLimit envelope)
      (fun _ _ _ holds stepped => holds.step isForwarded stepped) reached
  have fresh := (invariant.streams index).sentFresh before message after sent n carried
  exact fresh.2 ns uses origin earlier isCommitted hasPolicy

/-- If a verifier that has accepted the updates sent on its stream up to a message passes
a transaction of the message, then each of its namespaces was endorsed under a policy at
least as recent as that of every committed lifecycle transaction before it. -/
theorem passed_under_fresh_policy
    (isForwarded : ∀ tx ∈ input.flatten, Sidecar.Forwarded platform tx.content)
    {waitingTxsLimit : Nat} {envelope : Option Bytes} {actions : List CoordinatorAction}
    (reached : (coordinator platform input waitingTxsLimit policies envelope).run actions = some s)
    {index : Nat} {before after : List VerifierBatch} {message : VerifierBatch}
    (sent : (s.streams index).sent = before ++ message :: after) {Policy Msp DigestVerifier : Type}
    {parsers : Parsers Policy Msp DigestVerifier} {v : VerifierState Policy Msp DigestVerifier}
    (accepted :
      Accepted parsers platform ((before ++ [message]).filterMap VerifierBatch.update) v)
    {n : Nat} (carried : n ∈ message.requests) {tx : Request}
    (isRequest : tx.namespaces = namespacesOf input n) {checks : Checks Policy DigestVerifier}
    (passed : (verifyRequest checks v tx).status = .committed)
    {nsIndex : Nat} {ns : TxNamespace} (listed : tx.namespaces[nsIndex]? = some ns)
    (notConfig : ns.nsId ≠ configNamespaceID)
    {origin : Origin} (earlier : origin.Before n) (isCommitted : origin.IsCommitted s.committed)
    (hasPolicy : HasPolicy platform input policies ns.nsId origin) :
    AtLeast input policies s.committed ns.nsId origin fun item =>
      ∃ bundle nsVerifier, v.bundle = some bundle ∧
        createNamespaceVerifier parsers platform item bundle.mspManager = .ok nsVerifier ∧
          nsVerifier.verifyNs checks tx nsIndex = .ok () := by
  have invariant :=
    (coordinator platform input waitingTxsLimit policies envelope).invariant_run
      (FreshInvariant platform input policies)
      (freshInvariant_initial waitingTxsLimit envelope)
      (fun _ _ _ holds stepped => holds.step isForwarded stepped) reached
  have fresh := (invariant.streams index).sentFresh before message after sent n carried
  have uses : UsesNamespace input n ns.nsId := ⟨ns, isRequest ▸ mem_of_getElem? listed, rfl⟩
  have recent := fresh.2 ns.nsId uses origin earlier isCommitted hasPolicy
  obtain ⟨nsVerifier, stored, verified⟩ :=
    (verifyNamespaces_eq_committed checks).mp passed (ns, nsIndex)
      (mk_mem_zipIdx_iff_getElem?.mpr listed) notConfig
  rcases accepted_tracked accepted with ⟨_, _, nothing⟩ | ⟨bundle, conforms⟩
  · obtain ⟨source, policy, _, _, _, last⟩ := recent
    rw [receivedItems, nothing] at last
    cases last
  · refine recent.imp (Finset.Subset.refl _) ?_
    intro policy last
    obtain ⟨_, created, found⟩ := conforms.named ns.nsId _ last
    cases stored.symm.trans found
    exact ⟨bundle, nsVerifier, conforms.bundle_eq, created, verified⟩

end

/-! ## A run with a reconnection -/

/-- The policy of namespace `a` is changed, and then namespace `a` is used. -/
def lifecycleInput : List (List TxWithRef) := [[policyUpdateTx], [dataTx 1 [2]]]

def recoveredPolicies : List PolicyItem := [⟨[0x61], [1]⟩]

def lifecycleMessage : VerifierBatch where
  update := some { config := some [], namespacePolicies := some [⟨[0x61], [2]⟩] }
  requests := [1]

/-- The lifecycle transaction is sent on the first stream, which fails; the
transaction that uses the namespace is sent on the second one. -/
def lifecycleRun : List CoordinatorAction :=
  batchSteps.map .graph ++
    [.sender 0 (.read [0]), .sender 0 .loadVersion,
      .sender 0 (.getUpdates [⟨⟨[0x61], [1]⟩, 1⟩]), .sender 0 (.split [2]),
      .sender 0 .send, .answer 0 .committed, .forward 0] ++
    ((validationSteps [0]).map .graph ++ batchSteps.map .graph) ++
    [.sender 0 (.read [1]), .sender 0 .fail, .sender 1 (.read [1]),
      .sender 1 .loadVersion, .sender 1 (.getUpdates [⟨⟨[0x61], [2]⟩, 2⟩]),
      .sender 1 (.split [1]), .sender 1 .send]

theorem lifecycleRun_sent_fresh :
    ∃ s,
      (coordinator permissivePlatform lifecycleInput 10 recoveredPolicies none).run lifecycleRun =
          some s ∧
        (s.streams 1).sent = [lifecycleMessage] ∧
          AtLeast lifecycleInput recoveredPolicies s.committed [0x61] (.tx 0)
            fun item => lastItem [0x61] (receivedItems [lifecycleMessage]) = some item := by
  have evaluated :
      ((coordinator permissivePlatform lifecycleInput 10 recoveredPolicies
            none).run lifecycleRun).map
          (fun s => ((s.streams 1).sent, decide (0 ∈ s.committed))) =
        some ([lifecycleMessage], true) := by
    decide +kernel
  obtain ⟨s, reached, outcome⟩ := map_eq_some_iff.mp evaluated
  obtain ⟨sent, isCommitted⟩ := Prod.mk.inj outcome
  have forwarded :
      ∀ tx ∈ lifecycleInput.flatten, Sidecar.Forwarded permissivePlatform tx.content := by
    have accepted :
        ∀ tx ∈ lifecycleInput.flatten,
          Sidecar.verifyTxForm permissivePlatform tx.content = Sidecar.statusNotYetValidated := by
      decide +kernel
    exact fun tx member => Or.inl (accepted tx member)
  have committed : 0 ∈ s.committed := of_decide_eq_true isCommitted
  have split : (s.streams 1).sent = [] ++ lifecycleMessage :: [] := sent
  have uses : UsesNamespace lifecycleInput 1 [0x61] := ⟨_, mem_cons_self, rfl⟩
  have writes : HasPolicy permissivePlatform lifecycleInput recoveredPolicies [0x61] (.tx 0) :=
    ⟨.readWrite, by decide, by decide⟩
  refine ⟨s, reached, sent, ?_⟩
  exact
    sent_policies_fresh forwarded reached split mem_cons_self uses Nat.zero_lt_one committed writes

/-- A policy accepts its own bytes as a signature. -/
def sampleChecks : Checks Bytes Bytes where
  asn1Marshal := fun _ txId _ => .ok txId
  sha256 := id
  verifyDigest := fun _ _ _ => .error "invalid"
  evaluateSignedData := fun policy signed =>
    if signed.map SignedData.signature = [policy] then .ok () else .error "invalid"

def endorsedRequest : Request where
  ref := (dataTx 1 [2]).ref
  namespaces := (dataTx 1 [2]).content.namespaces
  metadata := []
  endorsements := [[⟨[0, 2], some [7]⟩]]

theorem lifecycleRun_passed :
    ∃ v policy bundle nsVerifier,
      (verifyRequest sampleChecks v endorsedRequest).status = .committed ∧
        v.bundle = some bundle ∧
          createNamespaceVerifier sampleParsers permissivePlatform ⟨[0x61], policy⟩
              bundle.mspManager = .ok nsVerifier ∧
            nsVerifier.verifyNs sampleChecks endorsedRequest 0 = .ok () := by
  have evaluated :
      ((coordinator permissivePlatform lifecycleInput 10 recoveredPolicies
            none).run lifecycleRun).map
          (fun s => ((s.streams 1).sent, decide (0 ∈ s.committed))) =
        some ([lifecycleMessage], true) := by
    decide +kernel
  obtain ⟨s, reached, outcome⟩ := map_eq_some_iff.mp evaluated
  obtain ⟨sent, isCommitted⟩ := Prod.mk.inj outcome
  have formed :
      ∀ tx ∈ lifecycleInput.flatten,
        Sidecar.verifyTxForm permissivePlatform tx.content = Sidecar.statusNotYetValidated := by
    decide +kernel
  have committed : 0 ∈ s.committed := of_decide_eq_true isCommitted
  have earlier : Origin.Before 1 (.tx 0) := Nat.zero_lt_one
  have split : (s.streams 1).sent = [] ++ lifecycleMessage :: [] := sent
  have accepted :
      ∃ v,
        Accepted sampleParsers permissivePlatform
            ([lifecycleMessage].filterMap VerifierBatch.update) v ∧
          (verifyRequest sampleChecks v endorsedRequest).status = .committed :=
    ⟨_, .update .start empty_visits rfl, by decide⟩
  obtain ⟨v, accepted, passed⟩ := accepted
  have listed : endorsedRequest.namespaces[0]? = some ⟨[0x61], 0, [], [], [⟨[2], [1]⟩]⟩ := rfl
  obtain ⟨_, policy, _, _, _, bundle, nsVerifier, verified⟩ :=
    passed_under_fresh_policy (fun tx mem => .inl (formed tx mem)) reached split accepted
      mem_cons_self rfl passed listed (by decide) earlier committed
      ⟨.readWrite, by decide, by decide⟩
  exact ⟨v, policy, bundle, nsVerifier, passed, verified⟩

end FabricXCommitter.Coordinator
