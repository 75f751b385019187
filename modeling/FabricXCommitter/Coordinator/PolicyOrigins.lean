import FabricXCommitter.Coordinator.PolicyManager
import FabricXCommitter.DependencyGraph.WriterOrder

/-!
# Where policies come from
-/

namespace FabricXCommitter.Coordinator

open DependencyGraph Library Verifier List

def WritesPolicy (namespaces : List TxNamespace) (ns policy : Bytes) : Prop :=
  ∃ entry ∈ namespaces, entry.nsId = metaNamespaceID ∧
    ∃ rw ∈ entry.readWrites, rw.key = ns ∧ rw.value = policy

theorem mem_items_getUpdatesFromNamespace (entry : TxNamespace) (item : PolicyItem) :
    (∃ u, getUpdatesFromNamespace entry = some u ∧ item ∈ u.items) ↔
      entry.nsId = metaNamespaceID ∧
        ∃ rw ∈ entry.readWrites, rw.key = item.nsId ∧ rw.value = item.policy := by
  by_cases lifecycle : entry.nsId = metaNamespaceID
  · obtain ⟨nsId, policy⟩ := item
    rw [getUpdatesFromNamespace, if_pos lifecycle]
    simp [VerifierUpdates.items, lifecycle]
  · rw [getUpdatesFromNamespace, if_neg lifecycle]
    simp only [lifecycle, false_and, iff_false, not_exists, not_and]
    intro u updated listed
    split at updated
    · obtain ⟨_, _, rfl⟩ := Option.map_eq_some_iff.mp updated
      cases listed
    · cases updated

theorem mem_items_of_namespaces (namespaces : List TxNamespace) (item : PolicyItem) :
    item ∈ itemsOf (namespaces.filterMap getUpdatesFromNamespace) ↔
      WritesPolicy namespaces item.nsId item.policy := by
  rw [itemsOf, mem_flatMap]
  constructor
  · rintro ⟨u, mem, listed⟩
    obtain ⟨entry, entryMem, updated⟩ := mem_filterMap.mp mem
    exact ⟨entry, entryMem, (mem_items_getUpdatesFromNamespace entry item).mp ⟨u, updated, listed⟩⟩
  · rintro ⟨entry, entryMem, written⟩
    obtain ⟨u, updated, listed⟩ := (mem_items_getUpdatesFromNamespace entry item).mpr written
    exact ⟨u, mem_filterMap.mpr ⟨entry, entryMem, updated⟩, listed⟩

variable {n : Nat} {ns : Bytes}

section

variable (platform : Platform) (input : List (List TxWithRef))

def UsesNamespace (n : Nat) (ns : Bytes) : Prop := ∃ entry ∈ namespacesOf input n, entry.nsId = ns

/-- The transaction writes the policy of a namespace, blindly or not. -/
def WritesMeta (n : Nat) (ns : Bytes) : Prop :=
  ∃ access, access ≠ Access.readOnly ∧
    (metaNamespaceID, ns) ∈ accessedPairs platform (namespacesOf input n) access

variable {platform input}

theorem namespacesOf_none (outside : input.flatten[n]? = none) : namespacesOf input n = [] := by
  rw [namespacesOf, outside]

theorem namespacesOf_some {tx : TxWithRef} (located : input.flatten[n]? = some tx) :
    namespacesOf input n = tx.content.namespaces := by
  rw [namespacesOf, located]

theorem rwKeys_namespacesOf (n : Nat) :
    rwKeys platform input n = readAndWriteKeys platform (namespacesOf input n) := by
  rw [rwKeys, namespacesOf]
  cases input.flatten[n]? with
  | none => rfl
  | some tx => rfl

theorem WritesMeta.lifecycle
    (forwarded : ∀ tx ∈ input.flatten, Sidecar.Forwarded platform tx.content)
    (writes : WritesMeta platform input n ns) :
    platform.isSystemNamespace ns = false ∧
      ∃ policy, WritesPolicy (namespacesOf input n) ns policy := by
  obtain ⟨access, notRead, accessed⟩ := writes
  cases located : input.flatten[n]? with
  | none =>
    rw [namespacesOf_none located] at accessed
    cases access <;> cases accessed
  | some tx =>
    rw [namespacesOf_some located] at accessed ⊢
    rcases forwarded tx (mem_of_getElem? located) with accepted | ⟨value, config⟩
    · have formed := Sidecar.wellFormed_of_verifyTxForm accepted
      cases access with
      | readOnly => exact absurd rfl notRead
      | writeOnly =>
        obtain ⟨entry, mem, inside⟩ := mem_flatMap.mp accessed
        obtain ⟨w, written, same⟩ := mem_map.mp inside
        have isMeta : entry.nsId = metaNamespaceID := congrArg Prod.fst same
        rw [((formed.each entry mem).lifecycleForm isMeta).1] at written
        cases written
      | readWrite =>
        obtain ⟨entry, mem, inside⟩ := mem_flatMap.mp accessed
        obtain ⟨rw, written, same⟩ := mem_map.mp inside
        have isMeta : entry.nsId = metaNamespaceID := congrArg Prod.fst same
        have sameKey : rw.key = ns := congrArg Prod.snd same
        have ordinary := (((formed.each entry mem).lifecycleForm isMeta).2 rw written).1
        rw [sameKey] at ordinary
        exact ⟨ordinary, rw.value, entry, mem, isMeta, rw, written, sameKey, rfl⟩
    · rw [config] at accessed
      cases access with
      | readOnly => exact absurd rfl notRead
      | readWrite => cases accessed
      | writeOnly =>
        simp [accessedPairs, Sidecar.configTx, metaNamespaceID, configNamespaceID] at accessed

theorem WritesPolicy.writtenKey
    {policy : Bytes} (writes : WritesPolicy (namespacesOf input n) ns policy) :
    constructCompositeKey metaNamespaceID ns ∈ (rwKeys platform input n).keysOf .readWrite := by
  obtain ⟨entry, mem, isMeta, rw, written, sameKey, _⟩ := writes
  rw [rwKeys_namespacesOf, keysOf_readAndWriteKeys]
  apply mem_map.mpr
  refine ⟨(metaNamespaceID, ns), ?_, rfl⟩
  apply mem_flatMap.mpr
  refine ⟨entry, mem, mem_map.mpr ⟨rw, written, ?_⟩⟩
  rw [isMeta, sameKey]

theorem UsesNamespace.readKey
    (uses : UsesNamespace input n ns) (ordinary : platform.isSystemNamespace ns = false) :
    constructCompositeKey metaNamespaceID ns ∈ (rwKeys platform input n).keysOf .readOnly := by
  obtain ⟨entry, mem, sameNs⟩ := uses
  rw [rwKeys_namespacesOf, keysOf_readAndWriteKeys]
  apply mem_map.mpr
  refine ⟨(metaNamespaceID, ns), ?_, rfl⟩
  apply mem_flatMap.mpr
  refine ⟨entry, mem, mem_append_left _ ?_⟩
  rw [sameNs, ordinary]
  exact mem_singleton_self _

theorem followsWriter_of_uses
    (forwarded : ∀ tx ∈ input.flatten, Sidecar.Forwarded platform tx.content)
    {earlier later : Nat} (writes : WritesMeta platform input earlier ns)
    (uses : UsesNamespace input later ns) :
    FollowsWriter (rwKeys platform input later) (rwKeys platform input earlier) := by
  obtain ⟨ordinary, policy, written⟩ := writes.lifecycle forwarded
  exact ⟨_, .readOnly, uses.readKey ordinary, written.writtenKey⟩

theorem followsWriter_of_writes
    (forwarded : ∀ tx ∈ input.flatten, Sidecar.Forwarded platform tx.content)
    {earlier later : Nat} {policy : Bytes}
    (writes : WritesPolicy (namespacesOf input earlier) ns policy)
    (laterWrites : WritesMeta platform input later ns) :
    FollowsWriter (rwKeys platform input later) (rwKeys platform input earlier) := by
  obtain ⟨_, laterPolicy, laterWritten⟩ := laterWrites.lifecycle forwarded
  exact ⟨_, .readWrite, laterWritten.writtenKey, writes.writtenKey⟩

end

/-- Where a policy comes from. -/
inductive Origin where
  | stateDB
  | tx (n : Nat)
  deriving DecidableEq, Repr

namespace Origin

def Before (later : Nat) : Origin → Prop
  | .stateDB => True
  | .tx n => n < later

/-- The policies of the state database are older than those of all transactions. -/
def NotAfter : Origin → Origin → Prop
  | .stateDB, _ => True
  | .tx _, .stateDB => False
  | .tx n, .tx m => n ≤ m

def IsCommitted (committed : Finset Nat) : Origin → Prop
  | .stateDB => True
  | .tx n => n ∈ committed

end Origin

section

variable (platform : Platform) (input : List (List TxWithRef))
variable (policies : List PolicyItem)

/-- The state database or the transaction has a policy for the namespace. -/
def HasPolicy (ns : Bytes) : Origin → Prop
  | .stateDB => ∃ item ∈ policies, item.nsId = ns
  | .tx n => WritesMeta platform input n ns

def PolicyAt (ns policy : Bytes) : Origin → Prop
  | .stateDB => lastItem ns policies = some ⟨ns, policy⟩
  | .tx n => WritesPolicy (namespacesOf input n) ns policy

/-- The known policy of the namespace is that of a committed origin that is not older
than the given one. -/
def AtLeast
    (committed : Finset Nat) (ns : Bytes) (origin : Origin) (known : PolicyItem → Prop) : Prop :=
  ∃ source policy, origin.NotAfter source ∧ source.IsCommitted committed ∧
    PolicyAt input policies ns policy source ∧ known ⟨ns, policy⟩

/-- For every namespace that the transaction uses, the last item is at least as recent
as the policy of every committed origin before the transaction. -/
def Fresh (committed : Finset Nat) (n : Nat) (items : List PolicyItem) : Prop :=
  ∀ ns, UsesNamespace input n ns →
    ∀ origin : Origin, origin.Before n → origin.IsCommitted committed →
      HasPolicy platform input policies ns origin →
        AtLeast input policies committed ns origin fun item => lastItem ns items = some item

def Current (committed : Finset Nat) (entries : List (Versioned.Entry PolicyItem)) : Prop :=
  ∀ ns (origin : Origin), origin.IsCommitted committed →
    HasPolicy platform input policies ns origin →
      AtLeast input policies committed ns origin fun item => ∃ entry ∈ entries, entry.item = item

variable {platform input policies}
  {committed : Finset Nat}

theorem AtLeast.imp {origin : Origin} {known known' : PolicyItem → Prop}
    (recent : AtLeast input policies committed ns origin known)
    {committed' : Finset Nat} (grows : committed ⊆ committed')
    (imp : ∀ policy, known ⟨ns, policy⟩ → known' ⟨ns, policy⟩) :
    AtLeast input policies committed' ns origin known' := by
  obtain ⟨source, policy, order, isCommitted, isPolicy, holds⟩ := recent
  refine ⟨source, policy, order, ?_, isPolicy, imp policy holds⟩
  cases source with
  | stateDB => trivial
  | tx m => exact grows isCommitted

theorem Current.fresh {entries : List (Versioned.Entry PolicyItem)}
    (current : Current platform input policies committed entries) {latest : Nat}
    (stamped : Versioned.Stamped PolicyItem.nsId latest entries) {items : List PolicyItem}
    (follows : Versioned.Follows PolicyItem.nsId entries latest items) (n : Nat) :
    Fresh platform input policies committed n items := by
  intro ns _ origin _ isCommitted hasPolicy
  refine (current ns origin isCommitted hasPolicy).imp Finset.Subset.rfl ?_
  rintro policy ⟨entry, stored, same⟩
  have last := follows entry stored (stamped.bounded entry stored)
  rw [same] at last
  rw [lastItem_eq_lastOf]
  exact last

/-- A transaction stays fresh if a transaction is committed that is later, or that
writes none of the policies it needs. -/
theorem Fresh.insert
    {items : List PolicyItem} (fresh : Fresh platform input policies committed n items) {m : Nat}
    (unrelated : ∀ ns, UsesNamespace input n ns → m < n → ¬ WritesMeta platform input m ns) :
    Fresh platform input policies (insert m committed) n items := by
  intro ns uses origin before isCommitted hasPolicy
  refine
    (fresh ns uses origin before ?_ hasPolicy).imp (Finset.subset_insert m _) (fun _ holds => holds)
  cases origin with
  | stateDB => trivial
  | tx k =>
    rcases Finset.mem_insert.mp isCommitted with same | old
    · rw [same] at before hasPolicy
      exact absurd hasPolicy (unrelated ns uses before)
    · exact old

/-- A committed transaction stores its policies.  They replace those of earlier
transactions. -/
theorem Current.insert (forwarded : ∀ tx ∈ input.flatten, Sidecar.Forwarded platform tx.content)
    {entries : List (Versioned.Entry PolicyItem)}
    (current : Current platform input policies committed entries)
    (latest :
      ∀ m ∈ committed, n < m → ¬ FollowsWriter (rwKeys platform input m) (rwKeys platform input n))
    (version : Nat) :
    Current platform input policies (insert n committed)
      (Versioned.putAll PolicyItem.nsId version entries
        (itemsOf ((namespacesOf input n).filterMap getUpdatesFromNamespace))) := by
  intro ns origin isCommitted hasPolicy
  cases last : lastItem ns (itemsOf ((namespacesOf input n).filterMap getUpdatesFromNamespace)) with
  | some item =>
    rw [lastItem_eq_lastOf] at last
    obtain ⟨listed, sameNs⟩ := Versioned.mem_of_lastOf last
    obtain ⟨nsId, policy⟩ := item
    obtain rfl : nsId = ns := sameNs
    have written := (mem_items_of_namespaces _ _).mp listed
    refine
      ⟨.tx n, policy, ?_, Finset.mem_insert_self n committed, written, _,
        Versioned.mem_putAll_of_lastOf last, rfl⟩
    cases origin with
    | stateDB => trivial
    | tx m =>
      rcases Finset.mem_insert.mp isCommitted with same | old
      · exact Nat.le_of_eq same
      · by_contra later
        exact
          latest m old (Nat.lt_of_not_le later)
            (followsWriter_of_writes forwarded written hasPolicy)
  | none =>
    have before : origin.IsCommitted committed := by
      cases origin with
      | stateDB => trivial
      | tx m =>
        rcases Finset.mem_insert.mp isCommitted with rfl | old
        · obtain ⟨_, policy, written⟩ := WritesMeta.lifecycle forwarded hasPolicy
          rw [lastItem_eq_none_iff] at last
          exact absurd rfl (last ⟨ns, policy⟩ ((mem_items_of_namespaces _ _).mpr written))
        · exact old
    refine (current ns origin before hasPolicy).imp (Finset.subset_insert n _) ?_
    rintro policy ⟨entry, stored, same⟩
    refine ⟨entry, Versioned.mem_putAll_of_not_put stored ?_, same⟩
    rw [same, ← lastItem_eq_lastOf]
    exact last

theorem current_recovered (version : Nat) :
    Current platform input policies ∅ (Versioned.putAll PolicyItem.nsId version [] policies) := by
  intro ns origin isCommitted hasPolicy
  cases origin with
  | tx m => cases isCommitted
  | stateDB =>
    obtain ⟨item, mem, sameNs⟩ := hasPolicy
    cases last : lastItem ns policies with
    | none =>
      rw [lastItem_eq_none_iff] at last
      exact absurd sameNs (last item mem)
    | some latest =>
      obtain ⟨nsId, policy⟩ := latest
      obtain rfl : nsId = ns := lastItem_nsId last
      refine ⟨.stateDB, policy, trivial, trivial, last, ⟨⟨nsId, policy⟩, version⟩, ?_, rfl⟩
      rw [lastItem_eq_lastOf] at last
      exact Versioned.mem_putAll_of_lastOf last

end

end FabricXCommitter.Coordinator
