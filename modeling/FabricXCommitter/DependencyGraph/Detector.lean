import FabricXCommitter.Transaction
import Mathlib.Data.Finset.Card
import Mathlib.Data.List.Nodup

/-!
# Keys of a transaction, the dependency detector and conflicts

A node is the position of its transaction, and a Go map to node sets is a function to
optional finite sets.
-/

namespace FabricXCommitter.DependencyGraph

open List Function

/-! ## The keys of a transaction -/

structure ReadWriteKeys where
  readsOnly : List Bytes
  writesOnly : List Bytes
  readsAndWrites : List Bytes
  deriving DecidableEq, Repr

/-- The three ways in which a transaction accesses a key. -/
inductive Access where
  | readOnly
  | writeOnly
  | readWrite
  deriving DecidableEq, Repr

def ReadWriteKeys.keysOf (keys : ReadWriteKeys) : Access → List Bytes
  | .readOnly => keys.readsOnly
  | .writeOnly => keys.writesOnly
  | .readWrite => keys.readsAndWrites

/-- The namespace is length-prefixed by one byte, the key is the remainder. -/
def constructCompositeKey (ns key : Bytes) : Bytes := UInt8.ofNat ns.length :: (ns ++ key)

def readAndWriteKeys (platform : Platform) (txNamespaces : List TxNamespace) : ReadWriteKeys where
  readsOnly :=
    txNamespaces.flatMap fun ns =>
      (if !platform.isSystemNamespace ns.nsId then
        [constructCompositeKey metaNamespaceID ns.nsId]
      else
        []) ++
        ns.readsOnly.map fun ro => constructCompositeKey ns.nsId ro.key
  writesOnly :=
    txNamespaces.flatMap fun ns => ns.blindWrites.map fun w => constructCompositeKey ns.nsId w.key
  readsAndWrites :=
    txNamespaces.flatMap fun ns => ns.readWrites.map fun rw => constructCompositeKey ns.nsId rw.key

/-- Two transactions share a key that at least one of them writes. -/
def KeysConflict (later earlier : ReadWriteKeys) : Prop :=
  ∃ key laterAccess earlierAccess,
    key ∈ later.keysOf laterAccess ∧ key ∈ earlier.keysOf earlierAccess ∧
      ¬ (laterAccess = .readOnly ∧ earlierAccess = .readOnly)

/-! ## Maps from keys to waiting transactions -/

abbrev KeyToTransactions := Bytes → Option (Finset Nat)

variable {keyToTx : KeyToTransactions} {tx : Nat} {key : Bytes}

namespace KeyToTransactions

def lookup (keyToTx : KeyToTransactions) (key : Bytes) : Finset Nat := (keyToTx key).getD ∅

def addOne (tx : Nat) (keyToTx : KeyToTransactions) (key : Bytes) : KeyToTransactions :=
  update keyToTx key (some (insert tx (lookup keyToTx key)))

def add (keyToTx : KeyToTransactions) (keys : List Bytes) (tx : Nat) : KeyToTransactions :=
  keys.foldl (addOne tx) keyToTx

/-- One iteration of `remove`: a key with a single transaction is deleted
without comparing that transaction with `tx`. -/
def removeOne (tx : Nat) (keyToTx : KeyToTransactions) (key : Bytes) : KeyToTransactions :=
  match (lookup keyToTx key).card with
  | 1 => update keyToTx key none
  | 0 => keyToTx
  | _ => update keyToTx key (some ((lookup keyToTx key).erase tx))

def remove (keyToTx : KeyToTransactions) (keys : List Bytes) (tx : Nat) : KeyToTransactions :=
  keys.foldl (removeOne tx) keyToTx

def merge (keyToTx inputKeyToTx : KeyToTransactions) : KeyToTransactions :=
  fun key =>
    match inputKeyToTx key with
    | none => keyToTx key
    | some srcTxList =>
      match keyToTx key with
      | none => some srcTxList
      | some destTxList => some (destTxList ∪ srcTxList)

def Occupied (keyToTx : KeyToTransactions) : Prop :=
  ∀ key txs, keyToTx key = some txs → txs.Nonempty

theorem lookup_update_some (keyToTx : KeyToTransactions) (key other : Bytes) (txs : Finset Nat) :
    lookup (update keyToTx key (some txs)) other =
      if other = key then txs else lookup keyToTx other := by
  unfold lookup
  by_cases same : other = key
  · subst other
    simp
  · simp [same]

theorem lookup_update_none (keyToTx : KeyToTransactions) (key other : Bytes) :
    lookup (update keyToTx key none) other =
      if other = key then ∅ else lookup keyToTx other := by
  unfold lookup
  by_cases same : other = key
  · subst other
    simp
  · simp [same]

theorem mem_lookup_add
    (keyToTx : KeyToTransactions) (keys : List Bytes) (tx node : Nat) (key : Bytes) :
    node ∈ lookup (add keyToTx keys tx) key ↔
      node ∈ lookup keyToTx key ∨ (node = tx ∧ key ∈ keys) := by
  induction keys generalizing keyToTx with
  | nil => simp [add]
  | cons head rest ih =>
    change node ∈ lookup (add (addOne tx keyToTx head) rest tx) key ↔ _
    rw [ih, addOne, lookup_update_some]
    by_cases same : key = head
    · subst key
      rw [if_pos rfl, Finset.mem_insert]
      constructor
      · rintro ((equal | waiting) | ⟨equal, _⟩)
        · exact .inr ⟨equal, mem_cons_self⟩
        · exact .inl waiting
        · exact .inr ⟨equal, mem_cons_self⟩
      · rintro (waiting | ⟨equal, _⟩)
        · exact .inl (.inr waiting)
        · exact .inl (.inl equal)
    · rw [if_neg same, mem_cons, or_iff_right same]

theorem occupied_add (occupied : Occupied keyToTx) (keys : List Bytes) (tx : Nat) :
    Occupied (add keyToTx keys tx) := by
  induction keys generalizing keyToTx with
  | nil => exact occupied
  | cons head rest ih =>
    apply ih
    intro key txs present
    rw [addOne, update_apply] at present
    split at present
    · cases present
      exact Finset.insert_nonempty _ _
    · exact occupied key txs present

theorem mem_lookup_merge (keyToTx inputKeyToTx : KeyToTransactions) (node : Nat) (key : Bytes) :
    node ∈ lookup (merge keyToTx inputKeyToTx) key ↔
      node ∈ lookup keyToTx key ∨ node ∈ lookup inputKeyToTx key := by
  unfold lookup merge
  cases inputKeyToTx key with
  | none => simp
  | some srcTxList =>
    cases keyToTx key with
    | none => simp
    | some destTxList => simp

theorem occupied_merge {inputKeyToTx : KeyToTransactions}
    (occupied : Occupied keyToTx) (inputOccupied : Occupied inputKeyToTx) :
    Occupied (merge keyToTx inputKeyToTx) := by
  intro key txs present
  unfold merge at present
  split at present
  · exact occupied key txs present
  · rename_i srcTxList inputPresent
    have inputNonempty := inputOccupied key srcTxList inputPresent
    split at present
    · cases present
      exact inputNonempty
    · cases present
      exact inputNonempty.inr

theorem removeOne_of_ne {other : Bytes} (different : other ≠ key) :
    removeOne tx keyToTx key other = keyToTx other := by
  unfold removeOne
  generalize (lookup keyToTx key).card = size
  rcases size with _ | _ | size <;> simp [different]

theorem lookup_removeOne_of_ne {other : Bytes} (different : other ≠ key) :
    lookup (removeOne tx keyToTx key) other = lookup keyToTx other := by
  rw [lookup, lookup, removeOne_of_ne different]

theorem lookup_removeOne_self_subset (tx : Nat) (keyToTx : KeyToTransactions) (key : Bytes) :
    lookup (removeOne tx keyToTx key) key ⊆ (lookup keyToTx key).erase tx := by
  unfold removeOne
  split
  · rw [lookup_update_none, if_pos rfl]
    exact Finset.empty_subset _
  · rename_i empty
    rw [Finset.card_eq_zero] at empty
    rw [empty]
    exact Finset.empty_subset _
  · rw [lookup_update_some, if_pos rfl]

theorem lookup_removeOne_self (waiting : tx ∈ lookup keyToTx key) :
    lookup (removeOne tx keyToTx key) key = (lookup keyToTx key).erase tx := by
  unfold removeOne
  split
  · rename_i single
    obtain ⟨only, eq⟩ := Finset.card_eq_one.mp single
    rw [eq] at waiting ⊢
    rw [lookup_update_none, if_pos rfl, Finset.mem_singleton.mp waiting]
    simp
  · rename_i empty
    rw [Finset.card_eq_zero] at empty
    rw [empty] at waiting
    simp at waiting
  · rw [lookup_update_some, if_pos rfl]

theorem occupied_removeOne (occupied : Occupied keyToTx) (tx : Nat) (key : Bytes) :
    Occupied (removeOne tx keyToTx key) := by
  have erased := Finset.pred_card_le_card_erase (s := lookup keyToTx key) (a := tx)
  unfold removeOne
  rcases size : (lookup keyToTx key).card with _ | _ | rest
  · exact occupied
  · intro other txs present
    simp only [Nat.zero_add, update_apply] at present
    split at present
    · cases present
    · exact occupied other txs present
  · intro other txs present
    simp only [update_apply] at present
    split at present
    · cases present
      rw [← Finset.card_pos]
      omega
    · exact occupied other txs present

theorem mem_lookup_remove_imp
    {keys : List Bytes} {node : Nat} (waiting : node ∈ lookup (remove keyToTx keys tx) key) :
    node ∈ lookup keyToTx key ∧ ¬ (node = tx ∧ key ∈ keys) := by
  induction keys generalizing keyToTx with
  | nil => exact ⟨waiting, by simp⟩
  | cons head rest ih =>
    obtain ⟨after, notRest⟩ := ih waiting
    by_cases same : key = head
    · subst key
      have erased := lookup_removeOne_self_subset tx keyToTx head after
      rw [Finset.mem_erase] at erased
      exact ⟨erased.2, fun removed => erased.1 removed.1⟩
    · rw [lookup_removeOne_of_ne same] at after
      refine ⟨after, ?_⟩
      rintro ⟨equal, mem⟩
      rcases mem_cons.mp mem with head_eq | later
      · exact same head_eq
      · exact notRest ⟨equal, later⟩

theorem mem_lookup_remove_iff
    {keys : List Bytes} (distinct : keys.Nodup) (waiting : ∀ key ∈ keys, tx ∈ lookup keyToTx key)
    (node : Nat) (key : Bytes) :
    node ∈ lookup (remove keyToTx keys tx) key ↔
      node ∈ lookup keyToTx key ∧ ¬ (node = tx ∧ key ∈ keys) := by
  induction keys generalizing keyToTx with
  | nil => simp [remove]
  | cons head rest ih =>
    obtain ⟨headFresh, restDistinct⟩ := nodup_cons.mp distinct
    have headWaiting := waiting head mem_cons_self
    have restWaiting : ∀ key ∈ rest, tx ∈ lookup (removeOne tx keyToTx head) key := by
      intro other mem
      have different : other ≠ head := by
        rintro rfl
        exact headFresh mem
      rw [lookup_removeOne_of_ne different]
      exact waiting other (mem_cons_of_mem head mem)
    change node ∈ lookup (remove (removeOne tx keyToTx head) rest tx) key ↔ _
    rw [ih restDistinct restWaiting]
    by_cases same : key = head
    · subst key
      rw [lookup_removeOne_self headWaiting, Finset.mem_erase]
      simp only [headFresh, and_false, not_false_eq_true, and_true, mem_cons, or_false]
      exact and_comm
    · rw [lookup_removeOne_of_ne same, mem_cons, or_iff_right same]

theorem occupied_remove (occupied : Occupied keyToTx) (keys : List Bytes) (tx : Nat) :
    Occupied (remove keyToTx keys tx) := by
  induction keys generalizing keyToTx with
  | nil => exact occupied
  | cons head rest ih =>
    exact ih (occupied_removeOne occupied tx head)

end KeyToTransactions

structure Detector where
  readOnlyKeyToWaitingTxs : KeyToTransactions
  writeOnlyKeyToWaitingTxs : KeyToTransactions
  readWriteKeyToWaitingTxs : KeyToTransactions

variable {d : Detector} {access : Access}

def newDependencyDetector : Detector := ⟨fun _ => none, fun _ => none, fun _ => none⟩

namespace Detector

def waitingTxs (d : Detector) : Access → KeyToTransactions
  | .readOnly => d.readOnlyKeyToWaitingTxs
  | .writeOnly => d.writeOnlyKeyToWaitingTxs
  | .readWrite => d.readWriteKeyToWaitingTxs

def waiting (d : Detector) (access : Access) (key : Bytes) : Finset Nat :=
  (d.waitingTxs access).lookup key

def copyTxs (keys : List Bytes) (sets : Bytes → Finset Nat) : Finset Nat :=
  keys.foldl (fun dest key => dest ∪ sets key) ∅

def getDependenciesOf (d : Detector) (rwKeys : ReadWriteKeys) : Finset Nat :=
  copyTxs rwKeys.readsOnly
      (fun rk => d.writeOnlyKeyToWaitingTxs.lookup rk ∪ d.readWriteKeyToWaitingTxs.lookup rk) ∪
    copyTxs (rwKeys.writesOnly ++ rwKeys.readsAndWrites)
      (fun k =>
        d.readOnlyKeyToWaitingTxs.lookup k ∪
          d.writeOnlyKeyToWaitingTxs.lookup k ∪ d.readWriteKeyToWaitingTxs.lookup k)

def addWaitingTx (d : Detector) (rwKeys : ReadWriteKeys) (tx : Nat) : Detector where
  readOnlyKeyToWaitingTxs := d.readOnlyKeyToWaitingTxs.add rwKeys.readsOnly tx
  writeOnlyKeyToWaitingTxs := d.writeOnlyKeyToWaitingTxs.add rwKeys.writesOnly tx
  readWriteKeyToWaitingTxs := d.readWriteKeyToWaitingTxs.add rwKeys.readsAndWrites tx

def mergeWaitingTx (d depDetector : Detector) : Detector where
  readOnlyKeyToWaitingTxs := d.readOnlyKeyToWaitingTxs.merge depDetector.readOnlyKeyToWaitingTxs
  writeOnlyKeyToWaitingTxs := d.writeOnlyKeyToWaitingTxs.merge depDetector.writeOnlyKeyToWaitingTxs
  readWriteKeyToWaitingTxs := d.readWriteKeyToWaitingTxs.merge depDetector.readWriteKeyToWaitingTxs

/-- One iteration of `removeWaitingTx`. -/
def removeOneTx (d : Detector) (rwKeys : ReadWriteKeys) (tx : Nat) : Detector where
  readOnlyKeyToWaitingTxs := d.readOnlyKeyToWaitingTxs.remove rwKeys.readsOnly tx
  writeOnlyKeyToWaitingTxs := d.writeOnlyKeyToWaitingTxs.remove rwKeys.writesOnly tx
  readWriteKeyToWaitingTxs := d.readWriteKeyToWaitingTxs.remove rwKeys.readsAndWrites tx

def removeWaitingTx (keysOfTx : Nat → ReadWriteKeys) (d : Detector) (txsNode : List Nat) :
    Detector :=
  txsNode.foldl (fun d tx => d.removeOneTx (keysOfTx tx) tx) d

/-- No map of the detector keeps a key without transactions. -/
def Occupied (d : Detector) : Prop := ∀ access, (d.waitingTxs access).Occupied

def Empty (d : Detector) : Prop := ∀ access key, d.waitingTxs access key = none

theorem empty_of_waiting (occupied : d.Occupied) (nobody : ∀ access key, d.waiting access key = ∅) :
    d.Empty := by
  intro access key
  cases present : d.waitingTxs access key with
  | none => rfl
  | some txs =>
    have nonempty := occupied access key txs present
    have lookup := nobody access key
    rw [waiting, KeyToTransactions.lookup, present] at lookup
    simp only [Option.getD_some] at lookup
    rw [lookup] at nonempty
    exact absurd nonempty Finset.not_nonempty_empty

theorem waiting_newDependencyDetector (access : Access) (key : Bytes) :
    newDependencyDetector.waiting access key = ∅ := by
  cases access <;> rfl

theorem occupied_newDependencyDetector : newDependencyDetector.Occupied := by
  intro access key txs present
  cases access <;> cases present

theorem mem_copyTxs (keys : List Bytes) (sets : Bytes → Finset Nat) (node : Nat) :
    node ∈ copyTxs keys sets ↔ ∃ key ∈ keys, node ∈ sets key := by
  have collect :
      ∀ start : Finset Nat,
        node ∈ keys.foldl (fun dest key => dest ∪ sets key) start ↔
          node ∈ start ∨ ∃ key ∈ keys, node ∈ sets key := by
    induction keys with
    | nil =>
      intro start
      simp
    | cons head rest ih =>
      intro start
      rw [foldl_cons, ih, Finset.mem_union]
      simp [or_assoc]
  rw [copyTxs, collect]
  simp

/-- `getDependenciesOf` collects the waiting transactions that share a key
with the given one, except where both only read it. -/
theorem mem_getDependenciesOf (d : Detector) (rwKeys : ReadWriteKeys) (node : Nat) :
    node ∈ d.getDependenciesOf rwKeys ↔
      ∃ key laterAccess earlierAccess,
        key ∈ rwKeys.keysOf laterAccess ∧ node ∈ d.waiting earlierAccess key ∧
          ¬ (laterAccess = .readOnly ∧ earlierAccess = .readOnly) := by
  rw [getDependenciesOf, Finset.mem_union, mem_copyTxs, mem_copyTxs]
  constructor
  · rintro (⟨key, mem, found⟩ | ⟨key, mem, found⟩)
    · rcases Finset.mem_union.mp found with found | found
      · exact ⟨key, .readOnly, .writeOnly, mem, found, by simp⟩
      · exact ⟨key, .readOnly, .readWrite, mem, found, by simp⟩
    · have located : ∃ earlierAccess, node ∈ d.waiting earlierAccess key := by
        rcases Finset.mem_union.mp found with found | found
        · rcases Finset.mem_union.mp found with found | found
          · exact ⟨.readOnly, found⟩
          · exact ⟨.writeOnly, found⟩
        · exact ⟨.readWrite, found⟩
      obtain ⟨earlierAccess, found⟩ := located
      rcases mem_append.mp mem with mem | mem
      · exact ⟨key, .writeOnly, earlierAccess, mem, found, by simp⟩
      · exact ⟨key, .readWrite, earlierAccess, mem, found, by simp⟩
  · rintro ⟨key, laterAccess, earlierAccess, mem, found, notBothRead⟩
    cases laterAccess with
    | readOnly =>
      refine .inl ⟨key, mem, ?_⟩
      cases earlierAccess with
      | readOnly => exact absurd ⟨rfl, rfl⟩ notBothRead
      | writeOnly => exact Finset.mem_union_left _ found
      | readWrite => exact Finset.mem_union_right _ found
    | writeOnly =>
      refine .inr ⟨key, mem_append_left _ mem, ?_⟩
      cases earlierAccess <;>
        simp only [Finset.mem_union] <;> simp [waiting, waitingTxs] at found <;>
        simp [found]
    | readWrite =>
      refine .inr ⟨key, mem_append_right _ mem, ?_⟩
      cases earlierAccess <;>
        simp only [Finset.mem_union] <;> simp [waiting, waitingTxs] at found <;>
        simp [found]

theorem waitingTxs_addWaitingTx
    (d : Detector) (rwKeys : ReadWriteKeys) (tx : Nat) (access : Access) :
    (d.addWaitingTx rwKeys tx).waitingTxs access =
      (d.waitingTxs access).add (rwKeys.keysOf access) tx := by
  cases access <;> rfl

theorem waitingTxs_mergeWaitingTx (d depDetector : Detector) (access : Access) :
    (d.mergeWaitingTx depDetector).waitingTxs access =
      (d.waitingTxs access).merge (depDetector.waitingTxs access) := by
  cases access <;> rfl

theorem waitingTxs_removeOneTx
    (d : Detector) (rwKeys : ReadWriteKeys) (tx : Nat) (access : Access) :
    (d.removeOneTx rwKeys tx).waitingTxs access =
      (d.waitingTxs access).remove (rwKeys.keysOf access) tx := by
  cases access <;> rfl

theorem mem_waiting_addWaitingTx
    (d : Detector) (rwKeys : ReadWriteKeys) (tx node : Nat) (access : Access) (key : Bytes) :
    node ∈ (d.addWaitingTx rwKeys tx).waiting access key ↔
      node ∈ d.waiting access key ∨ (node = tx ∧ key ∈ rwKeys.keysOf access) := by
  rw [waiting, waitingTxs_addWaitingTx]
  exact KeyToTransactions.mem_lookup_add _ _ _ _ _

theorem occupied_addWaitingTx (occupied : d.Occupied) (rwKeys : ReadWriteKeys) (tx : Nat) :
    (d.addWaitingTx rwKeys tx).Occupied := by
  intro access
  rw [waitingTxs_addWaitingTx]
  exact KeyToTransactions.occupied_add (occupied access) _ _

theorem mem_waiting_mergeWaitingTx
    (d depDetector : Detector) (node : Nat) (access : Access) (key : Bytes) :
    node ∈ (d.mergeWaitingTx depDetector).waiting access key ↔
      node ∈ d.waiting access key ∨ node ∈ depDetector.waiting access key := by
  rw [waiting, waitingTxs_mergeWaitingTx]
  exact KeyToTransactions.mem_lookup_merge _ _ _ _

theorem occupied_mergeWaitingTx
    {depDetector : Detector} (occupied : d.Occupied) (inputOccupied : depDetector.Occupied) :
    (d.mergeWaitingTx depDetector).Occupied := by
  intro access
  rw [waitingTxs_mergeWaitingTx]
  exact KeyToTransactions.occupied_merge (occupied access) (inputOccupied access)

theorem mem_waiting_removeOneTx_imp {rwKeys : ReadWriteKeys} {node : Nat}
    (found : node ∈ (d.removeOneTx rwKeys tx).waiting access key) :
    node ∈ d.waiting access key ∧ ¬ (node = tx ∧ key ∈ rwKeys.keysOf access) := by
  rw [waiting, waitingTxs_removeOneTx] at found
  exact KeyToTransactions.mem_lookup_remove_imp found

theorem occupied_removeOneTx (occupied : d.Occupied) (rwKeys : ReadWriteKeys) (tx : Nat) :
    (d.removeOneTx rwKeys tx).Occupied := by
  intro access
  rw [waitingTxs_removeOneTx]
  exact KeyToTransactions.occupied_remove (occupied access) _ _

/-- With distinct keys under an access, a transaction that waits under all of them
is removed without any other transaction. -/
theorem mem_waiting_removeOneTx_iff
    {rwKeys : ReadWriteKeys} (distinct : (rwKeys.keysOf access).Nodup)
    (listed : ∀ key ∈ rwKeys.keysOf access, tx ∈ d.waiting access key) (node : Nat) (key : Bytes) :
    node ∈ (d.removeOneTx rwKeys tx).waiting access key ↔
      node ∈ d.waiting access key ∧ ¬ (node = tx ∧ key ∈ rwKeys.keysOf access) := by
  rw [waiting, waitingTxs_removeOneTx]
  exact KeyToTransactions.mem_lookup_remove_iff distinct listed node key

theorem occupied_removeWaitingTx
    (keysOfTx : Nat → ReadWriteKeys) (txsNode : List Nat) (occupied : d.Occupied) :
    (removeWaitingTx keysOfTx d txsNode).Occupied := by
  induction txsNode generalizing d with
  | nil => exact occupied
  | cons head rest ih =>
    exact ih (occupied_removeOneTx occupied (keysOfTx head) head)

theorem mem_waiting_removeWaitingTx_imp
    {keysOfTx : Nat → ReadWriteKeys} {txsNode : List Nat} {node : Nat}
    (found : node ∈ (removeWaitingTx keysOfTx d txsNode).waiting access key) :
    node ∈ d.waiting access key ∧ ¬ (node ∈ txsNode ∧ key ∈ (keysOfTx node).keysOf access) := by
  induction txsNode generalizing d with
  | nil => exact ⟨found, by simp⟩
  | cons head rest ih =>
    obtain ⟨afterHead, notRest⟩ := ih found
    obtain ⟨before, notHead⟩ := mem_waiting_removeOneTx_imp afterHead
    refine ⟨before, ?_⟩
    rintro ⟨mem, keyed⟩
    rcases mem_cons.mp mem with equal | later
    · subst node
      exact notHead ⟨rfl, keyed⟩
    · exact notRest ⟨later, keyed⟩

theorem mem_waiting_removeWaitingTx_of_not_mem
    {keysOfTx : Nat → ReadWriteKeys} {txsNode : List Nat} (listDistinct : txsNode.Nodup)
    (distinct : ∀ tx ∈ txsNode, ((keysOfTx tx).keysOf access).Nodup)
    (listed : ∀ tx ∈ txsNode, ∀ key ∈ (keysOfTx tx).keysOf access, tx ∈ d.waiting access key)
    {node : Nat} {key : Bytes} (outside : node ∉ txsNode) (found : node ∈ d.waiting access key) :
    node ∈ (removeWaitingTx keysOfTx d txsNode).waiting access key := by
  induction txsNode generalizing d with
  | nil => exact found
  | cons head rest ih =>
    obtain ⟨headFresh, restDistinct⟩ := nodup_cons.mp listDistinct
    obtain ⟨notHead, notRest⟩ := not_or.mp (mem_cons.not.mp outside)
    have removed :=
      mem_waiting_removeOneTx_iff
        (distinct head mem_cons_self)
        (listed head mem_cons_self)
    apply ih restDistinct
    · intro tx mem
      exact distinct tx (mem_cons_of_mem head mem)
    · intro tx mem restKey keyed
      rw [removed]
      refine ⟨listed tx (mem_cons_of_mem head mem) restKey keyed, ?_⟩
      rintro ⟨equal, _⟩
      subst tx
      exact headFresh mem
    · exact notRest
    · rw [removed]
      exact ⟨found, fun equal => notHead equal.1⟩

end Detector

def accessedPairs (platform : Platform) (txNamespaces : List TxNamespace) :
    Access → List (Bytes × Bytes)
  | .readOnly =>
    txNamespaces.flatMap fun ns =>
      (if !platform.isSystemNamespace ns.nsId then
        [(metaNamespaceID, ns.nsId)]
      else
        []) ++
        ns.readsOnly.map fun ro => (ns.nsId, ro.key)
  | .writeOnly => txNamespaces.flatMap fun ns => ns.blindWrites.map fun w => (ns.nsId, w.key)
  | .readWrite => txNamespaces.flatMap fun ns => ns.readWrites.map fun rw => (ns.nsId, rw.key)

/-- The two transactions access a common pair and one of them writes it. -/
def Conflicting (platform : Platform) (later earlier : List TxNamespace) : Prop :=
  ∃ ns key laterAccess earlierAccess,
    (ns, key) ∈ accessedPairs platform later laterAccess ∧
      (ns, key) ∈ accessedPairs platform earlier earlierAccess ∧
        ¬ (laterAccess = .readOnly ∧ earlierAccess = .readOnly)

theorem keysOf_readAndWriteKeys
    (platform : Platform) (txNamespaces : List TxNamespace) (access : Access) :
    (readAndWriteKeys platform txNamespaces).keysOf access =
      (accessedPairs platform txNamespaces access).map fun pair =>
        constructCompositeKey pair.1 pair.2 := by
  cases access with
  | readOnly =>
    simp only [ReadWriteKeys.keysOf, readAndWriteKeys, accessedPairs,
      map_flatMap, map_append, map_map]
    congr 1
    funext ns
    congr 1
    split <;> rfl
  | writeOnly =>
    simp [ReadWriteKeys.keysOf, readAndWriteKeys, accessedPairs, map_flatMap, Function.comp_def]
  | readWrite =>
    simp [ReadWriteKeys.keysOf, readAndWriteKeys, accessedPairs, map_flatMap, Function.comp_def]

theorem keysConflict_of_conflicting {platform : Platform} {later earlier : List TxNamespace}
    (conflict : Conflicting platform later earlier) :
    KeysConflict (readAndWriteKeys platform later) (readAndWriteKeys platform earlier) := by
  obtain ⟨ns, key, laterAccess, earlierAccess, laterPair, earlierPair, writes⟩ := conflict
  refine ⟨constructCompositeKey ns key, laterAccess, earlierAccess, ?_, ?_, writes⟩
  · rw [keysOf_readAndWriteKeys]
    exact mem_map_of_mem laterPair
  · rw [keysOf_readAndWriteKeys]
    exact mem_map_of_mem earlierPair

theorem nodup_flatMap_pairs
    {namespaces : List TxNamespace} (distinct : (namespaces.map TxNamespace.nsId).Nodup)
    (keys : TxNamespace → List Bytes) (keysDistinct : ∀ ns ∈ namespaces, (keys ns).Nodup) :
    (namespaces.flatMap fun ns => (keys ns).map fun key => (ns.nsId, key)).Nodup := by
  rw [nodup_flatMap]
  constructor
  · intro ns mem
    apply (keysDistinct ns mem).map
    intro key other equal
    exact (Prod.mk.inj equal).2
  · rw [List.Nodup, pairwise_map] at distinct
    apply distinct.imp
    intro ns other different
    change List.Disjoint _ _
    intro pair first second
    obtain ⟨_, _, equal⟩ := mem_map.mp first
    obtain ⟨_, _, otherEqual⟩ := mem_map.mp second
    apply different
    rw [← equal] at otherEqual
    exact (Prod.mk.inj otherEqual).1.symm

end FabricXCommitter.DependencyGraph
