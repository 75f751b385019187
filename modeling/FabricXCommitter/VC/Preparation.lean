import FabricXCommitter.Library.FallibleLoop
import FabricXCommitter.VC.Sequential
import Mathlib.Data.List.Induction

/-!
# What the preparer computes

A read that a read-write without a version registered before is not validated.
-/

namespace FabricXCommitter.VC

open Library List Function

/-- One call of `recordRead`. -/
structure ReadEvent where
  id : Bytes
  nsId : Bytes
  read : Read
  validated : Bool
  deriving DecidableEq, Repr

def ReadEvent.cmp (event : ReadEvent) : CmpRead := newCmpRead event.nsId event.read

abbrev ReadIndex := List (Bytes × Read) × (CmpRead → List Bytes)

def register (index : ReadIndex) (event : ReadEvent) : ReadIndex :=
  (if event.validated && (index.2 event.cmp).isEmpty then
      index.1 ++ [(event.nsId, event.read)]
    else
      index.1,
    update index.2 event.cmp (index.2 event.cmp ++ [event.id]))

def indexOf (events : List ReadEvent) : ReadIndex := events.foldl register ([], fun _ => [])

theorem indexOf_append_singleton (events : List ReadEvent) (event : ReadEvent) :
    indexOf (events ++ [event]) = register (indexOf events) event := by
  rw [indexOf, foldl_append]
  rfl

theorem readers_indexOf (events : List ReadEvent) (cr : CmpRead) :
    (indexOf events).2 cr = (events.filter fun event => event.cmp == cr).map ReadEvent.id := by
  induction events using List.reverseRec with
  | nil => rfl
  | append_singleton front event ih =>
    rw [indexOf_append_singleton, filter_append, map_append, ← ih, register]
    by_cases same : event.cmp = cr
    · subst cr
      simp
    · simp [same, update_of_ne (Ne.symm same)]

variable {events : List ReadEvent} {cr : CmpRead}

theorem mem_readers_indexOf {id : Bytes} :
    id ∈ (indexOf events).2 cr ↔ ∃ event ∈ events, event.cmp = cr ∧ event.id = id := by
  rw [readers_indexOf]
  simp [and_assoc]

theorem listed_indexOf {entry : Bytes × Read} (mem : entry ∈ (indexOf events).1) :
    ∃ event ∈ events, event.validated = true ∧ (event.nsId, event.read) = entry := by
  induction events using List.reverseRec with
  | nil => cases mem
  | append_singleton front event ih =>
    rw [indexOf_append_singleton, register] at mem
    have earlier :
        entry ∈ (indexOf front).1 →
          ∃ found ∈ front ++ [event],
            found.validated = true ∧ (found.nsId, found.read) = entry := by
      intro listed
      obtain ⟨found, foundMem, facts⟩ := ih listed
      exact ⟨found, mem_append_left _ foundMem, facts⟩
    split at mem
    · rename_i appended
      rw [Bool.and_eq_true] at appended
      rcases mem_append.mp mem with listed | new
      · exact earlier listed
      · exact
          ⟨event, mem_append_right _ (mem_singleton_self event),
            appended.1, (mem_singleton.mp new).symm⟩
    · exact earlier mem

def firstEvent (events : List ReadEvent) (cr : CmpRead) : Option ReadEvent :=
  events.find? fun event => event.cmp == cr

def hidden (events : List ReadEvent) (cr : CmpRead) : Bool :=
  (firstEvent events cr).any fun event => !event.validated

theorem hidden_iff :
    hidden events cr = true ↔
      ∃ event, firstEvent events cr = some event ∧ event.validated = false := by
  rw [hidden]
  cases firstEvent events cr <;> simp

theorem firstEvent_append_singleton (front : List ReadEvent) (last : ReadEvent) (cr : CmpRead) :
    firstEvent (front ++ [last]) cr =
      (firstEvent front cr).or (if last.cmp = cr then some last else none) := by
  rw [firstEvent, find?_append, ← firstEvent]
  by_cases same : last.cmp = cr <;> simp [same]

variable {event : ReadEvent}

theorem mem_of_firstEvent (first : firstEvent events cr = some event) :
    event ∈ events ∧ event.cmp = cr :=
  ⟨mem_of_find?_eq_some first, eq_of_beq (find?_some first :)⟩

theorem listed_of_firstEvent
    (first : firstEvent events cr = some event) (validated : event.validated = true) :
    ∃ entry ∈ (indexOf events).1, newCmpRead entry.1 entry.2 = cr := by
  induction events using List.reverseRec with
  | nil => cases first
  | append_singleton front last ih =>
    rw [indexOf_append_singleton, register]
    rw [firstEvent_append_singleton] at first
    cases earlier : firstEvent front cr with
    | some found =>
      rw [earlier, Option.some_or] at first
      obtain ⟨entry, listed, same⟩ := ih (earlier.trans first)
      refine ⟨entry, ?_, same⟩
      split
      · exact mem_append_left _ listed
      · exact listed
    | none =>
      rw [earlier, Option.none_or] at first
      obtain ⟨sameCmp, isLast⟩ := Option.ite_none_right_eq_some.mp first
      have lastValidated : last.validated = true := by
        rw [Option.some.inj isLast]
        exact validated
      have unread : (indexOf front).2 last.cmp = [] := by
        rw [readers_indexOf, sameCmp, map_eq_nil_iff, filter_eq_nil_iff]
        exact find?_eq_none.mp earlier
      refine ⟨(last.nsId, last.read), ?_, sameCmp⟩
      simp [lastValidated, unread]

theorem covered_indexOf (mem : event ∈ events) :
    (∃ entry ∈ (indexOf events).1, newCmpRead entry.1 entry.2 = event.cmp) ∨
      hidden events event.cmp = true := by
  cases first : firstEvent events event.cmp with
  | none => exact absurd (beq_self_eq_true event.cmp) (find?_eq_none.mp first event mem)
  | some earlier =>
    cases validated : earlier.validated with
    | true => exact Or.inl (listed_of_firstEvent first validated)
    | false => exact Or.inr (hidden_iff.mpr ⟨earlier, first, validated⟩)

/-! ## The entries of a transaction -/

def updateEntries (ns : TxNamespace) : List WriteEntry :=
  ns.readWrites.filterMap fun rw =>
    rw.version.map fun version => ⟨ns.nsId, rw.key, rw.value, version + 1⟩

def newEntries (ns : TxNamespace) : List WriteEntry :=
  ns.readWrites.filterMap fun rw =>
    match rw.version with
    | some _ => none
    | none => some ⟨ns.nsId, rw.key, rw.value, 0⟩

def blindEntries (ns : TxNamespace) : List WriteEntry :=
  ns.blindWrites.map fun w => ⟨ns.nsId, w.key, w.value, 0⟩

def namespaceEvents (id : Bytes) (ns : TxNamespace) : List ReadEvent :=
  ns.readsOnly.map (fun read => ⟨id, ns.nsId, read, true⟩) ++
    (ns.readWrites.map (fun rw => ⟨id, ns.nsId, readOf rw, rw.version.isSome⟩) ++
      (versionRead ns.nsId ns.nsVersion).toList.map fun entry => ⟨id, entry.1, entry.2, true⟩)

theorem id_of_mem_namespaceEvents
    {id : Bytes} {ns : TxNamespace} (mem : event ∈ namespaceEvents id ns) :
    event.id = id := by
  rcases mem_append.mp mem with readOnly | rest
  · obtain ⟨read, _, eq⟩ := mem_map.mp readOnly
    rw [← eq]
  · rcases mem_append.mp rest with readWrite | version
    · obtain ⟨rw, _, eq⟩ := mem_map.mp readWrite
      rw [← eq]
    · obtain ⟨entry, _, eq⟩ := mem_map.mp version
      rw [← eq]

def txEvents (tx : VcTx) : List ReadEvent :=
  (preparedNamespaces tx).flatMap (namespaceEvents tx.ref.txId)

def extend (p : PreparedTransactions) (id : Bytes) (events : List ReadEvent)
    (updates news blinds : List WriteEntry) : PreparedTransactions :=
  { p with
    nsToReads := (events.foldl register (p.nsToReads, p.readToTxIDs)).1
    readToTxIDs := (events.foldl register (p.nsToReads, p.readToTxIDs)).2
    txIDToNsNonBlindWrites :=
      update p.txIDToNsNonBlindWrites id (p.txIDToNsNonBlindWrites id ++ updates)
    txIDToNsNewWrites := update p.txIDToNsNewWrites id (p.txIDToNsNewWrites id ++ news)
    txIDToNsBlindWrites := update p.txIDToNsBlindWrites id (p.txIDToNsBlindWrites id ++ blinds) }

section

variable (p : PreparedTransactions)

include p

theorem extend_nil (id : Bytes) : extend p id [] [] [] [] = p := by
  simp [extend]

theorem extend_extend (id : Bytes) (events moreEvents : List ReadEvent)
    (updates news blinds moreUpdates moreNews moreBlinds : List WriteEntry) :
    extend (extend p id events updates news blinds) id moreEvents moreUpdates moreNews moreBlinds =
      extend p id (events ++ moreEvents) (updates ++ moreUpdates)
        (news ++ moreNews) (blinds ++ moreBlinds) := by
  simp [extend, foldl_append]

theorem recordRead_eq (id nsId : Bytes) (read : Read) (validated : Bool) :
    recordRead p id nsId read validated = extend p id [⟨id, nsId, read, validated⟩] [] [] [] := by
  simp [recordRead, extend, register, ReadEvent.cmp]

theorem addReadsOnly_eq (id nsId : Bytes) (readsOnly : List Read) :
    addReadsOnly p id nsId readsOnly =
      extend p id (readsOnly.map fun read => ⟨id, nsId, read, true⟩) [] [] [] := by
  induction readsOnly generalizing p with
  | nil =>
    rw [map_nil, extend_nil]
    rfl
  | cons read rest ih =>
    change addReadsOnly (recordRead p id nsId read true) id nsId rest = _
    rw [ih, recordRead_eq, extend_extend]
    rfl

theorem addReadWrite_eq (id : Bytes) (ns : TxNamespace) (rw : ReadWrite) :
    addReadWrite id ns.nsId p rw =
      extend p id [⟨id, ns.nsId, readOf rw, rw.version.isSome⟩]
        (updateEntries { ns with readWrites := [rw] })
        (newEntries { ns with readWrites := [rw] }) [] := by
  rw [addReadWrite, recordRead_eq]
  cases version : rw.version with
  | none => simp [extend, updateEntries, newEntries, version, TransactionToWrites.append]
  | some number => simp [extend, updateEntries, newEntries, version, TransactionToWrites.append]

theorem addReadWrites_eq (id : Bytes) (ns : TxNamespace) :
    addReadWrites p id ns.nsId ns.readWrites =
      extend p id
        (ns.readWrites.map fun rw => ⟨id, ns.nsId, readOf rw, rw.version.isSome⟩)
        (updateEntries ns) (newEntries ns) [] := by
  obtain ⟨nsId, nsVersion, readsOnly, readWrites, blindWrites⟩ := ns
  induction readWrites generalizing p with
  | nil => simp [addReadWrites, updateEntries, newEntries, extend_nil]
  | cons first rest ih =>
    have step := addReadWrite_eq p id ⟨nsId, nsVersion, readsOnly, first :: rest, blindWrites⟩ first
    change addReadWrites (addReadWrite id nsId p first) id nsId rest = _
    rw [step, ih, extend_extend]
    congr 1
    · simp only [updateEntries, ← filterMap_append]
      rfl
    · simp only [newEntries, ← filterMap_append]
      rfl

theorem addBlindWrites_eq (id : Bytes) (nsId : Bytes) (blindWrites : List Write) :
    addBlindWrites p id nsId blindWrites =
      extend p id [] [] [] (blindWrites.map fun w => ⟨nsId, w.key, w.value, 0⟩) := by
  induction blindWrites generalizing p with
  | nil =>
    rw [map_nil, extend_nil]
    rfl
  | cons first rest ih =>
    have step :
        ({ p with
            txIDToNsBlindWrites :=
              p.txIDToNsBlindWrites.append id ⟨nsId, first.key, first.value, 0⟩ } :
            PreparedTransactions) =
          extend p id [] [] [] [⟨nsId, first.key, first.value, 0⟩] := by
      simp [extend, TransactionToWrites.append]
    change
      addBlindWrites
          { p with
            txIDToNsBlindWrites :=
              p.txIDToNsBlindWrites.append id ⟨nsId, first.key, first.value, 0⟩ }
          id nsId rest = _
    rw [step, ih, extend_extend]
    rfl

end

theorem prepareNamespace_eq (codec : SnapshotCodec) (ref : TxRef) (p : PreparedTransactions)
    {ns : TxNamespace} (plain : ns.nsId ≠ snapshotNamespaceID) :
    prepareNamespace codec ref p ns =
      extend p ref.txId (namespaceEvents ref.txId ns) (updateEntries ns)
        (newEntries ns) (blindEntries ns) := by
  rw [prepareNamespace, if_neg plain, namespaceEvents, blindEntries]
  simp only [addReadsOnly_eq, addReadWrites_eq, addBlindWrites_eq, extend_extend]
  cases versionRead ns.nsId ns.nsVersion with
  | none => simp
  | some entry => simp

/-- A snapshot request is prepared as a new write of its record under its own
ID. -/
def expandNamespace (codec : SnapshotCodec) (ref : TxRef) (ns : TxNamespace) : TxNamespace :=
  if ns.nsId = snapshotNamespaceID then
    { nsId := snapshotNamespaceID
      readWrites := [⟨ref.txId, none, codec.encode { txRef := some ref }⟩] }
  else
    ns

theorem nsId_expandNamespace (codec : SnapshotCodec) (ref : TxRef) (ns : TxNamespace) :
    (expandNamespace codec ref ns).nsId = ns.nsId := by
  rw [expandNamespace]
  split
  · rename_i snapshot
    exact snapshot.symm
  · rfl

def expandTx (codec : SnapshotCodec) (tx : VcTx) : VcTx :=
  { tx with namespaces := tx.namespaces.map (expandNamespace codec tx.ref) }

@[simp]
theorem expandTx_ref (codec : SnapshotCodec) (tx : VcTx) : (expandTx codec tx).ref = tx.ref := rfl

@[simp]
theorem expandTx_prelim (codec : SnapshotCodec) (tx : VcTx) :
    (expandTx codec tx).prelimInvalidTxStatus = tx.prelimInvalidTxStatus :=
  rfl

/-- The reads of an expanded namespace.  The policy of snapshot requests is not
read. -/
def expandedEvents (id : Bytes) (ns : TxNamespace) : List ReadEvent :=
  if ns.nsId = snapshotNamespaceID then
    ns.readWrites.map fun rw => ⟨id, ns.nsId, readOf rw, rw.version.isSome⟩
  else
    namespaceEvents id ns

def expandedTxEvents (tx : VcTx) : List ReadEvent :=
  (preparedNamespaces tx).flatMap (expandedEvents tx.ref.txId)

theorem id_of_mem_expandedTxEvents {tx : VcTx} (mem : event ∈ expandedTxEvents tx) :
    event.id = tx.ref.txId := by
  obtain ⟨ns, _, inside⟩ := mem_flatMap.mp mem
  rw [expandedEvents] at inside
  split at inside
  · obtain ⟨rw, _, eq⟩ := mem_map.mp inside
    rw [← eq]
  · exact id_of_mem_namespaceEvents inside

theorem prepareNamespace_expanded
    (codec : SnapshotCodec) (ref : TxRef) (p : PreparedTransactions) (ns : TxNamespace) :
    prepareNamespace codec ref p ns =
      extend p ref.txId (expandedEvents ref.txId (expandNamespace codec ref ns))
        (updateEntries (expandNamespace codec ref ns))
        (newEntries (expandNamespace codec ref ns))
        (blindEntries (expandNamespace codec ref ns)) := by
  by_cases snapshot : ns.nsId = snapshotNamespaceID
  · rw [expandNamespace, if_pos snapshot, prepareNamespace, if_pos snapshot,
      expandedEvents, if_pos rfl]
    exact
      addReadWrites_eq p ref.txId
        { nsId := snapshotNamespaceID
          readWrites := [⟨ref.txId, none, codec.encode { txRef := some ref }⟩] }
  · rw [expandNamespace, if_neg snapshot, expandedEvents, if_neg snapshot]
    exact prepareNamespace_eq codec ref p snapshot

theorem prepareNamespaces_expanded (codec : SnapshotCodec) (ref : TxRef) (p : PreparedTransactions)
    (namespaces : List TxNamespace) :
    namespaces.foldl (prepareNamespace codec ref) p =
      extend p ref.txId
        ((namespaces.map (expandNamespace codec ref)).flatMap (expandedEvents ref.txId))
        ((namespaces.map (expandNamespace codec ref)).flatMap updateEntries)
        ((namespaces.map (expandNamespace codec ref)).flatMap newEntries)
        ((namespaces.map (expandNamespace codec ref)).flatMap blindEntries) := by
  induction namespaces generalizing p with
  | nil => simp [extend_nil]
  | cons first rest ih =>
    rw [foldl_cons, prepareNamespace_expanded, ih, extend_extend]
    rfl

/-! ## The closed form of a batch -/

/-- The IDs of a batch are distinct and none of its transactions that is to be
validated is a snapshot request or a checkpoint. -/
structure PlainBatch (batch : List VcTx) : Prop where
  distinct : (batch.map fun tx => tx.ref.txId).Nodup
  plain :
    ∀ tx ∈ batch, tx.prelimInvalidTxStatus = none →
      ∀ ns ∈ tx.namespaces, ns.nsId ≠ snapshotNamespaceID ∧ ns.nsId ≠ checkpointNamespaceID

def entriesById (entries : TxNamespace → List WriteEntry) (batch : List VcTx) :
    TransactionToWrites :=
  fun id =>
    batch.flatMap fun tx =>
      if tx.ref.txId = id then (preparedNamespaces tx).flatMap entries else []

def batchEvents (batch : List VcTx) : List ReadEvent := batch.flatMap txEvents

def txOfId (batch : List VcTx) (id : Bytes) : Option VcTx := batch.find? fun tx => tx.ref.txId == id

def preparedForm (batch : List VcTx) : PreparedTransactions where
  nsToReads := (indexOf (batchEvents batch)).1
  readToTxIDs := (indexOf (batchEvents batch)).2
  txIDToNsNonBlindWrites := entriesById updateEntries batch
  txIDToNsBlindWrites := entriesById blindEntries batch
  txIDToNsNewWrites := entriesById newEntries batch
  invalidTxIDStatus := fun id => (txOfId batch id).bind VcTx.prelimInvalidTxStatus
  txIDs := batch.map fun tx => tx.ref.txId
  txIDToHeight := fun id => (txOfId batch id).map fun tx => tx.ref.height
  checkpoint := none

def expandedForm (batch : List VcTx) : PreparedTransactions :=
  { preparedForm batch with
    nsToReads := (indexOf (batch.flatMap expandedTxEvents)).1
    readToTxIDs := (indexOf (batch.flatMap expandedTxEvents)).2 }

section

variable (front : List VcTx) (tx : VcTx)

theorem entriesById_append (entries : TxNamespace → List WriteEntry) :
    entriesById entries (front ++ [tx]) =
      update (entriesById entries front) tx.ref.txId
        (entriesById entries front tx.ref.txId ++ (preparedNamespaces tx).flatMap entries) := by
  funext id
  by_cases same : tx.ref.txId = id
  · subst same
    simp [entriesById]
  · rw [update_of_ne (Ne.symm same)]
    simp [entriesById, same]

theorem indexOf_append (events more : List ReadEvent) :
    indexOf (events ++ more) = more.foldl register (indexOf events) :=
  foldl_append

variable {front tx}

theorem txOfId_append (fresh : tx.ref.txId ∉ front.map fun tx => tx.ref.txId) (id : Bytes) :
    txOfId (front ++ [tx]) id =
      if id = tx.ref.txId then some tx else txOfId front id := by
  rw [txOfId, find?_append]
  by_cases same : id = tx.ref.txId
  · subst same
    have missing : front.find? (fun other => other.ref.txId == tx.ref.txId) = none := by
      rw [find?_eq_none]
      intro other mem equal
      exact fresh (mem_map.mpr ⟨other, mem, by simpa using equal⟩)
    simp [missing]
  · have different : (tx.ref.txId == id) = false := by simpa using Ne.symm same
    rw [if_neg same, find?_cons, different]
    exact Option.or_none

end

/-- The transactions of a batch that are not skipped because their ID occurred
before. -/
def firstCopies (batch : List VcTx) : List VcTx :=
  batch.foldl
    (fun kept tx =>
      if tx.ref.txId ∈ kept.map fun tx => tx.ref.txId then
        kept
      else
        kept ++ [tx])
    []

theorem firstCopies_append_singleton (front : List VcTx) (tx : VcTx) :
    firstCopies (front ++ [tx]) =
      if tx.ref.txId ∈ (firstCopies front).map fun tx => tx.ref.txId then
        firstCopies front
      else
        firstCopies front ++ [tx] := by
  rw [firstCopies, foldl_append]
  rfl

variable {batch : List VcTx}

theorem firstCopies_subset {tx : VcTx} (mem : tx ∈ firstCopies batch) : tx ∈ batch := by
  induction batch using List.reverseRec with
  | nil => cases mem
  | append_singleton front last ih =>
    rw [firstCopies_append_singleton] at mem
    split at mem
    · exact mem_append_left _ (ih mem)
    · rcases mem_append.mp mem with inFront | isLast
      · exact mem_append_left _ (ih inFront)
      · exact mem_append_right _ isLast

theorem firstCopies_distinct (batch : List VcTx) :
    ((firstCopies batch).map fun tx => tx.ref.txId).Nodup := by
  induction batch using List.reverseRec with
  | nil => exact nodup_nil
  | append_singleton front last ih =>
    rw [firstCopies_append_singleton]
    split
    · exact ih
    · rename_i unseen
      rw [map_append, nodup_append]
      refine ⟨ih, nodup_singleton _, ?_⟩
      intro id inFront other isLast same
      rw [same, mem_singleton.mp isLast] at inFront
      exact unseen inFront

theorem exists_firstCopy {tx : VcTx} (mem : tx ∈ batch) :
    ∃ first ∈ firstCopies batch, first.ref.txId = tx.ref.txId := by
  induction batch using List.reverseRec with
  | nil => cases mem
  | append_singleton front last ih =>
    rw [firstCopies_append_singleton]
    rcases mem_append.mp mem with inFront | isLast
    · obtain ⟨first, kept, sameId⟩ := ih inFront
      refine ⟨first, ?_, sameId⟩
      split
      · exact kept
      · exact mem_append_left _ kept
    · rw [mem_singleton] at isLast
      subst isLast
      split
      · rename_i seen
        exact mem_map.mp seen
      · exact ⟨tx, mem_append_right _ (mem_singleton_self tx), rfl⟩

theorem firstCopies_of_distinct (distinct : (batch.map fun tx => tx.ref.txId).Nodup) :
    firstCopies batch = batch := by
  induction batch using List.reverseRec with
  | nil => rfl
  | append_singleton front last ih =>
    rw [map_append, nodup_append] at distinct
    obtain ⟨frontDistinct, _, apart⟩ := distinct
    rw [firstCopies_append_singleton, ih frontDistinct]
    exact if_neg fun seen => apart _ seen _ (mem_singleton_self last.ref.txId) rfl

theorem nsId_of_mem_entriesById {entries : TxNamespace → List WriteEntry}
    (tagged : ∀ ns, ∀ entry ∈ entries ns, entry.nsId = ns.nsId) {id : Bytes} {entry : WriteEntry}
    (mem : entry ∈ entriesById entries batch id) :
    ∃ tx ∈ batch, tx.prelimInvalidTxStatus = none ∧ ∃ ns ∈ tx.namespaces, entry.nsId = ns.nsId := by
  obtain ⟨tx, inBatch, inside⟩ := mem_flatMap.mp mem
  split at inside
  · obtain ⟨ns, nsMem, entryMem⟩ := mem_flatMap.mp inside
    rw [preparedNamespaces] at nsMem
    split at nsMem
    · rename_i valid
      exact ⟨tx, inBatch, Option.isNone_iff_eq_none.mp valid, ns, nsMem, tagged ns entry entryMem⟩
    · cases nsMem
  · cases inside

theorem nsId_of_mem_newEntries (ns : TxNamespace) :
    ∀ entry ∈ newEntries ns, entry.nsId = ns.nsId := by
  intro entry mem
  obtain ⟨rw, _, eq⟩ := mem_filterMap.mp mem
  split at eq
  · cases eq
  · rw [← Option.some.inj eq]

section

variable (codec : SnapshotCodec)

theorem prepareTx_expandedForm
    {front : List VcTx} {tx : VcTx} (fresh : tx.ref.txId ∉ front.map fun tx => tx.ref.txId) :
    prepareTx codec (expandedForm front) tx = expandedForm (front ++ [expandTx codec tx]) := by
  have notSeen : tx.ref.txId ∉ (expandedForm front).txIDs := fresh
  have freshExpanded : (expandTx codec tx).ref.txId ∉ front.map fun tx => tx.ref.txId := fresh
  have heights :
      (expandedForm (front ++ [expandTx codec tx])).txIDToHeight =
        update (expandedForm front).txIDToHeight tx.ref.txId (some tx.ref.height) := by
    funext id
    simp only [expandedForm, preparedForm, txOfId_append freshExpanded, update_apply, expandTx_ref]
    by_cases same : id = tx.ref.txId <;> simp [same]
  have invalid :
      (expandedForm (front ++ [expandTx codec tx])).invalidTxIDStatus =
        update (expandedForm front).invalidTxIDStatus tx.ref.txId tx.prelimInvalidTxStatus := by
    funext id
    simp only [expandedForm, preparedForm, txOfId_append freshExpanded, update_apply, expandTx_ref]
    by_cases same : id = tx.ref.txId <;> simp [same]
  have unknown : (expandedForm front).invalidTxIDStatus tx.ref.txId = none := by
    have missing : txOfId front tx.ref.txId = none := by
      rw [txOfId, find?_eq_none]
      intro other mem equal
      exact fresh (mem_map.mpr ⟨other, mem, by simpa using equal⟩)
    simp [expandedForm, preparedForm, missing]
  rw [prepareTx, if_neg notSeen]
  cases prelim : tx.prelimInvalidTxStatus with
  | some status =>
    rw [prelim] at invalid
    have nothing : preparedNamespaces (expandTx codec tx) = [] := by
      simp [preparedNamespaces, expandTx, prelim]
    simp only [← heights, ← invalid]
    simp [expandedForm, preparedForm, entriesById_append, expandedTxEvents, nothing]
  | none =>
    have all :
        preparedNamespaces (expandTx codec tx) = tx.namespaces.map (expandNamespace codec tx.ref) :=
      preparedNamespaces_of_valid prelim
    rw [prelim, ← unknown, update_eq_self] at invalid
    simp only
    rw [prepareNamespaces_expanded]
    simp only [extend, ← heights, ← invalid]
    simp [expandedForm, preparedForm, entriesById_append, indexOf_append, expandedTxEvents, all]

theorem foldl_prepareTx (batch : List VcTx) :
    batch.foldl (prepareTx codec) emptyPrepared =
      expandedForm ((firstCopies batch).map (expandTx codec)) := by
  induction batch using List.reverseRec with
  | nil => rfl
  | append_singleton front tx ih =>
    have sameIds :
        (expandedForm ((firstCopies front).map (expandTx codec))).txIDs =
          (firstCopies front).map fun tx => tx.ref.txId :=
      map_map
    rw [foldl_append, ih, foldl_cons, foldl_nil, firstCopies_append_singleton]
    split
    · rename_i seen
      rw [prepareTx, if_pos (sameIds ▸ seen)]
    · rename_i unseen
      rw [map_append]
      apply prepareTx_expandedForm codec
      rw [← sameIds] at unseen
      exact unseen

theorem txOfId_map_expandTx (batch : List VcTx) (id : Bytes) :
    txOfId (batch.map (expandTx codec)) id = (txOfId batch id).map (expandTx codec) := by
  rw [txOfId, find?_map]
  rfl

theorem expandedForm_of_plain
    (plain :
      ∀ tx ∈ batch, tx.prelimInvalidTxStatus = none →
        ∀ ns ∈ tx.namespaces, ns.nsId ≠ snapshotNamespaceID) :
    expandedForm (batch.map (expandTx codec)) = preparedForm batch := by
  have unexpanded :
      ∀ tx ∈ batch,
        preparedNamespaces (expandTx codec tx) = preparedNamespaces tx ∧
          ∀ ns ∈ preparedNamespaces tx, ns.nsId ≠ snapshotNamespaceID := by
    intro tx mem
    rw [preparedNamespaces, preparedNamespaces, expandTx_prelim]
    cases prelim : tx.prelimInvalidTxStatus with
    | some status => simp
    | none =>
      refine ⟨?_, plain tx mem prelim⟩
      calc
        tx.namespaces.map (expandNamespace codec tx.ref) = tx.namespaces.map id :=
          map_congr_left fun ns nsMem => if_neg (plain tx mem prelim ns nsMem)
        _ = tx.namespaces := map_id tx.namespaces
  have events : (batch.map (expandTx codec)).flatMap expandedTxEvents = batchEvents batch := by
    rw [flatMap_map, batchEvents]
    apply flatMap_congr
    intro tx mem
    obtain ⟨same, noSnapshot⟩ := unexpanded tx mem
    rw [expandedTxEvents, same, txEvents]
    apply flatMap_congr
    intro ns nsMem
    exact if_neg (noSnapshot ns nsMem)
  have writes :
      ∀ entries, entriesById entries (batch.map (expandTx codec)) = entriesById entries batch := by
    intro entries
    funext id
    rw [entriesById, flatMap_map, entriesById]
    apply flatMap_congr
    intro tx mem
    rw [expandTx_ref, (unexpanded tx mem).1]
  rw [expandedForm, preparedForm, preparedForm, events]
  simp [writes, txOfId_map_expandTx, comp_def, Option.bind_map]

theorem nsId_of_mem_blindEntries (ns : TxNamespace) :
    ∀ entry ∈ blindEntries ns, entry.nsId = ns.nsId := by
  intro entry mem
  obtain ⟨w, _, eq⟩ := mem_map.mp mem
  rw [← eq]

theorem prepare_firstCopies (plainBatch : PlainBatch (firstCopies batch)) :
    prepare codec batch = some (preparedForm (firstCopies batch)) := by
  have noCheckpoint :
      ∀ id, firstWriteIn checkpointNamespaceID
          ((preparedForm (firstCopies batch)).txIDToNsNewWrites id) =
        none := by
    intro id
    rw [firstWriteIn, find?_eq_none]
    intro entry mem checkpoint
    obtain ⟨tx, inBatch, prelim, ns, nsMem, sameNs⟩ :=
      nsId_of_mem_entriesById nsId_of_mem_newEntries mem
    apply (plainBatch.plain tx inBatch prelim ns nsMem).2
    rw [← sameNs]
    simpa using checkpoint
  have loop : checkpointWriteInBatch (preparedForm (firstCopies batch)) = some none := by
    apply foldlM_eq_self
    intro id _
    simp only [noCheckpoint id]
  rw [prepare, foldl_prepareTx codec,
    expandedForm_of_plain codec fun tx mem prelim ns nsMem =>
      (plainBatch.plain tx mem prelim ns nsMem).1]
  simp only [loop]
  rfl

theorem prepare_eq (plainBatch : PlainBatch batch) :
    prepare codec batch = some (preparedForm batch) := by
  have all := firstCopies_of_distinct plainBatch.distinct
  rw [prepare_firstCopies codec (all.symm ▸ plainBatch), all]

end

end FabricXCommitter.VC
