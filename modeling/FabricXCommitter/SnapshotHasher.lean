import FabricXCommitter.DeliverOrderer.Verification
import FabricXCommitter.Library.Paging
import FabricXCommitter.Library.SlotFill
import FabricXCommitter.StateDB.Catalogue

/-!
# The digest of a snapshot

SHA-256 is a parameter, and the queries succeed.
-/

namespace FabricXCommitter.SnapshotHasher

open DeliverOrderer (Digest)
open Library List
open StateDB (identifier tableStem)

/-- The order of `BYTEA` values. -/
def KeyBelow : Bytes → Bytes → Prop := List.Lex fun first second => first.toNat < second.toNat

instance : DecidableRel KeyBelow :=
  inferInstanceAs (DecidableRel (List.Lex fun first second : UInt8 => first.toNat < second.toNat))

/-- A byte slice, the length of which is an `int`. -/
abbrev Slice := { bytes : Bytes // bytes.length < 2 ^ 63 }

structure NamespaceRow where
  key : Slice
  value : Option Slice
  version : UInt64

/-- No `committerpb.Status` is negative. -/
structure TxStatusRow where
  txID : Slice
  status : Option Int32
  height : Slice
  status_nonneg : ∀ code ∈ status, 0 ≤ code

structure Table {Source : Type} (key : Source → Slice) where
  rows : List Source
  sorted : rows.Pairwise fun first second => KeyBelow (key first).val (key second).val
  nonempty : ∀ row ∈ rows, (key row).val ≠ []

/-- The tables of the namespaces are found by the names the database keeps. -/
structure Clone where
  table : Bytes → Table NamespaceRow.key
  txStatus : Table TxStatusRow.txID

structure Row where
  key : Bytes
  value : Bytes
  version : UInt64
  deriving DecidableEq, Repr

/-- An absent value is read as an empty slice. -/
def NamespaceRow.row (row : NamespaceRow) : Row :=
  ⟨row.key, (row.value.map Subtype.val).getD [], row.version⟩

def int4send (code : Int32) : Bytes := bigEndianBytes 4 code.toUInt32.toNat

def TxStatusRow.row (row : TxStatusRow) : Row :=
  ⟨row.txID, int4send (row.status.getD (-1)) ++ row.height, 0⟩

/-- The text `tx_status`. -/
def txStatusTableName : Bytes := [0x74, 0x78, 0x5f, 0x73, 0x74, 0x61, 0x74, 0x75, 0x73]

def tableName (nsID : Bytes) : Bytes := tableStem ++ nsID

/-- The rows that the queries over a table select from, in key order. -/
def Clone.rows (clone : Clone) (table : Bytes) : List Row :=
  if table = txStatusTableName then
    clone.txStatus.rows.map TxStatusRow.row
  else
    (clone.table (identifier table)).rows.map NamespaceRow.row

/-- The keys of `ns__meta`. -/
def Clone.namespaces (clone : Clone) : List Bytes :=
  (clone.rows (tableName metaNamespaceID)).map Row.key

def Clone.listHashedTables (clone : Clone) : List Bytes :=
  [tableName configNamespaceID, tableName metaNamespaceID, txStatusTableName,
    tableName checkpointNamespaceID] ++ clone.namespaces.map tableName

def writeLengthPrefixed (bytes : Bytes) : Bytes := bigEndianBytes 8 bytes.length ++ bytes

def writeRow (table : Bytes) (row : Row) : Bytes :=
  writeLengthPrefixed row.key ++ writeLengthPrefixed row.value ++
    if table ≠ txStatusTableName then bigEndianBytes 8 row.version.toNat else []

def writeTable (entry : Bytes × Bytes) : Bytes :=
  writeLengthPrefixed entry.1 ++ writeLengthPrefixed entry.2

section

variable (hash : Bytes → Digest) (clone : Clone)

def hashTable (batchSize fuel : Nat) (table : Bytes) : Option Digest :=
  (foldPages Row.key KeyBelow (clone.rows table) batchSize
    (fun tableHash row => tableHash ++ writeRow table row) fuel [] []).map hash

/-- The tables are hashed in parallel and finish in the given order. -/
def hashSnapshotDatabase (batchSize fuel : Nat) (order : List Nat) : Option Digest :=
  let tables := clone.listHashedTables
  let tableHashes :=
    order.foldl
      (fun tableHashes i =>
        tableHashes.set i (tables[i]?.bind (hashTable hash clone batchSize fuel)))
      (List.replicate tables.length none)
  if tableHashes.all Option.isSome then
    some
      (hash
        ((tables.zip (tableHashes.map fun digest => digest.elim [] Digest.bytes)).flatMap
          writeTable))
  else
    none

/-- The group starts the goroutines in order and at most `workers` at a time. -/
structure CompletionOrder (workers count : Nat) (order : List Nat) : Prop where
  perm : order.Perm (List.range count)
  started : ∀ entry ∈ order.zipIdx, entry.1 < entry.2 + workers

/-! ## The digest as a function of the content -/

def tableBytes (table : Bytes) : Bytes := (clone.rows table).flatMap (writeRow table)

def tableEntry (table : Bytes) : Bytes × Bytes := (table, (hash (tableBytes clone table)).bytes)

def snapshotBytes : Bytes := (clone.listHashedTables.map (tableEntry hash clone)).flatMap writeTable

/-- The tables in their order, and every row once in key order. -/
def fullScan : Digest := hash (snapshotBytes hash clone)

end

theorem KeyBelow.trans (first second third : Bytes) :
    KeyBelow first second → KeyBelow second third → KeyBelow first third :=
  lex_trans Nat.lt_trans

theorem KeyBelow.irrefl (key : Bytes) : ¬ KeyBelow key key :=
  lex_irrefl (fun byte : UInt8 => Nat.lt_irrefl byte.toNat) key

theorem Clone.rows_sorted (clone : Clone) (table : Bytes) :
    (clone.rows table).Pairwise fun first second => KeyBelow first.key second.key := by
  unfold Clone.rows
  split
  · exact pairwise_map.mpr clone.txStatus.sorted
  · exact pairwise_map.mpr (clone.table _).sorted

theorem Clone.rowsAbove_nil (clone : Clone) (table : Bytes) :
    rowsAbove Row.key KeyBelow (clone.rows table) [] = clone.rows table := by
  have nonempty : ∀ row ∈ clone.rows table, row.key ≠ [] := by
    unfold Clone.rows
    split
    · simpa [TxStatusRow.row] using clone.txStatus.nonempty
    · simpa [NamespaceRow.row] using (clone.table (identifier table)).nonempty
  rw [rowsAbove, filter_eq_self]
  intro row mem
  cases isKey : row.key with
  | nil => exact absurd isKey (nonempty row mem)
  | cons byte rest => exact decide_eq_true List.Lex.nil

theorem hashTable_eq
    (hash : Bytes → Digest) (clone : Clone) {batchSize : Nat} (positive : 0 < batchSize)
    (fuel : Nat) (table : Bytes) :
    hashTable hash clone batchSize fuel table =
      if (clone.rows table).length / batchSize < fuel then
        some (hash (tableBytes clone table))
      else
        none := by
  have folded :
      (clone.rows table).foldl (fun bytes row => bytes ++ writeRow table row) [] =
        tableBytes clone table := by
    rw [tableBytes, flatMap_eq_foldl]
  rw [hashTable, foldPages_eq KeyBelow.trans KeyBelow.irrefl (clone.rows_sorted table) positive,
    clone.rowsAbove_nil, folded]
  split <;> rfl

theorem hashSnapshotDatabase_eq
    (hash : Bytes → Digest) (clone : Clone) {batchSize : Nat} (positive : 0 < batchSize)
    (fuel : Nat) {workers : Nat} {order : List Nat}
    (completes : CompletionOrder workers clone.listHashedTables.length order) :
    hashSnapshotDatabase hash clone batchSize fuel order =
      if ∀ table ∈ clone.listHashedTables, (clone.rows table).length / batchSize < fuel then
        some (fullScan hash clone)
      else
        none := by
  have filled :=
    SlotFill.foldl_set_eq
      (fun i => clone.listHashedTables[i]?.bind (hashTable hash clone batchSize fuel))
      (length_replicate (a := none)) completes.perm
  have entries :
      (List.range clone.listHashedTables.length).map
          (fun i => clone.listHashedTables[i]?.bind (hashTable hash clone batchSize fuel)) =
        clone.listHashedTables.map (hashTable hash clone batchSize fuel) := by
    apply ext_getElem (by simp)
    intro index within _
    have inside : index < clone.listHashedTables.length := by simpa using within
    simp [getElem?_eq_getElem inside]
  rw [hashSnapshotDatabase, filled, entries]
  by_cases enough : ∀ table ∈ clone.listHashedTables, (clone.rows table).length / batchSize < fuel
  · have hashed :
        clone.listHashedTables.map (hashTable hash clone batchSize fuel) =
          clone.listHashedTables.map fun table => some (hash (tableBytes clone table)) := by
      apply map_congr_left
      intro table mem
      rw [hashTable_eq hash clone positive, if_pos (enough table mem)]
    rw [hashed, if_pos (by simp), if_pos enough, fullScan, snapshotBytes, map_map]
    congr 3
    exact map_prod_left_eq_zip.symm
  · rw [if_neg enough, if_neg]
    intro finished
    apply enough
    intro table mem
    by_contra tooMany
    have isNone := hashTable_eq hash clone positive fuel table
    rw [if_neg tooMany] at isNone
    have isSome := all_eq_true.mp finished _ (mem_map_of_mem mem)
    rw [isNone] at isSome
    cases isSome

/-- Neither the size of the pages nor the number of workers nor the order in which
the tables are completed changes the digest. -/
theorem digest_eq_fullScan
    (hash : Bytes → Digest) (clone : Clone) {batchSize workers : Nat} {order : List Nat}
    (positive : 0 < batchSize)
    (completes : CompletionOrder workers clone.listHashedTables.length order) :
    ∃ enough, ∀ fuel ≥ enough,
      hashSnapshotDatabase hash clone batchSize fuel order = some (fullScan hash clone) := by
  refine ⟨(clone.listHashedTables.map fun table => (clone.rows table).length).sum + 1, ?_⟩
  intro fuel enough
  rw [hashSnapshotDatabase_eq hash clone positive fuel completes, if_pos]
  intro table member
  have bound := le_sum_of_mem (mem_map_of_mem (f := fun table => (clone.rows table).length) member)
  have pages := Nat.div_le_self (clone.rows table).length batchSize
  omega

/-- Strings of different lengths below 100 have different digests. -/
def sampleHash (bytes : Bytes) : Digest where
  bytes := List.replicate 32 (UInt8.ofNat (min bytes.length 100))
  length_eq := length_replicate

/-- One namespace with two rows, the first of which has the given value. -/
def sampleClone (value : Option Slice) : Clone where
  table name :=
    if name = tableName metaNamespaceID then
      ⟨[⟨⟨[0x61], by decide⟩, none, 0⟩], by decide, by decide⟩
    else if name = tableName [0x61] then
      ⟨[⟨⟨[1], by decide⟩, value, 0⟩, ⟨⟨[1, 2], by decide⟩, none, 7⟩], by simp; decide, by simp⟩
    else
      ⟨[], List.Pairwise.nil, by simp⟩
  txStatus := ⟨[⟨⟨[5], by decide⟩, none, ⟨[9], by decide⟩, by simp⟩], by simp, by simp⟩

theorem sampleClone_order (value : Option Slice) :
    CompletionOrder 2 (sampleClone value).listHashedTables.length [1, 0, 2, 4, 3] :=
  ⟨(by decide : [1, 0, 2, 4, 3].Perm (List.range 5)), by decide⟩

/-- Two rows on pages of one row. -/
theorem sampleClone_digest :
    ∃ enough, ∀ fuel ≥ enough,
      hashSnapshotDatabase sampleHash (sampleClone none) 1 fuel [1, 0, 2, 4, 3] =
        some (fullScan sampleHash (sampleClone none)) :=
  digest_eq_fullScan sampleHash (sampleClone none) (by decide) (sampleClone_order none)

/-! ## The content as a function of the digest -/

/-- Two clones with the same hashed content; an absent value is an empty one. -/
structure SameContent (first second : Clone) : Prop where
  namespaces : first.namespaces = second.namespaces
  tables :
    ∀ table ∈ first.listHashedTables, table ≠ txStatusTableName →
      (first.table (identifier table)).rows.map NamespaceRow.row =
        (second.table (identifier table)).rows.map NamespaceRow.row
  txStatus : first.txStatus.rows = second.txStatus.rows

def hashedStrings (hash : Bytes → Digest) (clone : Clone) : List Bytes :=
  snapshotBytes hash clone :: clone.listHashedTables.map (tableBytes clone)

def NoCollision (hash : Bytes → Digest) (strings : List Bytes) : Prop :=
  ∀ first ∈ strings, ∀ second ∈ strings, (hash first).bytes = (hash second).bytes → first = second

/-- A call with some page size, some number of workers and some order of completion. -/
def Returns (hash : Bytes → Digest) (clone : Clone) (digest : Digest) : Prop :=
  ∃ batchSize workers order fuel, 0 < batchSize ∧
    CompletionOrder workers clone.listHashedTables.length order ∧
      hashSnapshotDatabase hash clone batchSize fuel order = some digest

theorem bigEndianBytes_inj
    {count first second : Nat} (firstFits : first < 256 ^ count) (secondFits : second < 256 ^ count)
    (same : bigEndianBytes count first = bigEndianBytes count second) : first = second := by
  have numbers := congrArg bigEndian same
  rwa [bigEndian_bigEndianBytes firstFits, bigEndian_bigEndianBytes secondFits] at numbers

theorem writeLengthPrefixed_cancel {first second rest others : Bytes}
    (firstFits : first.length < 256 ^ 8) (secondFits : second.length < 256 ^ 8)
    (same : writeLengthPrefixed first ++ rest = writeLengthPrefixed second ++ others) :
    first = second ∧ rest = others := by
  simp only [writeLengthPrefixed, append_assoc] at same
  obtain ⟨lengths, contents⟩ := append_inj same (by simp)
  exact append_inj contents (bigEndianBytes_inj firstFits secondFits lengths)

theorem eq_of_flatMap_eq {Source : Type} {encode : Source → Bytes} {Valid : Source → Prop}
    (nonempty : ∀ source, encode source ≠ [])
    (cancel :
      ∀ {first second rest others}, Valid first → Valid second →
        encode first ++ rest = encode second ++ others → first = second ∧ rest = others)
    {first second : List Source} (firstValid : ∀ source ∈ first, Valid source)
    (secondValid : ∀ source ∈ second, Valid source)
    (same : first.flatMap encode = second.flatMap encode) : first = second := by
  induction first generalizing second with
  | nil =>
    cases second with
    | nil => rfl
    | cons source others => simp [nonempty] at same
  | cons source rest ih =>
    cases second with
    | nil => simp [nonempty] at same
    | cons other others =>
      rw [forall_mem_cons] at firstValid secondValid
      obtain ⟨heads, tails⟩ := cancel firstValid.1 secondValid.1 same
      rw [heads, ih firstValid.2 secondValid.2 tails]

theorem writeLengthPrefixed_ne_nil (bytes : Bytes) : writeLengthPrefixed bytes ≠ [] := by
  intro isNil
  have length := congrArg List.length isNil
  simp [writeLengthPrefixed] at length

theorem TxStatusRow.row_injective {first second : TxStatusRow} (same : first.row = second.row) :
    first = second := by
  obtain ⟨txID, status, height, nonneg⟩ := first
  obtain ⟨otherID, otherStatus, otherHeight, otherNonneg⟩ := second
  simp only [TxStatusRow.row, Row.mk.injEq] at same
  obtain ⟨ids, values, _⟩ := same
  obtain ⟨codes, heights⟩ := append_inj values (by simp [int4send])
  have words :=
    UInt32.toNat_inj.mp (bigEndianBytes_inj (UInt32.toNat_lt _) (UInt32.toNat_lt _) codes)
  have statuses : status.getD (-1) = otherStatus.getD (-1) := congrArg Int32.ofUInt32 words
  cases Subtype.ext ids
  cases Subtype.ext heights
  -- No status is the code of an absent one.
  have absent : ∀ code : Int32, 0 ≤ code → code ≠ -1 := by
    rintro _ isStatus rfl
    exact absurd isStatus (by decide)
  cases status with
  | none =>
    cases otherStatus with
    | none => rfl
    | some code => exact absurd statuses.symm (absent code (otherNonneg code rfl))
  | some code =>
    cases otherStatus with
    | none => exact absurd statuses (absent code (nonneg code rfl))
    | some other =>
      cases statuses
      rfl

def RowValid (table : Bytes) (row : Row) : Prop :=
  row.key.length < 256 ^ 8 ∧ row.value.length < 256 ^ 8 ∧
    (table = txStatusTableName → row.version = 0)

theorem Clone.rows_valid (clone : Clone) {table : Bytes} :
    ∀ row ∈ clone.rows table, RowValid table row := by
  unfold Clone.rows
  split
  · intro row mem
    obtain ⟨source, _, rfl⟩ := mem_map.mp mem
    have heightFits := source.height.property
    refine ⟨Nat.lt_trans source.txID.property (by decide), ?_, fun _ => rfl⟩
    simp only [TxStatusRow.row, length_append, int4send, bigEndianBytes_length]
    omega
  · intro row mem
    obtain ⟨⟨key, value, version⟩, _, rfl⟩ := mem_map.mp mem
    refine ⟨Nat.lt_trans key.property (by decide), ?_, by simp_all⟩
    cases value with
    | none => simp [NamespaceRow.row]
    | some value => exact Nat.lt_trans value.property (by decide)

theorem rows_eq_of_tableBytes_eq {first second : Clone} {table : Bytes}
    (same : tableBytes first table = tableBytes second table) :
    first.rows table = second.rows table := by
  refine eq_of_flatMap_eq ?_ ?_ first.rows_valid second.rows_valid same
  · intro row
    simp [writeRow, writeLengthPrefixed_ne_nil]
  · intro row other rest others rowValid otherValid written
    simp only [writeRow, append_assoc] at written
    obtain ⟨keys, written⟩ := writeLengthPrefixed_cancel rowValid.1 otherValid.1 written
    obtain ⟨values, written⟩ := writeLengthPrefixed_cancel rowValid.2.1 otherValid.2.1 written
    obtain ⟨key, value, version⟩ := row
    obtain ⟨otherKey, otherValue, otherVersion⟩ := other
    cases keys
    cases values
    by_cases isStatus : table = txStatusTableName
    · cases (rowValid.2.2 isStatus).trans (otherValid.2.2 isStatus).symm
      exact ⟨rfl, by simpa [isStatus] using written⟩
    · simp only [ne_eq, isStatus, not_false_eq_true, if_true] at written
      obtain ⟨versions, tails⟩ := append_inj written (by simp)
      cases
        UInt64.toNat_inj.mp
          (bigEndianBytes_inj (UInt64.toNat_lt version) (UInt64.toNat_lt otherVersion) versions)
      exact ⟨rfl, tails⟩

theorem entries_eq_of_snapshotBytes_eq {hash : Bytes → Digest} {first second : Clone}
    (same : snapshotBytes hash first = snapshotBytes hash second) :
    first.listHashedTables.map (tableEntry hash first) =
      second.listHashedTables.map (tableEntry hash second) := by
  have fits : ∀ clone : Clone, ∀ entry ∈ clone.listHashedTables.map (tableEntry hash clone),
      entry.1.length < 256 ^ 8 ∧ entry.2.length < 256 ^ 8 := by
    intro clone entry mem
    obtain ⟨table, listed, rfl⟩ := mem_map.mp mem
    refine ⟨?_, by simp [tableEntry, Digest.length_eq]⟩
    change table.length < _
    rcases mem_append.mp listed with fixed | registered
    · simp only [mem_cons, not_mem_nil, or_false] at fixed
      rcases fixed with rfl | rfl | rfl | rfl <;> decide
    · obtain ⟨nsID, isKey, rfl⟩ := mem_map.mp registered
      obtain ⟨row, isRow, rfl⟩ := mem_map.mp isKey
      obtain ⟨source, _, rfl⟩ := mem_map.mp isRow
      have keyFits := source.key.property
      simp only [tableName, tableStem, NamespaceRow.row, length_append, length_cons, length_nil]
      omega
  refine eq_of_flatMap_eq ?_ ?_ (fits first) (fits second) same
  · intro entry
    simp [writeTable, writeLengthPrefixed_ne_nil]
  · intro entry other rest others entryFits otherFits written
    simp only [writeTable, append_assoc] at written
    obtain ⟨names, written⟩ := writeLengthPrefixed_cancel entryFits.1 otherFits.1 written
    obtain ⟨digests, tails⟩ := writeLengthPrefixed_cancel entryFits.2 otherFits.2 written
    exact ⟨Prod.ext names digests, tails⟩

/-- Without a collision among the hashed strings, clones with one digest have the
same content. -/
theorem digest_binds_content {hash : Bytes → Digest} {first second : Clone} {digest : Digest}
    (clean : NoCollision hash (hashedStrings hash first ++ hashedStrings hash second))
    (firstReturns : Returns hash first digest) (secondReturns : Returns hash second digest) :
    SameContent first second := by
  have returned : ∀ clone : Clone, Returns hash clone digest → digest = fullScan hash clone := by
    rintro clone ⟨batchSize, workers, order, fuel, positive, completes, isDigest⟩
    rw [hashSnapshotDatabase_eq hash clone positive fuel completes] at isDigest
    exact (Option.some.inj (Option.ite_none_right_eq_some.mp isDigest).2).symm
  have digests : fullScan hash first = fullScan hash second :=
    (returned first firstReturns).symm.trans (returned second secondReturns)
  have strings : snapshotBytes hash first = snapshotBytes hash second :=
    clean _ (by simp [hashedStrings]) _ (by simp [hashedStrings]) (congrArg Digest.bytes digests)
  have entries := entries_eq_of_snapshotBytes_eq strings
  have tables : first.listHashedTables = second.listHashedTables := by
    simpa [map_map, Function.comp_def, tableEntry] using congrArg (List.map Prod.fst) entries
  have rows : ∀ table ∈ first.listHashedTables, first.rows table = second.rows table := by
    intro table member
    rw [← tables, map_inj_left] at entries
    apply rows_eq_of_tableBytes_eq
    apply clean _ _ _ _ (congrArg Prod.snd (entries table member))
    · exact mem_append_left _ (mem_cons_of_mem _ (mem_map_of_mem member))
    · rw [tables] at member
      exact mem_append_right _ (mem_cons_of_mem _ (mem_map_of_mem member))
  refine ⟨?_, ?_, ?_⟩
  · rw [Clone.namespaces, Clone.namespaces, rows _ (by simp [Clone.listHashedTables])]
  · intro table member ordinary
    have same := rows table member
    rwa [Clone.rows, Clone.rows, if_neg ordinary, if_neg ordinary] at same
  · have same := rows txStatusTableName (by simp [Clone.listHashedTables])
    exact (List.map_inj_right fun _ _ => TxStatusRow.row_injective).mp same

theorem sampleClone_content :
    Returns sampleHash (sampleClone none) (fullScan sampleHash (sampleClone none)) ∧
      SameContent (sampleClone none) (sampleClone (some ⟨[], by decide⟩)) := by
  have strings :
      snapshotBytes sampleHash (sampleClone none) =
        snapshotBytes sampleHash (sampleClone (some ⟨[], by decide⟩)) := by
    decide +kernel
  have returns :
      ∀ value, (∀ table ∈ (sampleClone value).listHashedTables,
          ((sampleClone value).rows table).length / 1 < 3) →
        Returns sampleHash (sampleClone value) (fullScan sampleHash (sampleClone value)) := by
    intro value enough
    refine ⟨1, 2, [1, 0, 2, 4, 3], 3, by decide, sampleClone_order value, ?_⟩
    rw [hashSnapshotDatabase_eq _ _ (by decide) 3 (sampleClone_order value), if_pos enough]
  have first := returns none (by decide +kernel)
  have second := returns (some ⟨[], by decide⟩) (by decide +kernel)
  exact ⟨first, digest_binds_content (by unfold NoCollision; decide +kernel) first second⟩

end FabricXCommitter.SnapshotHasher
