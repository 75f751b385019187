import Mathlib.Data.List.Nodup
import Mathlib.Data.List.Perm.Basic

/-!
# Versioned items and their followers

A follower catches up by receiving the items of higher versions, in any order.
-/

namespace FabricXCommitter.Library.Versioned

open List

variable {Item Key : Type*} [DecidableEq Key] (key : Item → Key)

def lastOf (k : Key) : List Item → Option Item
  | [] => none
  | item :: rest => (lastOf k rest).or (if key item = k then some item else none)

variable {key}

theorem lastOf_append (k : Key) (first second : List Item) :
    lastOf key k (first ++ second) = (lastOf key k second).or (lastOf key k first) := by
  induction first with
  | nil => simp [lastOf]
  | cons item rest ih =>
    simp only [cons_append, lastOf, ih, Option.or_assoc]

theorem lastOf_eq_none_iff (k : Key) (items : List Item) :
    lastOf key k items = none ↔ ∀ item ∈ items, key item ≠ k := by
  induction items with
  | nil => simp [lastOf]
  | cons item rest ih =>
    by_cases same : key item = k
    · simp [lastOf, same]
    · simp [lastOf, same, ih]

variable {items : List Item}

theorem mem_of_lastOf {k : Key} {item : Item} (found : lastOf key k items = some item) :
    item ∈ items ∧ key item = k := by
  induction items with
  | nil => cases found
  | cons head rest ih =>
    rw [lastOf] at found
    cases later : lastOf key k rest with
    | some other =>
      rw [later, Option.some_or] at found
      obtain ⟨mem, same⟩ := ih (later.trans found)
      exact ⟨mem_cons_of_mem head mem, same⟩
    | none =>
      rw [later, Option.none_or] at found
      by_cases same : key head = k
      · rw [if_pos same] at found
        cases found
        exact ⟨mem_cons_self, same⟩
      · rw [if_neg same] at found
        cases found

theorem lastOf_of_nodup (distinct : (items.map key).Nodup) {item : Item} (mem : item ∈ items) :
    lastOf key (key item) items = some item := by
  cases found : lastOf key (key item) items with
  | none => exact absurd rfl ((lastOf_eq_none_iff _ _).mp found item mem)
  | some other =>
    obtain ⟨otherMem, same⟩ := mem_of_lastOf found
    rw [inj_on_of_nodup_map distinct otherMem mem same]

structure Entry (Item : Type*) where
  item : Item
  version : Nat
  deriving DecidableEq, Repr

variable (key) in
def put (version : Nat) (entries : List (Entry Item)) (item : Item) : List (Entry Item) :=
  entries.filter (fun entry => key entry.item ≠ key item) ++ [⟨item, version⟩]

variable (key) in
def putAll (version : Nat) (entries : List (Entry Item)) (items : List Item) : List (Entry Item) :=
  items.foldl (put key version) entries

def newerThan (version : Nat) (entries : List (Entry Item)) : List Item :=
  (entries.filter fun entry => version < entry.version).map Entry.item

variable (key) in
/-- One entry for each key, none of them newer than the latest version. -/
structure Stamped (latest : Nat) (entries : List (Entry Item)) : Prop where
  distinct : (entries.map fun entry => key entry.item).Nodup
  bounded : ∀ entry ∈ entries, entry.version ≤ latest

theorem mem_put (version : Nat) (entries : List (Entry Item)) (item : Item) (entry : Entry Item) :
    entry ∈ put key version entries item ↔
      entry ∈ entries ∧ key entry.item ≠ key item ∨ entry = ⟨item, version⟩ := by
  simp [put]

theorem putAll_append (version : Nat) (entries : List (Entry Item)) (first second : List Item) :
    putAll key version entries (first ++ second) =
      putAll key version (putAll key version entries first) second :=
  foldl_append

variable {entries : List (Entry Item)} {version : Nat}

theorem Stamped.put {latest : Nat} (stamped : Stamped key latest entries) (later : latest ≤ version)
    (item : Item) :
    Stamped key version (Versioned.put key version entries item) := by
  constructor
  · rw [Versioned.put, map_append, nodup_append]
    refine ⟨?_, nodup_singleton _, ?_⟩
    · exact stamped.distinct.sublist (filter_sublist.map _)
    · intro k old other new
      obtain ⟨entry, kept, rfl⟩ := mem_map.mp old
      rw [map_singleton, mem_singleton] at new
      rw [new]
      exact of_decide_eq_true (mem_filter.mp kept).2
  · intro entry mem
    rcases (mem_put version entries item entry).mp mem with ⟨old, _⟩ | rfl
    · exact Nat.le_trans (stamped.bounded entry old) later
    · exact Nat.le_refl version

theorem Stamped.putAll
    {latest : Nat} (stamped : Stamped key latest entries) (later : latest ≤ version)
    (items : List Item) :
    Stamped key version (Versioned.putAll key version entries items) := by
  have raised : Stamped key version entries :=
    ⟨stamped.distinct, fun entry mem => Nat.le_trans (stamped.bounded entry mem) later⟩
  induction items generalizing entries latest with
  | nil => exact raised
  | cons item rest ih =>
    have putOne := raised.put (Nat.le_refl version) item
    exact ih putOne (Nat.le_refl version) putOne

theorem old_or_stamped_of_mem_putAll
    {entry : Entry Item} (mem : entry ∈ putAll key version entries items) :
    entry ∈ entries ∨ entry.version = version := by
  induction items generalizing entries with
  | nil => exact .inl mem
  | cons item rest ih =>
    rcases ih mem with old | stamped
    · rcases (mem_put version entries item entry).mp old with ⟨before, _⟩ | rfl
      · exact .inl before
      · exact .inr rfl
    · exact .inr stamped

theorem mem_putAll_of_not_put {entry : Entry Item} (mem : entry ∈ entries)
    (untouched : lastOf key (key entry.item) items = none) :
    entry ∈ putAll key version entries items := by
  rw [lastOf_eq_none_iff] at untouched
  induction items generalizing entries with
  | nil => exact mem
  | cons item rest ih =>
    apply ih
    · rw [mem_put]
      exact .inl ⟨mem, fun same => untouched item mem_cons_self same.symm⟩
    · intro other later
      exact untouched other (mem_cons_of_mem item later)

theorem mem_putAll_of_lastOf {k : Key} {item : Item} (last : lastOf key k items = some item) :
    ⟨item, version⟩ ∈ putAll key version entries items := by
  induction items generalizing entries with
  | nil => cases last
  | cons head rest ih =>
    rw [lastOf] at last
    cases later : lastOf key k rest with
    | some other =>
      rw [later, Option.some_or] at last
      exact ih (later.trans last)
    | none =>
      rw [later, Option.none_or] at last
      by_cases same : key head = k
      · rw [if_pos same] at last
        cases last
        have stored : ⟨item, version⟩ ∈ put key version entries item :=
          (mem_put version entries item _).mpr (.inr rfl)
        have kept : ⟨item, version⟩ ∈ putAll key version (put key version entries item) rest :=
          mem_putAll_of_not_put stored (same ▸ later)
        exact kept
      · rw [if_neg same] at last
        cases last

variable (key) in
/-- What was received ends, for every entry up to the version, with its item. -/
def Follows (entries : List (Entry Item)) (version : Nat) (received : List Item) : Prop :=
  ∀ entry ∈ entries, entry.version ≤ version →
    lastOf key (key entry.item) received = some entry.item

variable {received : List Item}

theorem Follows.putAll
    {later : Nat} (follows : Follows key entries version received) (order : version < later)
    (items : List Item) :
    Follows key (Versioned.putAll key later entries items) version received := by
  intro entry mem upTo
  rcases old_or_stamped_of_mem_putAll mem with old | stamped
  · exact follows entry old upTo
  · omega

theorem Follows.catchUp
    {visited : List (Entry Item)} {latest : Nat} (follows : Follows key entries version received)
    (stamped : Stamped key latest entries) (order : visited.Perm entries) (upTo : Nat) :
    Follows key entries upTo (received ++ newerThan version visited) := by
  have distinct : (visited.map fun entry => key entry.item).Nodup :=
    (order.map _).nodup_iff.mpr stamped.distinct
  intro entry mem _
  have visitedEntry : entry ∈ visited := order.mem_iff.mpr mem
  rw [lastOf_append]
  by_cases newer : version < entry.version
  · have listed : entry.item ∈ newerThan version visited :=
      mem_map.mpr ⟨entry, mem_filter.mpr ⟨visitedEntry, decide_eq_true newer⟩, rfl⟩
    have newDistinct : ((newerThan version visited).map key).Nodup := by
      rw [newerThan, map_map]
      exact distinct.sublist (filter_sublist.map _)
    rw [lastOf_of_nodup newDistinct listed, Option.some_or]
  · have unlisted : lastOf key (key entry.item) (newerThan version visited) = none := by
      rw [lastOf_eq_none_iff]
      intro item listed same
      obtain ⟨other, kept, rfl⟩ := mem_map.mp listed
      obtain ⟨otherVisited, otherNewer⟩ := mem_filter.mp kept
      have equal : other = entry := inj_on_of_nodup_map distinct otherVisited visitedEntry same
      rw [equal] at otherNewer
      exact newer (of_decide_eq_true otherNewer)
    rw [unlisted, Option.none_or]
    exact follows entry mem (Nat.le_of_not_lt newer)

variable (key) in
def Known (entries : List (Entry Item)) (received : List Item) : Prop :=
  ∀ item ∈ received, ∃ entry ∈ entries, key entry.item = key item

theorem Known.putAll (known : Known key entries received) (version : Nat) (items : List Item) :
    Known key (Versioned.putAll key version entries items) received := by
  intro item mem
  obtain ⟨entry, stored, same⟩ := known item mem
  cases last : lastOf key (key entry.item) items with
  | none => exact ⟨entry, mem_putAll_of_not_put stored last, same⟩
  | some put => exact ⟨_, mem_putAll_of_lastOf last, (mem_of_lastOf last).2.trans same⟩

omit [DecidableEq Key] in
theorem Known.catchUp {visited : List (Entry Item)}
    (known : Known key entries received) (order : visited.Perm entries) (version : Nat) :
    Known key entries (received ++ newerThan version visited) := by
  intro item mem
  rcases mem_append.mp mem with old | new
  · exact known item old
  · obtain ⟨entry, kept, rfl⟩ := mem_map.mp new
    exact ⟨entry, order.mem_iff.mp (mem_filter.mp kept).1, rfl⟩

/-- A follower of the latest version has exactly the stored items. -/
theorem Follows.lastOf_eq {latest : Nat}
    (follows : Follows key entries latest received) (stamped : Stamped key latest entries)
    (known : Known key entries received) (k : Key) :
    lastOf key k received = lastOf key k (entries.map Entry.item) := by
  by_cases stored : ∃ entry ∈ entries, key entry.item = k
  · obtain ⟨entry, mem, rfl⟩ := stored
    have distinct : ((entries.map Entry.item).map key).Nodup := by
      rw [map_map]
      exact stamped.distinct
    rw [follows entry mem (stamped.bounded entry mem),
      lastOf_of_nodup distinct (mem_map_of_mem mem)]
  · have absent : lastOf key k received = none := by
      rw [lastOf_eq_none_iff]
      intro item mem same
      obtain ⟨entry, isStored, sameKey⟩ := known item mem
      exact stored ⟨entry, isStored, sameKey.trans same⟩
    rw [absent, eq_comm, lastOf_eq_none_iff]
    intro item mem same
    obtain ⟨entry, isStored, rfl⟩ := mem_map.mp mem
    exact stored ⟨entry, isStored, same⟩

end FabricXCommitter.Library.Versioned
