import Mathlib.Data.List.Dedup
import Mathlib.Data.List.Perm.Basic
import Mathlib.Data.List.Pairwise
import Mathlib.Logic.Function.Basic

/-!
# Partial maps overwritten by lists of entries
-/

namespace FabricXCommitter.Library

open List Function

universe u v

section

variable {Key : Type u} {Value : Type v} [DecidableEq Key]

def overlay (entries : List (Key × Value)) (base : Key → Option Value) : Key → Option Value :=
  entries.foldl (fun map entry => update map entry.1 (some entry.2)) base

@[simp]
theorem overlay_nil (base : Key → Option Value) : overlay [] base = base := rfl

theorem overlay_cons (entry : Key × Value) (rest : List (Key × Value)) (base : Key → Option Value) :
    overlay (entry :: rest) base = overlay rest (update base entry.1 (some entry.2)) :=
  rfl

theorem overlay_append (first second : List (Key × Value)) (base : Key → Option Value) :
    overlay (first ++ second) base = overlay second (overlay first base) :=
  foldl_append

variable {entries : List (Key × Value)} {base : Key → Option Value}

theorem overlay_of_not_mem {key : Key} (outside : key ∉ entries.map Prod.fst) :
    overlay entries base key = base key := by
  induction entries generalizing base with
  | nil => rfl
  | cons entry rest ih =>
    rw [map_cons, mem_cons, not_or] at outside
    rw [overlay_cons, ih outside.2, update_of_ne outside.1]

theorem overlay_of_mem
    (distinct : (entries.map Prod.fst).Nodup) {entry : Key × Value} (mem : entry ∈ entries) :
    overlay entries base entry.1 = some entry.2 := by
  induction entries generalizing base with
  | nil => cases mem
  | cons head rest ih =>
    rw [map_cons, nodup_cons] at distinct
    rw [overlay_cons]
    rcases mem_cons.mp mem with equal | later
    · subst entry
      rw [overlay_of_not_mem distinct.1, update_self]
    · exact ih distinct.2 later

theorem overlay_eq_some
    {key : Key} {value : Value} (found : overlay entries base key = some value) :
    (key, value) ∈ entries ∨ base key = some value := by
  induction entries generalizing base with
  | nil => exact .inr found
  | cons head rest ih =>
    rw [overlay_cons] at found
    rcases ih found with later | here
    · exact .inl (mem_cons_of_mem head later)
    · by_cases same : key = head.1
      · rw [same, update_self] at here
        left
        rw [same, ← Option.some.inj here]
        exact mem_cons_self
      · rw [update_of_ne same] at here
        exact .inr here

/-- Entries with distinct keys may be written in any order. -/
theorem overlay_perm {first second : List (Key × Value)} (distinct : (first.map Prod.fst).Nodup)
    (permuted : first.Perm second) (base : Key → Option Value) :
    overlay first base = overlay second base := by
  have distinctSecond : (second.map Prod.fst).Nodup := (permuted.map Prod.fst).nodup_iff.mp distinct
  funext key
  by_cases inside : key ∈ first.map Prod.fst
  · obtain ⟨entry, mem, eq⟩ := mem_map.mp inside
    subst key
    rw [overlay_of_mem distinct mem, overlay_of_mem distinctSecond (permuted.mem_iff.mp mem)]
  · have outside : key ∉ second.map Prod.fst := fun mem =>
      inside ((permuted.map Prod.fst).mem_iff.mpr mem)
    rw [overlay_of_not_mem inside, overlay_of_not_mem outside]

end

section

variable {Value : Type v}

/-- Overwrite a list at the positions of the entries of another one. -/
def overwrite (entries : List (Nat × Value)) (base : List Value) : List Value :=
  entries.foldl (fun values entry => values.set entry.1 entry.2) base

theorem length_overwrite (entries : List (Nat × Value)) (base : List Value) :
    (overwrite entries base).length = base.length := by
  induction entries generalizing base with
  | nil => rfl
  | cons entry rest ih =>
    exact (ih _).trans length_set

theorem getElem?_overwrite_of_not_mem
    {entries : List (Nat × Value)} {base : List Value} {index : Nat}
    (outside : index ∉ entries.map Prod.fst) :
    (overwrite entries base)[index]? = base[index]? := by
  induction entries generalizing base with
  | nil => rfl
  | cons entry rest ih =>
    rw [map_cons, mem_cons, not_or] at outside
    refine (ih outside.2).trans ?_
    exact getElem?_set_ne (Ne.symm outside.1)

theorem getElem?_overwrite_of_mem
    {entries : List (Nat × Value)} (distinct : (entries.map Prod.fst).Nodup)
    {base : List Value} {entry : Nat × Value} (mem : entry ∈ entries)
    (within : entry.1 < base.length) :
    (overwrite entries base)[entry.1]? = some entry.2 := by
  induction entries generalizing base with
  | nil => cases mem
  | cons head rest ih =>
    rw [map_cons, nodup_cons] at distinct
    rcases mem_cons.mp mem with equal | later
    · subst equal
      refine (getElem?_overwrite_of_not_mem distinct.1).trans ?_
      exact getElem?_set_self within
    · apply ih distinct.2 later
      rw [length_set]
      exact within

end

section

variable {Item : Type u} {Class : Type v} [BEq Class] [LawfulBEq Class]

theorem flatMap_filter_perm
    (classOf : Item → Class) {classes : List Class} (distinct : classes.Nodup)
    (items : List Item) (covered : ∀ item ∈ items, classOf item ∈ classes) :
    (classes.flatMap fun cls => items.filter fun item => classOf item == cls).Perm items := by
  induction classes generalizing items with
  | nil =>
    cases items with
    | nil => exact List.Perm.refl _
    | cons item rest => exact absurd (covered item mem_cons_self) not_mem_nil
  | cons head rest ih =>
    obtain ⟨headFresh, restDistinct⟩ := nodup_cons.mp distinct
    have remainder :
        ∀ item ∈ items.filter (fun item => !(classOf item == head)), classOf item ∈ rest := by
      intro item mem
      obtain ⟨inside, different⟩ := mem_filter.mp mem
      rcases mem_cons.mp (covered item inside) with equal | later
      · rw [equal] at different
        simp at different
      · exact later
    have sameGroups :
        (rest.flatMap fun cls => items.filter fun item => classOf item == cls) =
          rest.flatMap fun cls =>
            (items.filter fun item => !(classOf item == head)).filter
              fun item => classOf item == cls := by
      rw [flatMap_def, flatMap_def]
      congr 1
      apply map_congr_left
      intro cls mem
      rw [filter_filter]
      apply filter_congr
      intro item _
      by_cases equal : classOf item = cls
      · have different : classOf item ≠ head := by
          rw [equal]
          intro same
          exact headFresh (same ▸ mem)
        simp [equal, equal ▸ different]
      · simp [equal]
    rw [flatMap_cons, sameGroups]
    exact ((ih restDistinct _ remainder).append_left _).trans (filter_append_perm _ items)

theorem filterMap_append_perm {Result : Type v} (first second : Item → Option Result)
    (image : Item → Result) {items : List Item}
    (shared :
      ∀ item ∈ items,
        first item = some (image item) ∧ second item = none ∨
          first item = none ∧ second item = some (image item)) :
    (items.filterMap first ++ items.filterMap second).Perm (items.map image) := by
  induction items with
  | nil => exact List.Perm.refl _
  | cons item rest ih =>
    have restPerm := ih fun later mem => shared later (mem_cons_of_mem item mem)
    rcases shared item mem_cons_self with taken | left
    · rw [filterMap_cons_some taken.1, filterMap_cons_none taken.2]
      exact restPerm.cons (image item)
    · rw [filterMap_cons_none left.1, filterMap_cons_some left.2]
      exact perm_middle.trans (restPerm.cons (image item))

end

end FabricXCommitter.Library
