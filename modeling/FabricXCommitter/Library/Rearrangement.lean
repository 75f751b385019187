import Mathlib.Data.List.Basic
import Mathlib.Data.List.Nodup
import Mathlib.Data.List.Perm.Basic

/-!
# Rearrangements of independent items

A permutation that keeps the order of dependent items is made of swaps of adjacent
independent ones.
-/

namespace FabricXCommitter.Library

open List

universe u

variable {Item : Type u}

def Before (items : List Item) (first second : Item) : Prop := [first, second].Sublist items

inductive Rearranged (independent : Item → Item → Prop) : List Item → List Item → Prop where
  | refl (items : List Item) : Rearranged independent items items
  | swap (front : List Item) {first second : Item} (rest : List Item)
      (apart : independent first second) :
      Rearranged independent (front ++ first :: second :: rest) (front ++ second :: first :: rest)
  | trans {first second third : List Item}
      (left : Rearranged independent first second)
      (right : Rearranged independent second third) :
      Rearranged independent first third

theorem not_before_both {items : List Item} (distinct : items.Nodup) {first second : Item}
    (before : Before items first second) (after : Before items second first) :
    False := by
  induction items with
  | nil => cases before
  | cons head rest ih =>
    obtain ⟨headFresh, restDistinct⟩ := nodup_cons.mp distinct
    rcases sublist_cons_iff.mp before with inRest | ⟨tail, shape, inside⟩
    · rcases sublist_cons_iff.mp after with otherInRest | ⟨otherTail, otherShape, _⟩
      · exact ih restDistinct inRest otherInRest
      · obtain ⟨isHead, _⟩ := List.cons.inj otherShape
        apply headFresh
        rw [← isHead]
        exact inRest.subset (mem_cons_of_mem _ mem_cons_self)
    · obtain ⟨isHead, isTail⟩ := List.cons.inj shape
      rcases sublist_cons_iff.mp after with otherInRest | ⟨otherTail, otherShape, _⟩
      · apply headFresh
        rw [← isHead]
        exact otherInRest.subset (mem_cons_of_mem _ mem_cons_self)
      · obtain ⟨otherIsHead, _⟩ := List.cons.inj otherShape
        apply headFresh
        rw [← otherIsHead]
        rw [← isTail] at inside
        exact inside.subset mem_cons_self

theorem before_or_after {items : List Item} {first second : Item} (firstMem : first ∈ items)
    (secondMem : second ∈ items) (different : first ≠ second) :
    Before items first second ∨ Before items second first := by
  obtain ⟨front, back, shape⟩ := append_of_mem firstMem
  subst shape
  rcases mem_append.mp secondMem with inFront | inBack
  · right
    exact (singleton_sublist.mpr inFront).append (singleton_sublist.mpr mem_cons_self)
  · left
    have later : second ∈ back := (mem_cons.mp inBack).resolve_left different.symm
    exact ((singleton_sublist.mpr later).cons_cons first).trans (sublist_append_right front _)

section

variable {independent : Item → Item → Prop}

theorem Rearranged.perm
    {first second : List Item} (rearranged : Rearranged independent first second) :
    first.Perm second := by
  induction rearranged with
  | refl items => exact List.Perm.refl items
  | swap front rest _ => exact (List.Perm.swap _ _ rest).append_left front
  | trans _ _ firstHypothesis secondHypothesis => exact firstHypothesis.trans secondHypothesis

theorem Rearranged.cons
    (item : Item) {first second : List Item} (rearranged : Rearranged independent first second) :
    Rearranged independent (item :: first) (item :: second) := by
  induction rearranged with
  | refl items => exact .refl (item :: items)
  | swap front rest apart => exact .swap (item :: front) rest apart
  | trans _ _ firstHypothesis secondHypothesis => exact .trans firstHypothesis secondHypothesis

theorem Rearranged.moveBack {item : Item} {front : List Item}
    (apart : ∀ other ∈ front, independent item other) (rest : List Item) :
    Rearranged independent (item :: (front ++ rest)) (front ++ item :: rest) := by
  induction front with
  | nil => exact .refl (item :: rest)
  | cons head tail ih =>
    have moved := ih fun other mem => apart other (mem_cons_of_mem head mem)
    have swapped :
        Rearranged independent (item :: head :: (tail ++ rest)) (head :: item :: (tail ++ rest)) :=
      .swap [] (tail ++ rest) (apart head mem_cons_self)
    exact swapped.trans (moved.cons head)

theorem rearranged_of_perm
    {first second : List Item} (distinct : first.Nodup) (permuted : first.Perm second)
    (ordered :
      ∀ earlier later, Before first earlier later →
        ¬ independent earlier later → Before second earlier later) :
    Rearranged independent first second := by
  classical
  induction first generalizing second with
  | nil =>
    rw [nil_perm.mp permuted]
    exact .refl []
  | cons item rest ih =>
    obtain ⟨itemFresh, restDistinct⟩ := nodup_cons.mp distinct
    obtain ⟨front, back, shape⟩ := append_of_mem (permuted.mem_iff.mp mem_cons_self)
    subst shape
    have secondDistinct := permuted.nodup_iff.mp distinct
    have fromRest : rest.Perm (front ++ back) := (permuted.trans perm_middle).cons_inv
    have itemNotFront : item ∉ front := by
      intro inside
      apply itemFresh
      exact fromRest.mem_iff.mpr (mem_append_left _ inside)
    have apart : ∀ other ∈ front, independent item other := by
      intro other inside
      by_contra dependent
      have inRest : other ∈ rest := fromRest.mem_iff.mpr (mem_append_left _ inside)
      have kept := ordered item other ((singleton_sublist.mpr inRest).cons_cons item) dependent
      have reversed : Before (front ++ item :: back) other item :=
        (singleton_sublist.mpr inside).append (singleton_sublist.mpr mem_cons_self)
      exact not_before_both secondDistinct kept reversed
    have restOrdered :
        ∀ earlier later, Before rest earlier later →
          ¬ independent earlier later → Before (front ++ back) earlier later := by
      intro earlier later before dependent
      have kept := ordered earlier later (before.cons item) dependent
      have earlierOther : item ≠ earlier := fun same =>
        itemFresh (same ▸ before.subset mem_cons_self)
      have laterOther : item ≠ later := fun same =>
        itemFresh (same ▸ before.subset (mem_cons_of_mem _ mem_cons_self))
      have erased := kept.erase item
      rw [erase_of_not_mem (by simp [earlierOther, laterOther]),
        erase_append_right _ itemNotFront, erase_cons_head] at erased
      exact erased
    have inner := ih restDistinct fromRest restOrdered
    exact (inner.cons item).trans (Rearranged.moveBack apart back)

end

/-- A part of the items that holds, with every item, the earlier ones that are
not independent of it, in their order. -/
structure Front (independent : Item → Item → Prop) (items taken : List Item) : Prop where
  distinct : taken.Nodup
  members : ∀ item ∈ taken, item ∈ items
  ordered :
    ∀ earlier later, Before items earlier later →
      ¬ independent earlier later → later ∈ taken → Before taken earlier later

section

variable {independent : Item → Item → Prop} {items taken : List Item}

theorem Front.nil (items : List Item) : Front independent items [] where
  distinct := nodup_nil
  members := fun _ mem => absurd mem not_mem_nil
  ordered := fun _ _ _ _ mem => absurd mem not_mem_nil

theorem Front.append (front : Front independent items taken) {more : List Item}
    (distinct : more.Nodup) (members : ∀ item ∈ more, item ∈ items)
    (fresh : ∀ item ∈ more, item ∉ taken)
    (ready :
      ∀ earlier later, Before items earlier later →
        ¬ independent earlier later → later ∈ more → earlier ∈ taken) :
    Front independent items (taken ++ more) where
  distinct := by
    rw [nodup_append]
    refine ⟨front.distinct, distinct, ?_⟩
    intro item inTaken other inMore same
    exact fresh other inMore (same ▸ inTaken)
  members := by
    intro item mem
    rcases mem_append.mp mem with inTaken | inMore
    · exact front.members item inTaken
    · exact members item inMore
  ordered := by
    intro earlier later before dependent mem
    rcases mem_append.mp mem with inTaken | inMore
    · exact
        (front.ordered earlier later before dependent inTaken).trans
          (sublist_append_left taken more)
    · have earlierTaken := ready earlier later before dependent inMore
      exact (singleton_sublist.mpr earlierTaken).append (singleton_sublist.mpr inMore)

theorem Front.rearranged
    [DecidableEq Item] (front : Front independent items taken) (distinct : items.Nodup) :
    Rearranged independent items (taken ++ items.filter fun item => decide (item ∉ taken)) := by
  have permuted : items.Perm (taken ++ items.filter fun item => decide (item ∉ taken)) := by
    have bothDistinct : (taken ++ items.filter fun item => decide (item ∉ taken)).Nodup := by
      rw [nodup_append]
      refine ⟨front.distinct, distinct.filter _, ?_⟩
      intro item inTaken other inRest same
      rw [mem_filter, decide_eq_true_iff] at inRest
      exact inRest.2 (same ▸ inTaken)
    rw [perm_ext_iff_of_nodup distinct bothDistinct]
    intro item
    rw [mem_append, mem_filter, decide_eq_true_iff]
    constructor
    · intro mem
      by_cases inTaken : item ∈ taken
      · exact Or.inl inTaken
      · exact Or.inr ⟨mem, inTaken⟩
    · intro mem
      rcases mem with inTaken | inRest
      · exact front.members item inTaken
      · exact inRest.1
  apply rearranged_of_perm distinct permuted
  intro earlier later before dependent
  by_cases laterTaken : later ∈ taken
  · exact
      (front.ordered earlier later before dependent laterTaken).trans (sublist_append_left taken _)
  · have laterRest : later ∈ items.filter fun item => decide (item ∉ taken) := by
      rw [mem_filter, decide_eq_true_iff]
      exact ⟨before.subset (mem_cons_of_mem _ mem_cons_self), laterTaken⟩
    by_cases earlierTaken : earlier ∈ taken
    · exact (singleton_sublist.mpr earlierTaken).append (singleton_sublist.mpr laterRest)
    · have filtered := before.filter fun item => decide (item ∉ taken)
      rw [filter_cons_of_pos (by simpa using earlierTaken),
        filter_cons_of_pos (by simpa using laterTaken),
        filter_nil] at filtered
      exact filtered.trans (sublist_append_right taken _)

end

end FabricXCommitter.Library
