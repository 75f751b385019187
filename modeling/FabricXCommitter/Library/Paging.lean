import Mathlib.Data.List.Basic

/-!
# Reading a table page by page

The loop ends at the first page that is not full.
-/

namespace FabricXCommitter.Library

open List

section

variable {Row Key State : Type*} (key : Row → Key) (below : Key → Key → Prop)
  [DecidableRel below] (rows : List Row) (limit : Nat)

def rowsAbove (cursor : Key) : List Row := rows.filter fun row => below cursor (key row)

def pageAbove (cursor : Key) : List Row := (rowsAbove key below rows cursor).take limit

/-- The state after the last page, if the fuel suffices.  An empty page that is
full has no last row. -/
def foldPages (fold : State → Row → State) : Nat → Key → State → Option State
  | 0, _, _ => none
  | fuel + 1, cursor, state =>
    let page := pageAbove key below rows limit cursor
    let state := page.foldl fold state
    if page.length < limit then
      some state
    else
      match page.getLast? with
      | none => none
      | some last => foldPages fold fuel (key last) state

variable {key below rows limit}
  (trans : ∀ first second third, below first second → below second third → below first third)
  (irrefl : ∀ cursor, ¬ below cursor cursor)
  (sorted : rows.Pairwise fun first second => below (key first) (key second))

include trans irrefl sorted

theorem rowsAbove_key {cursor : Key} {front rest : List Row} {last : Row}
    (isSplit : rowsAbove key below rows cursor = front ++ last :: rest) :
    rowsAbove key below rows (key last) = rest := by
  have isAbove : last ∈ rowsAbove key below rows cursor := by
    rw [isSplit]
    exact mem_append_right _ mem_cons_self
  have lastAbove : below cursor (key last) := by
    simpa using (mem_filter.mp isAbove).2
  have again :
      rowsAbove key below rows (key last) =
        (rowsAbove key below rows cursor).filter fun row => below (key last) (key row) := by
    rw [rowsAbove, rowsAbove, filter_filter]
    apply filter_congr
    intro row _
    by_cases beyond : below (key last) (key row)
    · simp [beyond, trans _ _ _ lastAbove beyond]
    · simp [beyond]
  have ordered := sorted.filter fun row => below cursor (key row)
  change (rowsAbove key below rows cursor).Pairwise _ at ordered
  rw [isSplit, pairwise_append, pairwise_cons] at ordered
  obtain ⟨_, ⟨restAbove, _⟩, across⟩ := ordered
  have noFront : front.filter (fun row => below (key last) (key row)) = [] := by
    rw [filter_eq_nil_iff]
    intro row mem
    have before := across row mem last mem_cons_self
    simpa using fun beyond => irrefl _ (trans _ _ _ before beyond)
  have allRest : rest.filter (fun row => below (key last) (key row)) = rest := by
    rw [filter_eq_self]
    intro row mem
    simpa using restAbove row mem
  rw [again, isSplit, filter_append, noFront,
    filter_cons_of_neg (by simpa using irrefl (key last)), allRest, nil_append]

theorem foldPages_eq (positive : 0 < limit) (fold : State → Row → State)
    (fuel : Nat) (cursor : Key) (state : State) :
    foldPages key below rows limit fold fuel cursor state =
      if (rowsAbove key below rows cursor).length / limit < fuel then
        some ((rowsAbove key below rows cursor).foldl fold state)
      else
        none := by
  induction fuel generalizing cursor state with
  | zero => simp [foldPages]
  | succ fuel ih =>
    rw [foldPages]
    by_cases short : (rowsAbove key below rows cursor).length < limit
    · have whole : pageAbove key below rows limit cursor = rowsAbove key below rows cursor :=
        take_of_length_le (Nat.le_of_lt short)
      simp [whole, short, Nat.div_eq_of_lt short]
    · have full : (pageAbove key below rows limit cursor).length = limit := by
        rw [pageAbove, length_take]
        omega
      have isSplit := take_append_drop limit (rowsAbove key below rows cursor)
      change pageAbove key below rows limit cursor ++ _ = _ at isSplit
      rcases eq_nil_or_concat' (pageAbove key below rows limit cursor) with
        nothing | ⟨front, last, isPage⟩
      · rw [nothing, length_nil] at full
        omega
      · rw [isPage, append_assoc, singleton_append] at isSplit
        have next := rowsAbove_key trans irrefl sorted isSplit.symm
        have pages := Nat.div_eq_sub_div positive (Nat.le_of_not_lt short)
        rw [if_neg (by omega), isPage, getLast?_concat]
        simp only
        rw [ih, next, length_drop, pages, ← foldl_append, append_assoc, singleton_append, isSplit]
        simp only [Nat.add_lt_add_iff_right]

end

end FabricXCommitter.Library
