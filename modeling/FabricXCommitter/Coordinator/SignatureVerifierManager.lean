import FabricXCommitter.Coordinator.Failover

/-!
# The signature verifier manager

If the write to the output fails, the nodes go back into the map.
-/

namespace FabricXCommitter.Coordinator.SignatureVerifierManager

open Library Coordinator.Failover List

inductive Signal where
  | respond (status : List TxStatus)
  | write
  | writeFails
  deriving DecidableEq, Repr

section

variable {Node : Type} [DecidableEq Node] (height : Node → Height)

abbrev Prelim (Node : Type) := Node → Option Status

/-- The nodes of a response, with the map and the preliminary statuses that are
left. -/
structure Fetched (Node : Type) where
  prelim : Prelim Node
  txBeingValidated : List Node
  validatedTxs : List Node

def setPrelim (prelim : Prelim Node) (node : Node) (status : Status) : Prelim Node :=
  if status = .committed then prelim
  else Function.update prelim node (some status)

def fetchAndDeleteTxBeingValidated (prelim : Prelim Node) (txBeingValidated : List Node) :
    List TxStatus → Fetched Node
  | [] => ⟨prelim, txBeingValidated, []⟩
  | resp :: rest =>
    match loadAndDelete height txBeingValidated resp.ref.height with
    | none => fetchAndDeleteTxBeingValidated prelim txBeingValidated rest
    | some (node, remaining) =>
      let fetched :=
        fetchAndDeleteTxBeingValidated (setPrelim prelim node resp.status) remaining rest
      { fetched with validatedTxs := node :: fetched.validatedTxs }

theorem fetched_perm (prelim : Prelim Node) {txBeingValidated : List Node} (status : List TxStatus)
    (distinct : (txBeingValidated.map height).Nodup) :
    ((fetchAndDeleteTxBeingValidated height prelim txBeingValidated status).txBeingValidated ++
        (fetchAndDeleteTxBeingValidated height prelim txBeingValidated status).validatedTxs).Perm
      txBeingValidated := by
  induction status generalizing prelim txBeingValidated with
  | nil => rw [fetchAndDeleteTxBeingValidated, append_nil]
  | cons resp rest ih =>
    rw [fetchAndDeleteTxBeingValidated]
    cases loaded : loadAndDelete height txBeingValidated resp.ref.height with
    | none => exact ih prelim distinct
    | some found =>
      obtain ⟨node, remaining⟩ := found
      obtain ⟨split, _⟩ := loadAndDelete_perm height distinct loaded
      have remainingDistinct : (remaining.map height).Nodup := by
        have reordered := (split.map height).nodup_iff.mp distinct
        exact (nodup_cons.mp reordered).2
      have later := ih (setPrelim prelim node resp.status) remainingDistinct
      exact perm_middle.trans ((later.cons node).trans split.symm)

/-- Nothing is written if no node was found. -/
def afterFetch (validatedTxs : List Node) : Receiver (List Node) :=
  if validatedTxs = [] then .recv else .busy validatedTxs

omit [DecidableEq Node] in
theorem held_afterFetch (validatedTxs : List Node) :
    (afterFetch validatedTxs).held id = validatedTxs := by
  by_cases empty : validatedTxs = []
  · rw [afterFetch, if_pos empty, empty]
    rfl
  · rw [afterFetch, if_neg empty]
    rfl

def react (prelim : Prelim Node) (txBeingValidated : List Node) :
    Receiver (List Node) → Signal → Option (Reaction Node (List Node) (Prelim Node))
  | .recv, .respond status =>
    let fetched := fetchAndDeleteTxBeingValidated height prelim txBeingValidated status
    some
      { extra := fetched.prelim
        txBeingValidated := fetched.txBeingValidated
        receiver := afterFetch fetched.validatedTxs }
  | .busy validatedTxs, .write =>
    some
      { extra := prelim
        txBeingValidated := txBeingValidated
        receiver := .recv
        written := validatedTxs }
  | .busy validatedTxs, .writeFails =>
    some
      { extra := prelim
        txBeingValidated := addTxsBeingValidated height txBeingValidated validatedTxs
        receiver := .stopped }
  | _, _ => none

theorem react_conserved {prelim : Prelim Node} {txBeingValidated : List Node}
    {receiver : Receiver (List Node)} {signal : Signal}
    {reaction : Reaction Node (List Node) (Prelim Node)}
    (reacts : react height prelim txBeingValidated receiver signal = some reaction)
    (distinct : ((txBeingValidated ++ receiver.held id).map height).Nodup) :
    (reaction.txBeingValidated ++ reaction.receiver.held id ++ reaction.written).Perm
      (txBeingValidated ++ receiver.held id) := by
  cases receiver with
  | stopped => cases reacts
  | recv =>
    cases signal with
    | write | writeFails => cases reacts
    | respond status =>
      have same := Option.some.inj reacts
      subst same
      have tracked : (txBeingValidated.map height).Nodup := by
        simpa only [Receiver.held, append_nil] using distinct
      rw [append_nil, held_afterFetch]
      refine (fetched_perm height prelim status tracked).trans ?_
      simp [Receiver.held]
  | busy validatedTxs =>
    cases signal with
    | respond _ => cases reacts
    | write =>
      have same := Option.some.inj reacts
      subst same
      simp [Receiver.held]
    | writeFails =>
      have same := Option.some.inj reacts
      subst same
      have swapped : ((validatedTxs ++ txBeingValidated).map height).Nodup :=
        (perm_append_comm.map height).nodup_iff.mp distinct
      simp only [Receiver.held, append_nil]
      exact (addTxsBeingValidated_perm height swapped).trans perm_append_comm

def protocol : Protocol Node (List Node) (Prelim Node) Signal height where
  skipsEmpty := false
  locked := true
  held := id
  react := react height
  conserved := react_conserved height

abbrev State (Node : Type) := Failover.State Node (List Node) (Prelim Node)

/-- The manager with the given number of verifiers. -/
def manager (prelim : Prelim Node) (count : Nat) :
    Machine (State Node) (Fleet.Action (List Node) (Failover.Task Signal)) :=
  (fleet (protocol height)).machine (initialState prelim count)

end

end FabricXCommitter.Coordinator.SignatureVerifierManager
