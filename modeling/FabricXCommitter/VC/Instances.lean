import FabricXCommitter.Library.Fleet
import FabricXCommitter.VC.Committer

/-!
# Validator-committer instances over one database

Other batches may change the database between two accesses, and a commit may take
effect without being acknowledged.
-/

namespace FabricXCommitter.VC.Instances

open Library Option

/-- The database and all statuses sent to the coordinator. -/
structure Store where
  db : Database
  reported : List TxStatus

/-- How far a batch has come.  The pending namespaces are those that are still
to be queried. -/
inductive Stage where
  | validating (p : PreparedTransactions) (pending : List Bytes) (conflicts : List (Bytes × Read))
  | resolving (v : ValidatedTransactions) (pending : List Bytes)
      (state : Bytes → Bytes → Option UInt64)
  | committing (v : ValidatedTransactions) (retries : Nat)
  | correcting (v : ValidatedTransactions)

/-- The next access of a batch to the database. -/
inductive Access where
  | validateNamespace
  | finishValidation
  | queryNamespace
  | categorize
  | attempt (acknowledged : Bool)
  | report
  deriving DecidableEq, Repr

inductive Task where
  | deliver (batch : List VcTx)
  | access (index : Nat) (access : Access)
  | fail
  deriving DecidableEq, Repr

section

variable (codec : SnapshotCodec) (attempts : Nat)

/-- The part of `validate` after the comparison of the reads. -/
def finishValidation (db : Database) (p : PreparedTransactions) (conflicts : List (Bytes × Read)) :
    Option (ValidatedTransactions × Database) :=
  match invalidateTxsOnReadConflicts (.ofPrepared p) conflicts with
  | none => none
  | some v =>
    match rejectSnapshotIfPriorNotCheckpointed codec db v with
    | none => none
    | some v => rejectCheckpointIfNotVerified codec attempts db v

def blindWrites (v : ValidatedTransactions) : List WriteEntry :=
  groupWrites v.txIDs v.validTxBlindWrites

def startValidation (p : PreparedTransactions) : Stage :=
  .validating p (readNamespaces p.nsToReads) []

def startCommit (v : ValidatedTransactions) : Stage :=
  .resolving v (writeNamespaces (blindWrites v)) fun _ _ => none

/-- One access of a batch to the database; after the report nothing is left of
the batch.  An attempt that fails, or that is rolled back and not answered, is
repeated as it is and has no effect. -/
def advance (store : Store) : Stage → Access → Option (Store × Option Stage)
  | .validating p (nsId :: pending) conflicts, .validateNamespace =>
    (validateNamespaceReads store.db nsId (readsOfNamespace p.nsToReads nsId)).map fun found =>
      (store, some (.validating p pending (conflicts ++ found.map fun read => (nsId, read))))
  | .validating p [] conflicts, .finishValidation =>
    (finishValidation codec attempts store.db p conflicts).map fun result =>
      ({ store with db := result.2 }, some (startCommit result.1))
  | .resolving v (nsId :: pending) state, .queryNamespace =>
    (queryVersionsIfPresent store.db nsId
        ((writesOfNamespace (blindWrites v) nsId).map WriteEntry.key)).map
      fun versions => (store, some (.resolving v pending (Function.update state nsId versions)))
  | .resolving v [] state, .categorize =>
    (createSnapshotIfPresent codec store.db (categorizeBlindWrites state v)).map fun result =>
      ({ store with db := result.2 }, some (.committing result.1 maxRetriesToRemoveAllInvalidTxs))
  | .committing v (retries + 1), .attempt acknowledged =>
    match commit codec store.db (statesOf v) with
    | none => none
    | some (.committed db) =>
      some
        ({ store with db := db },
          some
            (if acknowledged then
              .correcting v
            else
              .committing v (retries + 1)))
    | some (.duplicates txIDs) =>
      some (store, some (.committing (updateInvalidTxs v txIDs .rejectedDuplicateTxId) retries))
    | some (.conflicts reads) =>
      (invalidateTxsOnReadConflicts v reads).map fun v => (store, some (.committing v retries))
  | .correcting v, .report =>
    some
      ({ store with
          reported :=
            store.reported ++
              setCorrectStatusForDuplicateTxID store.db (prepareStatusForCommit v) v.txIDToHeight },
        none)
  | _, _ => none

def instanceStep (store : Store) (stages : List Stage) : Task → Option (Store × List Stage)
  | .deliver batch => (prepare codec batch).map fun p => (store, stages ++ [startValidation p])
  | .access index access =>
    stages[index]?.bind fun stage =>
      (advance codec attempts store stage access).map fun result =>
        (result.1, result.2.elim (stages.eraseIdx index) (stages.set index))
  | .fail => some (store, [])

/-- The instances and the database they share. -/
def instances : Fleet Store (List Stage) Empty Task where
  environmentStep := fun _ _ event => nomatch event
  workerStep := instanceStep codec attempts

/-- A number of instances that start on a database. -/
def machine (count : Nat) (db : Database) :
    Machine (Fleet.State Store (List Stage)) (Fleet.Action Empty Task) :=
  (instances codec attempts).machine ⟨⟨db, []⟩, List.replicate count []⟩

end

section

variable (codec : SnapshotCodec) (attempts : Nat)

inductive Advanced (store : Store) : Stage → Access → Store → Option Stage → Prop where
  | validateNamespace {p : PreparedTransactions} {nsId : Bytes}
      {pending : List Bytes} {conflicts : List (Bytes × Read)}
      {found : List Read}
      (queried :
        validateNamespaceReads store.db nsId (readsOfNamespace p.nsToReads nsId) = some found) :
      Advanced store (.validating p (nsId :: pending) conflicts)
        .validateNamespace store
        (some (.validating p pending (conflicts ++ found.map fun read => (nsId, read))))
  | finishValidation {p : PreparedTransactions}
      {conflicts : List (Bytes × Read)} {v : ValidatedTransactions}
      {db : Database}
      (finished : finishValidation codec attempts store.db p conflicts = some (v, db)) :
      Advanced store (.validating p [] conflicts) .finishValidation
        { store with db := db } (some (startCommit v))
  | queryNamespace {v : ValidatedTransactions} {nsId : Bytes}
      {pending : List Bytes} {state : Bytes → Bytes → Option UInt64}
      {versions : Bytes → Option UInt64}
      (queried :
        queryVersionsIfPresent store.db nsId
            ((writesOfNamespace (blindWrites v) nsId).map WriteEntry.key) =
          some versions) :
      Advanced store (.resolving v (nsId :: pending) state) .queryNamespace
        store
        (some (.resolving v pending (Function.update state nsId versions)))
  | categorize {v next : ValidatedTransactions}
      {state : Bytes → Bytes → Option UInt64} {db : Database}
      (created :
        createSnapshotIfPresent codec store.db (categorizeBlindWrites state v) = some (next, db)) :
      Advanced store (.resolving v [] state) .categorize
        { store with db := db }
        (some (.committing next maxRetriesToRemoveAllInvalidTxs))
  | committed {v : ValidatedTransactions} {retries : Nat}
      {acknowledged : Bool} {db : Database}
      (attempted : commit codec store.db (statesOf v) = some (.committed db)) :
      Advanced store (.committing v (retries + 1)) (.attempt acknowledged)
        { store with db := db }
        (some (if acknowledged then .correcting v else .committing v (retries + 1)))
  | duplicates {v : ValidatedTransactions} {retries : Nat}
      {acknowledged : Bool} {txIDs : List Bytes}
      (attempted : commit codec store.db (statesOf v) = some (.duplicates txIDs)) :
      Advanced store (.committing v (retries + 1)) (.attempt acknowledged)
        store
        (some (.committing (updateInvalidTxs v txIDs .rejectedDuplicateTxId) retries))
  | conflicts {v next : ValidatedTransactions} {retries : Nat}
      {acknowledged : Bool} {reads : List (Bytes × Read)}
      (attempted : commit codec store.db (statesOf v) = some (.conflicts reads))
      (invalidated : invalidateTxsOnReadConflicts v reads = some next) :
      Advanced store (.committing v (retries + 1)) (.attempt acknowledged)
        store (some (.committing next retries))
  | report {v : ValidatedTransactions} :
      Advanced store (.correcting v) .report
        { store with
          reported :=
            store.reported ++
              setCorrectStatusForDuplicateTxID store.db (prepareStatusForCommit v) v.txIDToHeight }
        none

variable {codec attempts}

theorem advanced_of_advance
    {store after : Store} {stage : Stage} {access : Access} {next : Option Stage}
    (advanced : advance codec attempts store stage access = some (after, next)) :
    Advanced codec attempts store stage access after next := by
  revert advanced
  fun_cases advance codec attempts store stage access with
  | case1 p nsId pending conflicts =>
    intro advanced
    obtain ⟨found, queried, same⟩ := map_eq_some_iff.mp advanced
    cases same
    exact .validateNamespace queried
  | case2 p conflicts =>
    intro advanced
    obtain ⟨result, finished, same⟩ := map_eq_some_iff.mp advanced
    cases same
    exact .finishValidation finished
  | case3 v nsId pending state =>
    intro advanced
    obtain ⟨versions, queried, same⟩ := map_eq_some_iff.mp advanced
    cases same
    exact .queryNamespace queried
  | case4 v state =>
    intro advanced
    obtain ⟨result, created, same⟩ := map_eq_some_iff.mp advanced
    cases same
    exact .categorize created
  | case5 v retries acknowledged refused =>
    intro advanced
    cases advanced
  | case6 v retries acknowledged db attempted =>
    intro advanced
    cases advanced
    exact .committed attempted
  | case7 v retries acknowledged txIDs attempted =>
    intro advanced
    cases advanced
    exact .duplicates attempted
  | case8 v retries acknowledged reads attempted =>
    intro advanced
    obtain ⟨next, invalidated, same⟩ := map_eq_some_iff.mp advanced
    cases same
    exact .conflicts attempted invalidated
  | case9 v =>
    intro advanced
    cases advanced
    exact .report
  | case10 =>
    intro advanced
    cases advanced

end

section

variable (codec : SnapshotCodec) (attempts : Nat)

/-- What a batch comes to if nothing else accesses the database. -/
def remaining (db : Database) :
    Stage → Option (List TxStatus × Option CheckpointFeedback × Database)
  | .validating p pending conflicts =>
    (pending.foldlM
        (fun conflicts nsId =>
          (validateNamespaceReads db nsId (readsOfNamespace p.nsToReads nsId)).map
            fun found => conflicts ++ found.map fun read => (nsId, read))
        conflicts).bind fun conflicts =>
      (finishValidation codec attempts db p conflicts).bind fun result =>
        commitTransactions codec result.2 result.1
  | .resolving v pending state =>
    (pending.foldlM
        (fun state nsId =>
          (queryVersionsIfPresent db nsId
              ((writesOfNamespace (blindWrites v) nsId).map WriteEntry.key)).map
            fun versions => Function.update state nsId versions)
        state).bind fun state =>
      (createSnapshotIfPresent codec db (categorizeBlindWrites state v)).bind
        fun result => commitLoop codec result.2 maxRetriesToRemoveAllInvalidTxs result.1
  | .committing v retries => commitLoop codec db retries v
  | .correcting v =>
    some
      (setCorrectStatusForDuplicateTxID db (prepareStatusForCommit v) v.txIDToHeight,
        v.checkpointFeedback, db)

theorem remaining_startCommit (db : Database) (v : ValidatedTransactions) :
    remaining codec attempts db (startCommit v) = commitTransactions codec db v := by
  rw [startCommit, remaining, commitTransactions, populateVersionsAndCategorizeBlindWrites]
  change (queryBlindVersions db (groupWrites v.txIDs v.validTxBlindWrites)).bind _ = _
  cases queryBlindVersions db (groupWrites v.txIDs v.validTxBlindWrites) with
  | none => rfl
  | some state =>
    simp only [bind_some, map_some]
    cases createSnapshotIfPresent codec db (categorizeBlindWrites state v) <;> rfl

theorem remaining_startValidation {db : Database} {batch : List VcTx} {p : PreparedTransactions}
    (prepared : prepare codec batch = some p) :
    remaining codec attempts db (startValidation p) = processBatch codec attempts db batch := by
  rw [startValidation, remaining, processBatch, prepared]
  simp only [validate]
  change (validateReads db p.nsToReads).bind _ = _
  cases validateReads db p.nsToReads with
  | none => rfl
  | some conflicts =>
    simp only [bind_some, finishValidation]
    cases invalidateTxsOnReadConflicts (.ofPrepared p) conflicts with
    | none => rfl
    | some v =>
      simp only
      cases rejectSnapshotIfPriorNotCheckpointed codec db v with
      | none => rfl
      | some v =>
        simp only
        cases rejectCheckpointIfNotVerified codec attempts db v <;> rfl

/-- An acknowledged access of an undisturbed batch does not change what the
batch comes to. -/
theorem remaining_of_advanced {store after : Store} {stage next : Stage} {access : Access}
    (advanced : Advanced codec attempts store stage access after (some next))
    (acknowledged : access ≠ .attempt false) :
    remaining codec attempts after.db next = remaining codec attempts store.db stage := by
  cases advanced with
  | validateNamespace queried =>
    simp only [remaining, List.foldlM_cons, queried, map_some]
    rfl
  | finishValidation finished =>
    rw [remaining_startCommit]
    simp only [remaining, List.foldlM_nil, pure_def, bind_some, finished]
  | queryNamespace queried =>
    simp only [remaining, List.foldlM_cons, queried, map_some]
    rfl
  | categorize created =>
    simp only [remaining, List.foldlM_nil, pure_def, bind_some, created]
  | @committed v retries answered db attempted =>
    cases answered with
    | true => simp only [if_true, remaining, commitLoop, attempted]
    | false => exact absurd rfl acknowledged
  | duplicates attempted => simp only [remaining, commitLoop, attempted]
  | conflicts attempted invalidated => simp only [remaining, commitLoop, attempted, invalidated]

end

end FabricXCommitter.VC.Instances
