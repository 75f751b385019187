import FabricXCommitter.Sidecar.Form
import Mathlib.Data.List.Infix
import Mathlib.Logic.Function.Basic

/-!
# The objects of a namespace in the state database

The database keeps the first 63 bytes of their names.
-/

namespace FabricXCommitter.StateDB

open Sidecar List

/-- `NAMEDATALEN - 1`. -/
def maxIdentifierLength : Nat := 63

/-- The name under which the database finds an object. -/
def identifier (name : Bytes) : Bytes := name.take maxIdentifierLength

/-- The functions of a namespace. -/
inductive Operation where
  | insert
  | update
  | validateReads
  deriving DecidableEq, Repr

/-- The texts `insert_ns_`, `update_ns_` and `validate_reads_ns_`. -/
def Operation.stem : Operation → Bytes
  | .insert => [0x69, 0x6e, 0x73, 0x65, 0x72, 0x74, 0x5f, 0x6e, 0x73, 0x5f]
  | .update => [0x75, 0x70, 0x64, 0x61, 0x74, 0x65, 0x5f, 0x6e, 0x73, 0x5f]
  | .validateReads =>
    [0x76, 0x61, 0x6c, 0x69, 0x64, 0x61, 0x74, 0x65, 0x5f, 0x72, 0x65, 0x61,
      0x64, 0x73, 0x5f, 0x6e, 0x73, 0x5f]

/-- The text `ns_`. -/
def tableStem : Bytes := [0x6e, 0x73, 0x5f]

def tableName (nsId : Bytes) : Bytes := identifier (tableStem ++ nsId)

def functionName (operation : Operation) (nsId : Bytes) : Bytes :=
  identifier (operation.stem ++ nsId)

def operations : List Operation := [.insert, .update, .validateReads]

/-- The four names of a namespace. -/
def objectNames (nsId : Bytes) : List Bytes :=
  tableName nsId :: operations.map fun operation => functionName operation nsId

/-- A namespace the committer creates objects for. -/
def AcceptedNamespace (platform : Platform) (nsId : Bytes) : Prop :=
  platform.isSystemNamespace nsId = true ∨ validateNamespaceID nsId = true

/-- The bytes of a namespace ID that every one of its names contains. -/
def distinguishingLength : Nat := maxIdentifierLength - Operation.validateReads.stem.length

theorem mem_operations (operation : Operation) : operation ∈ operations := by
  cases operation <;> decide

theorem mem_objectNames_iff (name nsId : Bytes) :
    name ∈ objectNames nsId ↔
      name = tableName nsId ∨ ∃ operation, name = functionName operation nsId := by
  simp only [objectNames, mem_cons, mem_map]
  constructor
  · rintro (isTable | ⟨operation, _, named⟩)
    · exact .inl isTable
    · exact .inr ⟨operation, named.symm⟩
  · rintro (isTable | ⟨operation, named⟩)
    · exact .inl isTable
    · exact .inr ⟨operation, mem_operations operation, named.symm⟩

variable {platform : Platform}

theorem length_le_of_accepted {nsId : Bytes} (accepted : AcceptedNamespace platform nsId) :
    nsId.length ≤ maxNamespaceIDLength := by
  rcases accepted with system | valid
  · rcases (platform.isSystemNamespace_iff nsId).mp system with rfl | rfl | rfl | rfl <;> decide
  · simp only [validateNamespaceID, Bool.and_eq_true, Bool.not_eq_true',
      Bool.or_eq_false_iff, decide_eq_false_iff_not] at valid
    exact Nat.le_of_not_lt valid.1.2

theorem tableName_of_accepted {nsId : Bytes} (accepted : AcceptedNamespace platform nsId) :
    tableName nsId = tableStem ++ nsId := by
  have short := length_le_of_accepted accepted
  apply take_of_length_le
  simp only [length_append, tableStem, length_cons, length_nil, maxIdentifierLength]
  simp only [maxNamespaceIDLength] at short
  omega

theorem tableName_injective
    {first second : Bytes} (firstAccepted : AcceptedNamespace platform first)
    (secondAccepted : AcceptedNamespace platform second)
    (same : tableName first = tableName second) :
    first = second := by
  rw [tableName_of_accepted firstAccepted, tableName_of_accepted secondAccepted] at same
  exact append_cancel_left same

theorem stem_length_le (operation : Operation) : operation.stem.length ≤ maxIdentifierLength := by
  cases operation <;> decide

theorem functionName_eq (operation : Operation) (nsId : Bytes) :
    functionName operation nsId =
      operation.stem ++ nsId.take (maxIdentifierLength - operation.stem.length) := by
  rw [functionName, identifier, take_append, take_of_length_le (stem_length_le operation)]

theorem functionName_eq_iff (operation : Operation) (first second : Bytes) :
    functionName operation first = functionName operation second ↔
      first.take (maxIdentifierLength - operation.stem.length) =
        second.take (maxIdentifierLength - operation.stem.length) := by
  rw [functionName_eq, functionName_eq, append_cancel_left_eq]

theorem distinguishingLength_le (operation : Operation) :
    distinguishingLength ≤ maxIdentifierLength - operation.stem.length := by
  cases operation <;> decide

theorem take_distinguishing_of_functionName {operation : Operation} {first second : Bytes}
    (same : functionName operation first = functionName operation second) :
    first.take distinguishingLength = second.take distinguishingLength := by
  have kept := (functionName_eq_iff operation first second).mp same
  have shortened := congrArg (List.take distinguishingLength) kept
  rwa [take_take, take_take, Nat.min_eq_left (distinguishingLength_le operation)] at shortened

theorem head_functionName (operation : Operation) (nsId : Bytes) :
    (functionName operation nsId).head? = operation.stem.head? := by
  cases operation <;> rfl

theorem head_tableName (nsId : Bytes) : (tableName nsId).head? = tableStem.head? := by
  rfl

theorem stem_head_injective
    {first second : Operation} (same : first.stem.head? = second.stem.head?) :
    first = second := by
  cases first <;> cases second <;> first | rfl | exact absurd same (by decide)

theorem operation_of_functionName
    {firstOperation secondOperation : Operation} {first second : Bytes}
    (same : functionName firstOperation first = functionName secondOperation second) :
    firstOperation = secondOperation := by
  apply stem_head_injective
  rw [← head_functionName firstOperation first, same, head_functionName]

theorem tableName_ne_functionName (operation : Operation) (first second : Bytes) :
    tableName first ≠ functionName operation second := by
  intro same
  have heads := congrArg List.head? same
  rw [head_tableName, head_functionName] at heads
  cases operation <;> exact absurd heads (by decide)

/-- What `CREATE OR REPLACE FUNCTION` stores under a name: the operation the
body performs and the table it performs it on. -/
structure FunctionBody where
  operation : Operation
  table : Bytes
  deriving DecidableEq, Repr

structure Catalogue where
  tables : Bytes → Bool
  functions : Bytes → Option FunctionBody

/-- A table is created only where no table has the name. -/
def createTable (catalogue : Catalogue) (nsId : Bytes) : Catalogue :=
  { catalogue with
    tables := Function.update catalogue.tables (tableName nsId) true }

/-- A function takes the place of one that has the name. -/
def createFunction (nsId : Bytes) (catalogue : Catalogue) (operation : Operation) : Catalogue :=
  { catalogue with
    functions :=
      Function.update catalogue.functions (functionName operation nsId)
        (some ⟨operation, tableName nsId⟩) }

/-- The statements of `MakeNsTablesQuery`. -/
def createNamespace (catalogue : Catalogue) (nsId : Bytes) : Catalogue :=
  operations.foldl (createFunction nsId) (createTable catalogue nsId)

def createNamespaces (catalogue : Catalogue) (created : List Bytes) : Catalogue :=
  created.foldl createNamespace catalogue

/-- The objects found under the names of a namespace are its own. -/
structure Serves (catalogue : Catalogue) (nsId : Bytes) : Prop where
  table : catalogue.tables (tableName nsId) = true
  functions :
    ∀ operation,
      catalogue.functions (functionName operation nsId) = some ⟨operation, tableName nsId⟩

theorem tables_createNamespace (catalogue : Catalogue) (nsId : Bytes) :
    (createNamespace catalogue nsId).tables =
      Function.update catalogue.tables (tableName nsId) true := by
  rfl

theorem functions_createNamespace_self
    (catalogue : Catalogue) (nsId : Bytes) (operation : Operation) :
    (createNamespace catalogue nsId).functions (functionName operation nsId) =
      some ⟨operation, tableName nsId⟩ := by
  have apart :
      ∀ other, other ≠ operation → functionName operation nsId ≠ functionName other nsId := by
    intro other different same
    exact different (operation_of_functionName same).symm
  cases operation <;> simp [createNamespace, operations, createFunction, apart]

theorem functions_createNamespace_other (catalogue : Catalogue) {nsId name : Bytes}
    (apart : ∀ operation, name ≠ functionName operation nsId) :
    (createNamespace catalogue nsId).functions name = catalogue.functions name := by
  simp [createNamespace, operations, createFunction, createTable, apart]

/-- The creation of a namespace whose ID differs early enough leaves the objects
of another namespace in place. -/
theorem serves_createNamespace_other {catalogue : Catalogue} {first second : Bytes}
    (apart : first.take distinguishingLength ≠ second.take distinguishingLength)
    (served : Serves catalogue first) :
    Serves (createNamespace catalogue second) first := by
  constructor
  · rw [tables_createNamespace, Function.update_apply, served.table, ite_self]
  · intro operation
    rw [functions_createNamespace_other, served.functions operation]
    intro other same
    have sameOperation := operation_of_functionName same
    subst sameOperation
    exact apart (take_distinguishing_of_functionName same)

/-- No name of one namespace is a name of the other, and the creation of the
second leaves the first with its own objects, in every catalogue. -/
structure Isolated (first second : Bytes) : Prop where
  names : List.Disjoint (objectNames first) (objectNames second)
  serves : ∀ catalogue, Serves catalogue first → Serves (createNamespace catalogue second) first

theorem disjoint_objectNames
    {first second : Bytes} (firstAccepted : AcceptedNamespace platform first)
    (secondAccepted : AcceptedNamespace platform second)
    (apart : first.take distinguishingLength ≠ second.take distinguishingLength) :
    List.Disjoint (objectNames first) (objectNames second) := by
  intro name inFirst inSecond
  rcases (mem_objectNames_iff name first).mp inFirst with
    isTable | ⟨operation, isFunction⟩ <;>
    rcases (mem_objectNames_iff name second).mp inSecond with otherTable | ⟨other, otherFunction⟩
  · have same := tableName_injective firstAccepted secondAccepted (isTable.symm.trans otherTable)
    exact apart (congrArg (List.take distinguishingLength) same)
  · exact tableName_ne_functionName other first second (isTable.symm.trans otherFunction)
  · exact tableName_ne_functionName operation second first (otherTable.symm.trans isFunction)
  · have same := isFunction.symm.trans otherFunction
    have sameOperation := operation_of_functionName same
    subst sameOperation
    exact apart (take_distinguishing_of_functionName same)

/-- Two namespaces are isolated exactly when their IDs differ within the bytes
that the name of the `validate_reads` function keeps. -/
theorem isolated_iff_distinguished (platform : Platform) {first second : Bytes}
    (firstAccepted : AcceptedNamespace platform first)
    (secondAccepted : AcceptedNamespace platform second) :
    Isolated first second ↔ first.take distinguishingLength ≠ second.take distinguishingLength := by
  constructor
  · intro isolated same
    have sameName : functionName .validateReads first = functionName .validateReads second :=
      (functionName_eq_iff .validateReads first second).mpr same
    have inFirst := (mem_objectNames_iff _ first).mpr (.inr ⟨Operation.validateReads, rfl⟩)
    have inSecond := (mem_objectNames_iff _ second).mpr (.inr ⟨Operation.validateReads, sameName⟩)
    exact isolated.names inFirst inSecond
  · intro apart
    constructor
    · exact disjoint_objectNames firstAccepted secondAccepted apart
    · intro catalogue
      exact serves_createNamespace_other apart

def assetNamespace : Bytes := List.replicate 45 0x61 ++ [0x31]

def otherAssetNamespace : Bytes := List.replicate 45 0x61 ++ [0x32]

theorem meta_isolated_from_asset :
    AcceptedNamespace permissivePlatform metaNamespaceID ∧
      AcceptedNamespace permissivePlatform assetNamespace ∧
      Isolated metaNamespaceID assetNamespace :=
  have systemAccepted : AcceptedNamespace permissivePlatform metaNamespaceID := .inl (by decide)
  have assetAccepted : AcceptedNamespace permissivePlatform assetNamespace := .inr (by decide)
  ⟨systemAccepted, assetAccepted,
    (isolated_iff_distinguished permissivePlatform systemAccepted assetAccepted).mpr (by decide)⟩

/-- Two accepted IDs of 46 bytes share the name of the function that validates
reads, and the creation of the second makes the function of the first validate
against the table of the second. -/
theorem assetNamespaces_share_validateReads :
    validateNamespaceID assetNamespace = true ∧
      validateNamespaceID otherAssetNamespace = true ∧
      assetNamespace ≠ otherAssetNamespace ∧
      functionName .validateReads assetNamespace = functionName .validateReads otherAssetNamespace ∧
      ¬ List.Disjoint (objectNames assetNamespace) (objectNames otherAssetNamespace) ∧
      (createNamespaces ⟨fun _ => false, fun _ => none⟩
          [assetNamespace, otherAssetNamespace]).functions
        (functionName .validateReads assetNamespace) =
          some ⟨.validateReads, tableName otherAssetNamespace⟩ := by
  have shared :
      functionName .validateReads assetNamespace =
        functionName .validateReads otherAssetNamespace := by
    decide
  refine ⟨by decide, by decide, by decide, shared, ?_, ?_⟩
  · intro disjoint
    exact
      disjoint
        ((mem_objectNames_iff _ assetNamespace).mpr (.inr ⟨Operation.validateReads, rfl⟩))
        ((mem_objectNames_iff _ otherAssetNamespace).mpr (.inr ⟨Operation.validateReads, shared⟩))
  · exact functions_createNamespace_self _ otherAssetNamespace .validateReads

end FabricXCommitter.StateDB
