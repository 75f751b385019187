import Mathlib.Data.List.Basic

/-!
# Serializers

A reader finds the value and what follows it.
-/

namespace FabricXCommitter.Library

open List Option

universe u v

structure Serializer (Value : Type u) where
  write : Value → List UInt8
  read : List UInt8 → Option (Value × List UInt8)
  read_write : ∀ value rest, read (write value ++ rest) = some (value, rest)

namespace Serializer

variable {Value : Type u} {Other : Type v}

/-- The value that all the bytes are written for. -/
def readAll (serializer : Serializer Value) (bytes : List UInt8) : Option Value :=
  match serializer.read bytes with
  | some (value, []) => some value
  | _ => none

theorem readAll_write (serializer : Serializer Value) (value : Value) :
    serializer.readAll (serializer.write value) = some value := by
  have read := serializer.read_write value []
  rw [append_nil] at read
  rw [readAll, read]

/-- A number ends at the first zero. -/
def readNat : List UInt8 → Option (Nat × List UInt8)
  | [] => none
  | byte :: rest =>
    if byte = 0 then
      some (0, rest)
    else
      (readNat rest).map fun found => (found.1 + 1, found.2)

def nat : Serializer Nat where
  write := fun value => List.replicate value 1 ++ [0]
  read := readNat
  read_write := by
    intro value rest
    induction value with
    | zero => rfl
    | succ value ih =>
      rw [replicate_succ, cons_append, cons_append, readNat, if_neg (by decide), ih]
      rfl

def pair (first : Serializer Value) (second : Serializer Other) : Serializer (Value × Other) where
  write := fun value => first.write value.1 ++ second.write value.2
  read := fun bytes =>
    (first.read bytes).bind fun found =>
      (second.read found.2).map fun next => ((found.1, next.1), next.2)
  read_write := by
    intro value rest
    rw [append_assoc, first.read_write, bind_some, second.read_write]
    rfl

def option (serializer : Serializer Value) : Serializer (Option Value) where
  write := fun value =>
    match value with
    | none => [0]
    | some value => 1 :: serializer.write value
  read := fun bytes =>
    match bytes with
    | [] => none
    | byte :: rest =>
      if byte = 0 then
        some (none, rest)
      else
        (serializer.read rest).map fun found => (some found.1, found.2)
  read_write := by
    intro value rest
    cases value with
    | none => rfl
    | some value =>
      rw [cons_append]
      simp only
      rw [if_neg (by decide), serializer.read_write]
      rfl

/-- A number of values in a row. -/
def readMany (serializer : Serializer Value) : Nat → List UInt8 → Option (List Value × List UInt8)
  | 0, bytes => some ([], bytes)
  | count + 1, bytes =>
    (serializer.read bytes).bind fun found =>
      (readMany serializer count found.2).map fun next => (found.1 :: next.1, next.2)

theorem readMany_write (serializer : Serializer Value) (values : List Value) (rest : List UInt8) :
    serializer.readMany values.length (values.flatMap serializer.write ++ rest) =
      some (values, rest) := by
  induction values with
  | nil => rfl
  | cons value others ih =>
    rw [length_cons, readMany, flatMap_cons, append_assoc, serializer.read_write, bind_some, ih]
    rfl

def list (serializer : Serializer Value) : Serializer (List Value) where
  write := fun values => nat.write values.length ++ values.flatMap serializer.write
  read := fun bytes => (nat.read bytes).bind fun count => serializer.readMany count.1 count.2
  read_write := by
    intro values rest
    rw [append_assoc, nat.read_write, bind_some, serializer.readMany_write]

end Serializer

end FabricXCommitter.Library
