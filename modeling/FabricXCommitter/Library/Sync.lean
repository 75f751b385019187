import Mathlib.Data.List.Basic

/-!
# Mutexes and condition variables

A notified thread may resume, also if it was notified before it went to sleep.
-/

namespace FabricXCommitter.Library

universe u

variable {Thread : Type u} [DecidableEq Thread]

/-- The holder of a lock. -/
structure Mutex (Thread : Type u) where
  owner : Option Thread := none
  deriving DecidableEq, Repr

namespace Mutex

def lock (mutex : Mutex Thread) (thread : Thread) : Option (Mutex Thread) :=
  if mutex.owner = none then some ⟨some thread⟩ else none

def unlock (mutex : Mutex Thread) (thread : Thread) : Option (Mutex Thread) :=
  if mutex.owner = some thread then some ⟨none⟩ else none

end Mutex

/-- The enrolled threads that are not notified, first enrolled first, and the
notified threads that have not resumed. -/
structure CondVar (Thread : Type u) where
  waiting : List Thread := []
  notified : List Thread := []
  deriving DecidableEq, Repr

namespace CondVar

def enrol (cond : CondVar Thread) (thread : Thread) : CondVar Thread :=
  { cond with waiting := cond.waiting ++ [thread] }

def signal (cond : CondVar Thread) : CondVar Thread :=
  match cond.waiting with
  | [] => cond
  | thread :: rest => ⟨rest, cond.notified ++ [thread]⟩

def broadcast (cond : CondVar Thread) : CondVar Thread := ⟨[], cond.notified ++ cond.waiting⟩

def resume (cond : CondVar Thread) (thread : Thread) : Option (CondVar Thread) :=
  if thread ∈ cond.notified then
    some { cond with notified := cond.notified.erase thread }
  else
    none

omit [DecidableEq Thread] in
theorem signal_of_no_waiting (notified : List Thread) : signal ⟨[], notified⟩ = ⟨[], notified⟩ :=
  rfl

omit [DecidableEq Thread] in
theorem signal_of_waiting (thread : Thread) (rest notified : List Thread) :
    signal ⟨thread :: rest, notified⟩ = ⟨rest, notified ++ [thread]⟩ :=
  rfl

theorem resume_notified (waiting : List Thread) (thread : Thread) :
    resume ⟨waiting, [thread]⟩ thread = some ⟨waiting, []⟩ := by
  simp [resume]

theorem resume_not_notified (waiting : List Thread) (thread : Thread) :
    resume ⟨waiting, []⟩ thread = none :=
  rfl

end CondVar

end FabricXCommitter.Library
