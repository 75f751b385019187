import FabricXCommitter.Library.Fleet
import FabricXCommitter.Transaction
import Mathlib.Data.List.Flatten
import Mathlib.Algebra.Order.Group.Multiset
import Mathlib.Tactic.Abel

/-!
# Instances of a remote service with resubmission

What is left in the map of an instance when its stream fails goes back to the shared
queue.  The handling of a response is a parameter.
-/

namespace FabricXCommitter.Coordinator.Failover

open Library List Option

/-! ## The map of transactions being validated -/

section

variable {Node : Type} (height : Node → Height)

/-- `txBeingValidated` with one more node.  A node with the same height is
replaced. -/
def store (txBeingValidated : List Node) (node : Node) : List Node :=
  txBeingValidated.filter (fun other => height other ≠ height node) ++ [node]

def addTxsBeingValidated (txBeingValidated txsNode : List Node) : List Node :=
  txsNode.foldl (store height) txBeingValidated

def loadAndDelete (txBeingValidated : List Node) (key : Height) : Option (Node × List Node) :=
  (txBeingValidated.find? fun node => height node = key).map fun node =>
    (node, txBeingValidated.filter fun other => height other ≠ key)

theorem filter_height_ne_of_not_mem
    {txBeingValidated : List Node} {key : Height} (absent : key ∉ txBeingValidated.map height) :
    txBeingValidated.filter (fun other => height other ≠ key) = txBeingValidated := by
  apply filter_eq_self.mpr
  intro other mem
  apply decide_eq_true
  intro same
  exact absent (List.mem_map.mpr ⟨other, mem, same⟩)

theorem store_perm {txBeingValidated : List Node} {node : Node}
    (distinct : ((node :: txBeingValidated).map height).Nodup) :
    (store height txBeingValidated node).Perm (node :: txBeingValidated) := by
  have absent : height node ∉ txBeingValidated.map height := (nodup_cons.mp distinct).1
  rw [store, filter_height_ne_of_not_mem height absent]
  exact perm_append_singleton node txBeingValidated

theorem addTxsBeingValidated_perm {txBeingValidated txsNode : List Node}
    (distinct : ((txsNode ++ txBeingValidated).map height).Nodup) :
    (addTxsBeingValidated height txBeingValidated txsNode).Perm (txsNode ++ txBeingValidated) := by
  induction txsNode generalizing txBeingValidated with
  | nil => exact List.Perm.refl _
  | cons node rest ih =>
    have moved : (rest ++ node :: txBeingValidated).Perm (node :: rest ++ txBeingValidated) :=
      perm_middle
    have reordered : ((rest ++ node :: txBeingValidated).map height).Nodup :=
      (moved.map height).nodup_iff.mpr distinct
    have tail : ((node :: txBeingValidated).map height).Nodup := by
      rw [map_append] at reordered
      exact (nodup_append.mp reordered).2.1
    have stored := store_perm height tail
    have appended :
        (rest ++ store height txBeingValidated node).Perm (rest ++ node :: txBeingValidated) :=
      stored.append_left rest
    exact (ih ((appended.map height).nodup_iff.mpr reordered)).trans (appended.trans moved)

theorem loadAndDelete_perm {txBeingValidated rest : List Node} {key : Height} {node : Node}
    (distinct : (txBeingValidated.map height).Nodup)
    (loaded : loadAndDelete height txBeingValidated key = some (node, rest)) :
    txBeingValidated.Perm (node :: rest) ∧ height node = key := by
  obtain ⟨found, seen, same⟩ := map_eq_some_iff.mp loaded
  obtain ⟨sameNode, sameRest⟩ := Prod.mk.inj same
  subst sameNode
  subst sameRest
  have known := find?_some seen
  have sameKey : height found = key := of_decide_eq_true known
  subst sameKey
  obtain ⟨before, after, split⟩ := append_of_mem (mem_of_find?_eq_some seen)
  subst split
  have reordered : (before ++ found :: after).Perm (found :: (before ++ after)) := perm_middle
  have absent : height found ∉ (before ++ after).map height := by
    have reorderedDistinct := (reordered.map height).nodup_iff.mp distinct
    exact (nodup_cons.mp reorderedDistinct).1
  refine ⟨?_, rfl⟩
  have filtered :
      (before ++ found :: after).filter (fun other => height other ≠ height found) =
        before ++ after := by
    have kept := filter_height_ne_of_not_mem height absent
    rw [filter_append] at kept ⊢
    rw [filter_cons_of_neg (by simp)]
    exact kept
  rw [filtered]
  exact reordered

end

/-- The goroutine that reads batches, stores and sends them. -/
inductive Sender (Node : Type) where
  | idle
  | storing (rest : List Node)
  | sending
  | stopped
  deriving DecidableEq, Repr

def Sender.held {Node : Type} : Sender Node → List Node
  | .storing rest => rest
  | _ => []

@[simp]
theorem Sender.held_idle {Node : Type} : (Sender.idle : Sender Node).held = [] := rfl

@[simp]
theorem Sender.held_storing {Node : Type} (rest : List Node) : (Sender.storing rest).held = rest :=
  rfl

/-- The goroutine that receives responses. -/
inductive Receiver (Work : Type) where
  | recv
  | busy (work : Work)
  | stopped
  deriving DecidableEq, Repr

/-- `recovering` holds the nodes taken from the map after both goroutines have
stopped. -/
inductive Phase (Node Work : Type) where
  | disconnected
  | streaming (sender : Sender Node) (receiver : Receiver Work)
  | recovering (pending : List Node)
  deriving DecidableEq, Repr

structure Instance (Node Work : Type) where
  txBeingValidated : List Node := []
  phase : Phase Node Work := .disconnected
  deriving DecidableEq, Repr

/-- What all instances share.  `accepted` and `output` are the nodes ever put
into the queue from outside and ever written to the output. -/
structure Shared (Node Extra : Type) where
  txBatchQueue : List (List Node) := []
  accepted : List Node := []
  output : List Node := []
  extra : Extra
  deriving DecidableEq, Repr

/-- The result of a step of a receiver. -/
structure Reaction (Node Work Extra : Type) where
  extra : Extra
  txBeingValidated : List Node
  receiver : Receiver Work
  written : List Node := []

def Receiver.held {Node Work : Type} (held : Work → List Node) : Receiver Work → List Node
  | .busy work => held work
  | _ => []

/-- How a manager handles responses.  `skipsEmpty` says that an empty batch is
not sent, and `locked` that a whole batch is stored under one lock. -/
structure Protocol (Node Work Extra Signal : Type) (height : Node → Height) where
  skipsEmpty : Bool
  locked : Bool
  held : Work → List Node
  react : Extra → List Node → Receiver Work → Signal → Option (Reaction Node Work Extra)
  conserved :
    ∀ {extra txBeingValidated receiver signal reaction},
      react extra txBeingValidated receiver signal = some reaction →
        ((txBeingValidated ++ receiver.held held).map height).Nodup →
          (reaction.txBeingValidated ++ reaction.receiver.held held ++ reaction.written).Perm
            (txBeingValidated ++ receiver.held held)

inductive Task (Signal : Type) where
  | connect
  | read
  | store
  | send
  | senderFails
  | receiverFails
  | receiver (signal : Signal)
  | recover
  | requeue
  deriving DecidableEq, Repr

section

variable {Node Work Extra Signal : Type} {height : Node → Height}
variable (protocol : Protocol Node Work Extra Signal height)

def Phase.contents : Phase Node Work → List Node
  | .disconnected => []
  | .streaming sender receiver => sender.held ++ receiver.held protocol.held
  | .recovering pending => pending

def Instance.contents (inst : Instance Node Work) : List Node :=
  inst.txBeingValidated ++ inst.phase.contents protocol

def inside (shared : Shared Node Extra) (instances : List (Instance Node Work)) : List Node :=
  shared.txBatchQueue.flatten ++ instances.flatMap (Instance.contents protocol)

def afterRead (batch : List Node) : Sender Node :=
  if protocol.skipsEmpty ∧ batch = [] then .idle else .storing batch

def storeStep (txBeingValidated : List Node) : List Node → List Node × Sender Node
  | [] => (txBeingValidated, .sending)
  | node :: rest =>
    if protocol.locked then
      (addTxsBeingValidated height txBeingValidated (node :: rest), .sending)
    else
      (store height txBeingValidated node, .storing rest)

def workerStep (shared : Shared Node Extra) (inst : Instance Node Work) :
    Task Signal → Option (Shared Node Extra × Instance Node Work)
  | .connect =>
    match inst.phase with
    | .disconnected => some (shared, { inst with phase := .streaming .idle .recv })
    | _ => none
  | .read =>
    match inst.phase, shared.txBatchQueue with
    | .streaming .idle receiver, batch :: rest =>
      some
        ({ shared with txBatchQueue := rest },
          { inst with
            phase := .streaming (afterRead protocol batch) receiver })
    | _, _ => none
  | .store =>
    match inst.phase with
    | .streaming (.storing rest) receiver =>
      let stored := storeStep protocol inst.txBeingValidated rest
      some
        (shared,
          { txBeingValidated := stored.1
            phase := .streaming stored.2 receiver })
    | _ => none
  | .send =>
    match inst.phase with
    | .streaming .sending receiver =>
      some (shared, { inst with phase := .streaming .idle receiver })
    | _ => none
  | .senderFails =>
    match inst.phase with
    | .streaming .idle receiver =>
      some (shared, { inst with phase := .streaming .stopped receiver })
    | .streaming .sending receiver =>
      some (shared, { inst with phase := .streaming .stopped receiver })
    | _ => none
  | .receiverFails =>
    match inst.phase with
    | .streaming sender .recv =>
      some (shared, { inst with phase := .streaming sender .stopped })
    | _ => none
  | .receiver signal =>
    match inst.phase with
    | .streaming sender receiver =>
      (protocol.react shared.extra inst.txBeingValidated receiver signal).map fun reaction =>
        ({ shared with
            extra := reaction.extra
            output := shared.output ++ reaction.written },
          { txBeingValidated := reaction.txBeingValidated
            phase := .streaming sender reaction.receiver })
    | _ => none
  | .recover =>
    match inst.phase with
    | .streaming .stopped .stopped =>
      if inst.txBeingValidated = [] then
        some (shared, { inst with phase := .disconnected })
      else
        some
          (shared,
            { txBeingValidated := []
              phase := .recovering inst.txBeingValidated })
    | _ => none
  | .requeue =>
    match inst.phase with
    | .recovering pending =>
      some
        ({ shared with
            txBatchQueue := shared.txBatchQueue ++ [pending] },
          { inst with phase := .disconnected })
    | _ => none

/-- The response that the receiver is handling. -/
def Phase.work : Phase Node Work → Option Work
  | .streaming _ (.busy work) => some work
  | _ => none

/-- What a step of an instance can be: a reaction of its receiver, or a step
that moves nodes between the queue, the sender and the map only. -/
inductive WorkerStepped
    (shared : Shared Node Extra) (inst : Instance Node Work) (task : Task Signal)
    (next : Shared Node Extra) (after : Instance Node Work) : Prop where
  | quiet
      (extra : next.extra = shared.extra)
      (accepted : next.accepted = shared.accepted)
      (output : next.output = shared.output)
      (work : after.phase.work = inst.phase.work)
      (balance :
        (next.txBatchQueue.flatten ++ after.contents protocol).Perm
          (shared.txBatchQueue.flatten ++ inst.contents protocol))
  | reacted {sender : Sender Node} {receiver : Receiver Work}
      {signal : Signal} {reaction : Reaction Node Work Extra}
      (task : task = .receiver signal)
      (phase : inst.phase = .streaming sender receiver)
      (reacts : protocol.react shared.extra inst.txBeingValidated receiver signal = some reaction)
      (next :
        next =
          { shared with
            extra := reaction.extra
            output := shared.output ++ reaction.written })
      (after :
        after =
          { txBeingValidated := reaction.txBeingValidated
            phase := .streaming sender reaction.receiver })

variable {inst : Instance Node Work}

theorem quiet_of_phase
    (shared : Shared Node Extra) (task : Task Signal) {before after : Phase Node Work}
    (phase : inst.phase = before) (work : after.work = before.work)
    (contents : after.contents protocol = before.contents protocol) :
    WorkerStepped protocol shared inst task shared { inst with phase := after } := by
  refine WorkerStepped.quiet rfl rfl rfl ?_ ?_
  · rw [phase]
    exact work
  · rw [Instance.contents, Instance.contents, phase, contents]

theorem held_afterRead (batch : List Node) : (afterRead protocol batch).held = batch := by
  by_cases skipped : protocol.skipsEmpty ∧ batch = []
  · rw [afterRead, if_pos skipped, skipped.2]
    rfl
  · rw [afterRead, if_neg skipped]
    rfl

theorem storeStep_perm {txBeingValidated rest : List Node}
    (distinct : ((txBeingValidated ++ rest).map height).Nodup) :
    ((storeStep protocol txBeingValidated rest).1 ++
        (storeStep protocol txBeingValidated rest).2.held).Perm
      (txBeingValidated ++ rest) := by
  have swapped : ((rest ++ txBeingValidated).map height).Nodup :=
    (perm_append_comm.map height).nodup_iff.mp distinct
  cases rest with
  | nil => exact List.Perm.refl _
  | cons node rest =>
    by_cases locked : protocol.locked = true
    · simp only [storeStep, if_pos locked, Sender.held, append_nil]
      exact (addTxsBeingValidated_perm height swapped).trans perm_append_comm
    · simp only [storeStep, if_neg locked, Sender.held]
      have single : ((node :: txBeingValidated).map height).Nodup := by
        have fewer : (node :: txBeingValidated).Sublist (node :: rest ++ txBeingValidated) :=
          (sublist_append_right rest txBeingValidated).cons_cons node
        exact (fewer.map height).nodup swapped
      exact ((store_perm height single).append_right rest).trans perm_middle.symm

variable {shared : Shared Node Extra} {task : Task Signal}

theorem workerStepped_of_workerStep {next : Shared Node Extra} {after : Instance Node Work}
    (distinct : ((inst.contents protocol).map height).Nodup)
    (stepped : workerStep protocol shared inst task = some (next, after)) :
    WorkerStepped protocol shared inst task next after := by
  revert stepped
  fun_cases workerStep protocol shared inst task with
  | case1 phase =>
    intro stepped
    cases stepped
    exact quiet_of_phase protocol shared _ phase rfl rfl
  | case3 receiver batch rest queue phase =>
    intro stepped
    cases stepped
    refine WorkerStepped.quiet rfl rfl rfl ?_ ?_
    · rw [phase]
      cases receiver <;> rfl
    · simp only [Instance.contents, phase, Phase.contents, queue,
        held_afterRead, Sender.held_idle, flatten_cons,
        ← Multiset.coe_eq_coe, ← Multiset.coe_add, Multiset.coe_nil]
      abel
  | case5 rest receiver phase stored =>
    intro stepped
    cases stepped
    refine WorkerStepped.quiet rfl rfl rfl ?_ ?_
    · rw [phase]
      cases receiver <;> rfl
    · have contents :
          inst.contents protocol =
            inst.txBeingValidated ++ rest ++ receiver.held protocol.held := by
        simp only [Instance.contents, phase, Phase.contents, Sender.held_storing, append_assoc]
      have fewer : ((inst.txBeingValidated ++ rest).map height).Nodup := by
        rw [contents, map_append] at distinct
        exact (nodup_append.mp distinct).1
      have moved := storeStep_perm protocol fewer
      rw [contents]
      apply List.Perm.append_left
      simp only [Instance.contents, Phase.contents, ← append_assoc]
      exact moved.append_right _
  | case7 receiver phase | case9 receiver phase | case10 receiver phase =>
    intro stepped
    cases stepped
    apply quiet_of_phase protocol shared _ phase
    · cases receiver <;> rfl
    · rfl
  | case12 sender phase =>
    intro stepped
    cases stepped
    exact quiet_of_phase protocol shared _ phase rfl rfl
  | case14 signal sender receiver phase =>
    intro stepped
    obtain ⟨reaction, reacts, same⟩ := map_eq_some_iff.mp stepped
    cases same
    exact WorkerStepped.reacted rfl phase reacts rfl rfl
  | case16 phase empty =>
    intro stepped
    cases stepped
    exact quiet_of_phase protocol shared _ phase rfl rfl
  | case17 phase nonempty =>
    intro stepped
    cases stepped
    refine WorkerStepped.quiet rfl rfl rfl ?_ ?_
    · rw [phase]
      rfl
    · simp [Instance.contents, phase, Phase.contents, Sender.held, Receiver.held]
  | case19 pending phase =>
    intro stepped
    cases stepped
    refine WorkerStepped.quiet rfl rfl rfl ?_ ?_
    · rw [phase]
      rfl
    · simp only [Instance.contents, phase, Phase.contents,
        flatten_append, flatten_singleton, append_nil,
        ← Multiset.coe_eq_coe, ← Multiset.coe_add]
      abel
  | _ =>
    intro stepped
    cases stepped

theorem contents_streaming {sender : Sender Node} {receiver : Receiver Work}
    (phase : inst.phase = .streaming sender receiver) :
    (inst.contents protocol).Perm
      (inst.txBeingValidated ++ receiver.held protocol.held ++ sender.held) := by
  simp only [Instance.contents, phase, Phase.contents, ← Multiset.coe_eq_coe, ← Multiset.coe_add]
  abel

theorem WorkerStepped.balanced {next : Shared Node Extra} {after : Instance Node Work}
    (distinct : ((inst.contents protocol).map height).Nodup)
    (stepped : WorkerStepped protocol shared inst task next after) :
    next.accepted = shared.accepted ∧
      ∃ written, next.output = shared.output ++ written ∧
        (next.txBatchQueue.flatten ++ after.contents protocol ++ written).Perm
          (shared.txBatchQueue.flatten ++ inst.contents protocol) := by
  cases stepped with
  | quiet _ accepted output _ balance =>
    refine ⟨accepted, [], ?_, ?_⟩
    · rw [output, append_nil]
    · rw [append_nil]
      exact balance
  | @reacted sender receiver signal reaction _ phase reacts same sameAfter =>
    subst same
    subst sameAfter
    have parts := contents_streaming protocol phase
    have held : ((inst.txBeingValidated ++ receiver.held protocol.held).map height).Nodup := by
      have reordered := (parts.map height).nodup_iff.mp distinct
      rw [map_append] at reordered
      exact (nodup_append.mp reordered).1
    have kept := protocol.conserved reacts held
    refine ⟨rfl, reaction.written, rfl, ?_⟩
    rw [append_assoc]
    apply List.Perm.append_left
    refine List.Perm.trans ?_ parts.symm
    refine List.Perm.trans ?_ (kept.append_right sender.held)
    simp only [Instance.contents, Phase.contents, ← Multiset.coe_eq_coe, ← Multiset.coe_add]
    abel

abbrev State (Node Work Extra : Type) := Fleet.State (Shared Node Extra) (Instance Node Work)

/-- Every accepted node is once in the queue, with one instance, or in the
output, and the heights of the nodes inside are distinct. -/
structure Owned (s : State Node Work Extra) : Prop where
  places : (inside protocol s.shared s.workers ++ s.shared.output).Perm s.shared.accepted
  once : s.shared.accepted.Nodup
  heights : ((inside protocol s.shared s.workers).map height).Nodup

theorem coe_inside (s : State Node Work Extra) :
    (inside protocol s.shared s.workers : Multiset Node) =
      Fleet.total
        (fun shared => (shared.txBatchQueue.flatten : Multiset Node))
        (fun inst => (inst.contents protocol : Multiset Node)) s := by
  rw [inside, Fleet.total, ← Multiset.coe_add]
  congr 1
  induction s.workers with
  | nil => rfl
  | cons inst rest ih =>
    rw [flatMap_cons, map_cons, sum_cons, ← ih, Multiset.coe_add]

section

variable {s : State Node Work Extra} (owned : Owned protocol s)

include owned

theorem Owned.total_eq :
    Fleet.total
        (fun shared => (shared.txBatchQueue.flatten + shared.output : Multiset Node))
        (fun inst => (inst.contents protocol : Multiset Node)) s =
      s.shared.accepted := by
  rw [← Multiset.coe_eq_coe.mpr owned.places, ← Multiset.coe_add,
    coe_inside, Fleet.total, Fleet.total]
  abel

theorem Owned.instance_heights {index : Nat} (found : s.workers[index]? = some inst) :
    ((inst.contents protocol).map height).Nodup := by
  have mem : inst ∈ s.workers := mem_of_getElem? found
  have part :
      (inst.contents protocol).Sublist (s.workers.flatMap (Instance.contents protocol)) := by
    have single := (singleton_sublist.mpr mem).flatMap (Instance.contents protocol)
    rw [flatMap_singleton] at single
    exact single
  have whole : (inst.contents protocol).Sublist (inside protocol s.shared s.workers) :=
    part.trans (sublist_append_right _ _)
  exact (whole.map height).nodup owned.heights

theorem Owned.worker
    {index : Nat} {after : Instance Node Work} (found : s.workers[index]? = some inst)
    (stepped : workerStep protocol s.shared inst task = some (shared, after)) :
    Owned protocol ⟨shared, s.workers.set index after⟩ := by
  have distinct := owned.instance_heights protocol found
  obtain ⟨accepted, written, output, balance⟩ :=
    (workerStepped_of_workerStep protocol distinct stepped).balanced protocol distinct
  have moved :
      (inside protocol shared (s.workers.set index after) ++ written).Perm
        (inside protocol s.shared s.workers) := by
    have balanced := Multiset.coe_eq_coe.mpr balance
    simp only [← Multiset.coe_add] at balanced
    rw [← Multiset.coe_eq_coe, ← Multiset.coe_add, coe_inside protocol s,
      coe_inside protocol ⟨shared, s.workers.set index after⟩,
      Fleet.total_eq_others _ _ found, Fleet.total_set _ _ found, ← balanced]
    abel
  refine ⟨?_, ?_, ?_⟩
  · have rest := moved.append_right s.shared.output
    rw [accepted, output]
    refine List.Perm.trans ?_ (rest.trans owned.places)
    rw [append_assoc]
    exact List.Perm.append_left _ perm_append_comm
  · rw [accepted]
    exact owned.once
  · have distinctAfter := (moved.map height).nodup_iff.mpr owned.heights
    rw [map_append] at distinctAfter
    exact (nodup_append.mp distinctAfter).1

end

/-- The manager with a number of instances that are not yet connected. -/
def initialState (extra : Extra) (count : Nat) : State Node Work Extra where
  shared := { extra := extra }
  workers := List.replicate count {}

theorem owned_initial (extra : Extra) (count : Nat) :
    Owned protocol (initialState extra count) := by
  have empty :
      inside protocol ({ extra := extra } : Shared Node Extra) (List.replicate count {}) = [] := by
    simp [inside, Instance.contents, Phase.contents]
  refine ⟨?_, nodup_nil, ?_⟩
  · rw [initialState, empty]
    exact List.Perm.refl _
  · rw [initialState, empty]
    exact nodup_nil

variable [DecidableEq Node]

/-- A batch comes in from outside.  Every node comes in once, and its height is
not that of a node that is still inside. -/
def accept (shared : Shared Node Extra) (instances : List (Instance Node Work))
    (batch : List Node) : Option (Shared Node Extra) :=
  if (shared.accepted ++ batch).Nodup ∧
      ((inside protocol shared instances ++ batch).map height).Nodup then
    some
      { shared with
        txBatchQueue := shared.txBatchQueue ++ [batch]
        accepted := shared.accepted ++ batch }
  else
    none

theorem Owned.accept {s : State Node Work Extra} (owned : Owned protocol s) {batch : List Node}
    (accepted : Failover.accept protocol s.shared s.workers batch = some shared) :
    Owned protocol ⟨shared, s.workers⟩ := by
  obtain ⟨⟨once, heights⟩, same⟩ := ite_none_right_eq_some.mp accepted
  have moved := Option.some.inj same
  subst moved
  have more :
      (inside protocol
          { s.shared with
            txBatchQueue := s.shared.txBatchQueue ++ [batch]
            accepted := s.shared.accepted ++ batch } s.workers).Perm
        (inside protocol s.shared s.workers ++ batch) := by
    simp only [inside, flatten_append, flatten_singleton, ← Multiset.coe_eq_coe, ← Multiset.coe_add]
    abel
  refine ⟨?_, once, ?_⟩
  · refine (more.append_right _).trans ?_
    refine List.Perm.trans ?_ (owned.places.append_right batch)
    rw [append_assoc, append_assoc]
    exact List.Perm.append_left _ perm_append_comm
  · exact (more.map height).nodup_iff.mpr heights

def fleet : Fleet (Shared Node Extra) (Instance Node Work) (List Node) (Task Signal) where
  environmentStep := accept protocol
  workerStep := workerStep protocol

theorem Owned.step {s next : State Node Work Extra} (owned : Owned protocol s)
    {action : Fleet.Action (List Node) (Task Signal)}
    (stepped : (fleet protocol).step s action = some next) :
    Owned protocol next := by
  cases Fleet.stepped_of_step stepped with
  | environment accepted => exact owned.accept protocol accepted
  | worker found moved => exact owned.worker protocol found moved

theorem owned_run
    {extra : Extra} {count : Nat} {actions : List (Fleet.Action (List Node) (Task Signal))}
    {s : State Node Work Extra}
    (ran : ((fleet protocol).machine (initialState extra count)).run actions = some s) :
    Owned protocol s :=
  Machine.invariant_run _ (Owned protocol) (owned_initial protocol extra count)
    (fun _ _ _ owned stepped => owned.step protocol stepped) ran

end

/-- The parts of an instance that can hold nodes. -/
inductive Part where
  | beingValidated
  | sender
  | receiver
  | recovery
  deriving DecidableEq, Repr

inductive Place where
  | queue
  | inst (index : Nat) (part : Part)
  | output
  deriving DecidableEq, Repr

section

variable {Node Work Extra Signal : Type} {height : Node → Height}
variable (protocol : Protocol Node Work Extra Signal height)

def Instance.part (inst : Instance Node Work) : Part → List Node
  | .beingValidated => inst.txBeingValidated
  | .sender =>
    match inst.phase with
    | .streaming sender _ => sender.held
    | _ => []
  | .receiver =>
    match inst.phase with
    | .streaming _ receiver => receiver.held protocol.held
    | _ => []
  | .recovery =>
    match inst.phase with
    | .recovering pending => pending
    | _ => []

def contentsAt (s : State Node Work Extra) : Place → List Node
  | .queue => s.shared.txBatchQueue.flatten
  | .inst index part => s.workers[index]?.elim [] fun inst => inst.part protocol part
  | .output => s.shared.output

def parts : List Part := [.beingValidated, .sender, .receiver, .recovery]

/-- The places of a manager with the given number of instances. -/
def allPlaces (count : Nat) : List Place :=
  .queue :: ((List.range count).flatMap fun index => parts.map (.inst index)) ++ [.output]

theorem flatMap_parts (inst : Instance Node Work) :
    parts.flatMap (inst.part protocol) = inst.contents protocol := by
  cases phase : inst.phase with
  | disconnected | streaming _ _ | recovering _ =>
    simp [parts, Instance.contents, Instance.part, phase, Phase.contents]

theorem flatMap_allPlaces (s : State Node Work Extra) :
    (allPlaces s.workers.length).flatMap (contentsAt protocol s) =
      inside protocol s.shared s.workers ++ s.shared.output := by
  have instances :
      (((List.range s.workers.length).flatMap fun index => parts.map (Place.inst index)).flatMap
          (contentsAt protocol s)) =
        s.workers.flatMap (Instance.contents protocol) := by
    rw [← flatMap_range_length s.workers, flatMap_assoc]
    apply flatMap_congr
    intro index _
    rw [flatMap_map]
    cases found : s.workers[index]? with
    | none => simp [contentsAt, found]
    | some inst =>
      rw [elim_some, ← flatMap_parts]
      simp [contentsAt, found]
  rw [allPlaces, cons_append, flatMap_cons, flatMap_append,
    instances, flatMap_singleton, inside, append_assoc]
  rfl

theorem mem_allPlaces {s : State Node Work Extra} {place : Place} {node : Node}
    (held : node ∈ contentsAt protocol s place) :
    place ∈ allPlaces s.workers.length := by
  cases place with
  | queue => exact mem_cons_self
  | output => exact mem_append_right _ (mem_singleton.mpr rfl)
  | inst index part =>
    have within : index < s.workers.length := by
      by_contra beyond
      have missing := getElem?_eq_none (Nat.le_of_not_lt beyond)
      rw [contentsAt, missing] at held
      cases held
    have known : part ∈ parts := by cases part <;> decide
    apply mem_append_left
    apply mem_cons_of_mem
    exact mem_flatMap.mpr ⟨index, mem_range.mpr within, List.mem_map_of_mem known⟩

theorem Owned.unique_place {s : State Node Work Extra} (owned : Owned protocol s)
    {node : Node} (accepted : node ∈ s.shared.accepted) :
    ∃! place, node ∈ contentsAt protocol s place := by
  have once : ((allPlaces s.workers.length).flatMap (contentsAt protocol s)).Nodup := by
    rw [flatMap_allPlaces]
    exact owned.places.nodup_iff.mpr owned.once
  have somewhere : node ∈ (allPlaces s.workers.length).flatMap (contentsAt protocol s) := by
    rw [flatMap_allPlaces]
    exact owned.places.mem_iff.mpr accepted
  obtain ⟨place, known, held⟩ := mem_flatMap.mp somewhere
  refine ⟨place, held, fun other heldByOther => ?_⟩
  exact eq_of_mem_of_nodup_flatMap once (mem_allPlaces protocol heldByOther) known heldByOther held

/-- Every accepted node is in exactly one place, and no place has it twice. -/
structure InOnePlace (s : State Node Work Extra) : Prop where
  place : ∀ node ∈ s.shared.accepted, ∃! place, node ∈ contentsAt protocol s place
  once : ∀ place, (contentsAt protocol s place).Nodup

theorem Owned.inOnePlace {s : State Node Work Extra} (owned : Owned protocol s) :
    InOnePlace protocol s := by
  refine ⟨fun _ accepted => owned.unique_place protocol accepted, ?_⟩
  intro place
  by_cases known : place ∈ allPlaces s.workers.length
  · have once : ((allPlaces s.workers.length).flatMap (contentsAt protocol s)).Nodup := by
      rw [flatMap_allPlaces]
      exact owned.places.nodup_iff.mpr owned.once
    exact (nodup_flatMap.mp once).1 place known
  · have empty : contentsAt protocol s place = [] := by
      apply eq_nil_iff_forall_not_mem.mpr
      intro node held
      exact known (mem_allPlaces protocol held)
    rw [empty]
    exact nodup_nil

end

/-! ## Tasks of one connection -/

/-- Transactions of block 1, named by their numbers. -/
def blockOneHeight (node : Nat) : Height := ⟨1, UInt32.ofNat node⟩

/-- The tasks of an instance that connects, reads a batch and sends it. -/
def sendTasks {Signal : Type} (storeSteps : Nat) : List (Task Signal) :=
  .connect :: .read :: List.replicate storeSteps .store ++ [.send]

/-- The tasks of an instance whose stream fails. -/
def failTasks {Signal : Type} : List (Task Signal) :=
  [.senderFails, .receiverFails, .recover, .requeue]

end FabricXCommitter.Coordinator.Failover
