import FabricXCommitter.Library.Machine
import FabricXCommitter.VC.Preparer

/-!
# Merging received batches
-/

namespace FabricXCommitter.VC.Merging

open Library List

inductive Event where
  | timer
  | received (txBatch : List VcTx)
  deriving DecidableEq, Repr

/-- The batch being collected and the batches written to `toPrepareTxs`. -/
structure State where
  largerBatch : List VcTx
  toPrepareTxs : List (List VcTx)
  deriving DecidableEq, Repr

def isConfigTx (namespaces : List TxNamespace) : Bool :=
  namespaces.length == 1 &&
    namespaces.head?.any fun ns => ns.nsId == configNamespaceID

def sendLargeBatch (s : State) : State :=
  if s.largerBatch.length = 0 then
    s
  else
    { largerBatch := []
      toPrepareTxs := s.toPrepareTxs ++ [s.largerBatch] }

/-- The loop body of `batchReceivedTransactionsAndForwardForProcessing`. -/
def step (minTxBatchSize : Nat) (s : State) : Event → Option State
  | .timer => some (sendLargeBatch s)
  | .received txBatch =>
    let s := { s with largerBatch := s.largerBatch ++ txBatch }
    if (txBatch.length == 1 && txBatch.head?.any fun tx => isConfigTx tx.namespaces) ||
        decide (minTxBatchSize ≤ s.largerBatch.length) then
      some (sendLargeBatch s)
    else
      some s

def machine (minTxBatchSize : Nat) : Machine State Event where
  initial := ⟨[], []⟩
  step := step minTxBatchSize

def receivedBatches (events : List Event) : List (List VcTx) :=
  events.filterMap fun event =>
    match event with
    | .timer => none
    | .received txBatch => some txBatch

/-- Each batch handed on is the concatenation of a group of consecutive
received batches, and the batch being collected is that of the last group. -/
def Merges (received : List (List VcTx)) (s : State) : Prop :=
  ∃ (groups : List (List (List VcTx))) (last : List (List VcTx)),
    groups.flatten ++ last = received ∧
      groups.map List.flatten = s.toPrepareTxs ∧ last.flatten = s.largerBatch

theorem merges_sendLargeBatch
    {received : List (List VcTx)} {s : State} (merges : Merges received s) :
    Merges received (sendLargeBatch s) := by
  rw [sendLargeBatch]
  split
  · exact merges
  · obtain ⟨groups, last, all, closed, collected⟩ := merges
    refine ⟨groups ++ [last], [], ?_, ?_, rfl⟩
    · simpa using all
    · simp [closed, collected]

variable {minTxBatchSize : Nat}

theorem merges_step
    {received : List (List VcTx)} {s next : State} {event : Event} (merges : Merges received s)
    (stepped : step minTxBatchSize s event = some next) :
    Merges (received ++ receivedBatches [event]) next := by
  cases event with
  | timer =>
    cases stepped
    simpa [receivedBatches] using merges_sendLargeBatch merges
  | received txBatch =>
    have collecting :
        Merges (received ++ [txBatch]) { s with largerBatch := s.largerBatch ++ txBatch } := by
      obtain ⟨groups, last, all, closed, collected⟩ := merges
      refine ⟨groups, last ++ [txBatch], ?_, closed, ?_⟩
      · rw [← all, append_assoc]
      · rw [flatten_append, collected, flatten_singleton]
    simp only [step] at stepped
    split at stepped
    · cases stepped
      exact merges_sendLargeBatch collecting
    · cases stepped
      exact collecting

variable {events : List Event}

theorem merges_runFrom :
    ∀ {received : List (List VcTx)} {s final : State}, Merges received s →
      (machine minTxBatchSize).runFrom s events = some final →
        Merges (received ++ receivedBatches events) final := by
  induction events with
  | nil =>
    intro received s final merges reached
    cases reached
    rw [receivedBatches, filterMap_nil, append_nil]
    exact merges
  | cons event rest ih =>
    intro received s final merges reached
    obtain ⟨next, stepped, continued⟩ := (machine minTxBatchSize).runFrom_cons_eq_some.mp reached
    have split :
        receivedBatches (event :: rest) = receivedBatches [event] ++ receivedBatches rest := by
      rw [receivedBatches, receivedBatches, receivedBatches, ← filterMap_append]
      rfl
    rw [split, ← append_assoc]
    exact ih (merges_step merges stepped) continued

theorem merges_run {s : State} (reached : (machine minTxBatchSize).run events = some s) :
    Merges (receivedBatches events) s := by
  have start : Merges [] (machine minTxBatchSize).initial := ⟨[], [], rfl, rfl, rfl⟩
  simpa using merges_runFrom start reached

theorem received_of_forwarded {s : State} (reached : (machine minTxBatchSize).run events = some s)
    {batch : List VcTx} (forwarded : batch ∈ s.toPrepareTxs) {tx : VcTx} (mem : tx ∈ batch) :
    ∃ txBatch, .received txBatch ∈ events ∧ tx ∈ txBatch := by
  obtain ⟨groups, last, all, closed, _⟩ := merges_run reached
  rw [← closed] at forwarded
  obtain ⟨group, inGroups, same⟩ := mem_map.mp forwarded
  rw [← same] at mem
  obtain ⟨txBatch, inGroup, inBatch⟩ := mem_flatten.mp mem
  have isReceived : txBatch ∈ receivedBatches events := by
    rw [← all]
    exact mem_append_left _ (mem_flatten.mpr ⟨group, inGroups, inGroup⟩)
  obtain ⟨event, inEvents, carried⟩ := mem_filterMap.mp isReceived
  cases event with
  | timer => cases carried
  | received other =>
    cases carried
    exact ⟨txBatch, inEvents, inBatch⟩

end FabricXCommitter.VC.Merging
