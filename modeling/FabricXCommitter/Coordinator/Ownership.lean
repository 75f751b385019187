import FabricXCommitter.Coordinator.SignatureVerifierManager
import FabricXCommitter.Coordinator.ValidatorCommitterManager

/-!
# No loss and no duplication across failover
-/

namespace FabricXCommitter.Coordinator

open Library Coordinator.Failover

section

open ValidatorCommitterManager

variable {Node : Type} [DecidableEq Node] {height : Node → Height}

def statusCount (extra : Extra Node) (node : Node) : Nat := (extra.answers.map Prod.snd).count node

theorem statusCount_of_output {s : ValidatorCommitterManager.State Node}
    (owned : Owned (ValidatorCommitterManager.protocol height) s)
    (answered : Answered height s) {node : Node} (output : node ∈ s.shared.output) :
    statusCount s.shared.extra node =
      if node ∈ s.shared.extra.released then 0 else 1 := by
  have once : s.shared.extra.settled.Nodup :=
    Multiset.coe_nodup.mp
      (Multiset.nodup_of_le (settled_le_accepted owned answered)
        (Multiset.coe_nodup.mpr owned.once))
  have settled : node ∈ s.shared.extra.settled := by
    have known : node ∈ (s.shared.extra.settled : Multiset Node) := by
      rw [← answered.nodes, Fleet.total]
      exact Multiset.mem_add.mpr (Or.inl output)
    exact known
  obtain ⟨answersOnce, _, apart⟩ := List.nodup_append.mp once
  by_cases released : node ∈ s.shared.extra.released
  · rw [if_pos released, statusCount, List.count_eq_zero]
    exact fun answer => apart node answer node released rfl
  · rw [if_neg released, statusCount]
    rcases List.mem_append.mp settled with answer | isReleased
    · exact List.count_eq_one_of_mem answersOnce answer
    · exact absurd isReleased released

end

section

variable {Node : Type} [DecidableEq Node] (height : Node → Height)

/-- No node is lost or duplicated by either manager, and every node that the
validator-committer manager puts out has one forwarded status, unless it was
released by feedback. -/
theorem nodes_owned_and_answered_once :
    (∀ (prelim : SignatureVerifierManager.Prelim Node) (count : Nat)
        (actions : List (Fleet.Action (List Node) (Failover.Task SignatureVerifierManager.Signal)))
        (s : SignatureVerifierManager.State Node),
        (SignatureVerifierManager.manager height prelim count).run actions = some s →
          InOnePlace (SignatureVerifierManager.protocol height) s) ∧
      ∀ (count : Nat)
        (actions : List (Fleet.Action (List Node) (Failover.Task ValidatorCommitterManager.Signal)))
        (s : ValidatorCommitterManager.State Node),
        (ValidatorCommitterManager.manager height count).run actions = some s →
          InOnePlace (ValidatorCommitterManager.protocol height) s ∧
            (∀ node ∈ s.shared.output,
              statusCount s.shared.extra node =
                if node ∈ s.shared.extra.released then 0 else 1) ∧
            (∀ answer ∈ s.shared.extra.answers, answer.1.ref.height = height answer.2) ∧
            s.shared.extra.answers.map Prod.fst =
              s.shared.extra.forwarded.flatMap ValidatorCommitterManager.TxStatusBatch.status := by
  constructor
  · intro prelim count actions s ran
    exact (owned_run _ ran).inOnePlace
  · intro count actions s ran
    obtain ⟨owned, answered⟩ := ValidatorCommitterManager.answered_run ran
    refine ⟨owned.inOnePlace, ?_, answered.matching, answered.statuses⟩
    intro node output
    exact statusCount_of_output owned answered output

end

def committedStatus (node : Nat) : TxStatus := ⟨⟨[], 1, UInt32.ofNat node⟩, .committed⟩

/-- The first verifier fails with both transactions, and the second one answers
them; the answers of the first come late. -/
def verifierFailover :
    List (Fleet.Action (List Nat) (Failover.Task SignatureVerifierManager.Signal)) :=
  [.environment [0, 1]] ++ (sendTasks 1 ++ failTasks).map (.worker 0) ++
    (sendTasks 1).map (.worker 1) ++
    [.worker 1 (.receiver (.respond [committedStatus 0])),
      .worker 1 (.receiver .write), .worker 0 .connect,
      .worker 0 (.receiver (.respond [committedStatus 1]))]

def committerFailover :
    List (Fleet.Action (List Nat) (Failover.Task ValidatorCommitterManager.Signal)) :=
  [.environment [0, 1]] ++ (sendTasks 3 ++ failTasks).map (.worker 0) ++
    (sendTasks 3).map (.worker 1) ++
    .worker 1 (.receiver (.respond ⟨[committedStatus 0], some ⟨(committedStatus 1).ref⟩⟩)) ::
      List.replicate 5 (.worker 1 (.receiver .proceed))

/-- After a failover one transaction is answered by a status and one by
feedback. -/
theorem failover_keeps_nodes :
    (∃ s,
      (SignatureVerifierManager.manager blockOneHeight (fun _ => none) 2).run
            verifierFailover = some s ∧
        s.shared.output = [0] ∧ InOnePlace (SignatureVerifierManager.protocol blockOneHeight) s) ∧
      ∃ s,
        (ValidatorCommitterManager.manager blockOneHeight 2).run committerFailover = some s ∧
          s.shared.output = [0, 1] ∧
            statusCount s.shared.extra 0 = 1 ∧ statusCount s.shared.extra 1 = 0 := by
  constructor
  · have evaluated :
        ((SignatureVerifierManager.manager blockOneHeight (fun _ => none)
              2).run verifierFailover).map
            (fun s => s.shared.output) =
          some [0] := by
      decide +kernel
    obtain ⟨s, ran, output⟩ := Option.map_eq_some_iff.mp evaluated
    exact ⟨s, ran, output, (nodes_owned_and_answered_once blockOneHeight).1 _ _ _ _ ran⟩
  · have evaluated :
        ((ValidatorCommitterManager.manager blockOneHeight 2).run committerFailover).map
            (fun s => (s.shared.output, s.shared.extra.released)) =
          some ([0, 1], [1]) := by
      decide +kernel
    obtain ⟨s, ran, outcome⟩ := Option.map_eq_some_iff.mp evaluated
    obtain ⟨output, released⟩ := Prod.mk.inj outcome
    obtain ⟨_, counts, _, _⟩ := (nodes_owned_and_answered_once blockOneHeight).2 _ _ _ ran
    rw [output, released] at counts
    exact ⟨s, ran, output, counts 0 (by decide), counts 1 (by decide)⟩

end FabricXCommitter.Coordinator
