import Mathlib.Data.Finset.Card
import StarLens.Service.ClusterAlerts

/-! # The cluster status pill

The header's one-line verdict on the cluster. It is derived from the summary's
fields once more, next to the verdict the summary carries. -/

namespace StarLens.Frontend

open Service

inductive Tone
  | healthy
  | degraded
  | unknown
  | loading
deriving DecidableEq

structure Pill where
  tone : Tone
  labelKey : String
  count : Option Int := none
deriving DecidableEq

def clusterUnreachable : String := "status.clusterUnreachable"
def noFeLeader : String := "status.noFeLeader"
def nodesDown : String := "status.nodesDown"
def noBackendsRegistered : String := "status.noBackendsRegistered"

def down (summary : TopologySummary) : Int :=
  summary.frontendTotal - summary.frontendAlive +
    (summary.backendTotal - summary.backendAlive) +
    (summary.computeTotal - summary.computeAlive)

def resolveTone (summary : Option TopologySummary) (isLoading isUnreachable : Bool) : Pill :=
  if isUnreachable then { tone := .degraded, labelKey := clusterUnreachable }
  else
    match summary with
    | none =>
        if isLoading then { tone := .loading, labelKey := "status.checkingCluster" }
        else { tone := .unknown, labelKey := "status.statusUnknown" }
    | some summary =>
        if summary.healthy then { tone := .healthy, labelKey := "status.clusterHealthy" }
        else if summary.leaderHost = "" then { tone := .degraded, labelKey := noFeLeader }
        else if 0 < down summary then
          { tone := .degraded, labelKey := nodesDown, count := some (down summary) }
        else { tone := .unknown, labelKey := noBackendsRegistered }

theorem down_summarize (frontends backends computeNodes : List Node) :
    down (summarize frontends backends computeNodes) =
      (frontends ++ backends ++ computeNodes).countP fun node => !node.alive := by
  have split (nodes : List Node) :
      nodes.length = nodes.countP Node.alive + nodes.countP fun node => !node.alive := by
    rw [List.length_eq_countP_add_countP Node.alive]
    simp
  have frontendSplit := split frontends
  have backendSplit := split backends
  have computeSplit := split computeNodes
  simp only [down, summarize, List.countP_append]
  omega

theorem down_pos_iff (frontends backends computeNodes : List Node) :
    0 < down (summarize frontends backends computeNodes) ↔
      ∃ node ∈ frontends ++ backends ++ computeNodes, node.alive = false := by
  rw [down_summarize, Int.natCast_pos, List.countP_pos_iff]
  simp only [Bool.not_eq_true']

def OneCluster (frontends : List Node) : Prop :=
  ∀ left ∈ frontends, ∀ right ∈ frontends, left.clusterID ≠ "" → right.clusterID ≠ "" →
    left.clusterID = right.clusterID

private theorem oneCluster_iff (frontends : List Node) :
    (clusterIDs frontends).length ≤ 1 ↔ OneCluster frontends := by
  have reported (id : String) :
      id ∈ clusterIDs frontends ↔ ∃ fe ∈ frontends, fe.clusterID = id ∧ id ≠ "" := by
    simp only [clusterIDs, List.mem_dedup, List.mem_filter, List.mem_map, bne_iff_ne]
    tauto
  have distinct : (clusterIDs frontends).Nodup := List.nodup_dedup _
  rw [← List.toFinset_card_of_nodup distinct, Finset.card_le_one]
  simp only [List.mem_toFinset, reported]
  constructor
  · intro same left member right member' named named'
    exact same _ ⟨left, member, rfl, named⟩ _ ⟨right, member', rfl, named'⟩
  · intro one id listed id' listed'
    rcases listed with ⟨left, member, rfl, named⟩
    rcases listed' with ⟨right, member', rfl, named'⟩
    exact one left member right member' named named'

def Says (summary : TopologySummary) (isUnreachable : Bool) (pill : Pill) : Prop :=
  pill.labelKey = clusterUnreachable ∧ isUnreachable ∨
  pill.labelKey = noFeLeader ∧ summary.leaderHost = "" ∨
  pill.labelKey = nodesDown ∧ 0 < down summary ∧ pill.count = some (down summary) ∨
  pill.labelKey = noBackendsRegistered ∧ summary.backendTotal + summary.computeTotal = 0

/-- The label of an unhealthy cluster can only be wrong in its last case. -/
theorem says_resolveTone_iff {summary : TopologySummary} (unhealthy : ¬summary.healthy)
    (isLoading isUnreachable : Bool) :
    Says summary isUnreachable (resolveTone (some summary) isLoading isUnreachable) ↔
      isUnreachable ∨ summary.leaderHost = "" ∨ 0 < down summary ∨
        summary.backendTotal + summary.computeTotal = 0 := by
  have labels : clusterUnreachable ≠ noFeLeader ∧ clusterUnreachable ≠ nodesDown ∧
      clusterUnreachable ≠ noBackendsRegistered ∧ noFeLeader ≠ nodesDown ∧
      noFeLeader ≠ noBackendsRegistered ∧ nodesDown ≠ noBackendsRegistered := by decide
  rcases labels with ⟨unreachableLeader, unreachableDown, unreachableNone, leaderDown, leaderNone,
    downNone⟩
  cases isUnreachable with
  | true => simp [Says, resolveTone]
  | false =>
      by_cases leaderless : summary.leaderHost = ""
      · simp [Says, resolveTone, unhealthy, leaderless]
      · by_cases dead : 0 < down summary
        · simp [Says, resolveTone, unhealthy, leaderless, dead]
        · simp [Says, resolveTone, unhealthy, leaderless, dead, unreachableNone.symm,
            leaderNone.symm, downNone.symm]

private theorem noBackends_resolveTone_iff {summary : TopologySummary}
    (isLoading isUnreachable : Bool) :
    (resolveTone (some summary) isLoading isUnreachable).labelKey = noBackendsRegistered ↔
      ¬isUnreachable ∧ ¬summary.healthy ∧ summary.leaderHost ≠ "" ∧ ¬0 < down summary := by
  have labels : clusterUnreachable ≠ noBackendsRegistered ∧
      "status.clusterHealthy" ≠ noBackendsRegistered ∧
      noFeLeader ≠ noBackendsRegistered ∧ nodesDown ≠ noBackendsRegistered := by decide
  rcases labels with ⟨unreachableNone, healthyNone, leaderNone, downNone⟩
  unfold resolveTone
  split
  · simp_all
  · dsimp only
    split
    · simp_all
    · split
      · simp_all
      · split <;> simp_all

private theorem total_eq_zero_iff (frontends backends computeNodes : List Node) :
    (summarize frontends backends computeNodes).backendTotal +
      (summarize frontends backends computeNodes).computeTotal = 0 ↔
        backends ++ computeNodes = [] := by
  rw [← List.length_eq_zero_iff, List.length_append]
  rfl

theorem leaderHost_eq_empty_iff (frontends backends computeNodes : List Node) :
    (summarize frontends backends computeNodes).leaderHost = "" ↔ ¬HasLeader frontends := by
  rw [← leaderHost_ne_iff, ne_eq, not_not]
  rfl

private theorem healthy_summarize_iff (frontends backends computeNodes : List Node) :
    (summarize frontends backends computeNodes).healthy ↔
      HasLeader frontends ∧ OneCluster frontends ∧
        (¬∃ node ∈ frontends ++ backends ++ computeNodes, node.alive = false) ∧
        backends ++ computeNodes ≠ [] := by
  have alive : (¬∃ node ∈ frontends ++ backends ++ computeNodes, node.alive = false) ↔
      (∀ fe ∈ frontends, fe.alive) ∧ ∀ node ∈ backends ++ computeNodes, node.alive := by
    rw [List.append_assoc, ← List.forall_mem_append]
    simp
  rw [healthy_iff, alive, ← oneCluster_iff]
  constructor
  · intro sound
    rcases sound with ⟨⟨leader, one, frontendsAlive⟩, nodesAlive, nonempty⟩
    exact ⟨leader, one, ⟨frontendsAlive, nodesAlive⟩, nonempty⟩
  · intro sound
    rcases sound with ⟨leader, one, ⟨frontendsAlive, nodesAlive⟩, nonempty⟩
    exact ⟨⟨leader, one, frontendsAlive⟩, nodesAlive, nonempty⟩

/-- The pill names what is wrong with a cluster, except where all nodes are
alive, there are backends or compute nodes, and the frontends only disagree on
the cluster ID. -/
theorem pill_truthful_iff (frontends backends computeNodes : List Node)
    (isLoading isUnreachable : Bool) :
    (let summary := summarize frontends backends computeNodes
      let pill := resolveTone (some summary) isLoading isUnreachable
      (pill.labelKey = noBackendsRegistered → summary.backendTotal + summary.computeTotal = 0) ∧
        (¬summary.healthy → Says summary isUnreachable pill)) ↔
      isUnreachable ∨ OneCluster frontends ∨ ¬HasLeader frontends ∨
        (∃ node ∈ frontends ++ backends ++ computeNodes, node.alive = false) ∨
        backends ++ computeNodes = [] := by
  have total := total_eq_zero_iff frontends backends computeNodes
  have leaderless := leaderHost_eq_empty_iff frontends backends computeNodes
  have dead := down_pos_iff frontends backends computeNodes
  have healthy := healthy_summarize_iff frontends backends computeNodes
  dsimp only
  generalize summarize frontends backends computeNodes = summary at *
  by_cases well : summary.healthy
  · have registered : (resolveTone (some summary) isLoading isUnreachable).labelKey ≠
        noBackendsRegistered := fun registered =>
      ((noBackends_resolveTone_iff isLoading isUnreachable).mp registered).2.1 well
    have one := (healthy.mp well).2.1
    exact ⟨fun _ => .inr (.inl one),
      fun _ => ⟨fun same => absurd same registered, fun unhealthy => absurd well unhealthy⟩⟩
  · rw [says_resolveTone_iff well, noBackends_resolveTone_iff, total, ne_eq, leaderless, dead]
    constructor
    · intro truthful
      exact (truthful.2 well).imp_right .inr
    · intro excused
      have told : isUnreachable ∨ ¬HasLeader frontends ∨
          (∃ node ∈ frontends ++ backends ++ computeNodes, node.alive = false) ∨
          backends ++ computeNodes = [] := by
        rcases excused with unreachable | one | others
        · exact .inl unreachable
        · by_contra silent
          simp only [not_or, not_not] at silent
          exact well (healthy.mpr ⟨silent.2.1, one, silent.2.2.1, silent.2.2.2⟩)
        · exact .inr others
      refine ⟨fun registered => ?_, fun _ => told⟩
      rcases registered with ⟨reachable, -, leader, alive⟩
      rcases told with unreachable | leaderless | dead | unregistered
      · exact absurd unreachable reachable
      · exact absurd leaderless leader
      · exact absurd dead alive
      · exact unregistered

/-- Two frontends of different clusters and a backend, all alive. -/
theorem pill_hides_other_cluster :
    ¬∀ (frontends backends computeNodes : List Node) (isLoading isUnreachable : Bool),
      let summary := summarize frontends backends computeNodes
      let pill := resolveTone (some summary) isLoading isUnreachable
      (pill.labelKey = noBackendsRegistered → summary.backendTotal + summary.computeTotal = 0) ∧
        (¬summary.healthy → Says summary isUnreachable pill) := by
  intro claimed
  let node (name role clusterID : String) (type : NodeType) : Node :=
    { id := name, name, type, role, status := .healthy, alive := true, host := name
      lastHeartbeat := "", errMsg := "", replayedJournalID := none, clusterID }
  have truthful := claimed
    [node "fe1" "LEADER" "1001" .frontend, node "fe2" "FOLLOWER" "1002" .frontend]
    [node "be1" "BACKEND" "" .backend] [] false false
  exact absurd (truthful.1 (by decide)) (by decide)

end StarLens.Frontend
