import StarLens.Go.Wraparound
import StarLens.Service.Cluster

/-! # The tablets of live nodes

The total of the summary is documented as that of the live backends and compute
nodes. What a dead one last reported is counted as well. -/

namespace StarLens.Service

open Foundation Go

def reportedTablets (nodes : List Node) : Int :=
  (nodes.map fun node => (node.tabletNum.getD 0).toInt).sum

def liveNodes (nodes : List Node) : List Node := nodes.filter Node.alive

def deadNodes (nodes : List Node) : List Node := nodes.filter fun node => !node.alive

def CountsLiveTablets (frontends backends computeNodes : List Node) : Prop :=
  (summarize frontends backends computeNodes).tabletTotal.toInt =
    reportedTablets (liveNodes (backends ++ computeNodes))

private theorem tabletTotal_eq (nodes : List Node) :
    tabletTotal nodes = Int64.ofInt (reportedTablets nodes) := by
  have adds (total : Int64) (node : Node) :
      id (total + node.tabletNum.getD 0) = id total + node.tabletNum.getD 0 := rfl
  have sum := foldl_adds id (fun node => node.tabletNum.getD 0) adds nodes 0
  rw [tabletTotal, reportedTablets]
  apply sum.trans
  rw [id, Int64.zero_add, total_eq_ofInt, List.map_map]
  rfl

private theorem reportedTablets_split (nodes : List Node) :
    reportedTablets nodes =
      reportedTablets (liveNodes nodes) + reportedTablets (deadNodes nodes) := by
  have perm := List.filter_append_perm Node.alive nodes
  rw [reportedTablets, reportedTablets, reportedTablets, ← List.sum_append, ← List.map_append]
  exact ((perm.map _).sum_eq).symm

/-- The total is right exactly where the sum fits and what the dead nodes report comes to
nothing. -/
theorem countsLiveTablets_iff (frontends backends computeNodes : List Node) :
    CountsLiveTablets frontends backends computeNodes ↔
      (-2 ^ 63 ≤ reportedTablets (liveNodes (backends ++ computeNodes)) ∧
        reportedTablets (liveNodes (backends ++ computeNodes)) < 2 ^ 63) ∧
      2 ^ 64 ∣ reportedTablets (deadNodes (backends ++ computeNodes)) := by
  have total : (summarize frontends backends computeNodes).tabletTotal =
      Int64.ofInt (reportedTablets (backends ++ computeNodes)) := tabletTotal_eq _
  have rest : reportedTablets (backends ++ computeNodes) -
      reportedTablets (liveNodes (backends ++ computeNodes)) =
        reportedTablets (deadNodes (backends ++ computeNodes)) := by
    rw [reportedTablets_split (backends ++ computeNodes), add_sub_cancel_left]
  rw [CountsLiveTablets, total, toInt_ofInt_eq_iff, rest]

def deadBackend : Node where
  id := "be:10001"
  name := "10.0.0.2"
  type := .backend
  role := roleBackend
  status := .down
  alive := false
  host := "10.0.0.2"
  lastHeartbeat := ""
  errMsg := ""
  replayedJournalID := none
  clusterID := ""
  tabletNum := some 10

theorem not_countsLiveTablets_deadBackend :
    ¬∀ frontends backends computeNodes : List Node,
      CountsLiveTablets frontends backends computeNodes := by
  intro claimed
  have counted := claimed [] [deadBackend] []
  rw [CountsLiveTablets] at counted
  revert counted
  decide

end StarLens.Service
