import StarLens.Alert.Manager
import StarLens.Service.Cluster

/-! # Cluster alert rules -/

namespace StarLens.Service

open Alert (Alert Severity)
open Go Repository

def ruleClusterNodeDown : String := "cluster_node_down"
def ruleClusterNoLeader : String := "cluster_no_leader"
def ruleClusterQuorumLost : String := "cluster_quorum_lost"
def ruleClusterIDMismatch : String := "cluster_id_mismatch"
def ruleFrontendJournalLag : String := "fe_journal_lag"
def ruleClusterNoComputeCapacity : String := "cluster_no_compute_capacity"

structure ClusterAlertPolicy where
  maxJournalLag : Int64
deriving DecidableEq

def decimal (value : Int) : String := toString value

def noLeaderAlert (summary : TopologySummary) : Alert where
  key := ruleClusterNoLeader
  ruleID := ruleClusterNoLeader
  severity := .critical
  title := "No frontend leader is elected"
  message :=
    decimal summary.electableAlive ++ " of " ++ decimal summary.electableTotal ++
      " electable frontends are alive. Metadata writes (DDL, load bookkeeping) are blocked " ++
      "until an election succeeds."

def quorumLostAlert (summary : TopologySummary) : Alert where
  key := ruleClusterQuorumLost
  ruleID := ruleClusterQuorumLost
  severity := .critical
  title := "Frontend metadata quorum is lost"
  message :=
    "Only " ++ decimal summary.electableAlive ++ " of " ++ decimal summary.electableTotal ++
      " electable frontends are alive; a majority is required. Restore a follower before the " ++
      "current leader restarts."
  labels := [("leader", summary.leaderHost)]

def idMismatchAlert : Alert where
  key := ruleClusterIDMismatch
  ruleID := ruleClusterIDMismatch
  severity := .critical
  title := "Frontends disagree on cluster id"
  message :=
    "At least one frontend reports a different ClusterId, which means it belongs to another " ++
      "cluster. Remove it before it corrupts metadata."

def noComputeCapacityAlert : Alert where
  key := ruleClusterNoComputeCapacity
  ruleID := ruleClusterNoComputeCapacity
  severity := .critical
  title := "No backend or compute node is alive"
  message := "Every storage/compute node is down; queries cannot be served."

def nodeSubject (node : Node) : String := if node.name != "" then node.name else node.host

section Alerts

variable [UnicodeTables]

def nodeDownAlert (node : Node) : Alert where
  key := ruleClusterNodeDown ++ "|" ++ node.id
  ruleID := ruleClusterNodeDown
  severity := .critical
  title := node.type.text ++ " node " ++ Strconv.quote (nodeSubject node) ++ " is down"
  message :=
    node.type.text ++ " node " ++ node.name ++ " (" ++ node.host ++
      ") stopped answering heartbeats." ++
      (if node.errMsg != "" then " StarRocks reports: " ++ node.errMsg else "") ++
      (if node.lastHeartbeat != "" then " Last heartbeat: " ++ node.lastHeartbeat ++ "." else "")
  labels :=
    [("node", node.name), ("host", node.host), ("type", node.type.text), ("role", node.role)]

def nodeDownAlerts (topology : Topology) : List Alert :=
  ((topology.frontends ++ topology.backends ++ topology.computeNodes).filter
    fun node => !node.alive).map nodeDownAlert

def journalLagAlert (policy : ClusterAlertPolicy) (fe : Node) (lag : Int64) : Alert where
  key := ruleFrontendJournalLag ++ "|" ++ fe.id
  ruleID := ruleFrontendJournalLag
  severity := .warning
  title :=
    "Frontend " ++ Strconv.quote (nodeSubject fe) ++ " trails the leader by " ++
      decimal lag.toInt ++ " journal entries"
  message :=
    "Metadata replication is behind by " ++ decimal lag.toInt ++ " entries (threshold " ++
      decimal policy.maxJournalLag.toInt ++ "). This " ++ Strings.toLower fe.role ++
      " cannot take over cleanly until it catches up."
  labels := [("node", fe.name), ("host", fe.host), ("role", fe.role)]

def journalLagAlerts (policy : ClusterAlertPolicy) (frontends : List Node) : List Alert :=
  if policy.maxJournalLag ≤ 0 then []
  else
    frontends.filterMap fun fe =>
      match fe.journalLag with
      | none => none
      | some lag =>
          if !fe.alive || fe.role = roleLeader then none
          else if lag ≤ policy.maxJournalLag then none
          else some (journalLagAlert policy fe lag)

def evaluateAlerts (policy : ClusterAlertPolicy) (topology : Topology) : List Alert :=
  let summary := topology.summary
  (if summary.leaderHost = "" then [noLeaderAlert summary]
    else if !summary.quorumHealthy then [quorumLostAlert summary]
    else []) ++
    (if summary.clusterIDMismatch then [idMismatchAlert] else []) ++
    (if 0 < summary.backendTotal + summary.computeTotal ∧
        summary.backendAlive + summary.computeAlive = 0 then
      [noComputeCapacityAlert]
    else []) ++
    nodeDownAlerts topology ++ journalLagAlerts policy topology.frontends

def summaryAlerts (summary : TopologySummary) : List Alert :=
  [noLeaderAlert summary, quorumLostAlert summary, idMismatchAlert, noComputeCapacityAlert]

/-- An evaluation raises some of these, and one alert for each dead or trailing
node. -/
theorem evaluateAlerts_split (policy : ClusterAlertPolicy) (topology : Topology) :
    ∃ whole, whole.Sublist (summaryAlerts topology.summary) ∧
      evaluateAlerts policy topology =
        whole ++ nodeDownAlerts topology ++ journalLagAlerts policy topology.frontends := by
  refine ⟨_, ?_, rfl⟩
  have election : (if topology.summary.leaderHost = "" then [noLeaderAlert topology.summary]
      else if !topology.summary.quorumHealthy then [quorumLostAlert topology.summary]
      else []).Sublist [noLeaderAlert topology.summary, quorumLostAlert topology.summary] := by
    split
    · exact List.Sublist.cons_cons _ (List.nil_sublist _)
    · split
      · exact List.sublist_cons_self _ _
      · exact List.nil_sublist _
  have single {condition : Prop} [Decidable condition] (alert : Alert) :
      (if condition then [alert] else []).Sublist [alert] := by
    split
    · exact List.Sublist.refl _
    · exact List.nil_sublist _
  exact (election.append (single idMismatchAlert)).append (single noComputeCapacityAlert)

end Alerts

/-! ## The verdict and the pager -/

theorem leaderHost_concat (frontends : List Node) (fe : Node) :
    leaderHost (frontends ++ [fe]) =
      if fe.role = roleLeader && fe.alive then fe.host else leaderHost frontends := by
  simp [leaderHost]

/-- The live leader that is listed last has a host. -/
def HasLeader (frontends : List Node) : Prop :=
  ∃ leader before after, frontends = before ++ leader :: after ∧
    leader.role = roleLeader ∧ leader.alive ∧ leader.host ≠ "" ∧
    ∀ fe ∈ after, ¬(fe.role = roleLeader ∧ fe.alive)

theorem leaderHost_ne_iff (frontends : List Node) :
    leaderHost frontends ≠ "" ↔ HasLeader frontends := by
  induction frontends using List.reverseRecOn with
  | nil => simp [leaderHost, HasLeader]
  | append_singleton frontends fe induction =>
      rw [leaderHost_concat]
      by_cases leads : fe.role = roleLeader ∧ fe.alive
      · rw [if_pos (by simpa using leads)]
        constructor
        · intro hosted
          exact ⟨fe, frontends, [], rfl, leads.1, leads.2, hosted, by simp⟩
        · intro found
          rcases found with ⟨leader, before, after, split, role, alive, hosted, last⟩
          rcases List.eq_nil_or_concat after with rfl | ⟨older, youngest, rfl⟩
          · rcases List.append_inj' split rfl with ⟨-, same⟩
            rw [List.singleton_inj.mp same]
            exact hosted
          · rw [List.concat_eq_append, ← List.cons_append, ← List.append_assoc] at split
            rcases List.append_inj' split rfl with ⟨-, same⟩
            rw [← List.singleton_inj.mp same] at last
            exact absurd leads (last fe (by simp))
      · rw [if_neg (by simpa using leads), induction]
        constructor
        · intro found
          rcases found with ⟨leader, before, after, rfl, role, alive, hosted, last⟩
          refine ⟨leader, before, after ++ [fe], by simp, role, alive, hosted, ?_⟩
          rw [List.forall_mem_append, List.forall_mem_singleton]
          exact ⟨last, leads⟩
        · intro found
          rcases found with ⟨leader, before, after, split, role, alive, hosted, last⟩
          rcases List.eq_nil_or_concat after with rfl | ⟨older, youngest, rfl⟩
          · rcases List.append_inj' split rfl with ⟨-, same⟩
            rw [List.singleton_inj.mp same] at leads
            exact absurd ⟨role, alive⟩ leads
          · rw [List.concat_eq_append, ← List.cons_append, ← List.append_assoc] at split
            rcases List.append_inj' split rfl with ⟨same, -⟩
            refine ⟨leader, before, older, same, role, alive, hosted, fun other member => ?_⟩
            exact last other (by simp [member])

theorem HasLeader.electable {frontends : List Node} (leader : HasLeader frontends)
    (alive : ∀ fe ∈ frontends, fe.alive) :
    0 < frontends.countP isElectable ∧
      frontends.countP isElectable / 2 <
        frontends.countP fun fe => isElectable fe && fe.alive := by
  rcases leader with ⟨leader, before, after, rfl, role, -⟩
  have same : ((before ++ leader :: after).countP fun fe => isElectable fe && fe.alive) =
      (before ++ leader :: after).countP isElectable :=
    List.countP_congr fun fe member => by simp [alive fe member]
  have positive : 0 < (before ++ leader :: after).countP isElectable :=
    List.countP_pos_iff.mpr ⟨leader, by simp, by simp [isElectable, role]⟩
  rw [same]
  omega

structure FrontendsSound (frontends : List Node) : Prop where
  leader : HasLeader frontends
  oneCluster : (clusterIDs frontends).length ≤ 1
  alive : ∀ fe ∈ frontends, fe.alive

theorem healthy_iff (frontends backends computeNodes : List Node) :
    (summarize frontends backends computeNodes).healthy ↔
      FrontendsSound frontends ∧ (∀ node ∈ backends ++ computeNodes, node.alive) ∧
        backends ++ computeNodes ≠ [] := by
  have registered : 0 < backends.length + computeNodes.length ↔ backends ++ computeNodes ≠ [] := by
    rw [← List.length_append, List.length_pos_iff]
  simp only [summarize, Bool.and_eq_true, bne_iff_ne, beq_iff_eq, decide_eq_true_eq,
    Bool.not_eq_true', decide_eq_false_iff_not, not_lt, List.countP_eq_length,
    leaderHost_ne_iff, registered]
  constructor
  · intro sound
    rcases sound with
      ⟨⟨⟨⟨⟨⟨leader, -⟩, oneCluster⟩, alive⟩, backendsAlive⟩, computeAlive⟩, nonempty⟩
    refine ⟨⟨leader, oneCluster, alive⟩, ?_, nonempty⟩
    rw [List.forall_mem_append]
    exact ⟨backendsAlive, computeAlive⟩
  · intro sound
    rcases sound with ⟨⟨leader, oneCluster, alive⟩, dataAlive, nonempty⟩
    have quorum := leader.electable alive
    exact ⟨⟨⟨⟨⟨⟨leader, quorum⟩, oneCluster⟩, alive⟩,
      fun node member => dataAlive node (List.mem_append_left _ member)⟩,
      fun node member => dataAlive node (List.mem_append_right _ member)⟩, nonempty⟩

theorem not_critical_if {condition : Prop} [Decidable condition] {raised : Alert}
    (critical : raised.severity = .critical) {others : List Alert} :
    (∀ alert ∈ (if condition then [raised] else others), alert.severity ≠ .critical) ↔
      ¬condition ∧ ∀ alert ∈ others, alert.severity ≠ .critical := by
  by_cases holds : condition
  · simp [holds, critical]
  · simp [holds]

section Alerts

variable [UnicodeTables]

theorem mem_journalLagAlerts {policy : ClusterAlertPolicy} {frontends : List Node}
    {alert : Alert} :
    alert ∈ journalLagAlerts policy frontends ↔
      0 < policy.maxJournalLag ∧ ∃ fe ∈ frontends, ∃ lag ∈ fe.journalLag,
        fe.alive ∧ fe.role ≠ roleLeader ∧ policy.maxJournalLag < lag ∧
          journalLagAlert policy fe lag = alert := by
  rw [journalLagAlerts]
  split
  case isTrue off => simp [Int64.not_lt.mpr off]
  case isFalse on =>
      rw [List.mem_filterMap, and_iff_right (Int64.not_le.mp on)]
      apply exists_congr
      intro fe
      apply and_congr_right
      intro _
      cases lag : fe.journalLag with
      | none => simp
      | some value =>
          by_cases skipped : !fe.alive || fe.role = roleLeader
          · simp only [skipped, if_true, reduceCtorEq, false_iff]
            intro raised
            rcases raised with ⟨_, -, alive, follows, -⟩
            simp [alive, follows] at skipped
          · have counted : fe.alive ∧ fe.role ≠ roleLeader := by simpa using skipped
            simp [counted, Int64.not_le]

private theorem journalLagAlerts_warn (policy : ClusterAlertPolicy) (frontends : List Node) :
    ∀ alert ∈ journalLagAlerts policy frontends, alert.severity = .warning := by
  intro alert member
  rcases mem_journalLagAlerts.mp member with ⟨-, fe, -, lag, -, -, -, -, rfl⟩
  rfl

private theorem nodeDownAlerts_critical_iff (topology : Topology) :
    (∀ alert ∈ nodeDownAlerts topology, alert.severity ≠ .critical) ↔
      ∀ node ∈ topology.frontends ++ topology.backends ++ topology.computeNodes, node.alive := by
  simp only [nodeDownAlerts, List.mem_map, List.mem_filter, Bool.not_eq_true', forall_exists_index,
    and_imp]
  constructor
  · intro quiet node member
    by_contra dead
    exact quiet _ node member (by simpa using dead) rfl rfl
  · intro alive alert node member dead _
    simp [alive node member] at dead

/-- No alert is critical: the frontends are sound and every other node is
alive. Where there is no other node, there is none to be dead. -/
theorem no_critical_iff (policy : ClusterAlertPolicy) {topology : Topology}
    (summarized : topology.summary =
      summarize topology.frontends topology.backends topology.computeNodes) :
    (∀ alert ∈ evaluateAlerts policy topology, alert.severity ≠ .critical) ↔
      FrontendsSound topology.frontends ∧
        ∀ node ∈ topology.backends ++ topology.computeNodes, node.alive := by
  have warn : ∀ alert ∈ journalLagAlerts policy topology.frontends,
      alert.severity ≠ .critical := by
    intro alert member
    rw [journalLagAlerts_warn policy topology.frontends alert member]
    decide
  simp only [evaluateAlerts, List.forall_mem_append, nodeDownAlerts_critical_iff]
  rw [not_critical_if rfl, not_critical_if rfl, not_critical_if rfl, not_critical_if rfl]
  simp only [summarized, summarize, List.not_mem_nil, false_implies, implies_true, and_true,
    decide_eq_true_eq, not_lt, ← ne_eq, leaderHost_ne_iff, Bool.not_eq_true', Bool.not_eq_false,
    Bool.and_eq_true]
  constructor
  · intro sound
    rcases sound with ⟨⟨⟨⟨⟨leader, -⟩, oneCluster⟩, -⟩, ⟨frontends, backends⟩, computeNodes⟩, -⟩
    exact ⟨⟨leader, oneCluster, frontends⟩, backends, computeNodes⟩
  · intro sound
    rcases sound with ⟨⟨leader, oneCluster, alive⟩, backends, computeNodes⟩
    refine ⟨⟨⟨⟨⟨leader, leader.electable alive⟩, oneCluster⟩, ?_⟩,
      ⟨alive, backends⟩, computeNodes⟩, warn⟩
    rw [List.countP_eq_length.mpr backends, List.countP_eq_length.mpr computeNodes]
    omega

/-- The dashboard's verdict and the pager agree exactly where there is a
backend or a compute node, or the frontends are reason enough for a critical
alert. -/
theorem healthy_iff_no_critical_iff (feRows beRows cnRows : List Row)
    (runMode : Except String (List Row)) (now : Time) (policy : ClusterAlertPolicy) :
    ∃ result,
      topology ⟨.ok feRows, .ok beRows, .ok cnRows, runMode⟩ now = .ok result ∧
      ((result.summary.healthy ↔
          ∀ alert ∈ evaluateAlerts policy result, alert.severity ≠ .critical) ↔
        beRows ≠ [] ∨ cnRows ≠ [] ∨ ¬FrontendsSound (topologyFrontends feRows)) := by
  refine ⟨_, rfl, ?_⟩
  rw [no_critical_iff policy rfl, healthy_iff]
  have rows (less : Node → Node → Bool) (nodes : List Node) :
      sortStable less nodes = [] ↔ nodes = [] := by
    rw [← List.length_eq_zero_iff, sortStable, List.length_insertionSort, List.length_eq_zero_iff]
  have empty (rows' : List Row) (type : NodeType) :
      topologyDataNodes rows' type = [] ↔ rows' = [] := by
    rw [topologyDataNodes, sortBackends, rows, List.map_eq_nil_iff]
  simp only [Except.toOption, Option.getD_some, ne_eq, List.append_eq_nil_iff, empty]
  by_cases sound : FrontendsSound (topologyFrontends feRows)
  · by_cases unregistered : beRows = [] ∧ cnRows = []
    · rcases unregistered with ⟨rfl, rfl⟩
      simp [sound, topologyDataNodes, sortBackends, sortStable]
    · simp only [sound, unregistered, not_false_eq_true, and_true, true_and, not_true_eq_false,
        or_false]
      tauto
  · simp [sound]

end Alerts

/-- One healthy frontend and nothing else: the dashboard is red and the pager
silent. -/
theorem healthy_differs_without_nodes :
    ∃ (_ : UnicodeTables), ¬∀ (feRows beRows cnRows : List Row)
      (runMode : Except String (List Row)) (now : Time) (policy : ClusterAlertPolicy)
      (result : Topology),
      topology ⟨.ok feRows, .ok beRows, .ok cnRows, runMode⟩ now = .ok result →
      (result.summary.healthy ↔
        ∀ alert ∈ evaluateAlerts policy result, alert.severity ≠ .critical) := by
  refine ⟨.latin, fun agree => ?_⟩
  have same := agree [[("name", "fe1"), ("ip", "10.0.0.1"), ("role", "LEADER"), ("alive", "true")]]
    [] [] (.ok []) { wall := 0 } { maxJournalLag := 1000 } _ rfl
  revert same
  decide

end StarLens.Service
