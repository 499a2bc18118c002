import StarLens.Frontend.TopologyView
import StarLens.Service.AlertCounts
import StarLens.Service.LeaderChoice

/-! # The topology page and the pager

Two programs judge one topology: the server, which raises alerts, and the page,
which turns figures red. They agree, up to what the page only repeats of a single
node: its error message and how full it is. -/

namespace StarLens.Frontend

open Alert (Alert Severity)
open Go Repository Service

/-! ## What the pager raises -/

section Alerts

variable [UnicodeTables]

private theorem nodeDownAlerts_rule (topology : Topology) :
    ∀ alert ∈ nodeDownAlerts topology, alert.ruleID = ruleClusterNodeDown := by
  intro alert member
  rcases List.mem_map.mp member with ⟨node, -, rfl⟩
  rfl

private theorem journalLagAlerts_rule (policy : ClusterAlertPolicy) (frontends : List Node) :
    ∀ alert ∈ journalLagAlerts policy frontends, alert.ruleID = ruleFrontendJournalLag := by
  intro alert member
  rcases mem_journalLagAlerts.mp member with ⟨-, fe, -, lag, -, -, -, -, rfl⟩
  rfl

theorem filter_nodeRules (policy : ClusterAlertPolicy) (topology : Topology) :
    (evaluateAlerts policy topology).filter (raisedBy ruleClusterNodeDown) =
        nodeDownAlerts topology ∧
      (evaluateAlerts policy topology).filter (raisedBy ruleFrontendJournalLag) =
        journalLagAlerts policy topology.frontends := by
  rcases evaluateAlerts_split policy topology with ⟨whole, sublist, split⟩
  have kept {rule : String} {alerts : List Alert} (all : ∀ alert ∈ alerts, alert.ruleID = rule) :
      alerts.filter (raisedBy rule) = alerts :=
    List.filter_eq_self.mpr fun alert member => raisedBy_iff.mpr (all alert member)
  have dropped {rule : String} {alerts : List Alert}
      (other : ∀ alert ∈ alerts, alert.ruleID ≠ rule) : alerts.filter (raisedBy rule) = [] :=
    List.filter_eq_nil_iff.mpr fun alert member =>
      mt raisedBy_iff.mp (other alert member)
  have different : ruleClusterNodeDown ≠ ruleFrontendJournalLag := by decide
  have down := nodeDownAlerts_rule topology
  have lag := journalLagAlerts_rule policy topology.frontends
  rw [split]
  simp only [List.filter_append]
  constructor
  · rw [dropped fun alert member => (ruleID_of_mem_summaryAlerts (sublist.subset member)).1,
      kept down, dropped fun alert member => (lag alert member).symm ▸ different.symm,
      List.nil_append, List.append_nil]
  · rw [dropped fun alert member => (ruleID_of_mem_summaryAlerts (sublist.subset member)).2,
      dropped fun alert member => (down alert member).symm ▸ different, kept lag,
      List.nil_append, List.nil_append]

private theorem nodeDown_raised_iff (policy : ClusterAlertPolicy) (topology : Topology) :
    (∃ alert ∈ evaluateAlerts policy topology, alert.ruleID = ruleClusterNodeDown) ↔
      ∃ node ∈ topology.frontends ++ topology.backends ++ topology.computeNodes,
        node.alive = false := by
  have same : (∃ alert ∈ evaluateAlerts policy topology, alert.ruleID = ruleClusterNodeDown) ↔
      nodeDownAlerts topology ≠ [] := by
    rw [← (filter_nodeRules policy topology).1, ne_eq, List.filter_eq_nil_iff]
    simp [raisedBy_iff]
  rw [same, nodeDownAlerts, ne_eq, List.map_eq_nil_iff, List.filter_eq_nil_iff]
  simp

private theorem exists_summaryRule_iff (policy : ClusterAlertPolicy) (topology : Topology)
    {rule : String} (notDown : rule ≠ ruleClusterNodeDown)
    (notLag : rule ≠ ruleFrontendJournalLag) :
    (∃ alert ∈ evaluateAlerts policy topology, alert.ruleID = rule) ↔
      topology.summary.leaderHost = "" ∧ ruleClusterNoLeader = rule ∨
      (topology.summary.leaderHost ≠ "" ∧ topology.summary.quorumHealthy = false) ∧
        ruleClusterQuorumLost = rule ∨
      topology.summary.clusterIDMismatch ∧ ruleClusterIDMismatch = rule ∨
      (0 < topology.summary.backendTotal + topology.summary.computeTotal ∧
        topology.summary.backendAlive + topology.summary.computeAlive = 0) ∧
          ruleClusterNoComputeCapacity = rule := by
  have single (condition : Prop) [Decidable condition] (raised : Alert) :
      (∃ alert ∈ if condition then [raised] else [], alert.ruleID = rule) ↔
        condition ∧ raised.ruleID = rule := by
    by_cases holds : condition <;> simp [holds]
  have election : (∃ alert ∈ if topology.summary.leaderHost = "" then
        [noLeaderAlert topology.summary]
      else if !topology.summary.quorumHealthy then [quorumLostAlert topology.summary] else [],
      alert.ruleID = rule) ↔
        topology.summary.leaderHost = "" ∧ ruleClusterNoLeader = rule ∨
          (topology.summary.leaderHost ≠ "" ∧ topology.summary.quorumHealthy = false) ∧
            ruleClusterQuorumLost = rule := by
    by_cases leaderless : topology.summary.leaderHost = ""
    · simp [leaderless, noLeaderAlert]
    · simp only [leaderless, if_false, single, false_and, false_or, ne_eq, not_false_eq_true,
        true_and, Bool.not_eq_true']
      rfl
  have down : ¬∃ alert ∈ nodeDownAlerts topology, alert.ruleID = rule := by
    intro raised
    rcases raised with ⟨alert, member, same⟩
    exact notDown (same.symm.trans (nodeDownAlerts_rule topology alert member))
  have lag : ¬∃ alert ∈ journalLagAlerts policy topology.frontends, alert.ruleID = rule := by
    intro raised
    rcases raised with ⟨alert, member, same⟩
    exact notLag (same.symm.trans (journalLagAlerts_rule policy topology.frontends alert member))
  simp only [evaluateAlerts, List.mem_append, or_and_right, exists_or, election, single, down, lag,
    or_false, or_assoc]
  rfl

private theorem quorumLost_raised_iff (policy : ClusterAlertPolicy) (topology : Topology) :
    (∃ alert ∈ evaluateAlerts policy topology, alert.ruleID = ruleClusterQuorumLost) ↔
      topology.summary.leaderHost ≠ "" ∧ topology.summary.quorumHealthy = false := by
  rw [exists_summaryRule_iff policy topology (by decide) (by decide)]
  simp [ruleClusterNoLeader, ruleClusterQuorumLost, ruleClusterIDMismatch,
    ruleClusterNoComputeCapacity]

private theorem idMismatch_raised_iff (policy : ClusterAlertPolicy) (topology : Topology) :
    (∃ alert ∈ evaluateAlerts policy topology, alert.ruleID = ruleClusterIDMismatch) ↔
      topology.summary.clusterIDMismatch := by
  rw [exists_summaryRule_iff policy topology (by decide) (by decide)]
  simp [ruleClusterNoLeader, ruleClusterQuorumLost, ruleClusterIDMismatch,
    ruleClusterNoComputeCapacity]

end Alerts

/-! ## The page and the pager -/

def NodeCard.lag (card : NodeCard) : Option JournalLagBadge :=
  match card.facts with
  | .frontend _ lag => lag
  | .backend _ _ _ => none

def NodeCard.bars (card : NodeCard) : List UsageBar :=
  match card.facts with
  | .frontend _ _ => []
  | .backend _ disk memory => [disk, memory]

def NodeCard.full (card : NodeCard) : Bool :=
  card.bars.any fun bar => bar.tone = .destructive

/-- A notice, a figure or the ring around a card is red. -/
def TopologyPage.Alarmed (page : TopologyPage) : Prop :=
  page.quorumLost.isSome ∨ page.clusterIDMismatch.isSome ∨ page.summary.feLeader.tone = .bad ∨
    page.summary.nodesAlive.tone = .bad ∨ ∃ card ∈ page.cards, card.marked

/-- Something on the page is red besides the card with the verdict. -/
def TopologyPage.Red (page : TopologyPage) : Prop :=
  page.Alarmed ∨ ∃ card ∈ page.cards, card.errMsg.isSome ∨ card.full

private theorem exact_criticalThreshold : Float64.Exact criticalThreshold := by
  exact_mod_cast @Float64.exact_intCast 85 (by norm_num)

def nearlyFull (percent : Option Float64) : Bool :=
  percent.any (Float64.finite criticalThreshold exact_criticalThreshold).le

def pressed (node : Node) : Bool :=
  nearlyFull node.diskUsedPercent || nearlyFull node.memUsedPercent

structure Agrees (locale : Locale) (topology : Topology) (alerts : List Alert)
    (page : TopologyPage) : Prop where
  cards : page.cards.map NodeCard.key =
    (topology.frontends ++ topology.backends ++ topology.computeNodes).map Node.id
  marked : ((page.cards.filter NodeCard.marked).map fun card =>
      ruleClusterNodeDown ++ "|" ++ card.key) =
    (alerts.filter (raisedBy ruleClusterNodeDown)).map Alert.key
  counts : ∀ nodes ∈ page.sections, nodes.aliveCount =
    locale.t "topology.aliveCount"
      [("alive", toString (nodes.cards.countP fun card => !card.marked)),
        ("total", toString nodes.cards.length)]
  nodes : page.summary.nodesAlive.tone = .bad ↔
    ∃ alert ∈ alerts, alert.ruleID = ruleClusterNodeDown
  lag : ∀ alert ∈ alerts, alert.ruleID = ruleFrontendJournalLag →
    ∃ card ∈ page.frontends.cards, alert.key = ruleFrontendJournalLag ++ "|" ++ card.key ∧
      ∃ badge ∈ card.lag, badge.behind
  leader : page.summary.feLeader.tone = .bad ↔
    (∃ alert ∈ alerts, alert.ruleID = ruleClusterNoLeader) ∨
      ∃ alert ∈ alerts, alert.ruleID = ruleClusterQuorumLost
  quorum : (∃ alert ∈ alerts, alert.ruleID = ruleClusterQuorumLost) ↔
    page.quorumLost.isSome ∧ topology.summary.leaderHost ≠ ""
  mismatch : page.clusterIDMismatch.isSome ↔
    ∃ alert ∈ alerts, alert.ruleID = ruleClusterIDMismatch
  told : (page.cards.filter fun card => card.errMsg.isSome).map NodeCard.key =
    ((topology.frontends ++ topology.backends ++ topology.computeNodes).filter fun node =>
      node.errMsg ≠ "").map Node.id
  full : (page.cards.filter NodeCard.full).map NodeCard.key =
    ((topology.backends ++ topology.computeNodes).filter pressed).map Node.id
  /-- What alarms is worth a critical alert, and the reverse. -/
  alarmed : page.Alarmed ↔ ∃ alert ∈ alerts, alert.severity = .critical
  red : page.Red ↔
    (∃ alert ∈ alerts, alert.severity = .critical) ∨
      (∃ node ∈ topology.frontends ++ topology.backends ++ topology.computeNodes,
        node.errMsg ≠ "") ∨
      ∃ node ∈ topology.backends ++ topology.computeNodes, pressed node
  verdict : page.summary.cluster.tone = .bad ↔
    page.Alarmed ∨ topology.backends ++ topology.computeNodes = []
  header : ∀ isLoading, (resolveTone (some topology.summary) isLoading false).tone = .healthy ↔
    page.summary.cluster.tone = .good

private theorem ofInt_pos {value : Int} (positive : 0 < value) : 0 < Number.ofInt value := by
  have nonnegative : ¬value < 0 := by omega
  rw [Number.ofInt, Number.signed, if_neg nonnegative]
  by_cases small : value.natAbs < 2 ^ 53
  · rw [Number.round_of_lt small]
    omega
  · have large := Number.le_round (Nat.le_of_not_lt small)
    omega

private theorem electableTotal_pos {frontends : List Node} (leader : HasLeader frontends) :
    0 < frontends.countP isElectable := by
  rcases leader with ⟨leader, before, after, rfl, role, -⟩
  rw [List.countP_pos_iff]
  exact ⟨leader, by simp, by simp [isElectable, role]⟩

theorem nodeSection_counts (locale : Locale) (name empty : String) {nodes : List Node}
    (down_iff : ∀ node ∈ nodes, node.status = .down ↔ node.alive = false) :
    (nodeSection locale name nodes empty).aliveCount =
      locale.t "topology.aliveCount"
        [("alive", toString ((nodeSection locale name nodes empty).cards.countP fun card =>
            !card.marked)),
          ("total", toString (nodeSection locale name nodes empty).cards.length)] := by
  have alive : ((nodeSection locale name nodes empty).cards.countP fun card => !card.marked) =
      nodes.length - nodes.countP fun node => !node.alive := by
    have split : nodes.length = _ := List.length_eq_countP_add_countP Node.alive
    have same : ((nodeSection locale name nodes empty).cards.countP fun card => !card.marked) =
        nodes.countP Node.alive := by
      rw [nodeSection, List.countP_map]
      apply List.countP_congr
      intro node member
      have down := down_iff node member
      simp only [Function.comp_apply, nodeCard, down]
      cases node.alive <;> simp
    rw [same]
    simp only [Bool.not_eq_true, Bool.decide_eq_false] at split
    omega
  rw [alive, nodeSection, List.length_map]

private theorem nodesAlive_bad_iff (locale : Locale) (runMode : String)
    (frontends backends computeNodes : List Node) :
    (summaryCards locale (summarize frontends backends computeNodes) runMode).nodesAlive.tone =
        .bad ↔
      ∃ node ∈ frontends ++ backends ++ computeNodes, node.alive = false := by
  have tone :
      (summaryCards locale (summarize frontends backends computeNodes) runMode).nodesAlive.tone =
        if down (summarize frontends backends computeNodes) = 0 then .good else .bad := rfl
  rw [tone, ← down_pos_iff, down_summarize]
  split
  case isTrue zero =>
      simp only [reduceCtorEq, false_iff]
      omega
  case isFalse positive =>
      simp only [true_iff]
      omega

private theorem feLeader_bad_iff (locale : Locale) (summary : TopologySummary) (runMode : String) :
    (summaryCards locale summary runMode).feLeader.tone = .bad ↔
      summary.leaderHost = "" ∨ summary.quorumHealthy = false := by
  by_cases leaderless : summary.leaderHost = ""
  · simp [summaryCards, leaderless]
  · cases quorum : summary.quorumHealthy <;> simp [summaryCards, leaderless, quorum]

private theorem exists_marked_iff (locale : Locale) (isError : Bool) {topology : Topology}
    (collected : Collected topology) :
    (∃ card ∈ (topologyPage locale isError topology).cards, card.marked) ↔
      ∃ node ∈ topology.frontends ++ topology.backends ++ topology.computeNodes,
        node.alive = false := by
  rw [cards_topologyPage]
  constructor
  · intro found
    rcases found with ⟨card, member, marked⟩
    rcases List.mem_map.mp member with ⟨node, listed, rfl⟩
    exact ⟨node, listed, (collected.down_iff node listed).mp (by simpa [nodeCard] using marked)⟩
  · intro found
    rcases found with ⟨node, listed, dead⟩
    refine ⟨nodeCard locale node, List.mem_map_of_mem listed, ?_⟩
    simpa [nodeCard] using (collected.down_iff node listed).mpr dead

/-! ## What the page repeats of a node -/

private theorem destructive_iff (label : String) (percent : Option Float64)
    (caption : Option String) :
    (usageBar label percent caption).tone = .destructive ↔ nearlyFull percent := by
  have tone : (usageBar label percent caption).tone = .destructive ↔
      criticalThreshold ≤ (percent.bind clamp).getD 0 := by
    dsimp only [usageBar]
    split
    case isTrue full => simp [full]
    case isFalse spare => split <;> simp [spare]
  rw [tone]
  cases percent with
  | none => simp [nearlyFull, criticalThreshold]
  | some percent =>
      cases percent with
      | finite value exact =>
          simp [nearlyFull, clamp, Float64.le, criticalThreshold]
          norm_num
      | inf negative =>
          cases negative <;> simp [nearlyFull, clamp, Float64.le, criticalThreshold]
          norm_num
      | nan => simp [nearlyFull, clamp, Float64.le, criticalThreshold]

private theorem full_nodeCard (locale : Locale) (node : Node) :
    (nodeCard locale node).full = (decide (node.type ≠ .frontend) && pressed node) := by
  by_cases frontend : node.type = .frontend
  · simp [NodeCard.full, NodeCard.bars, nodeCard, frontend, frontendFacts]
  · rw [Bool.eq_iff_iff]
    simp [NodeCard.full, NodeCard.bars, nodeCard, frontend, backendFacts, pressed, destructive_iff]

private theorem isSome_shown (value : String) : (shown value).isSome = decide (value ≠ "") := by
  by_cases empty : value = "" <;> simp [shown, empty]

private theorem told_topologyPage (locale : Locale) (isError : Bool) (topology : Topology) :
    (topologyPage locale isError topology).cards.filter (fun card => card.errMsg.isSome) =
      ((topology.frontends ++ topology.backends ++ topology.computeNodes).filter fun node =>
        node.errMsg ≠ "").map (nodeCard locale) := by
  rw [cards_topologyPage, List.filter_map]
  congr 1
  apply List.filter_congr
  intro node member
  exact isSome_shown node.errMsg

private theorem full_topologyPage (locale : Locale) (isError : Bool) {topology : Topology}
    (collected : Collected topology) :
    (topologyPage locale isError topology).cards.filter NodeCard.full =
      ((topology.backends ++ topology.computeNodes).filter pressed).map (nodeCard locale) := by
  have frontends : topology.frontends.filter (NodeCard.full ∘ nodeCard locale) = [] := by
    rw [List.filter_eq_nil_iff]
    intro fe member
    simp [full_nodeCard, (collected.frontends fe member).type]
  have nodes : (topology.backends ++ topology.computeNodes).filter
      (NodeCard.full ∘ nodeCard locale) =
        (topology.backends ++ topology.computeNodes).filter pressed := by
    apply List.filter_congr
    intro node member
    have data : node.type ≠ .frontend := by
      rcases List.mem_append.mp member with backend | compute
      · simp [(collected.backends node backend).type]
      · simp [(collected.computeNodes node compute).type]
    simp [full_nodeCard, data]
  rw [cards_topologyPage, List.filter_map, List.append_assoc, List.filter_append, frontends, nodes,
    List.nil_append]

private theorem exists_filter_map {α β : Type} {items : List α} {cards : List β} {keep : α → Bool}
    {chosen : β → Bool} {present : α → β}
    (same : cards.filter chosen = (items.filter keep).map present) :
    (∃ card ∈ cards, chosen card) ↔ ∃ item ∈ items, keep item := by
  have nonempty : cards.filter chosen = [] ↔ items.filter keep = [] := by
    rw [same, List.map_eq_nil_iff]
  rw [List.filter_eq_nil_iff, List.filter_eq_nil_iff] at nonempty
  rw [← not_iff_not]
  simpa using nonempty

/-- Nothing alarms where no rule about the whole cluster applies and no node is
dead. -/
theorem not_alarmed_iff (locale : Locale) (isError : Bool) {topology : Topology}
    (collected : Collected topology) :
    ¬(topologyPage locale isError topology).Alarmed ↔
      FrontendsSound topology.frontends ∧
        ∀ node ∈ topology.backends ++ topology.computeNodes, node.alive := by
  have nodes := nodesAlive_bad_iff locale topology.runMode topology.frontends topology.backends
    topology.computeNodes
  rw [← collected.summarized] at nodes
  have leader := feLeader_bad_iff locale topology.summary topology.runMode
  have leaderless := leaderHost_eq_empty_iff topology.frontends topology.backends
    topology.computeNodes
  rw [← collected.summarized] at leaderless
  have alive : (¬∃ node ∈ topology.frontends ++ topology.backends ++ topology.computeNodes,
      node.alive = false) ↔
        (∀ fe ∈ topology.frontends, fe.alive) ∧
          ∀ node ∈ topology.backends ++ topology.computeNodes, node.alive := by
    rw [List.append_assoc, ← List.forall_mem_append]
    simp
  have mismatch : (topologyPage locale isError topology).clusterIDMismatch.isSome ↔
      ¬(clusterIDs topology.frontends).length ≤ 1 := by
    simp [topologyPage, collected.summarized, summarize]
  rw [TopologyPage.Alarmed, exists_marked_iff locale isError collected, mismatch]
  change ¬(_ ∨ _ ∨ (summaryCards locale topology.summary topology.runMode).feLeader.tone = .bad ∨
    (summaryCards locale topology.summary topology.runMode).nodesAlive.tone = .bad ∨ _) ↔ _
  rw [leader, nodes, leaderless, or_self, not_or, not_or, not_or, not_or, alive, not_not, not_not]
  constructor
  · intro calm
    rcases calm with ⟨-, one, ⟨leads, -⟩, frontendsAlive, nodesAlive⟩
    exact ⟨⟨leads, one, frontendsAlive⟩, nodesAlive⟩
  · intro sound
    rcases sound with ⟨⟨leads, one, frontendsAlive⟩, nodesAlive⟩
    have majority := leads.electable frontendsAlive
    have quorum : topology.summary.quorumHealthy = true := by
      simp [collected.summarized, summarize, majority]
    refine ⟨?_, one, ⟨leads, ?_⟩, frontendsAlive, nodesAlive⟩
    · simp [topologyPage, quorum]
    · simp [quorum]

private theorem cluster_bad_iff (locale : Locale) (isError : Bool) {topology : Topology}
    (collected : Collected topology) :
    (topologyPage locale isError topology).summary.cluster.tone = .bad ↔
      (topologyPage locale isError topology).Alarmed ∨
        topology.backends ++ topology.computeNodes = [] := by
  have healthy := healthy_iff topology.frontends topology.backends topology.computeNodes
  rw [← collected.summarized, ← and_assoc, ← not_alarmed_iff locale isError collected] at healthy
  have tone : (topologyPage locale isError topology).summary.cluster.tone = .bad ↔
      ¬topology.summary.healthy := by
    change (if topology.summary.healthy then CardTone.good else CardTone.bad) = .bad ↔ _
    cases topology.summary.healthy <;> simp
  rw [tone, healthy]
  tauto

private theorem resolveTone_healthy_iff (summary : TopologySummary) (isLoading : Bool) :
    (resolveTone (some summary) isLoading false).tone = .healthy ↔ summary.healthy := by
  simp only [resolveTone, Bool.false_eq_true, if_false]
  cases summary.healthy with
  | true => simp
  | false =>
      simp only [Bool.false_eq_true, if_false, iff_false]
      split
      · simp
      · split <;> simp

section Alerts

variable [UnicodeTables]

private theorem lag_raised {policy : ClusterAlertPolicy} (locale : Locale) {topology : Topology}
    (collected : Collected topology) {alert : Alert}
    (raised : alert ∈ journalLagAlerts policy topology.frontends) :
    ∃ card ∈ topology.frontends.map (nodeCard locale),
      alert.key = ruleFrontendJournalLag ++ "|" ++ card.key ∧ ∃ badge ∈ card.lag, badge.behind := by
  rcases mem_journalLagAlerts.mp raised with
    ⟨positive, fe, listed, lag, lagging, alive, follows, exceeds, rfl⟩
  have type := (collected.frontends fe listed).type
  have lags : (nodeCard locale fe).lag = some (journalLagBadge locale lag) := by
    rw [NodeCard.lag, nodeCard, type, if_pos rfl, frontendFacts, if_neg follows,
      Option.mem_def.mp lagging]
    rfl
  refine ⟨nodeCard locale fe, List.mem_map_of_mem listed, rfl, _, lags, ?_⟩
  have behind : 0 < lag.toInt :=
    (Int64.lt_iff_toInt_lt.mp positive).trans (Int64.lt_iff_toInt_lt.mp exceeds)
  exact decide_eq_true (ofInt_pos behind)

/-- The notice and the alert differ where there is no leader: then another alert
is raised in its place. -/
theorem quorumLost_iff (policy : ClusterAlertPolicy) (locale : Locale) (isError : Bool)
    {topology : Topology} (collected : Collected topology) :
    (∃ alert ∈ evaluateAlerts policy topology, alert.ruleID = ruleClusterQuorumLost) ↔
      (topologyPage locale isError topology).quorumLost.isSome ∧
        topology.summary.leaderHost ≠ "" := by
  rw [quorumLost_raised_iff]
  constructor
  · intro lost
    have leads : HasLeader topology.frontends := by
      rw [← leaderHost_ne_iff]
      have led := lost.1
      rw [collected.summarized] at led
      exact led
    have voters : 0 < topology.summary.electableTotal := by
      rw [collected.summarized]
      exact electableTotal_pos leads
    refine ⟨?_, lost.1⟩
    simp [topologyPage, lost.2, voters]
  · intro shown
    refine ⟨shown.2, ?_⟩
    by_contra healthy
    rw [Bool.not_eq_false] at healthy
    simp [topologyPage, healthy] at shown

private theorem alarmed_iff (policy : ClusterAlertPolicy) (locale : Locale) (isError : Bool)
    {topology : Topology} (collected : Collected topology) :
    (topologyPage locale isError topology).Alarmed ↔
      ∃ alert ∈ evaluateAlerts policy topology, alert.severity = .critical := by
  have quiet := no_critical_iff policy collected.summarized
  rw [← not_alarmed_iff locale isError collected] at quiet
  rw [← not_iff_not, ← quiet]
  simp only [ne_eq, not_exists, not_and]

private theorem topologyPage_agrees (policy : ClusterAlertPolicy) (locale : Locale) (isError : Bool)
    {topology : Topology} (collected : Collected topology) :
    Agrees locale topology (evaluateAlerts policy topology)
      (topologyPage locale isError topology) where
  cards := by
    rw [cards_topologyPage, List.map_map]
    rfl
  marked := by
    rw [marked_topologyPage locale isError collected, (filter_nodeRules policy topology).1,
      nodeDownAlerts, List.map_map, List.map_map]
    rfl
  counts := by
    have down_iff := collected.down_iff
    simp only [List.forall_mem_append] at down_iff
    intro nodes member
    simp only [TopologyPage.sections, topologyPage, List.mem_cons, List.mem_append,
      Option.mem_toList, Option.ite_none_right_eq_some, Option.some.injEq] at member
    rcases member with rfl | ⟨-, rfl⟩ | ⟨-, rfl⟩
    · exact nodeSection_counts locale _ _ down_iff.1.1
    · exact nodeSection_counts locale _ _ down_iff.1.2
    · exact nodeSection_counts locale _ _ down_iff.2
  nodes := by
    have dead := nodesAlive_bad_iff locale topology.runMode topology.frontends topology.backends
      topology.computeNodes
    rw [← collected.summarized] at dead
    exact dead.trans (nodeDown_raised_iff policy topology).symm
  lag := by
    intro alert member rule
    have raised : alert ∈ journalLagAlerts policy topology.frontends := by
      rw [← (filter_nodeRules policy topology).2]
      exact List.mem_filter.mpr ⟨member, raisedBy_iff.mpr rule⟩
    exact lag_raised locale collected raised
  leader := by
    rw [Service.noLeader_raised_iff, quorumLost_raised_iff]
    apply (feLeader_bad_iff locale topology.summary topology.runMode).trans
    by_cases leaderless : topology.summary.leaderHost = "" <;> simp [leaderless]
  quorum := quorumLost_iff policy locale isError collected
  mismatch := by
    rw [idMismatch_raised_iff]
    cases mismatch : topology.summary.clusterIDMismatch <;> simp [topologyPage, mismatch]
  told := by
    rw [told_topologyPage, List.map_map]
    rfl
  full := by
    rw [full_topologyPage locale isError collected, List.map_map]
    rfl
  alarmed := alarmed_iff policy locale isError collected
  red := by
    have told := exists_filter_map (told_topologyPage locale isError topology)
    have full := exists_filter_map (full_topologyPage locale isError collected)
    simp only [ne_eq, decide_not, Bool.not_eq_true', decide_eq_false_iff_not] at told
    rw [TopologyPage.Red, alarmed_iff policy locale isError collected]
    simp only [and_or_left, exists_or, told, full, ne_eq]
  verdict := cluster_bad_iff locale isError collected
  header := by
    intro isLoading
    rw [resolveTone_healthy_iff]
    change _ ↔ (if topology.summary.healthy then CardTone.good else CardTone.bad) = .good
    cases topology.summary.healthy <;> simp

end Alerts

/-- The page of a snapshot agrees with the alerts of the same snapshot: rings,
figures and notices are red exactly where the pager raises a critical alert. Besides
them only error messages and full usage bars are red. -/
theorem screen_agrees_with_pager [UnicodeTables] {reads : ClusterReads} {now : Time}
    {result : Topology} (ok : topology reads now = .ok result) (policy : ClusterAlertPolicy)
    (locale : Locale) {query : TopologyQuery} (data : query.data = some result)
    (loaded : query.isPending = false) :
    ∃ page, topologyView locale query = .page page ∧
      (page.staleNotice.isSome ↔ query.isError) ∧
      Agrees locale result (evaluateAlerts policy result) page := by
  refine ⟨topologyPage locale query.isError result, ?_, ?_, ?_⟩
  · simp [topologyView, loaded, data]
  · cases stale : query.isError <;> simp [topologyPage]
  · exact topologyPage_agrees policy locale query.isError (topology_collected ok)

def deadBackend : ClusterReads where
  frontends := .ok [[("name", "fe1"), ("ip", "10.0.0.1"), ("role", "LEADER"), ("alive", "true")]]
  backends := .ok
    [[("backendid", "10001"), ("ip", "10.0.0.2"), ("alive", "false"), ("errmsg", "timeout")],
      [("backendid", "10002"), ("ip", "10.0.0.3"), ("alive", "true"), ("usedpct", "91.5 %")]]
  computeNodes := .ok []
  runMode := .ok []

/-- The last poll failed, so the page shows the snapshot before it. -/
theorem screen_agrees_with_pager_deadBackend :
    ∃ (_ : UnicodeTables) (result : Topology) (page : TopologyPage),
      topology deadBackend { wall := 0 } = .ok result ∧
      topologyView .plain ⟨some result, some .other, false, true, false⟩ = .page page ∧
      page.cards.map NodeCard.marked = [false, true, false] ∧
      page.cards.map NodeCard.errMsg = [none, some "timeout", none] ∧
      page.cards.map NodeCard.full = [false, false, true] ∧
      Agrees .plain result (evaluateAlerts { maxJournalLag := 1000 } result) page := by
  let tables := UnicodeTables.latin
  have ok : topology deadBackend { wall := 0 } = .ok _ := rfl
  rcases screen_agrees_with_pager ok { maxJournalLag := 1000 } .plain
    (show TopologyQuery.data ⟨some _, some .other, false, true, false⟩ = _ from rfl) rfl with
    ⟨page, shown, -, agrees⟩
  refine ⟨tables, _, page, ok, shown, ?_, ?_, ?_, agrees⟩
  all_goals rw [← TopologyScreen.page.inj shown]
  · decide
  · decide
  · decide +kernel

end StarLens.Frontend
