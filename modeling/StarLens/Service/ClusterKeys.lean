import StarLens.Alert.Poller
import StarLens.Service.ClusterAlerts

/-! # The keys of the cluster alerts

Keys are rules, or rules with the ID of a node. IDs carry the kind of their
node in front of what the rows name it by. -/

namespace StarLens.Service

open Alert (Alert Manager dispatchAll)
open Go Repository

structure Named (names : List String) : Prop where
  nonempty : ∀ name ∈ names, name ≠ ""
  distinct : names.Nodup

theorem tagged_nodup {names : List String} (distinct : names.Nodup) (tag : String) :
    (names.map (tag ++ ·)).Nodup :=
  distinct.map fun _ _ same => (String.append_right_inj tag).mp same

private theorem tagged_disjoint {tag tag' : String} {first first' : Char}
    (starts : tag.toList.head? = some first) (starts' : tag'.toList.head? = some first')
    (different : first ≠ first') (names names' : List String) :
    List.Disjoint (names.map (tag ++ ·)) (names'.map (tag' ++ ·)) := by
  have head {tag : String} {first : Char} (starts : tag.toList.head? = some first)
      (name : String) : (tag ++ name).toList.head? = some first := by
    rw [String.toList_append, List.head?_append, starts, Option.some_or]
  intro id member member'
  rcases List.mem_map.mp member with ⟨name, -, rfl⟩
  rcases List.mem_map.mp member' with ⟨name', -, same⟩
  have heads := (head starts' name').symm.trans (congrArg (fun id => id.toList.head?) same)
  rw [head starts name] at heads
  exact different (Option.some.inj heads).symm

private theorem firstNonEmpty_cons {name : String} (named : name ≠ "") (others : List String) :
    firstNonEmpty (name :: others) = name := by
  simp [firstNonEmpty, named]

private theorem applyJournalLag_ids (frontends : List Node) :
    (applyJournalLag frontends).map Node.id = frontends.map Node.id := by
  rw [applyJournalLag]
  split
  · rfl
  · rw [List.map_map]
    apply List.map_congr_left
    intro fe _
    cases journal : fe.replayedJournalID <;> simp [journal]

private theorem sortStable_ids (less : Node → Node → Bool) (nodes : List Node) :
    ((sortStable less nodes).map Node.id).Perm (nodes.map Node.id) :=
  (List.perm_insertionSort _ nodes).map Node.id

private theorem map_filterMap_sublist {α β κ : Type} {choose : α → Option β} {key : β → κ}
    {origin : α → κ}
    (kept : ∀ element, ∀ chosen ∈ choose element, key chosen = origin element) (list : List α) :
    ((list.filterMap choose).map key).Sublist (list.map origin) := by
  induction list with
  | nil => exact List.Sublist.refl _
  | cons element list induction =>
      cases chosen : choose element with
      | none =>
          rw [List.filterMap_cons_none chosen]
          exact induction.cons _
      | some value =>
          rw [List.filterMap_cons_some chosen, List.map_cons, List.map_cons,
            kept element value chosen]
          exact induction.cons_cons _

private theorem summaryAlerts_keys (summary : TopologySummary) :
    (summaryAlerts summary).map Alert.key =
      [ruleClusterNoLeader, ruleClusterQuorumLost, ruleClusterIDMismatch,
        ruleClusterNoComputeCapacity] := rfl

section Nodes

variable [UnicodeTables]

def nodeID (row : Row) : String := row.str ["backendid", "computenodeid", "beid", "cnid", "id"]

structure NamedNodes (reads : ClusterReads) : Prop where
  frontends : ∀ rows, reads.frontends = .ok rows →
    Named (rows.map fun row => (mapFrontend row).name)
  backends : ∀ rows, reads.backends = .ok rows → Named (rows.map nodeID)
  computeNodes : ∀ rows, reads.computeNodes = .ok rows → Named (rows.map nodeID)

/-! ## IDs -/

private theorem mapFrontend_id {row : Row} (named : (mapFrontend row).name ≠ "") :
    (mapFrontend row).id = "fe:" ++ (mapFrontend row).name := by
  have first := firstNonEmpty_cons named [(mapFrontend row).host, "unknown"]
  exact congrArg ("fe:" ++ ·) first

def idPrefix (type : NodeType) : String := if type = .compute then "cn:" else "be:"

private theorem mapDataNode_id {row : Row} (type : NodeType) (named : nodeID row ≠ "") :
    (mapDataNode row type).id = idPrefix type ++ nodeID row := by
  have first := firstNonEmpty_cons named [row.str ["ip", "host", "hostname"], "unknown"]
  rw [idPrefix]
  cases type with
  | compute => exact congrArg ("cn:" ++ ·) first
  | frontend | backend => exact congrArg ("be:" ++ ·) first

private theorem topologyFrontends_ids {rows : List Row}
    (named : Named (rows.map fun row => (mapFrontend row).name)) :
    ((topologyFrontends rows).map Node.id).Perm
      ((rows.map fun row => (mapFrontend row).name).map ("fe:" ++ ·)) := by
  rw [topologyFrontends, applyJournalLag_ids]
  refine (sortStable_ids _ _).trans (List.Perm.of_eq ?_)
  rw [List.map_map, List.map_map]
  apply List.map_congr_left
  intro row member
  exact mapFrontend_id (named.nonempty _ (List.mem_map_of_mem member))

private theorem topologyDataNodes_ids {rows : List Row} (type : NodeType)
    (named : Named (rows.map nodeID)) :
    ((topologyDataNodes rows type).map Node.id).Perm
      ((rows.map nodeID).map (idPrefix type ++ ·)) := by
  refine (sortStable_ids _ _).trans (List.Perm.of_eq ?_)
  rw [List.map_map, List.map_map]
  apply List.map_congr_left
  intro row member
  exact mapDataNode_id type (named.nonempty _ (List.mem_map_of_mem member))

private theorem topology_ids_nodup {reads : ClusterReads} {now : Time} {result : Topology}
    (ok : topology reads now = .ok result) (named : NamedNodes reads) :
    ((result.frontends ++ result.backends ++ result.computeNodes).map Node.id).Nodup := by
  rcases reads with ⟨fe, be, cn, mode⟩
  cases fe with
  | error failure => cases ok
  | ok feRows =>
      cases be with
      | error failure => cases ok
      | ok beRows =>
          cases ok
          have frontends := topologyFrontends_ids (named.frontends feRows rfl)
          have backends := topologyDataNodes_ids .backend (named.backends beRows rfl)
          have computeNamed : Named ((cn.toOption.getD []).map nodeID) := by
            cases cn with
            | error failure => exact ⟨by simp [Except.toOption], List.nodup_nil⟩
            | ok cnRows => exact named.computeNodes cnRows rfl
          have computeNodes := topologyDataNodes_ids .compute computeNamed
          rw [List.map_append, List.map_append,
            ((frontends.append backends).append computeNodes).nodup_iff]
          refine (List.Nodup.append ?_ ?_ ?_).append ?_ ?_
          · exact tagged_nodup (named.frontends feRows rfl).distinct "fe:"
          · exact tagged_nodup (named.backends beRows rfl).distinct "be:"
          · exact tagged_disjoint rfl rfl (by decide) _ _
          · exact tagged_nodup computeNamed.distinct "cn:"
          · rw [List.disjoint_append_left]
            exact ⟨tagged_disjoint rfl rfl (by decide) _ _, tagged_disjoint rfl rfl (by decide) _ _⟩

/-! ## Keys -/

private theorem nodeDownAlerts_keys (topology : Topology) :
    ((nodeDownAlerts topology).map Alert.key).Sublist
      (((topology.frontends ++ topology.backends ++ topology.computeNodes).map Node.id).map
        (ruleClusterNodeDown ++ "|" ++ ·)) := by
  rw [nodeDownAlerts, List.map_map, List.map_map]
  exact List.filter_sublist.map _

private theorem journalLagAlerts_keys (policy : ClusterAlertPolicy) (frontends : List Node) :
    ((journalLagAlerts policy frontends).map Alert.key).Sublist
      ((frontends.map Node.id).map (ruleFrontendJournalLag ++ "|" ++ ·)) := by
  rw [journalLagAlerts, List.map_map]
  split
  · exact List.nil_sublist _
  · apply map_filterMap_sublist
    intro fe alert raised
    split at raised
    · cases raised
    · split at raised
      · cases raised
      · split at raised
        · cases raised
        · cases raised
          rfl

private theorem keys_nodup {topology : Topology} (policy : ClusterAlertPolicy)
    (ids : ((topology.frontends ++ topology.backends ++ topology.computeNodes).map
      Node.id).Nodup) :
    ((evaluateAlerts policy topology).map Alert.key).Nodup := by
  rcases evaluateAlerts_split policy topology with ⟨whole, sublist, split⟩
  have rules := sublist.map Alert.key
  rw [summaryAlerts_keys] at rules
  have plain : ∀ rule ∈ [ruleClusterNoLeader, ruleClusterQuorumLost, ruleClusterIDMismatch,
      ruleClusterNoComputeCapacity], '|' ∉ rule.toList := by
    simp only [List.forall_mem_cons, List.not_mem_nil, false_implies, implies_true, and_true]
    decide
  have frontendIDs : (topology.frontends.map Node.id).Nodup := by
    rw [List.append_assoc, List.map_append] at ids
    exact ids.of_append_left
  have down := nodeDownAlerts_keys topology
  have lag := journalLagAlerts_keys policy topology.frontends
  have bare (rule : String) (names : List String) :
      List.Disjoint (whole.map Alert.key) (names.map (rule ++ "|" ++ ·)) := by
    intro key member member'
    rcases List.mem_map.mp member' with ⟨name, -, same⟩
    exact Alert.subjectKey_ne (plain key (rules.subset member)) same
  rw [split, List.map_append, List.map_append]
  refine (List.Nodup.append ?_ ?_ ?_).append ?_ ?_
  · exact rules.nodup (by decide)
  · exact down.nodup (tagged_nodup ids _)
  · exact List.disjoint_of_subset_right down.subset (bare _ _)
  · exact lag.nodup (tagged_nodup frontendIDs _)
  · rw [List.disjoint_append_left]
    refine ⟨List.disjoint_of_subset_right lag.subset (bare _ _), ?_⟩
    intro key member member'
    rcases List.mem_map.mp (down.subset member) with ⟨id, -, rfl⟩
    rcases List.mem_map.mp (lag.subset member') with ⟨id', -, same⟩
    have rule := ((Alert.subjectKey_inj (by decide) (by decide)).mp same).1
    exact absurd rule (by decide)

end Nodes

/-- The keys of an evaluation are distinct. So whatever else the evaluation
dispatches, a dead node's alert fires unless its own key was in its cooldown
window before. -/
theorem dead_nodes_fire [UnicodeTables] {reads : ClusterReads} {now : Time} {result : Topology}
    (ok : topology reads now = .ok result) (named : NamedNodes reads)
    (policy : ClusterAlertPolicy) :
    ((evaluateAlerts policy result).map Alert.key).Nodup ∧
      ∀ (Notifier : Type) (manager : Manager Notifier) (clock : Nat → Time) (readings : Nat)
        (others : List Alert),
        ∀ node ∈ result.frontends ++ result.backends ++ result.computeNodes, node.alive = false →
          ∃ verdict ∈ (dispatchAll clock manager readings
              (evaluateAlerts policy result ++ others)).verdicts,
            verdict.alert = nodeDownAlert node ∧
              (verdict.fired.isSome ↔
                ∀ last, manager.lastFired (ruleClusterNodeDown ++ "|" ++ node.id) = some last →
                  ¬(clock verdict.reading).sub last < manager.cooldown) := by
  have distinct := keys_nodup policy (topology_ids_nodup ok named)
  refine ⟨distinct, fun Notifier manager clock readings others node listed dead => ?_⟩
  rcases Alert.dispatchAll_append clock manager readings (evaluateAlerts policy result) others
    with ⟨later, verdicts⟩
  have raised : nodeDownAlert node ∈ evaluateAlerts policy result := by
    rcases evaluateAlerts_split policy result with ⟨whole, -, split⟩
    rw [split]
    apply List.mem_append_left _ (List.mem_append_right _ _)
    exact List.mem_map_of_mem (List.mem_filter.mpr ⟨listed, by simp [dead]⟩)
  rw [← Alert.dispatchAll_alerts clock manager readings (evaluateAlerts policy result)] at raised
  rcases List.mem_map.mp raised with ⟨verdict, member, same⟩
  refine ⟨verdict, verdicts ▸ List.mem_append_left _ member, same, ?_⟩
  rw [Alert.dispatchAll_fired_iff clock manager readings distinct verdict member, same]
  rfl

/-- A backend and a compute node of one ID are dead. -/
theorem dead_nodes_fire_sample :
    ∃ (_ : UnicodeTables) (result : Topology),
      topology ⟨.ok [], .ok [[("backendid", "10001")]], .ok [[("computenodeid", "10001")]],
        .ok []⟩ { wall := 0 } = .ok result ∧
      ((evaluateAlerts { maxJournalLag := 1000 } result).map Alert.key).Nodup := by
  let tables := UnicodeTables.latin
  have named : NamedNodes ⟨.ok [], .ok [[("backendid", "10001")]],
      .ok [[("computenodeid", "10001")]], .ok []⟩ := by
    constructor
    · intro rows same
      cases same
      exact ⟨by simp, List.nodup_nil⟩
    · intro rows same
      cases same
      exact ⟨by simpa using by decide, List.nodup_singleton _⟩
    · intro rows same
      cases same
      exact ⟨by simpa using by decide, List.nodup_singleton _⟩
  exact ⟨tables, _, rfl, (dead_nodes_fire rfl named { maxJournalLag := 1000 }).1⟩

end StarLens.Service
