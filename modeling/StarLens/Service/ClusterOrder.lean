import StarLens.Foundation.StableSort
import StarLens.Service.ClusterAlerts

/-! # The order of the rows

The server lists its nodes in any order. The order matters to the topology only
where two nodes compare equal. -/

namespace StarLens.Service

open Foundation Go Repository

def SameRows : Except String (List Row) → Except String (List Row) → Prop
  | .ok rows, .ok rows' => rows.Perm rows'
  | .error failure, .error failure' => failure = failure'
  | _, _ => False

theorem SameRows.cases {read read' : Except String (List Row)} (same : SameRows read read') :
    (∃ failure, read = .error failure ∧ read' = .error failure) ∨
      ∃ rows rows', read = .ok rows ∧ read' = .ok rows' ∧ rows.Perm rows' := by
  cases read with
  | error failure =>
      cases read' with
      | error failure' =>
          cases same
          exact .inl ⟨failure, rfl, rfl⟩
      | ok rows' => exact absurd same id
  | ok rows =>
      cases read' with
      | error failure' => exact absurd same id
      | ok rows' => exact .inr ⟨rows, rows', rfl, rfl, same⟩

section Order

variable [UnicodeTables]

/-- No two nodes of a kind compare equal: the mapped names tell the frontends
apart, host and ID the other nodes of each kind. -/
structure DistinctNodes (reads : ClusterReads) : Prop where
  frontends : ∀ rows, reads.frontends = .ok rows →
    (rows.map fun row => (mapFrontend row).name).Nodup
  backends : ∀ rows, reads.backends = .ok rows →
    (rows.map fun row => ((mapDataNode row .backend).host, (mapDataNode row .backend).id)).Nodup
  computeNodes : ∀ rows, reads.computeNodes = .ok rows →
    (rows.map fun row => ((mapDataNode row .compute).host, (mapDataNode row .compute).id)).Nodup

private theorem topologyFrontends_eq_of_perm {rows rows' : List Row} (perm : rows.Perm rows')
    (distinct : (rows.map fun row => (mapFrontend row).name).Nodup) :
    topologyFrontends rows = topologyFrontends rows' := by
  rw [topologyFrontends, topologyFrontends]
  congr 1
  apply insertionSort_keys_eq_of_perm (fun fe : Node => roleRank fe.role) Node.name
    (perm.map mapFrontend)
  intro left member right member' _ names
  have names' : ((rows.map mapFrontend).map Node.name).Nodup := by
    rw [List.map_map]
    exact distinct
  exact List.inj_on_of_nodup_map names' member member' names

private theorem topologyDataNodes_eq_of_perm {rows rows' : List Row} {type : NodeType}
    (perm : rows.Perm rows')
    (distinct : (rows.map fun row =>
      ((mapDataNode row type).host, (mapDataNode row type).id)).Nodup) :
    topologyDataNodes rows type = topologyDataNodes rows' type := by
  apply insertionSort_keys_eq_of_perm Node.host Node.id
    (perm.map fun row => mapDataNode row type)
  intro left member right member' hosts ids
  have pairs : ((rows.map fun row => mapDataNode row type).map fun node =>
      (node.host, node.id)).Nodup := by
    rw [List.map_map]
    exact distinct
  exact List.inj_on_of_nodup_map pairs member member' (Prod.ext hosts ids)

end Order

/-- Neither the topology nor the alerts depend on the order of the rows as long
as no two nodes of a kind compare equal. -/
theorem topology_eq_of_sameRows [UnicodeTables] {reads reads' : ClusterReads}
    (distinct : DistinctNodes reads)
    (frontends : SameRows reads.frontends reads'.frontends)
    (backends : SameRows reads.backends reads'.backends)
    (computeNodes : SameRows reads.computeNodes reads'.computeNodes)
    (runMode : reads.runMode = reads'.runMode) (policy : ClusterAlertPolicy) (now : Time) :
    topology reads now = topology reads' now ∧
      (topology reads now).map (evaluateAlerts policy) =
        (topology reads' now).map (evaluateAlerts policy) := by
  have same : topology reads now = topology reads' now := by
    rcases reads with ⟨fe, be, cn, mode⟩
    rcases reads' with ⟨fe', be', cn', mode'⟩
    subst runMode
    have nodes : topologyDataNodes (cn.toOption.getD []) .compute =
        topologyDataNodes (cn'.toOption.getD []) .compute := by
      rcases computeNodes.cases with ⟨failure, rfl, rfl⟩ | ⟨rows, rows', rfl, rfl, perm⟩
      · rfl
      · exact topologyDataNodes_eq_of_perm perm (distinct.computeNodes rows rfl)
    rcases frontends.cases with ⟨failure, rfl, rfl⟩ | ⟨feRows, feRows', rfl, rfl, fePerm⟩
    · rfl
    · rcases backends.cases with ⟨failure, rfl, rfl⟩ | ⟨beRows, beRows', rfl, rfl, bePerm⟩
      · rfl
      · have frontendNodes := topologyFrontends_eq_of_perm fePerm (distinct.frontends feRows rfl)
        have backendNodes := topologyDataNodes_eq_of_perm bePerm (distinct.backends beRows rfl)
        simp only [topology, Except.mapError, bind, Except.bind, frontendNodes, backendNodes, nodes]
  exact ⟨same, congrArg _ same⟩

def sampleReads (first second : Row) : ClusterReads where
  frontends := .ok [first, second]
  backends := .ok []
  computeNodes := .error "access denied"
  runMode := .ok []

theorem topology_eq_of_sameRows_sample :
    ∃ (_ : UnicodeTables),
      topology (sampleReads [("name", "fe1")] [("name", "fe2")]) { wall := 0 } =
        topology (sampleReads [("name", "fe2")] [("name", "fe1")]) { wall := 0 } := by
  let tables := UnicodeTables.latin
  have distinct : DistinctNodes (sampleReads [("name", "fe1")] [("name", "fe2")]) := by
    constructor
    · intro rows same
      cases same
      decide
    · intro rows same
      cases same
      exact List.nodup_nil
    · intro rows same
      cases same
  have swapped : SameRows (sampleReads [("name", "fe1")] [("name", "fe2")]).frontends
      (sampleReads [("name", "fe2")] [("name", "fe1")]).frontends := List.Perm.swap _ _ _
  have same : SameRows (.ok []) (.ok []) := List.Perm.refl _
  exact ⟨tables, (topology_eq_of_sameRows distinct swapped same rfl rfl
    { maxJournalLag := 1000 } { wall := 0 }).1⟩

end StarLens.Service
