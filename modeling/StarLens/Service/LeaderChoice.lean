import StarLens.Foundation.StableSort
import StarLens.Go.Wraparound
import StarLens.Service.ClusterAlerts

/-! # The choice of the leader

Two loops over the sorted frontends look for the leader. The summary keeps the
host of the last live one, the replication lag is taken from the first live one
that reports a journal ID. -/

namespace StarLens.Service

open Alert (Alert)
open Foundation Go Repository

def leads (fe : Node) : Bool := fe.role = roleLeader && fe.alive

def namedBefore (left right : Node) : Bool := left.name < right.name

/-- The frontend the summary takes its host from. -/
def summaryLeader (frontends : List Node) : Option Node := (frontends.filter leads).getLast?

private theorem leaderHost_eq (frontends : List Node) :
    leaderHost frontends = ((summaryLeader frontends).map Node.host).getD "" := by
  induction frontends using List.reverseRecOn with
  | nil => rfl
  | append_singleton frontends fe induction =>
      rw [leaderHost_concat, summaryLeader, List.filter_append]
      by_cases chosen : leads fe
      · rw [if_pos (by exact chosen), List.filter_cons_of_pos chosen]
        simp
      · rw [if_neg (by exact chosen), List.filter_cons_of_neg chosen, induction]
        simp [summaryLeader]

/-- The journal ID the lags are taken from. -/
def lagLeader (frontends : List Node) : Option Int64 :=
  (frontends.filter leads).findSome? Node.replayedJournalID

def setLag (leaderJournal : Option Int64) (fe : Node) : Node :=
  match leaderJournal with
  | none => fe
  | some leaderJournal =>
      match fe.replayedJournalID with
      | none => fe
      | some journal => { fe with journalLag := some (max (leaderJournal - journal) 0) }

section SetLag

variable (leaderJournal : Option Int64) (fe : Node)

theorem setLag_cases :
    ∃ lag, setLag leaderJournal fe = { fe with journalLag := lag } := by
  unfold setLag
  split
  · exact ⟨_, rfl⟩
  · split
    · exact ⟨_, rfl⟩
    · exact ⟨_, rfl⟩

@[simp] theorem setLag_leads : leads (setLag leaderJournal fe) = leads fe := by
  rcases setLag_cases leaderJournal fe with ⟨lag, set⟩
  rw [set]
  rfl

@[simp] theorem setLag_host : (setLag leaderJournal fe).host = fe.host := by
  rcases setLag_cases leaderJournal fe with ⟨lag, set⟩
  rw [set]

@[simp] theorem setLag_replayedJournalID :
    (setLag leaderJournal fe).replayedJournalID = fe.replayedJournalID := by
  rcases setLag_cases leaderJournal fe with ⟨lag, set⟩
  rw [set]

end SetLag

private theorem applyJournalLag_eq_map (frontends : List Node) :
    applyJournalLag frontends = frontends.map (setLag (lagLeader frontends)) := by
  change (match lagLeader frontends with
    | none => frontends
    | some leaderJournal => _) = _
  cases lagLeader frontends with
  | none => exact (List.map_id frontends).symm
  | some leaderJournal => rfl

private theorem summaryLeader_map_setLag (leaderJournal : Option Int64) (frontends : List Node) :
    summaryLeader (frontends.map (setLag leaderJournal)) =
      (summaryLeader frontends).map (setLag leaderJournal) := by
  rw [summaryLeader, List.filter_map, List.getLast?_map, summaryLeader]
  congr 3
  funext fe
  exact setLag_leads leaderJournal fe

/-! ## The leaders among the sorted frontends -/

private theorem sortFrontends_filter {selected : Node → Bool}
    (leaders : ∀ fe, selected fe → leads fe) (frontends : List Node) :
    (sortFrontends frontends).filter selected =
      (frontends.filter selected).insertionSort fun left right => !namedBefore right left := by
  have order := strictWeak_keys (fun fe : Node => roleRank fe.role) Node.name
  rw [sortFrontends, sortStable, order.filter_insertionSort, ← List.map_id (List.insertionSort _ _)]
  rw [List.map_insertionSort _ (fun left right => (!namedBefore right left) = true), List.map_id]
  intro left member right member'
  have role : ∀ fe ∈ frontends.filter selected, fe.role = roleLeader := by
    intro fe member
    have leader := leaders fe (List.mem_filter.mp member).2
    simp only [leads, Bool.and_eq_true, decide_eq_true_eq] at leader
    exact leader.1
  simp [role left member, role right member', namedBefore]

private theorem sortFrontends_ends {selected : Node → Bool} (leaders : ∀ fe, selected fe → leads fe)
    (frontends : List Node) :
    ((sortFrontends frontends).filter selected).head? =
        firstBy namedBefore (frontends.filter selected) ∧
      ((sortFrontends frontends).filter selected).getLast? =
        lastBy namedBefore (frontends.filter selected) := by
  rw [sortFrontends_filter leaders]
  exact ⟨head?_insertionSort _, (strictWeak_key Node.name).getLast?_insertionSort _⟩

section Topology

variable [UnicodeTables]

def liveLeaders (rows : List Row) : List Node := (rows.map mapFrontend).filter leads

theorem summaryLeader_topology (rows : List Row) :
    summaryLeader (topologyFrontends rows) =
      (lastBy namedBefore (liveLeaders rows)).map
        (setLag (lagLeader (sortFrontends (rows.map mapFrontend)))) := by
  rw [topologyFrontends, applyJournalLag_eq_map, summaryLeader_map_setLag, summaryLeader,
    (sortFrontends_ends (fun _ leader => leader) _).2]
  rfl

theorem leaderHost_topology (rows : List Row) :
    leaderHost (topologyFrontends rows) =
      ((lastBy namedBefore (liveLeaders rows)).map Node.host).getD "" := by
  rw [leaderHost_eq, summaryLeader_topology, Option.map_map]
  congr 2
  funext fe
  exact setLag_host _ fe

theorem topology_ok (feRows beRows : List Row) (cnRead runMode : Except String (List Row))
    (now : Time) :
    ∃ result, topology ⟨.ok feRows, .ok beRows, cnRead, runMode⟩ now = .ok result ∧
      result.frontends = topologyFrontends feRows ∧
      result.summary.leaderHost = leaderHost (topologyFrontends feRows) :=
  ⟨_, rfl, rfl, rfl⟩

/-! ## The alert without a leader -/

theorem noLeader_raised_iff (policy : ClusterAlertPolicy) (topology : Topology) :
    (∃ alert ∈ evaluateAlerts policy topology, alert.ruleID = ruleClusterNoLeader) ↔
      topology.summary.leaderHost = "" := by
  constructor
  · intro raised
    rcases raised with ⟨alert, member, rule⟩
    by_contra hosted
    rw [evaluateAlerts, if_neg hosted] at member
    simp only [List.mem_append, List.mem_ite_nil_right, List.mem_singleton] at member
    have quorumRule : ruleClusterQuorumLost ≠ ruleClusterNoLeader := by decide
    have mismatchRule : ruleClusterIDMismatch ≠ ruleClusterNoLeader := by decide
    have capacityRule : ruleClusterNoComputeCapacity ≠ ruleClusterNoLeader := by decide
    have downRule : ruleClusterNodeDown ≠ ruleClusterNoLeader := by decide
    have lagRule : ruleFrontendJournalLag ≠ ruleClusterNoLeader := by decide
    rcases member with (((⟨-, quorum⟩ | ⟨-, mismatch⟩) | ⟨-, capacity⟩) | down) | lag
    · rw [quorum] at rule
      exact quorumRule rule
    · rw [mismatch] at rule
      exact mismatchRule rule
    · rw [capacity] at rule
      exact capacityRule rule
    · rcases List.mem_map.mp down with ⟨node, -, same⟩
      rw [← same] at rule
      exact downRule rule
    · rcases mem_journalLagAlerts.mp lag with ⟨-, fe, -, lag, -, -, -, -, same⟩
      rw [← same] at rule
      exact lagRule rule
  · intro missing
    refine ⟨noLeaderAlert topology.summary, ?_, rfl⟩
    rw [evaluateAlerts, if_pos missing]
    simp

/-- The alert tells whether no row maps to a live leader, exactly where the last
live leader by name, if there is one, has a host. -/
theorem noLeader_alert_iff (feRows beRows : List Row) (cnRead runMode : Except String (List Row))
    (now : Time) (policy : ClusterAlertPolicy) :
    ∃ result, topology ⟨.ok feRows, .ok beRows, cnRead, runMode⟩ now = .ok result ∧
      (((∃ alert ∈ evaluateAlerts policy result, alert.ruleID = ruleClusterNoLeader) ↔
          ∀ row ∈ feRows, ¬((mapFrontend row).role = roleLeader ∧ (mapFrontend row).alive)) ↔
        ∀ leader ∈ lastBy namedBefore (liveLeaders feRows), leader.host ≠ "") := by
  rcases topology_ok feRows beRows cnRead runMode now with ⟨result, ok, -, host⟩
  refine ⟨result, ok, ?_⟩
  have leaderless :
      (∀ row ∈ feRows, ¬((mapFrontend row).role = roleLeader ∧ (mapFrontend row).alive)) ↔
      lastBy namedBefore (liveLeaders feRows) = none := by
    rw [lastBy_eq_none_iff, liveLeaders, List.filter_eq_nil_iff]
    simp [leads]
  rw [noLeader_raised_iff, leaderless, host, leaderHost_topology]
  cases lastBy namedBefore (liveLeaders feRows) with
  | none => simp
  | some leader => simp

end Topology

/-- One elected frontend whose release reports no address. -/
theorem noLeader_alert_with_leader :
    ∃ (_ : UnicodeTables), ¬∀ (feRows beRows cnRows : List Row)
      (runMode : Except String (List Row)) (now : Time) (policy : ClusterAlertPolicy)
      (result : Topology),
      topology ⟨.ok feRows, .ok beRows, .ok cnRows, runMode⟩ now = .ok result →
      ((∃ alert ∈ evaluateAlerts policy result, alert.ruleID = ruleClusterNoLeader) ↔
        ∀ row ∈ feRows, ¬((mapFrontend row).role = roleLeader ∧ (mapFrontend row).alive)) := by
  let tables := UnicodeTables.latin
  refine ⟨tables, fun claimed => ?_⟩
  let row : Row := [("name", "fe1"), ("role", "LEADER"), ("alive", "true")]
  have agree := claimed [row] [] [] (.ok []) { wall := 0 } { maxJournalLag := 1000 } _ rfl
  have raised := agree.mp ((noLeader_raised_iff _ _).mpr (by decide))
  exact raised row (List.mem_singleton_self _) ⟨by decide, by decide⟩

theorem setLag_journalLag {fe : Node} {journal : Int64} (first : Int64)
    (reported : fe.replayedJournalID = some journal) :
    (setLag (some first) fe).journalLag.map Int64.toInt =
      some (max (first - journal).toInt 0) := by
  have set : setLag (some first) fe =
      { fe with journalLag := some (max (first - journal) 0) } := by
    simp only [setLag, reported]
  rw [set, Option.map_some, toInt_max]
  rfl

/-! ## Lags relative to the summary's leader -/

def LagFits (first latest journal : Int64) : Prop :=
  max (first - journal).toInt 0 = max (latest.toInt - journal.toInt) 0

/-- Every journal ID is in `int64` distance of the one leader position, or the
two positions are so far apart that whatever wraps is nothing to lag behind. -/
def LagsFit (first latest : Int64) (journals : List Int64) : Prop :=
  (first = latest ∧ ∀ journal ∈ journals,
    -2 ^ 63 ≤ latest.toInt - journal.toInt ∧ latest.toInt - journal.toInt < 2 ^ 63) ∨
  (2 ^ 63 ≤ first.toInt - latest.toInt ∧ ∀ journal ∈ journals,
    journal = latest ∨
      latest.toInt < journal.toInt ∧ journal.toInt ≤ first.toInt - 2 ^ 63 ∨
      first.toInt ≤ journal.toInt)

private theorem lagFits_iff (journal leader : Int64) :
    LagFits leader leader journal ↔
      -2 ^ 63 ≤ leader.toInt - journal.toInt ∧ leader.toInt - journal.toInt < 2 ^ 63 := by
  have low := (leader - journal).le_toInt
  have high := (leader - journal).toInt_lt
  have leaderLow := leader.le_toInt
  have journalHigh := journal.toInt_lt
  rw [LagFits, max_def, max_def]
  rcases toInt_sub_cases leader journal with ⟨_, _, same⟩ | ⟨_, same⟩ | ⟨_, same⟩ <;>
    split <;> split <;> omega

private theorem lagFits_iff_of_ne {first latest : Int64} (far : 2 ^ 63 ≤ first.toInt - latest.toInt)
    (journal : Int64) :
    LagFits first latest journal ↔
      journal = latest ∨
        latest.toInt < journal.toInt ∧ journal.toInt ≤ first.toInt - 2 ^ 63 ∨
        first.toInt ≤ journal.toInt := by
  have low := (first - journal).le_toInt
  have high := (first - journal).toInt_lt
  have firstHigh := first.toInt_lt
  have latestLow := latest.le_toInt
  have journalLow := journal.le_toInt
  have journalHigh := journal.toInt_lt
  rw [LagFits, ← Int64.toInt_inj, max_def, max_def]
  rcases toInt_sub_cases first journal with ⟨_, _, same⟩ | ⟨_, same⟩ | ⟨_, same⟩ <;>
    split <;> split <;> omega

private theorem lagsFit_iff {first latest : Int64} {journals : List Int64}
    (firstReported : first ∈ journals) (latestReported : latest ∈ journals) :
    (∀ journal ∈ journals, LagFits first latest journal) ↔ LagsFit first latest journals := by
  have latestInt := latest.le_toInt
  constructor
  · intro fits
    by_cases same : first = latest
    · subst same
      exact .inl ⟨rfl, fun journal member => (lagFits_iff journal first).mp (fits journal member)⟩
    · have different : first.toInt ≠ latest.toInt := fun equal => same (Int64.toInt_inj.mp equal)
      have own := fits first firstReported
      have other := fits latest latestReported
      rw [LagFits] at own other
      have zero : (first - first).toInt = 0 := by simp
      have far : 2 ^ 63 ≤ first.toInt - latest.toInt := by
        rcases toInt_sub_cases first latest with ⟨_, _, same⟩ | ⟨_, same⟩ | ⟨_, same⟩ <;> omega
      exact .inr ⟨far, fun journal member =>
        (lagFits_iff_of_ne far journal).mp (fits journal member)⟩
  · intro fit
    rcases fit with ⟨same, near⟩ | ⟨far, reported⟩
    · subst same
      exact fun journal member => (lagFits_iff journal first).mpr (near journal member)
    · exact fun journal member => (lagFits_iff_of_ne far journal).mpr (reported journal member)

section Topology

variable [UnicodeTables]

def reportsJournal (fe : Node) : Bool := fe.replayedJournalID.isSome

/-- The journal ID the lags are taken from is that of the first live leader by
name among those that report one. -/
theorem lagLeader_sorted (rows : List Row) :
    lagLeader (sortFrontends (rows.map mapFrontend)) =
      (firstBy namedBefore ((liveLeaders rows).filter reportsJournal)).bind
        Node.replayedJournalID := by
  have first (list : List Node) : list.findSome? Node.replayedJournalID =
      (list.filter reportsJournal).head?.bind Node.replayedJournalID := by
    induction list with
    | nil => rfl
    | cons head tail induction =>
        cases journal : head.replayedJournalID <;>
          simp [reportsJournal, journal, induction]
  rw [lagLeader, first, List.filter_filter, (sortFrontends_ends _ _).1, liveLeaders,
    List.filter_filter]
  intro fe selected
  exact (Bool.and_eq_true_iff.mp selected).2

private theorem mem_topologyFrontends {rows : List Row} {fe : Node} :
    fe ∈ topologyFrontends rows ↔
      ∃ row ∈ rows, setLag (lagLeader (sortFrontends (rows.map mapFrontend))) (mapFrontend row) =
        fe := by
  have sorted (fe : Node) : fe ∈ sortFrontends (rows.map mapFrontend) ↔
      ∃ row ∈ rows, mapFrontend row = fe := by
    rw [sortFrontends, sortStable, List.mem_insertionSort, List.mem_map]
  rw [topologyFrontends, applyJournalLag_eq_map, List.mem_map]
  simp [sorted]

def reportedJournals (rows : List Row) : List Int64 :=
  (rows.map mapFrontend).filterMap Node.replayedJournalID

private theorem lags_exact_iff {rows : List Row} {first : Int64}
    (lag : lagLeader (sortFrontends (rows.map mapFrontend)) = some first) (latest : Int64) :
    (∀ fe ∈ topologyFrontends rows, ∀ journal ∈ fe.replayedJournalID,
        fe.journalLag.map Int64.toInt = some (max (latest.toInt - journal.toInt) 0)) ↔
      ∀ journal ∈ reportedJournals rows, LagFits first latest journal := by
  simp only [mem_topologyFrontends, lag, reportedJournals, List.mem_filterMap, List.mem_map,
    forall_exists_index, and_imp, forall_apply_eq_imp_iff₂, setLag_replayedJournalID]
  constructor
  · intro exact journal row member reported
    have own := exact row member journal reported
    rw [setLag_journalLag first reported] at own
    exact Option.some.inj own
  · intro fits row member journal reported
    rw [setLag_journalLag first reported]
    exact congrArg some (fits journal row member reported)

/-- The lags are exact relative to the frontend the summary takes its host from,
exactly where the reported journal IDs fit the two choices of a leader. -/
theorem journalLags_exact_iff (feRows beRows : List Row) (cnRead runMode : Except String (List Row))
    (now : Time) :
    ∃ result, topology ⟨.ok feRows, .ok beRows, cnRead, runMode⟩ now = .ok result ∧
      ((result.summary.leaderHost ≠ "" →
          ∀ leader ∈ summaryLeader result.frontends, ∀ latest ∈ leader.replayedJournalID,
            ∀ fe ∈ result.frontends, ∀ journal ∈ fe.replayedJournalID,
              fe.journalLag.map Int64.toInt = some (max (latest.toInt - journal.toInt) 0)) ↔
        ∀ leader ∈ lastBy namedBefore (liveLeaders feRows), leader.host ≠ "" →
          ∀ latest ∈ leader.replayedJournalID,
            ∀ other ∈ firstBy namedBefore ((liveLeaders feRows).filter reportsJournal),
              ∀ first ∈ other.replayedJournalID,
                LagsFit first latest (reportedJournals feRows)) := by
  rcases topology_ok feRows beRows cnRead runMode now with ⟨result, ok, frontends, host⟩
  refine ⟨result, ok, ?_⟩
  rw [host, frontends, leaderHost_topology, summaryLeader_topology]
  cases last : lastBy namedBefore (liveLeaders feRows) with
  | none => simp
  | some leader =>
      simp only [Option.map_some, Option.getD_some, Option.mem_def, Option.some.injEq,
        forall_eq', setLag_replayedJournalID]
      apply imp_congr_right
      intro hosted
      apply forall_congr'
      intro latest
      apply imp_congr_right
      intro own
      have leaderRow := lastBy_mem last
      have reporting : leader ∈ (liveLeaders feRows).filter reportsJournal :=
        List.mem_filter.mpr ⟨leaderRow, by simp [reportsJournal, own]⟩
      have lag := lagLeader_sorted feRows
      cases chosen : firstBy namedBefore ((liveLeaders feRows).filter reportsJournal) with
      | none =>
          rw [firstBy_eq_none_iff] at chosen
          simp [chosen] at reporting
      | some other =>
          have otherRow := List.mem_filter.mp (firstBy_mem chosen)
          rcases Option.isSome_iff_exists.mp otherRow.2 with ⟨first, reported⟩
          rw [chosen, Option.bind_some, reported] at lag
          have listed {fe : Node} {journal : Int64} (member : fe ∈ liveLeaders feRows)
              (reported : fe.replayedJournalID = some journal) :
              journal ∈ reportedJournals feRows :=
            List.mem_filterMap.mpr ⟨fe, List.mem_of_mem_filter member, reported⟩
          simp only [Option.some.injEq, forall_eq', reported]
          rw [← lagsFit_iff (listed otherRow.1 reported) (listed leaderRow own)]
          exact lags_exact_iff lag latest

end Topology

/-- During a failover two frontends claim to lead. The host is that of the
second, the lags are relative to the first. -/
theorem journalLags_of_two_leaders :
    ∃ (_ : UnicodeTables), ¬∀ (feRows beRows : List Row)
      (cnRead runMode : Except String (List Row)) (now : Time) (result : Topology),
      topology ⟨.ok feRows, .ok beRows, cnRead, runMode⟩ now = .ok result →
      result.summary.leaderHost ≠ "" →
        ∀ leader ∈ summaryLeader result.frontends, ∀ latest ∈ leader.replayedJournalID,
          ∀ fe ∈ result.frontends, ∀ journal ∈ fe.replayedJournalID,
            fe.journalLag.map Int64.toInt = some (max (latest.toInt - journal.toInt) 0) := by
  let tables := UnicodeTables.latin
  refine ⟨tables, fun claimed => ?_⟩
  let older : Row := [("name", "fe1"), ("ip", "10.0.0.1"), ("role", "LEADER"), ("alive", "true"),
    ("replayedjournalid", "100")]
  let newer : Row := [("name", "fe2"), ("ip", "10.0.0.2"), ("role", "LEADER"), ("alive", "true"),
    ("replayedjournalid", "200")]
  let rows : List Row := [older, newer]
  have reported : (mapFrontend older).replayedJournalID = some 100 := by decide
  have reported' : (mapFrontend newer).replayedJournalID = some 200 := by decide
  have leaders : liveLeaders rows = [mapFrontend older, mapFrontend newer] := by
    have leads : leads (mapFrontend older) := by decide
    have leads' : StarLens.Service.leads (mapFrontend newer) := by decide
    simp [liveLeaders, rows, leads, leads']
  have before : namedBefore (mapFrontend newer) (mapFrontend older) = false := by decide
  have last : lastBy namedBefore (liveLeaders rows) = some (mapFrontend newer) := by
    simp [leaders, lastBy, before]
  have first : lagLeader (sortFrontends (rows.map mapFrontend)) = some 100 := by
    rw [lagLeader_sorted, leaders]
    simp [reportsJournal, reported, reported', firstBy, before]
  have leader : summaryLeader (topologyFrontends rows) =
      some (setLag (some 100) (mapFrontend newer)) := by
    rw [summaryLeader_topology, first, last, Option.map_some]
  have host : leaderHost (topologyFrontends rows) ≠ "" := by
    rw [leaderHost_topology, last]
    decide
  have newest : (setLag (some 100) (mapFrontend newer)).replayedJournalID = some 200 := by
    rw [setLag_replayedJournalID]
    exact reported'
  have member : setLag (some 100) (mapFrontend older) ∈ topologyFrontends rows :=
    mem_topologyFrontends.mpr ⟨older, List.mem_cons_self, by rw [first]⟩
  rcases topology_ok rows [] (.ok []) (.ok []) { wall := 0 } with ⟨result, ok, frontends, hosted⟩
  have exact := claimed rows [] (.ok []) (.ok []) { wall := 0 } result ok (by rwa [hosted])
  rw [frontends] at exact
  have lag := exact _ leader 200 newest _ member 100
    (by rw [setLag_replayedJournalID]; exact reported)
  rw [setLag_journalLag 100 reported] at lag
  revert lag
  decide

end StarLens.Service
