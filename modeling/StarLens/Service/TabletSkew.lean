import Mathlib.Data.List.Dedup
import Mathlib.Data.List.GetD
import StarLens.Foundation.Samples
import StarLens.Service.Storage

/-! # What the skew of a table misses

The ratio is undefined where the median is zero. That is not only so for an
empty table: the more the data is concentrated, the more of it is zero. -/

namespace StarLens.Service

open Foundation Go Repository

/-! ## The median -/

/-- The median of a sorted sample without rounding up. -/
def exactMedian (sorted : List Int) : Int :=
  let middle := sorted.length / 2
  if sorted.length % 2 = 0 then (sorted.getD (middle - 1) 0 + sorted.getD middle 0) / 2
  else sorted.getD middle 0

/-- More than half of the values are positive, or at least half of them more than
one. -/
def Measurable (values : List Int) : Prop :=
  2 * values.countP (· = 0) < values.length ∨ 2 * values.countP (· ≤ 1) ≤ values.length

private theorem countP_eq_zero_of_nonneg {values : List Int}
    (nonneg : ∀ value ∈ values, 0 ≤ value) :
    values.countP (· < 1) = values.countP (· = 0) := by
  apply List.countP_congr
  intro value member
  have positive := nonneg value member
  simp only [decide_eq_true_eq]
  omega

private theorem exactMedian_pos_iff {sorted : List Int} (order : sorted.Pairwise (· ≤ ·))
    (nonneg : ∀ value ∈ sorted, 0 ≤ value) (several : 2 ≤ sorted.length) :
    0 < exactMedian sorted ↔ Measurable sorted := by
  have inside : sorted.length / 2 < sorted.length := by omega
  have before : sorted.length / 2 - 1 < sorted.length := by omega
  have low := le_getElem_iff_countP_le order inside
  have low' := le_getElem_iff_countP_le order before
  have zeros := countP_eq_zero_of_nonneg nonneg
  have ones : sorted.countP (· < 2) = sorted.countP (· ≤ 1) := by
    apply List.countP_congr
    intro value member
    simp only [decide_eq_true_eq]
    omega
  have more : sorted.countP (· = 0) ≤ sorted.countP (· ≤ 1) := by
    apply List.countP_mono_left
    intro value member
    simp only [decide_eq_true_eq]
    omega
  have first := nonneg _ (List.getElem_mem before)
  have second := nonneg _ (List.getElem_mem inside)
  have one := low 1
  have one' := low' 1
  have two := low 2
  rw [zeros] at one one'
  rw [ones] at two
  rw [Measurable, exactMedian, List.getD_eq_getElem _ _ inside, List.getD_eq_getElem _ _ before]
  generalize sorted[sorted.length / 2] = upper at *
  generalize sorted[sorted.length / 2 - 1] = lower at *
  split <;> omega

private theorem getElem_add_getElem_le_sum {values : List Int}
    (nonneg : ∀ value ∈ values, 0 ≤ value) {index : Nat} (inside : index + 1 < values.length) :
    values[index] + values[index + 1] ≤ values.sum := by
  have pair : [values[index], values[index + 1]].Sublist values := by
    have rest := List.drop_sublist index values
    rw [List.drop_eq_getElem_cons (by omega), List.drop_eq_getElem_cons inside] at rest
    exact ((List.nil_sublist _).cons_cons _ |>.cons_cons _).trans rest
  have bounded := pair.sum_le_sum nonneg
  simpa using bounded

private theorem toInt_half_sum {left right : Int64} (nonnegLeft : 0 ≤ left.toInt)
    (nonnegRight : 0 ≤ right.toInt) (fits : left.toInt + right.toInt < 2 ^ 63) :
    ((left + right) / 2).toInt = (left.toInt + right.toInt) / 2 := by
  have sum : (left + right).toInt = left.toInt + right.toInt := by
    rw [Int64.toInt_add, Int.bmod_def]
    omega
  have two : (2 : Int64).toInt = 2 := by decide
  rw [Int64.toInt_div_of_ne_right _ _ (by decide), sum, two, Int.tdiv_eq_ediv_of_nonneg (by omega)]

theorem toInt_median {sorted : List Int64} (nonneg : ∀ value ∈ sorted, 0 ≤ value.toInt)
    (fits : ∀ (index : Nat) (inside : index + 1 < sorted.length),
      sorted[index].toInt + sorted[index + 1].toInt < 2 ^ 63) (several : 2 ≤ sorted.length) :
    (median sorted).toInt = exactMedian (sorted.map Int64.toInt) := by
  have inside : sorted.length / 2 < sorted.length := by omega
  have before : sorted.length / 2 - 1 < sorted.length := by omega
  rw [median, exactMedian, List.length_map, List.getD_eq_getElem _ _ inside,
    List.getD_eq_getElem _ _ before, List.getD_eq_getElem _ _ (by simpa using before),
    List.getD_eq_getElem _ _ (by simpa using inside), List.getElem_map, List.getElem_map]
  split
  · have next : sorted.length / 2 - 1 + 1 = sorted.length / 2 := by omega
    have bounded := fits (sorted.length / 2 - 1) (by omega)
    simp only [next] at bounded
    exact toInt_half_sum (nonneg _ (List.getElem_mem before)) (nonneg _ (List.getElem_mem inside))
      bounded
  · rfl

theorem map_toInt_insertionSort (values : List Int64) :
    (values.insertionSort fun left right => left ≤ right).map Int64.toInt =
      (values.map Int64.toInt).insertionSort fun left right => left ≤ right :=
  List.map_insertionSort _ (fun left right : Int => left ≤ right) Int64.toInt values
    fun _ _ _ _ => Int64.le_iff_toInt_le

/-! ## Loads -/

section Loads

variable [UnicodeTables]

def loadOf (rows : List Row) (backend : String) : BackendTabletLoad :=
  (rows.filter fun row => tabletBackend row = backend).foldl BackendTabletLoad.add
    { backendID := backend }

theorem loadOf_concat (rows : List Row) (row : Row) (backend : String) :
    loadOf (rows ++ [row]) backend =
      if tabletBackend row = backend then (loadOf rows backend).add row
      else loadOf rows backend := by
  rw [loadOf, List.filter_append]
  by_cases own : tabletBackend row = backend
  · simp [own, loadOf]
  · simp [own, loadOf]

structure LoadsOf (rows : List Row) (loads : List BackendTabletLoad) : Prop where
  distinct : (loads.map BackendTabletLoad.backendID).Nodup
  listed : ∀ backend, backend ∈ loads.map BackendTabletLoad.backendID ↔
    ∃ row ∈ rows, tabletBackend row = backend
  counted : ∀ load ∈ loads, load = loadOf rows load.backendID

private theorem exists_backend_concat (rows : List Row) (row : Row) (backend : String) :
    (∃ other ∈ rows ++ [row], tabletBackend other = backend) ↔
      (∃ other ∈ rows, tabletBackend other = backend) ∨ tabletBackend row = backend := by
  simp [or_and_right, exists_or]

theorem LoadsOf.seen {rows : List Row} {loads : List BackendTabletLoad}
    (loadsOf : LoadsOf rows loads) {row : Row}
    (seen : tabletBackend row ∈ loads.map BackendTabletLoad.backendID) :
    LoadsOf (rows ++ [row])
      (loads.map fun load =>
        if load.backendID = tabletBackend row then load.add row else load) := by
  have ids : (loads.map fun load => if load.backendID = tabletBackend row then load.add row
      else load).map BackendTabletLoad.backendID = loads.map BackendTabletLoad.backendID := by
    rw [List.map_map]
    apply List.map_congr_left
    intro load _
    rw [Function.comp_apply]
    split <;> rfl
  constructor
  · rw [ids]
    exact loadsOf.distinct
  · intro backend
    rw [ids, loadsOf.listed, exists_backend_concat]
    constructor
    · exact .inl
    · intro found
      rcases found with found | same
      · exact found
      · exact (loadsOf.listed backend).mp (same ▸ seen)
  · intro load member
    rcases List.mem_map.mp member with ⟨before, listed, rfl⟩
    have counted := loadsOf.counted before listed
    by_cases own : before.backendID = tabletBackend row
    · rw [if_pos own]
      change before.add row = loadOf (rows ++ [row]) before.backendID
      rw [loadOf_concat, if_pos own.symm, ← counted]
    · rw [if_neg own, loadOf_concat, if_neg (Ne.symm own)]
      exact counted

theorem LoadsOf.unseen {rows : List Row} {loads : List BackendTabletLoad}
    (loadsOf : LoadsOf rows loads) {row : Row}
    (unseen : tabletBackend row ∉ loads.map BackendTabletLoad.backendID) :
    LoadsOf (rows ++ [row])
      (loads ++ [({ backendID := tabletBackend row } : BackendTabletLoad).add row]) := by
  constructor
  · have distinct := loadsOf.distinct.concat unseen
    rw [List.concat_eq_append] at distinct
    rw [List.map_append]
    exact distinct
  · intro backend
    rw [List.map_append, List.mem_append, loadsOf.listed, exists_backend_concat,
      List.map_singleton, List.mem_singleton, eq_comm]
    rfl
  · intro load member
    rcases List.mem_append.mp member with listed | new
    · have counted := loadsOf.counted load listed
      have other : tabletBackend row ≠ load.backendID := fun same =>
        unseen (same ▸ List.mem_map_of_mem listed)
      rw [loadOf_concat, if_neg other]
      exact counted
    · rw [List.mem_singleton.mp new]
      change _ = loadOf (rows ++ [row]) (tabletBackend row)
      have fresh : (rows.filter fun other => tabletBackend other = tabletBackend row) = [] := by
        rw [List.filter_eq_nil_iff]
        intro other listed same
        exact unseen ((loadsOf.listed _).mpr ⟨other, listed, by simpa using same⟩)
      rw [loadOf_concat, if_pos rfl, loadOf, fresh]
      rfl

theorem LoadsOf.addTablet {rows : List Row} {loads : List BackendTabletLoad}
    (loadsOf : LoadsOf rows loads) (row : Row) :
    LoadsOf (rows ++ [row]) (addTablet loads row) := by
  have known : (loads.any fun load => load.backendID = tabletBackend row) ↔
      tabletBackend row ∈ loads.map BackendTabletLoad.backendID := by
    simp [List.any_eq_true]
  rw [Service.addTablet]
  by_cases seen : tabletBackend row ∈ loads.map BackendTabletLoad.backendID
  · rw [if_pos (known.mpr seen)]
    exact loadsOf.seen seen
  · rw [if_neg (mt known.mp seen)]
    exact loadsOf.unseen seen

theorem loadsOf_foldl (rows : List Row) : LoadsOf rows (rows.foldl addTablet []) := by
  induction rows using List.reverseRecOn with
  | nil => exact ⟨List.nodup_nil, by simp, by simp⟩
  | append_singleton rows row induction =>
      rw [List.foldl_append]
      exact induction.addTablet row

/-- The rows of each backend, as far as no count is negative. -/
def backendTotals (rows : List Row) : List Int :=
  ((rows.map tabletBackend).dedup).map fun backend =>
    ((rows.filter fun row => tabletBackend row = backend).map fun row =>
      (tabletRowCount row).toInt).sum

private theorem toInt_foldl_add {rows : List Row}
    (nonneg : ∀ row ∈ rows, 0 ≤ (tabletRowCount row).toInt)
    (load : BackendTabletLoad) (start : 0 ≤ load.rows.toInt)
    (fits : load.rows.toInt + (rows.map fun row => (tabletRowCount row).toInt).sum < 2 ^ 63) :
    (rows.foldl BackendTabletLoad.add load).rows.toInt =
      load.rows.toInt + (rows.map fun row => (tabletRowCount row).toInt).sum := by
  induction rows generalizing load with
  | nil => simp
  | cons row rows induction =>
      have own := nonneg row List.mem_cons_self
      have others : 0 ≤ (rows.map fun row => (tabletRowCount row).toInt).sum := by
        apply List.sum_nonneg
        intro count member
        rcases List.mem_map.mp member with ⟨other, listed, rfl⟩
        exact nonneg other (List.mem_cons_of_mem _ listed)
      rw [List.map_cons, List.sum_cons] at fits
      have step : (load.add row).rows.toInt = load.rows.toInt + (tabletRowCount row).toInt := by
        change (load.rows + tabletRowCount row).toInt = _
        rw [Int64.toInt_add, Int.bmod_def]
        omega
      have tail : ∀ other ∈ rows, 0 ≤ (tabletRowCount other).toInt := fun other listed =>
        nonneg other (List.mem_cons_of_mem _ listed)
      rw [List.foldl_cons, induction tail _ (by omega) (by omega), step, List.map_cons,
        List.sum_cons]
      omega

private theorem sum_backendTotals (rows : List Row) :
    (backendTotals rows).sum = (rows.map fun row => (tabletRowCount row).toInt).sum := by
  apply sum_groups tabletBackend _ rows (List.nodup_dedup _)
  intro row member
  exact List.mem_dedup.mpr (List.mem_map_of_mem member)

private theorem backendTotals_nonneg {rows : List Row}
    (nonneg : ∀ row ∈ rows, 0 ≤ (tabletRowCount row).toInt) :
    ∀ total ∈ backendTotals rows, 0 ≤ total := by
  intro total member
  rcases List.mem_map.mp member with ⟨backend, -, rfl⟩
  apply List.sum_nonneg
  intro count listed
  rcases List.mem_map.mp listed with ⟨row, kept, rfl⟩
  exact nonneg row (List.mem_of_mem_filter kept)

private theorem loads_perm_backendTotals {rows : List Row}
    (nonneg : ∀ row ∈ rows, 0 ≤ (tabletRowCount row).toInt)
    (fits : (rows.map fun row => (tabletRowCount row).toInt).sum < 2 ^ 63) :
    ((rows.foldl addTablet []).map fun load => load.rows.toInt).Perm (backendTotals rows) := by
  have loadsOf := loadsOf_foldl rows
  have ids : ((rows.foldl addTablet []).map BackendTabletLoad.backendID).Perm
      (rows.map tabletBackend).dedup := by
    rw [List.perm_ext_iff_of_nodup loadsOf.distinct (List.nodup_dedup _)]
    intro backend
    rw [loadsOf.listed, List.mem_dedup, List.mem_map]
  rw [backendTotals]
  apply List.Perm.trans _ (ids.map _)
  apply List.Perm.of_eq
  rw [List.map_map]
  apply List.map_congr_left
  intro load member
  have selected : (rows.filter fun row => tabletBackend row = load.backendID).Sublist rows :=
    List.filter_sublist
  have bounded := (selected.map fun row => (tabletRowCount row).toInt).sum_le_sum
    (by simpa using nonneg)
  have zero : (0 : Int64).toInt = 0 := by decide
  have counted := toInt_foldl_add (fun row listed => nonneg row (List.mem_of_mem_filter listed))
    { backendID := load.backendID } zero.ge (by
      rw [zero, zero_add]
      exact bounded.trans_lt fits)
  rw [zero, zero_add] at counted
  have own := congrArg (fun load => load.rows.toInt) (loadsOf.counted load member)
  exact own.trans counted

end Loads

/-! ## Where the ratio is undefined -/

private theorem ratioToMedian_isSome_iff {values : List Int64}
    (nonneg : ∀ value ∈ values, 0 ≤ value.toInt)
    (fits : (values.map Int64.toInt).sum < 2 ^ 63) (several : 2 ≤ values.length) :
    (ratioToMedian values).isSome ↔ Measurable (values.map Int64.toInt) := by
  have perm := List.perm_insertionSort (fun left right : Int64 => left ≤ right) values
  have order : ((values.insertionSort fun left right => left ≤ right).map Int64.toInt).Pairwise
      (· ≤ ·) := by
    rw [map_toInt_insertionSort]
    exact List.pairwise_insertionSort _ _
  rw [ratioToMedian]
  generalize (values.insertionSort fun left right => left ≤ right) = sorted at *
  have ints := perm.map Int64.toInt
  have same : Measurable (values.map Int64.toInt) ↔ Measurable (sorted.map Int64.toInt) := by
    rw [Measurable, Measurable, ints.countP_eq, ints.countP_eq, ints.length_eq]
  have sortedNonneg : ∀ value ∈ sorted, 0 ≤ value.toInt := fun value member =>
    nonneg value (perm.mem_iff.mp member)
  have nonneg' : ∀ value ∈ sorted.map Int64.toInt, 0 ≤ value := by
    simpa using sortedNonneg
  have several' : 2 ≤ sorted.length := by rw [perm.length_eq]; exact several
  have sum := ints.sum_eq
  have neighbours : ∀ (index : Nat) (inside : index + 1 < sorted.length),
      sorted[index].toInt + sorted[index + 1].toInt < 2 ^ 63 := by
    intro index inside
    have inside' : index + 1 < (sorted.map Int64.toInt).length := by simpa using inside
    have bounded := getElem_add_getElem_le_sum nonneg' inside'
    simp only [List.getElem_map] at bounded
    exact bounded.trans_lt (by rw [sum]; exact fits)
  have exact := toInt_median sortedNonneg neighbours several'
  have zero : (0 : Int64).toInt = 0 := by decide
  rw [same, ← exactMedian_pos_iff order nonneg' (by rw [List.length_map]; exact several'), ← exact]
  split
  case isTrue empty =>
      rw [Int64.le_iff_toInt_le, zero] at empty
      simpa using empty
  case isFalse positive =>
      rw [Int64.le_iff_toInt_le, zero, not_le] at positive
      simpa using positive

/-- All there is sits on one. -/
def Concentrated (values : List Int) : Prop := values.countP (0 < ·) = 1

theorem Concentrated.not_measurable {values : List Int} (nonneg : ∀ value ∈ values, 0 ≤ value)
    (concentrated : Concentrated values) (several : 3 ≤ values.length) :
    ¬Measurable values ∧ ¬∀ value ∈ values, value = 0 := by
  have zeros : values.length = values.countP (0 < ·) + values.countP (· = 0) := by
    rw [List.length_eq_countP_add_countP (0 < ·)]
    congr 1
    apply List.countP_congr
    intro value member
    have low := nonneg value member
    simp only [decide_eq_true_eq]
    omega
  have more : values.countP (· = 0) ≤ values.countP (· ≤ 1) := by
    apply List.countP_mono_left
    intro value _
    simp only [decide_eq_true_eq]
    omega
  rw [Concentrated] at concentrated
  constructor
  · rw [Measurable]
    omega
  · intro empty
    have all := List.countP_pos_iff.mp (by omega : 0 < values.countP (0 < ·))
    rcases all with ⟨value, member, positive⟩
    rw [empty value member] at positive
    simp at positive

/-- A table that holds data is not reported as unmeasurable, and one that holds
it all in one place is reported as skewed. -/
structure SkewReported (skew : TabletSkew) (tablets backends : List Int) : Prop where
  tabletRatio : skew.acrossTablets.rowsRatio = none →
    tablets.length < 2 ∨ ∀ count ∈ tablets, count = 0
  backendRatio : skew.acrossBackends.rowsRatio = none →
    backends.length < 2 ∨ ∀ total ∈ backends, total = 0
  tabletSkew : 3 ≤ tablets.length → Concentrated tablets → skew.acrossTablets.skewed
  backendSkew : 3 ≤ backends.length → Concentrated backends → skew.acrossBackends.skewed

def Excused (values : List Int) : Prop :=
  values.length < 2 ∨ (∀ value ∈ values, value = 0) ∨ Measurable values

theorem Excused.of_perm {values values' : List Int} (perm : values.Perm values') :
    Excused values ↔ Excused values' := by
  rw [Excused, Excused, Measurable, Measurable, perm.length_eq, perm.countP_eq, perm.countP_eq]
  simp only [perm.mem_iff]

theorem Excused.not_concentrated {values : List Int} (nonneg : ∀ value ∈ values, 0 ≤ value)
    (excused : Excused values) (several : 3 ≤ values.length) : ¬Concentrated values := by
  intro concentrated
  have not := concentrated.not_measurable nonneg several
  rcases excused with few | empty | measurable
  · omega
  · exact not.2 empty
  · exact not.1 measurable

/-- With a single backend the skew between backends is what it is between the
rows of one. -/
theorem computeSkew_acrossBackends (loads : List BackendTabletLoad)
    (tabletRows tabletBytes : List Int64) :
    (computeSkew loads tabletRows tabletBytes).acrossBackends =
      measureSkew (loads.map BackendTabletLoad.rows) (loads.map BackendTabletLoad.dataBytes) := by
  rw [computeSkew]
  dsimp only
  split
  · rfl
  · rw [measureSkew, List.length_map, if_pos (by omega)]

private theorem measureSkew_rowsRatio_iff (values : List Int64)
    (nonneg : ∀ value ∈ values, 0 ≤ value.toInt)
    (fits : (values.map Int64.toInt).sum < 2 ^ 63) (bytes : List Int64) :
    ((measureSkew values bytes).rowsRatio = none →
        (values.map Int64.toInt).length < 2 ∨ ∀ value ∈ values.map Int64.toInt, value = 0) ↔
      Excused (values.map Int64.toInt) := by
  rw [measureSkew, Excused, List.length_map]
  split
  case isTrue few => simp [few]
  case isFalse enough =>
      rw [← ratioToMedian_isSome_iff nonneg fits (by omega)]
      cases ratioToMedian values with
      | none => simp [enough]
      | some ratio => simp

section Tablets

variable [UnicodeTables]

/-- The skew is reported exactly where at both levels there is nothing to
compare, nothing at all, or a positive median. -/
theorem skew_reported_iff (order : MapOrder BackendTabletLoad) (detail : TableDetail)
    (rows : List Row) (nonneg : ∀ row ∈ rows, 0 ≤ (tabletRowCount row).toInt)
    (fits : (rows.map fun row => (tabletRowCount row).toInt).sum < 2 ^ 63) :
    SkewReported (applyTabletLoads order detail rows).skew
        (rows.map fun row => (tabletRowCount row).toInt) (backendTotals rows) ↔
      Excused (rows.map fun row => (tabletRowCount row).toInt) ∧ Excused (backendTotals rows) := by
  have counts : (rows.map tabletRowCount).map Int64.toInt =
      rows.map fun row => (tabletRowCount row).toInt := List.map_map
  have tabletLevel := measureSkew_rowsRatio_iff (rows.map tabletRowCount)
    (by simpa using nonneg) (by rw [counts]; exact fits) (rows.map tabletByteCount)
  rw [counts] at tabletLevel
  let backends := (order.range (rows.foldl addTablet [])).insertionSort fun left right =>
    !decide (right.backendID < left.backendID)
  have totals : ((backends.map BackendTabletLoad.rows).map Int64.toInt).Perm
      (backendTotals rows) := by
    rw [List.map_map]
    exact (((List.perm_insertionSort _ _).trans (order.perm _)).map _).trans
      (loads_perm_backendTotals nonneg fits)
  have tabletNonneg : ∀ count ∈ rows.map fun row => (tabletRowCount row).toInt, 0 ≤ count := by
    simpa using nonneg
  have backendNonneg := backendTotals_nonneg nonneg
  have backendLevel := measureSkew_rowsRatio_iff (backends.map BackendTabletLoad.rows)
    (by
      intro load member
      exact backendNonneg _ (totals.mem_iff.mp (List.mem_map_of_mem member)))
    (by rw [totals.sum_eq, sum_backendTotals]; exact fits)
    (backends.map BackendTabletLoad.dataBytes)
  rw [Excused.of_perm totals, totals.length_eq] at backendLevel
  simp only [totals.mem_iff] at backendLevel
  rw [← tabletLevel, ← backendLevel]
  constructor
  · intro reported
    refine ⟨reported.tabletRatio, ?_⟩
    rw [← computeSkew_acrossBackends backends (rows.map tabletRowCount) (rows.map tabletByteCount)]
    exact reported.backendRatio
  · intro levels
    have tabletExcused := tabletLevel.mp levels.1
    have backendExcused := backendLevel.mp levels.2
    constructor
    · exact levels.1
    · have same := computeSkew_acrossBackends backends (rows.map tabletRowCount)
        (rows.map tabletByteCount)
      rw [← same] at levels
      exact levels.2
    · intro several concentrated
      exact absurd concentrated (tabletExcused.not_concentrated tabletNonneg several)
    · intro several concentrated
      exact absurd concentrated (backendExcused.not_concentrated backendNonneg several)

end Tablets

def noDetail : TableDetail where
  collectedAt := { wall := 0 }
  table := {
    database := "demo", name := "orders", id := "10010", model := "DUP_KEYS", engine := "OLAP"
    partitionKey := "", distributeKey := "id", distributeType := "HASH"
    distributeBucket := some 3 }

def tabletRow (backend count : String) : Row := [("be_id", backend), ("num_row", count)]

theorem skew_reported_even :
    ∃ (_ : UnicodeTables) (order : MapOrder BackendTabletLoad),
      let rows := [tabletRow "10001" "50", tabletRow "10002" "50"]
      SkewReported (applyTabletLoads order noDetail rows).skew
        (rows.map fun row => (tabletRowCount row).toInt) (backendTotals rows) := by
  let tables := UnicodeTables.latin
  let order : MapOrder BackendTabletLoad := ⟨id, fun _ => .refl _⟩
  refine ⟨tables, order, ?_⟩
  apply (skew_reported_iff order noDetail [tabletRow "10001" "50", tabletRow "10002" "50"]
    ?_ ?_).mpr
  · exact ⟨.inr (.inr (.inl (by decide))), .inr (.inr (.inl (by decide)))⟩
  · simp only [List.forall_mem_cons, List.not_mem_nil, false_implies, implies_true, and_true]
    decide
  · decide

/-- All rows of a table are on one of its three tablets. -/
theorem skew_unreported_of_one_tablet :
    ∃ (_ : UnicodeTables), ¬∀ (order : MapOrder BackendTabletLoad) (detail : TableDetail)
      (rows : List Row), (∀ row ∈ rows, 0 ≤ (tabletRowCount row).toInt) →
      (rows.map fun row => (tabletRowCount row).toInt).sum < 2 ^ 63 →
      SkewReported (applyTabletLoads order detail rows).skew
        (rows.map fun row => (tabletRowCount row).toInt) (backendTotals rows) := by
  let tables := UnicodeTables.latin
  refine ⟨tables, fun claimed => ?_⟩
  let rows := [tabletRow "10001" "0", tabletRow "10001" "0", tabletRow "10001" "100"]
  have nonneg : ∀ row ∈ rows, 0 ≤ (tabletRowCount row).toInt := by
    simp only [rows, List.forall_mem_cons, List.not_mem_nil, false_implies, implies_true, and_true]
    decide
  have reported := claimed ⟨id, fun _ => .refl _⟩ noDetail rows nonneg (by decide)
  have unmeasured : (measureSkew (rows.map tabletRowCount) (rows.map tabletByteCount)).rowsRatio =
      none := by decide
  have empty := reported.tabletRatio unmeasured
  revert empty
  decide

end StarLens.Service
