import StarLens.Foundation.StableSort
import StarLens.Go.Wraparound
import StarLens.Service.TabletSkew

/-! # What becomes of each tablet

The rows of the backends are counted once for their backend and once for the
table. What comes out does not depend on the order in which they came, or on the
order in which the map of the backends is ranged over. -/

namespace StarLens.Service

open Foundation Go Repository

/-! ## The skew of reordered values -/

private theorem insertionSort_le_perm {values values' : List Int64} (perm : values.Perm values') :
    (values.insertionSort fun left right => left ≤ right) =
      values'.insertionSort fun left right => left ≤ right := by
  apply List.map_injective_iff.mpr fun _ _ => Int64.toInt_inj.mp
  rw [map_toInt_insertionSort, map_toInt_insertionSort]
  apply List.Perm.eq_of_pairwise (fun _ _ _ _ => le_antisymm)
    (List.pairwise_insertionSort _ _) (List.pairwise_insertionSort _ _)
  exact (List.perm_insertionSort _ _).trans
    ((perm.map _).trans (List.perm_insertionSort _ _).symm)

private theorem ratioToMedian_perm {values values' : List Int64} (perm : values.Perm values') :
    ratioToMedian values = ratioToMedian values' := by
  rw [ratioToMedian, ratioToMedian, insertionSort_le_perm perm]

private theorem measureSkew_perm {rows rows' bytes bytes' : List Int64} (rowsPerm : rows.Perm rows')
    (bytesPerm : bytes.Perm bytes') : measureSkew rows bytes = measureSkew rows' bytes' := by
  rw [measureSkew, measureSkew, rowsPerm.length_eq, ratioToMedian_perm rowsPerm,
    ratioToMedian_perm bytesPerm]

section Tablets

variable [UnicodeTables]

/-! ## The backends -/

theorem BackendTabletLoad.add_right_comm (load : BackendTabletLoad) (row other : Row) :
    (load.add row).add other = (load.add other).add row := by
  simp only [BackendTabletLoad.add]
  rw [int64_add_right_comm load.rows, int64_add_right_comm load.dataBytes,
    int64_add_right_comm load.rowsetNum, int64_add_right_comm load.segmentNum]

private theorem loadOf_perm {rows rows' : List Row} (perm : rows.Perm rows') (backend : String) :
    loadOf rows backend = loadOf rows' backend :=
  (perm.filter _).foldl_eq' (fun _ _ _ _ load => load.add_right_comm _ _) _

def sortedLoads (order : MapOrder BackendTabletLoad) (rows : List Row) : List BackendTabletLoad :=
  (order.range (rows.foldl addTablet [])).insertionSort fun left right =>
    !decide (right.backendID < left.backendID)

private theorem sortedLoads_perm_loads (order : MapOrder BackendTabletLoad) (rows : List Row) :
    (sortedLoads order rows).Perm (rows.foldl addTablet []) :=
  (List.perm_insertionSort _ _).trans (order.perm _)

theorem LoadsOf.perm {rows : List Row} {loads loads' : List BackendTabletLoad}
    (loadsOf : LoadsOf rows loads) (perm : loads'.Perm loads) : LoadsOf rows loads' := by
  constructor
  · exact (perm.map _).nodup_iff.mpr loadsOf.distinct
  · intro backend
    rw [(perm.map _).mem_iff]
    exact loadsOf.listed backend
  · intro load member
    exact loadsOf.counted load (perm.mem_iff.mp member)

theorem loadsOf_sortedLoads (order : MapOrder BackendTabletLoad) (rows : List Row) :
    LoadsOf rows (sortedLoads order rows) :=
  (loadsOf_foldl rows).perm (sortedLoads_perm_loads order rows)

theorem LoadsOf.eq_map {rows : List Row} {loads : List BackendTabletLoad}
    (loadsOf : LoadsOf rows loads) :
    loads = (loads.map BackendTabletLoad.backendID).map (loadOf rows) := by
  rw [List.map_map]
  apply List.map_id' loads |>.symm.trans
  apply List.map_congr_left
  intro load member
  exact loadsOf.counted load member

theorem LoadsOf.perm_of_perm {rows rows' : List Row} {loads loads' : List BackendTabletLoad}
    (loadsOf : LoadsOf rows loads) (loadsOf' : LoadsOf rows' loads') (perm : rows.Perm rows') :
    loads.Perm loads' := by
  have same : loadOf rows = loadOf rows' := funext (loadOf_perm perm)
  rw [loadsOf.eq_map, loadsOf'.eq_map, same]
  apply List.Perm.map
  rw [List.perm_ext_iff_of_nodup loadsOf.distinct loadsOf'.distinct]
  intro backend
  rw [loadsOf.listed, loadsOf'.listed]
  simp only [perm.mem_iff]

/-! ## The table -/

theorem TableDetail.addTablet_right_comm (detail : TableDetail) (row other : Row) :
    (detail.addTablet row).addTablet other = (detail.addTablet other).addTablet row := by
  simp only [TableDetail.addTablet]
  rw [int64_add_right_comm detail.rowsetTotal, int64_add_right_comm detail.segmentTotal,
    int64_max_right_comm detail.maxRowsetsPerTablet,
    int64_max_right_comm detail.maxSegmentsPerTablet]
  split <;> split <;> rfl

private theorem sortedLoads_perm (order order' : MapOrder BackendTabletLoad) {rows rows' : List Row}
    (perm : rows.Perm rows') : sortedLoads order rows = sortedLoads order' rows' := by
  have strict := strictWeak_key BackendTabletLoad.backendID
  have loads : (order.range (rows.foldl addTablet [])).Perm
      (order'.range (rows'.foldl addTablet [])) :=
    ((loadsOf_foldl rows).perm (order.perm _)).perm_of_perm
      ((loadsOf_foldl rows').perm (order'.perm _)) perm
  apply strict.insertionSort_eq_of_perm loads
  intro left member right member' after before
  have distinct := ((loadsOf_foldl rows).perm (order.perm _)).distinct
  simp only [decide_eq_false_iff_not, not_lt] at after before
  exact List.inj_on_of_nodup_map distinct member member' (le_antisymm before after)

/-- The order of the rows and that of the map leave the whole detail as it is. -/
theorem applyTabletLoads_perm (order order' : MapOrder BackendTabletLoad) (detail : TableDetail)
    {rows rows' : List Row} (perm : rows.Perm rows') :
    applyTabletLoads order detail rows = applyTabletLoads order' detail rows' := by
  have totals :
      rows.foldl TableDetail.addTablet detail = rows'.foldl TableDetail.addTablet detail :=
    perm.foldl_eq' (fun _ _ _ _ detail => detail.addTablet_right_comm _ _) _
  have backends := sortedLoads_perm order order' perm
  have tablets := measureSkew_perm (perm.map tabletRowCount) (perm.map tabletByteCount)
  rw [sortedLoads, sortedLoads] at backends
  rw [applyTabletLoads, applyTabletLoads, totals, backends]
  simp only [computeSkew, tablets]

/-! ## Conservation -/

theorem loadOf_adds (field : BackendTabletLoad → Int64) (added : Row → Int64)
    (adds : ∀ load row, field (BackendTabletLoad.add load row) = field load + added row)
    (fresh : ∀ backend, field { backendID := backend } = 0) (rows : List Row) (backend : String) :
    field (loadOf rows backend) =
      total ((rows.filter fun row => tabletBackend row = backend).map added) := by
  rw [loadOf, foldl_adds field added adds, fresh, Int64.zero_add]

theorem total_sortedLoads (field : BackendTabletLoad → Int64) (added : Row → Int64)
    (adds : ∀ load row, field (BackendTabletLoad.add load row) = field load + added row)
    (fresh : ∀ backend, field { backendID := backend } = 0)
    (order : MapOrder BackendTabletLoad) (rows : List Row) :
    total ((sortedLoads order rows).map field) = total (rows.map added) := by
  have loadsOf := loadsOf_sortedLoads order rows
  rw [loadsOf.eq_map, List.map_map]
  simp only [Function.comp_def, loadOf_adds field added adds fresh]
  apply total_groups tabletBackend added rows loadsOf.distinct
  intro row member
  exact (loadsOf.listed _).mpr ⟨row, member, rfl⟩

private theorem sortedLoads_increasing (order : MapOrder BackendTabletLoad) (rows : List Row) :
    (sortedLoads order rows).Pairwise fun left right => left.backendID < right.backendID := by
  have sorted := (strictWeak_key BackendTabletLoad.backendID).pairwise_insertionSort
    (order.range (rows.foldl addTablet []))
  have distinct := List.pairwise_map.mp (loadsOf_sortedLoads order rows).distinct
  apply (sorted.and distinct).imp
  intro left right both
  have after := both.1
  rw [Bool.not_eq_true', decide_eq_false_iff_not, not_lt] at after
  exact lt_of_le_of_ne after both.2

/-- The largest number of a column counted from zero. -/
structure LargestOf (rows : List Row) (names : List String) (largest : Int64) : Prop where
  attained : largest = 0 ∨ ∃ row ∈ rows, row.int64 names = some largest
  bounds : ∀ row ∈ rows, ∀ count, row.int64 names = some count → count ≤ largest

private theorem largestOf_foldl (rows : List Row) (names : List String) :
    LargestOf rows names ((rows.map fun row => intOrZero row names).foldl max 0) := by
  constructor
  · rcases foldl_max_mem (rows.map fun row => intOrZero row names) 0 with zero | listed
    · exact .inl zero
    · rcases List.mem_map.mp listed with ⟨row, member, same⟩
      rw [← same, intOrZero]
      cases reported : row.int64 names with
      | none => exact .inl rfl
      | some count => exact .inr ⟨row, member, reported⟩
  · intro row member count reported
    have bound := (le_foldl_max (rows.map fun row => intOrZero row names) 0).2 _
      (List.mem_map_of_mem member)
    rw [intOrZero, reported] at bound
    exact Int64.le_iff_toInt_le.mpr bound

structure Conserved (rows : List Row) (detail : TableDetail) : Prop where
  increasing : detail.backends.Pairwise fun left right => left.backendID < right.backendID
  listed : ∀ backend, backend ∈ detail.backends.map BackendTabletLoad.backendID ↔
    ∃ row ∈ rows, tabletBackend row = backend
  tabletTotal : detail.tabletTotal = Int64.ofNat rows.length
  rowsetTotal : detail.rowsetTotal = total (rows.map tabletRowsets)
  segmentTotal : detail.segmentTotal = total (rows.map tabletSegments)
  tabletNum : total (detail.backends.map BackendTabletLoad.tabletNum) = detail.tabletTotal
  rowsetNum : total (detail.backends.map BackendTabletLoad.rowsetNum) = detail.rowsetTotal
  segmentNum : total (detail.backends.map BackendTabletLoad.segmentNum) = detail.segmentTotal
  ownRows : ∀ load ∈ detail.backends, load.rows =
    total ((rows.filter fun row => tabletBackend row = load.backendID).map tabletRowCount)
  ownBytes : ∀ load ∈ detail.backends, load.dataBytes =
    total ((rows.filter fun row => tabletBackend row = load.backendID).map tabletByteCount)
  -- No slice is longer.
  abnormalTablets : rows.length < 2 ^ 63 → detail.abnormalTablets ≤ detail.tabletTotal
  maxRowsets : LargestOf rows ["num_rowset", "numrowset"] detail.maxRowsetsPerTablet
  maxSegments : LargestOf rows ["num_segment", "numsegment"] detail.maxSegmentsPerTablet

private theorem abnormalTablets_le {rows : List Row} (few : rows.length < 2 ^ 63)
    (detail : TableDetail) (allNormal : detail.abnormalTablets = 0) :
    (rows.foldl TableDetail.addTablet detail).abnormalTablets ≤ Int64.ofNat rows.length := by
  have adds (detail : TableDetail) (row : Row) : (detail.addTablet row).abnormalTablets =
      detail.abnormalTablets +
        if tabletStateOK (Strings.toUpper (Row.str row ["state"])) then 0 else 1 := by
    rw [TableDetail.addTablet]
    split
    · exact (Int64.add_zero _).symm
    · rfl
  have counted := foldl_adds TableDetail.abnormalTablets
    (fun row => if tabletStateOK (Strings.toUpper (Row.str row ["state"])) then 0 else 1)
    adds rows detail
  have bound := List.countP_le_length (l := rows)
    (p := fun row => !tabletStateOK (Strings.toUpper (Row.str row ["state"])))
  rw [counted, allNormal, Int64.zero_add, total_count, Int64.le_iff_toInt_le,
    Int64.toInt_ofNat_of_lt (by omega), Int64.toInt_ofNat_of_lt few]
  exact_mod_cast bound

private theorem conserved_applyTabletLoads (order : MapOrder BackendTabletLoad) (collectedAt : Time)
    (table : TableSummary) (partitions : List Partition) (warnings : List String)
    (rows : List Row) :
    Conserved rows
      (applyTabletLoads order { collectedAt, table, partitions, warnings } rows) := by
  let detail : TableDetail := { collectedAt, table, partitions, warnings }
  let totals := rows.foldl TableDetail.addTablet detail
  have tablets : totals.tabletTotal = Int64.ofNat rows.length := by
    rw [foldl_adds TableDetail.tabletTotal (fun _ => 1) (fun _ _ => rfl)]
    exact (Int64.zero_add _).trans (total_ones rows)
  have rowsets : totals.rowsetTotal = total (rows.map tabletRowsets) := by
    rw [foldl_adds TableDetail.rowsetTotal tabletRowsets (fun _ _ => rfl)]
    exact Int64.zero_add _
  have segments : totals.segmentTotal = total (rows.map tabletSegments) := by
    rw [foldl_adds TableDetail.segmentTotal tabletSegments (fun _ _ => rfl)]
    exact Int64.zero_add _
  have loadsOf := loadsOf_sortedLoads order rows
  constructor
  · exact sortedLoads_increasing order rows
  · exact loadsOf.listed
  · exact tablets
  · exact rowsets
  · exact segments
  · apply (total_sortedLoads BackendTabletLoad.tabletNum (fun _ => 1) (fun _ _ => rfl)
      (fun _ => rfl) order rows).trans
    rw [total_ones]
    exact tablets.symm
  · exact (total_sortedLoads BackendTabletLoad.rowsetNum tabletRowsets (fun _ _ => rfl)
      (fun _ => rfl) order rows).trans rowsets.symm
  · exact (total_sortedLoads BackendTabletLoad.segmentNum tabletSegments (fun _ _ => rfl)
      (fun _ => rfl) order rows).trans segments.symm
  · intro load member
    exact (congrArg BackendTabletLoad.rows (loadsOf.counted load member)).trans
      (loadOf_adds BackendTabletLoad.rows tabletRowCount (fun _ _ => rfl) (fun _ => rfl) _ _)
  · intro load member
    exact (congrArg BackendTabletLoad.dataBytes (loadsOf.counted load member)).trans
      (loadOf_adds BackendTabletLoad.dataBytes tabletByteCount (fun _ _ => rfl) (fun _ => rfl) _ _)
  · intro few
    change totals.abnormalTablets ≤ totals.tabletTotal
    rw [tablets]
    exact abnormalTablets_le few detail rfl
  · have same : totals.maxRowsetsPerTablet = (rows.map tabletRowsets).foldl max 0 := by
      rw [List.foldl_map]
      exact (List.foldl_hom TableDetail.maxRowsetsPerTablet (fun _ _ => rfl)).symm
    change LargestOf rows _ totals.maxRowsetsPerTablet
    rw [same]
    exact largestOf_foldl rows _
  · have same : totals.maxSegmentsPerTablet = (rows.map tabletSegments).foldl max 0 := by
      rw [List.foldl_map]
      exact (List.foldl_hom TableDetail.maxSegmentsPerTablet (fun _ _ => rfl)).symm
    change LargestOf rows _ totals.maxSegmentsPerTablet
    rw [same]
    exact largestOf_foldl rows _

/-- Nothing is lost and nothing counted twice, in whichever order the rows come. -/
theorem applyTabletLoads_conserves (order : MapOrder BackendTabletLoad) (collectedAt : Time)
    (table : TableSummary) (partitions : List Partition) (warnings : List String)
    (rows : List Row) :
    let detail : TableDetail := { collectedAt, table, partitions, warnings }
    Conserved rows (applyTabletLoads order detail rows) ∧
      ∀ (order' : MapOrder BackendTabletLoad) (rows' : List Row), rows.Perm rows' →
        applyTabletLoads order' detail rows' = applyTabletLoads order detail rows := by
  constructor
  · exact conserved_applyTabletLoads order collectedAt table partitions warnings rows
  · intro order' rows' perm
    exact (applyTabletLoads_perm order order' _ perm).symm

end Tablets

end StarLens.Service
