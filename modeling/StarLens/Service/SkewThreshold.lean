import Mathlib.Data.List.Pairwise
import StarLens.Go.Representable
import StarLens.Service.TabletSkew

/-! # Where a skew is flagged

A level is skewed where its largest value is more than half again the median.
The division by the median is exact enough to decide that, but the median of an
even number of values has lost its half. -/

namespace StarLens.Service

open Foundation Go

/-! ## The median with its half -/

def ascending (values : List Int) : List Int := values.insertionSort fun left right => left ≤ right

def middleSum (values : List Int) : Int :=
  (ascending values).getD (values.length / 2 - 1) 0 + (ascending values).getD (values.length / 2) 0

def rationalMedian (values : List Int) : ℚ :=
  if values.length % 2 = 0 then middleSum values / 2
  else (ascending values).getD (values.length / 2) 0

def largest (values : List Int) : Int := (ascending values).getLastD 0

/-- Some value is more than half again the median. -/
def Uneven (values : List Int) : Prop := ∃ value ∈ values, 3 / 2 * rationalMedian values < value

instance (values : List Int) : Decidable (Uneven values) :=
  inferInstanceAs (Decidable (∃ value ∈ values, 3 / 2 * rationalMedian values < value))

/-- The half that is lost decides: it is all there is of the median, or one
value reaches the threshold without it and not with it. -/
def HalfDecides (values : List Int) : Prop :=
  values.length % 2 = 0 ∧ (middleSum values = 1 ∨ 4 * largest values + 1 = 3 * middleSum values)

instance (values : List Int) : Decidable (HalfDecides values) :=
  inferInstanceAs (Decidable (_ ∧ _))

private theorem pairwise_ascending (values : List Int) : (ascending values).Pairwise (· ≤ ·) :=
  List.pairwise_insertionSort _ values

theorem perm_ascending (values : List Int) : (ascending values).Perm values :=
  List.perm_insertionSort _ values

theorem length_ascending (values : List Int) : (ascending values).length = values.length :=
  (perm_ascending values).length_eq

private theorem exactMedian_ascending (values : List Int) :
    exactMedian (ascending values) =
      if values.length % 2 = 0 then middleSum values / 2
      else (ascending values).getD (values.length / 2) 0 := by
  rw [exactMedian, length_ascending, middleSum]

private theorem largest_eq {values : List Int} (present : values ≠ []) :
    ∃ nonempty : ascending values ≠ [], largest values = (ascending values).getLast nonempty := by
  have nonempty : ascending values ≠ [] := by
    intro absent
    have length := length_ascending values
    rw [absent, List.length_nil] at length
    exact present (List.length_eq_zero_iff.mp length.symm)
  refine ⟨nonempty, ?_⟩
  rw [largest, List.getLastD_eq_getLast?, List.getLast?_eq_some_getLast nonempty, Option.getD_some]

theorem largest_mem {values : List Int} (present : values ≠ []) : largest values ∈ values := by
  rcases largest_eq present with ⟨nonempty, same⟩
  rw [same]
  exact (perm_ascending values).mem_iff.mp (List.getLast_mem nonempty)

theorem le_largest {values : List Int} {value : Int} (member : value ∈ values) :
    value ≤ largest values := by
  rcases largest_eq (List.ne_nil_of_mem member) with ⟨nonempty, same⟩
  rw [same]
  exact (pairwise_ascending values).rel_getLast ((perm_ascending values).mem_iff.mpr member)

theorem getD_ascending_mem {values : List Int} {index : Nat} (inside : index < values.length) :
    (ascending values).getD index 0 ∈ values := by
  rw [List.getD_eq_getElem _ _ (by rwa [length_ascending])]
  exact (perm_ascending values).mem_iff.mp (List.getElem_mem _)

private theorem uneven_iff {values : List Int} (present : values ≠ []) :
    Uneven values ↔ 3 / 2 * rationalMedian values < largest values := by
  constructor
  · intro uneven
    rcases uneven with ⟨value, member, above⟩
    exact above.trans_le (by exact_mod_cast le_largest member)
  · intro above
    exact ⟨largest values, largest_mem present, above⟩

/-! ## The quotient -/

private theorem nearest_small {value : Int} (small : |value| < 2 ^ 53) :
    Float64.nearest value = value :=
  Float64.nearest_of_representable ⟨value, 0, small, by norm_num, by simp⟩

/-- A quotient of integers below 2^52 that is above the threshold is more than
half a unit above it. -/
theorem lt_nearest_div_iff {greatest middle : Int} (positive : 0 < middle)
    (order : middle ≤ greatest) (bounded : greatest < 2 ^ 52) :
    skewThreshold < Float64.nearest (greatest / middle) ↔ 3 * middle < 2 * greatest := by
  have denominator : (0 : ℚ) < middle := by exact_mod_cast positive
  have large : (1 : ℚ) ≤ greatest / middle := by
    rw [one_le_div denominator]
    exact_mod_cast order
  rcases lt_or_ge ((greatest : ℚ) / middle) 2 with below | above
  · have unit := Float64.unitExponent_of_lt_two large below
    have threshold : skewThreshold =
        ((3 * 2 ^ 51 : Int) : ℚ) * 2 ^ Float64.unitExponent (greatest / middle) := by
      rw [skewThreshold, unit]
      norm_num
    constructor
    · intro flagged
      by_contra few
      rw [threshold] at flagged
      apply absurd flagged (not_lt.mpr (Float64.nearest_le_of_le _))
      rw [← threshold, skewThreshold, div_le_div_iff₀ denominator (by norm_num)]
      exact_mod_cast (by omega : greatest * 2 ≤ 3 * middle)
    · intro many
      rw [threshold]
      apply Float64.lt_nearest_of_lt
      rw [unit, lt_div_iff₀ denominator]
      have bound : (middle : ℚ) < 2 ^ 52 := by exact_mod_cast order.trans_lt bounded
      have apart : (3 * middle + 1 : ℚ) ≤ 2 * greatest := by exact_mod_cast many
      norm_num
      linarith
  · have flagged : skewThreshold < Float64.nearest (greatest / middle) := by
      have two : 2 ^ 1 ≤ Float64.nearest (greatest / middle) :=
        Float64.two_pow_le_nearest (by simpa using above)
      rw [skewThreshold]
      linarith
    rw [le_div_iff₀ denominator] at above
    have many : 2 * middle ≤ greatest := by exact_mod_cast above
    constructor
    · intro _
      omega
    · intro _
      exact flagged

private theorem exactMedian_le_largest {values : List Int} (several : 2 ≤ values.length) :
    exactMedian (ascending values) ≤ largest values := by
  have upper := le_largest (getD_ascending_mem (by omega : values.length / 2 < values.length))
  have lower := le_largest (getD_ascending_mem (by omega : values.length / 2 - 1 < values.length))
  rw [exactMedian_ascending, middleSum]
  split <;> omega

private theorem exceedsThreshold_quotient {greatest middle : Int} (positive : 0 < middle)
    (order : middle ≤ greatest) (bounded : greatest < 2 ^ 52) :
    exceedsThreshold
        (some (.round (Float64.nearest greatest / Float64.nearest middle))) ↔
      3 * middle < 2 * greatest := by
  have denominator : (1 : ℚ) ≤ middle := by exact_mod_cast positive
  have numerator : (0 : ℚ) ≤ greatest := by exact_mod_cast positive.le.trans order
  have small : |(greatest / middle : ℚ)| < Float64.overflow := by
    rw [abs_of_nonneg (div_nonneg numerator (zero_le_one.trans denominator))]
    apply lt_of_le_of_lt (div_le_self numerator denominator)
    apply lt_trans _ Float64.two_pow_lt_overflow
    exact_mod_cast bounded.trans (by norm_num)
  rw [nearest_small (by rw [abs_lt]; omega), nearest_small (by rw [abs_lt]; omega),
    Float64.round_of_lt small, ← lt_nearest_div_iff positive order bounded]
  exact decide_eq_true_iff

theorem exceedsThreshold_ratioToMedian {values : List Int64} (several : 2 ≤ values.length)
    (bounded : ∀ value ∈ values, 0 ≤ value.toInt ∧ value.toInt < 2 ^ 52) :
    exceedsThreshold (ratioToMedian values) ↔
      0 < exactMedian (ascending (values.map Int64.toInt)) ∧
        3 * exactMedian (ascending (values.map Int64.toInt)) <
          2 * largest (values.map Int64.toInt) := by
  have perm := List.perm_insertionSort (fun left right : Int64 => left ≤ right) values
  have ints : (values.insertionSort fun left right => left ≤ right).map Int64.toInt =
      ascending (values.map Int64.toInt) := map_toInt_insertionSort values
  rw [ratioToMedian]
  generalize (values.insertionSort fun left right => left ≤ right) = sorted at *
  have inside : ∀ value ∈ sorted, 0 ≤ value.toInt ∧ value.toInt < 2 ^ 52 := fun value member =>
    bounded value (perm.mem_iff.mp member)
  have neighbours : ∀ (index : Nat) (next : index + 1 < sorted.length),
      sorted[index].toInt + sorted[index + 1].toInt < 2 ^ 63 := by
    intro index next
    have left := inside _ (List.getElem_mem (by omega : index < sorted.length))
    have right := inside _ (List.getElem_mem next)
    omega
  have exact := toInt_median (fun value member => (inside value member).1) neighbours
    (by rw [perm.length_eq]; exact several)
  rw [ints] at exact
  have last : (sorted.getLastD 0).toInt = largest (values.map Int64.toInt) := by
    rw [largest, ← ints, List.getLastD_eq_getLast?, List.getLastD_eq_getLast?, List.getLast?_map]
    cases sorted.getLast? <;> rfl
  have order : exactMedian (ascending (values.map Int64.toInt)) ≤
      largest (values.map Int64.toInt) :=
    exactMedian_le_largest (by simpa using several)
  have greatest : largest (values.map Int64.toInt) < 2 ^ 52 := by
    have nonempty : values.map Int64.toInt ≠ [] := by
      rw [ne_eq, List.map_eq_nil_iff, ← List.length_eq_zero_iff]
      omega
    have member := largest_mem nonempty
    rcases List.mem_map.mp member with ⟨value, listed, same⟩
    rw [← same]
    exact (bounded value listed).2
  split
  case isTrue zero =>
      rw [Int64.le_iff_toInt_le, exact, Int64.toInt_zero] at zero
      simp [exceedsThreshold, zero]
  case isFalse positive =>
      rw [Int64.le_iff_toInt_le, exact, Int64.toInt_zero, not_le] at positive
      rw [Float64.ofInt64, Float64.ofInt64, last, exact,
        exceedsThreshold_quotient positive order greatest]
      simp [positive]

/-! ## The flag -/

/-- The list decides its flag, beside any that is not over the threshold, as the
median with its half does. -/
def FlaggedWhereUneven (values : List Int64) : Prop :=
  ∀ other : List Int64, other.length = values.length →
    exceedsThreshold (ratioToMedian other) = false →
    ((measureSkew values other).skewed ↔ Uneven (values.map Int64.toInt)) ∧
      ((measureSkew other values).skewed ↔ Uneven (values.map Int64.toInt))

theorem measureSkew_skewed {rows bytes : List Int64} (several : 2 ≤ rows.length) :
    (measureSkew rows bytes).skewed =
      (exceedsThreshold (ratioToMedian rows) || exceedsThreshold (ratioToMedian bytes)) := by
  rw [measureSkew, if_neg (by omega)]

private theorem exceedsThreshold_zeros {length : Nat} (several : 2 ≤ length) :
    exceedsThreshold (ratioToMedian (List.replicate length 0)) = false := by
  have zeros : (List.replicate length (0 : Int64)).map Int64.toInt = List.replicate length 0 := by
    rw [List.map_replicate, Int64.toInt_zero]
  have inside : ∀ value ∈ List.replicate length (0 : Int64),
      0 ≤ value.toInt ∧ value.toInt < 2 ^ 52 := by
    intro value member
    rw [List.eq_of_mem_replicate member, Int64.toInt_zero]
    omega
  have exact := exceedsThreshold_ratioToMedian (by simpa using several) inside
  have nonempty : List.replicate length (0 : Int) ≠ [] :=
    List.ne_nil_of_length_pos (by rw [List.length_replicate]; omega)
  have greatest := largest_mem nonempty
  have order : exactMedian (ascending (List.replicate length (0 : Int))) ≤
      largest (List.replicate length 0) :=
    exactMedian_le_largest (by simpa using several)
  rw [List.eq_of_mem_replicate greatest] at order
  rw [zeros] at exact
  rw [← Bool.not_eq_true, exact]
  omega

private theorem flaggedWhereUneven_iff_exceeds {values : List Int64} (several : 2 ≤ values.length) :
    FlaggedWhereUneven values ↔
      (exceedsThreshold (ratioToMedian values) ↔ Uneven (values.map Int64.toInt)) := by
  constructor
  · intro flagged
    have zeros := (flagged (List.replicate values.length 0) List.length_replicate
      (exceedsThreshold_zeros several)).1
    rw [measureSkew_skewed several, exceedsThreshold_zeros several, Bool.or_false] at zeros
    exact zeros
  · intro exact other length below
    rw [measureSkew_skewed several, measureSkew_skewed (length ▸ several), below, Bool.or_false,
      Bool.false_or]
    exact ⟨exact, exact⟩

/-- A list is flagged where it is uneven, except where the half decides. -/
theorem flaggedWhereUneven_iff (values : List Int64) (several : 2 ≤ values.length)
    (bounded : ∀ value ∈ values, 0 ≤ value.toInt ∧ value.toInt < 2 ^ 52)
    (positive : 0 < rationalMedian (values.map Int64.toInt)) :
    FlaggedWhereUneven values ↔ ¬HalfDecides (values.map Int64.toInt) := by
  rw [flaggedWhereUneven_iff_exceeds several, exceedsThreshold_ratioToMedian several bounded]
  have length : 2 ≤ (values.map Int64.toInt).length := by simpa using several
  have nonneg : ∀ value ∈ values.map Int64.toInt, 0 ≤ value := by
    intro value member
    rcases List.mem_map.mp member with ⟨original, listed, rfl⟩
    exact (bounded original listed).1
  generalize values.map Int64.toInt = ints at *
  have nonempty : ints ≠ [] := List.ne_nil_of_length_pos (by omega)
  have inside : ints.length / 2 < ints.length := by omega
  have before : ints.length / 2 - 1 < ints.length := by omega
  have upper := le_largest (getD_ascending_mem inside)
  have lower := le_largest (getD_ascending_mem before)
  have nonneg' := nonneg _ (getD_ascending_mem before)
  rw [uneven_iff nonempty, exactMedian_ascending, HalfDecides]
  rw [rationalMedian] at positive ⊢
  split
  case isTrue even =>
      rw [if_pos even] at positive
      have positive' : 0 < middleSum ints := by
        have twice : (0 : ℚ) < middleSum ints := by linarith
        exact_mod_cast twice
      have exact : (3 / 2 * (middleSum ints / 2) : ℚ) < largest ints ↔
          3 * middleSum ints < 4 * largest ints := by
        rw [← Int.cast_lt (R := ℚ)]
        push_cast
        constructor <;> intro above <;> linarith
      rw [exact]
      have sum : middleSum ints ≤ 2 * largest ints := by
        rw [middleSum]
        omega
      omega
  case isFalse odd =>
      rw [if_neg odd] at positive
      have exact : (3 / 2 * ((ascending ints).getD (ints.length / 2) 0 : Int) : ℚ) < largest ints ↔
          3 * (ascending ints).getD (ints.length / 2) 0 < 2 * largest ints := by
        rw [← Int.cast_lt (R := ℚ)]
        push_cast
        constructor <;> intro above <;> linarith
      have positive' : 0 < (ascending ints).getD (ints.length / 2) 0 := by exact_mod_cast positive
      rw [exact]
      omega

theorem flaggedWhereUneven_even : FlaggedWhereUneven [10, 12, 20, 21] := by
  apply (flaggedWhereUneven_iff [10, 12, 20, 21] (by decide) ?_ (by decide +kernel)).mpr
  · decide
  · simp only [List.forall_mem_cons, List.not_mem_nil, false_implies, implies_true, and_true]
    decide

/-- Of one and two the greater is more than half again the median rounded down,
and less than half again the median. -/
theorem not_flaggedWhereUneven_pair :
    ¬∀ values : List Int64, 2 ≤ values.length →
      (∀ value ∈ values, 0 ≤ value.toInt ∧ value.toInt < 2 ^ 52) →
      0 < rationalMedian (values.map Int64.toInt) → FlaggedWhereUneven values := by
  intro claimed
  have bounded : ∀ value ∈ ([1, 2] : List Int64), 0 ≤ value.toInt ∧ value.toInt < 2 ^ 52 := by
    simp only [List.forall_mem_cons, List.not_mem_nil, false_implies, implies_true, and_true]
    decide
  have flagged := claimed [1, 2] (by decide) bounded (by decide +kernel)
  rw [flaggedWhereUneven_iff_exceeds (by decide),
    exceedsThreshold_ratioToMedian (by decide) bounded] at flagged
  exact absurd (flagged.mp (by decide)) (by decide +kernel)

end StarLens.Service
