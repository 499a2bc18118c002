import Mathlib.Algebra.BigOperators.Group.List.Basic
import Mathlib.Algebra.Order.Ring.Int
import StarLens.Foundation.Samples

/-! # The wraparound of int64

Differences and sums are exact up to a multiple of 2^64. -/

namespace StarLens.Go

open Foundation

theorem toInt_ofInt_eq_bmod (value : Int) : (Int64.ofInt value).toInt = value.bmod (2 ^ 64) :=
  Int64.toInt_ofInt

theorem toInt_sub_cases (left right : Int64) :
    (-2 ^ 63 ≤ left.toInt - right.toInt ∧ left.toInt - right.toInt < 2 ^ 63 ∧
        (left - right).toInt = left.toInt - right.toInt) ∨
      (2 ^ 63 ≤ left.toInt - right.toInt ∧
        (left - right).toInt = left.toInt - right.toInt - 2 ^ 64) ∨
      (left.toInt - right.toInt < -2 ^ 63 ∧
        (left - right).toInt = left.toInt - right.toInt + 2 ^ 64) := by
  have leftLow := left.le_toInt
  have leftHigh := left.toInt_lt
  have rightLow := right.le_toInt
  have rightHigh := right.toInt_lt
  rw [Int64.toInt_sub, Int.bmod_def]
  split <;> omega

/-- A total comes out as an exact value if it differs from it by a multiple of 2^64. -/
theorem toInt_ofInt_eq_iff (total exact : Int) :
    (Int64.ofInt total).toInt = exact ↔
      (-2 ^ 63 ≤ exact ∧ exact < 2 ^ 63) ∧ 2 ^ 64 ∣ total - exact := by
  rw [toInt_ofInt_eq_bmod, Int.bmod_def]
  split <;> omega

theorem ofInt_eq_ofInt_iff (left right : Int) :
    Int64.ofInt left = Int64.ofInt right ↔ 2 ^ 64 ∣ left - right := by
  rw [← Int64.toInt_inj, toInt_ofInt_eq_bmod, toInt_ofInt_eq_bmod, Int.bmod_def, Int.bmod_def]
  split <;> split <;> omega

theorem foldl_positive (values : List Int64) (start : Int64) :
    values.foldl (fun total value => if 0 < value then total + value else total) start =
      start + Int64.ofInt (values.map fun value => max 0 value.toInt).sum := by
  induction values generalizing start with
  | nil => simp
  | cons head tail induction =>
      rw [List.foldl_cons, induction, List.map_cons, List.sum_cons, Int64.ofInt_add,
        ← Int64.add_assoc]
      congr 1
      split
      · rename_i positive
        rw [Int64.lt_iff_toInt_lt, Int64.toInt_zero] at positive
        have same : max 0 head.toInt = head.toInt := by omega
        rw [same, Int64.ofInt_toInt]
      · rename_i bounded
        rw [Int64.lt_iff_toInt_lt, Int64.toInt_zero] at bounded
        have zero : max 0 head.toInt = 0 := by omega
        rw [zero]
        simp

/-! ## Totals -/

theorem int64_add_right_comm (first second third : Int64) :
    first + second + third = first + third + second := by
  rw [Int64.add_assoc, Int64.add_comm second, ← Int64.add_assoc]

def total (values : List Int64) : Int64 := values.foldl (· + ·) 0

private theorem foldl_add (values : List Int64) (start : Int64) :
    values.foldl (· + ·) start = start + Int64.ofInt (values.map Int64.toInt).sum := by
  induction values generalizing start with
  | nil => simp
  | cons head tail induction =>
      rw [List.foldl_cons, induction, List.map_cons, List.sum_cons, Int64.ofInt_add,
        Int64.ofInt_toInt, Int64.add_assoc]

/-- However often it wraps, it is the exact sum wrapped once. -/
theorem total_eq_ofInt (values : List Int64) :
    total values = Int64.ofInt (values.map Int64.toInt).sum := by
  rw [total, foldl_add, Int64.zero_add]

@[simp] theorem total_nil : total [] = 0 := rfl

@[simp] theorem total_cons (head : Int64) (tail : List Int64) :
    total (head :: tail) = head + total tail := by
  rw [total_eq_ofInt, total_eq_ofInt, List.map_cons, List.sum_cons, Int64.ofInt_add,
    Int64.ofInt_toInt]

theorem total_perm {values values' : List Int64} (perm : values.Perm values') :
    total values = total values' := by
  rw [total_eq_ofInt, total_eq_ofInt, (perm.map _).sum_eq]

private theorem total_map_ofInt (values : List Int) :
    total (values.map Int64.ofInt) = Int64.ofInt values.sum := by
  induction values with
  | nil => rfl
  | cons head tail induction =>
      rw [List.map_cons, total_cons, induction, List.sum_cons, Int64.ofInt_add]

theorem total_count {Element : Type} (selected : Element → Bool) (elements : List Element) :
    total (elements.map fun element => if selected element then 0 else 1) =
      Int64.ofNat (elements.countP fun element => !selected element) := by
  induction elements with
  | nil => rfl
  | cons head tail induction =>
      rw [List.map_cons, total_cons, induction, List.countP_cons]
      cases selected head with
      | true => simp
      | false =>
          rw [Int64.add_comm]
          exact (Int64.ofNat_add _ 1).symm

theorem total_ones {Element : Type} (elements : List Element) :
    total (elements.map fun _ => 1) = Int64.ofNat elements.length := by
  have count := total_count (fun _ => false) elements
  simpa using count

theorem total_groups {Element Key : Type} [DecidableEq Key] (key : Element → Key)
    (value : Element → Int64) (elements : List Element) {keys : List Key} (distinct : keys.Nodup)
    (listed : ∀ element ∈ elements, key element ∈ keys) :
    total (keys.map fun group =>
        total ((elements.filter fun element => key element = group).map value)) =
      total (elements.map value) := by
  have groups := sum_groups key (fun element => (value element).toInt) elements distinct listed
  simp only [total_eq_ofInt (List.map value _), List.map_map, Function.comp_def]
  rw [← groups, ← total_map_ofInt, List.map_map, Function.comp_def]

theorem foldl_adds {State Element : Type} {step : State → Element → State}
    (field : State → Int64) (added : Element → Int64)
    (adds : ∀ state element, field (step state element) = field state + added element)
    (elements : List Element) (start : State) :
    field (elements.foldl step start) = field start + total (elements.map added) := by
  induction elements generalizing start with
  | nil => simp
  | cons head tail induction =>
      rw [List.foldl_cons, induction, adds, List.map_cons, total_cons, Int64.add_assoc]

/-! ## Largest values -/

theorem toInt_max (left right : Int64) : (max left right).toInt = max left.toInt right.toInt := by
  change (if left ≤ right then right else left).toInt = _
  split
  case isTrue order => rw [max_eq_right (Int64.le_iff_toInt_le.mp order)]
  case isFalse order =>
      rw [Int64.le_iff_toInt_le, not_le] at order
      rw [max_eq_left order.le]

theorem int64_max_right_comm (first second third : Int64) :
    max (max first second) third = max (max first third) second := by
  rw [← Int64.toInt_inj, toInt_max, toInt_max, toInt_max, toInt_max]
  omega

private theorem max_eq_or (left right : Int64) :
    max left right = left ∨ max left right = right := by
  change (if left ≤ right then right else left) = left ∨
    (if left ≤ right then right else left) = right
  split
  · exact .inr rfl
  · exact .inl rfl

theorem foldl_max_mem (values : List Int64) (start : Int64) :
    values.foldl max start = start ∨ values.foldl max start ∈ values := by
  induction values generalizing start with
  | nil => exact .inl rfl
  | cons head tail induction =>
      rw [List.foldl_cons, List.mem_cons]
      rcases induction (max start head) with same | later
      · rcases max_eq_or start head with kept | taken
        · exact .inl (same.trans kept)
        · exact .inr (.inl (same.trans taken))
      · exact .inr (.inr later)

theorem le_foldl_max (values : List Int64) (start : Int64) :
    start.toInt ≤ (values.foldl max start).toInt ∧
      ∀ value ∈ values, value.toInt ≤ (values.foldl max start).toInt := by
  induction values generalizing start with
  | nil => simp
  | cons head tail induction =>
      have step := induction (max start head)
      rw [toInt_max] at step
      rw [List.foldl_cons, List.forall_mem_cons]
      exact ⟨(le_max_left _ _).trans step.1, (le_max_right _ _).trans step.1, step.2⟩

end StarLens.Go
