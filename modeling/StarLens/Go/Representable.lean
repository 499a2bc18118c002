import Mathlib.Algebra.Order.Field.Rat
import Mathlib.Algebra.Order.Floor.Ring
import Mathlib.Data.Int.Log
import Mathlib.Data.Nat.Prime.Basic
import Mathlib.Data.Rat.Floor
import Mathlib.Tactic.Linarith
import Mathlib.Tactic.NormNum

/-! # Numbers that are float64 values

Rounding goes to one of them and leaves them as they are. A power of two keeps
them exact. -/

namespace StarLens.Go.Float64

/-- From this magnitude on a number rounds to more than the largest float64. -/
def overflow : ℚ := 2 ^ 970 * (2 ^ 54 - 1)

theorem two_pow_lt_overflow : 2 ^ 64 < overflow := by
  have scale : (2 : ℚ) ^ 64 ≤ 2 ^ 970 := pow_le_pow_right₀ (by norm_num) (by norm_num)
  have digits : (1 : ℚ) < 2 ^ 54 - 1 := by norm_num
  exact scale.trans_lt (lt_mul_of_one_lt_right (pow_pos (by norm_num) _) digits)

theorem one_lt_overflow : 1 < overflow := by
  have scale : (1 : ℚ) ≤ 2 ^ 970 := one_le_pow₀ (by norm_num)
  have digits : (1 : ℚ) < 2 ^ 54 - 1 := by norm_num
  exact one_lt_mul_of_le_of_lt scale digits

def roundEven (value : ℚ) : Int :=
  let below := ⌊value⌋
  let rest := value - below
  if rest < 1 / 2 || (rest = 1 / 2 && below % 2 = 0) then below else below + 1

/-- The nearest multiple of the unit in the last place: 53 bits, or fewer below
the smallest normal number. -/
def nearest (value : ℚ) : ℚ :=
  let unit : ℚ := 2 ^ max (Int.log 2 |value| - 52) (-1074)
  roundEven (value / unit) * unit

/-- 53 bits, and no bit below the smallest subnormal number. The exponent has no
upper bound, as rounding checks for overflow apart. -/
def Representable (value : ℚ) : Prop :=
  ∃ mantissa exponent : Int, |mantissa| < 2 ^ 53 ∧ -1074 ≤ exponent ∧
    value = mantissa * (2 : ℚ) ^ exponent

private theorem roundEven_intCast (value : Int) : roundEven value = value := by
  simp [roundEven]

theorem roundEven_mem (value : ℚ) : roundEven value = ⌊value⌋ ∨ roundEven value = ⌊value⌋ + 1 := by
  rw [roundEven]
  split
  · exact .inl rfl
  · exact .inr rfl

private theorem abs_roundEven_sub_le (value : ℚ) : |roundEven value - value| ≤ 1 / 2 := by
  have low := Int.floor_le value
  have high := Int.lt_floor_add_one value
  rw [roundEven, abs_le]
  split
  case isTrue down =>
      simp only [Bool.or_eq_true, Bool.and_eq_true, decide_eq_true_eq] at down
      have rest : value - ⌊value⌋ ≤ 1 / 2 := by
        rcases down with less | half
        · exact less.le
        · exact half.1.le
      constructor <;> linarith
  case isFalse up =>
      simp only [Bool.or_eq_true, decide_eq_true_eq, not_or, not_lt] at up
      push_cast
      constructor <;> linarith [up.1]

theorem abs_roundEven_le {value : ℚ} {bound : Int} (small : |value| < bound) :
    |roundEven value| ≤ bound := by
  rw [abs_lt] at small
  have low : -bound ≤ ⌊value⌋ := by
    rw [Int.le_floor, Int.cast_neg]
    exact small.1.le
  have high : ⌊value⌋ < bound := Int.floor_lt.mpr small.2
  rw [abs_le]
  rcases roundEven_mem value with down | up <;> omega

def unitExponent (value : ℚ) : Int := max (Int.log 2 |value| - 52) (-1074)

theorem nearest_eq (value : ℚ) :
    nearest value = roundEven (value / 2 ^ unitExponent value) * 2 ^ unitExponent value := rfl

theorem two_zpow_pos (exponent : Int) : (0 : ℚ) < 2 ^ exponent :=
  zpow_pos (by norm_num) _

theorem abs_div_unit_lt (value : ℚ) : |value / 2 ^ unitExponent value| < (2 ^ 53 : Int) := by
  have positive := two_zpow_pos (unitExponent value)
  rw [abs_div, abs_of_pos positive, div_lt_iff₀ positive]
  have upper : |value| < 2 ^ (Int.log 2 |value| + 1) := by
    exact_mod_cast Int.lt_zpow_succ_log_self (by norm_num : 1 < 2) |value|
  have exponent : Int.log 2 |value| + 1 ≤ 53 + unitExponent value := by
    rw [unitExponent]
    omega
  calc |value| < 2 ^ (Int.log 2 |value| + 1) := upper
    _ ≤ 2 ^ (53 + unitExponent value) := zpow_le_zpow_right₀ (by norm_num) exponent
    _ = (2 ^ 53 : Int) * 2 ^ unitExponent value := by
        rw [zpow_add₀ (by norm_num)]
        norm_num

private theorem representable_of_le {mantissa exponent : Int} (bits : |mantissa| ≤ 2 ^ 53)
    (fine : -1074 ≤ exponent) : Representable (mantissa * (2 : ℚ) ^ exponent) := by
  rcases lt_or_eq_of_le bits with small | full
  · exact ⟨mantissa, exponent, small, fine, rfl⟩
  · refine ⟨mantissa / 2, exponent + 1, ?_, by omega, ?_⟩
    · rcases abs_eq (by norm_num) |>.mp full with same | same <;> rw [same] <;> decide
    · rw [zpow_add_one₀ (by norm_num)]
      rcases abs_eq (by norm_num) |>.mp full with same | same <;> rw [same] <;> norm_num <;> ring

theorem representable_nearest (value : ℚ) : Representable (nearest value) := by
  rw [nearest_eq]
  apply representable_of_le (abs_roundEven_le (abs_div_unit_lt value))
  exact le_max_right _ _

theorem nearest_of_representable {value : ℚ} (representable : Representable value) :
    nearest value = value := by
  rcases representable with ⟨mantissa, exponent, bits, fine, rfl⟩
  by_cases zero : mantissa = 0
  · simp [nearest, zero, roundEven]
  · have coarse : unitExponent (mantissa * (2 : ℚ) ^ exponent) ≤ exponent := by
      have magnitude : |(mantissa * (2 : ℚ) ^ exponent)| < 2 ^ (exponent + 53) := by
        rw [abs_mul, abs_of_pos (two_zpow_pos exponent), add_comm, zpow_add₀ (by norm_num)]
        have small : |(mantissa : ℚ)| < 2 ^ (53 : Int) := by exact_mod_cast bits
        exact mul_lt_mul_of_pos_right small (two_zpow_pos exponent)
      have positive : 0 < |(mantissa * (2 : ℚ) ^ exponent)| := by
        rw [abs_pos]
        exact mul_ne_zero (by exact_mod_cast zero) (two_zpow_pos exponent).ne'
      have log := (Int.lt_zpow_iff_log_lt (by norm_num : 1 < 2) positive).mp
        (by exact_mod_cast magnitude)
      rw [unitExponent]
      omega
    have whole : mantissa * (2 : ℚ) ^ exponent /
        2 ^ unitExponent (mantissa * (2 : ℚ) ^ exponent) =
          ((mantissa * 2 ^ (exponent - unitExponent (mantissa * (2 : ℚ) ^ exponent)).toNat : Int) :
            ℚ) := by
      generalize unitExponent (mantissa * (2 : ℚ) ^ exponent) = unit at coarse ⊢
      rw [mul_div_assoc, ← zpow_sub₀ (by norm_num), Int.cast_mul, Int.cast_pow, Int.cast_ofNat,
        ← zpow_natCast, Int.toNat_of_nonneg (by omega)]
    rw [nearest_eq, whole, roundEven_intCast, ← whole, div_mul_cancel₀ _ (two_zpow_pos _).ne']

theorem abs_nearest_sub_le (value : ℚ) :
    |nearest value - value| ≤ 2 ^ unitExponent value / 2 := by
  have positive := two_zpow_pos (unitExponent value)
  have moved := abs_roundEven_sub_le (value / 2 ^ unitExponent value)
  calc |nearest value - value|
      = |(roundEven (value / 2 ^ unitExponent value) : ℚ) - value / 2 ^ unitExponent value| *
          2 ^ unitExponent value := by
        rw [← abs_of_pos positive, ← abs_mul, abs_of_pos positive, sub_mul, nearest_eq,
          div_mul_cancel₀ _ positive.ne']
    _ ≤ 1 / 2 * 2 ^ unitExponent value := mul_le_mul_of_nonneg_right moved positive.le
    _ = 2 ^ unitExponent value / 2 := by ring

theorem unitExponent_of_le_one {value : ℚ} (small : |value| ≤ 1) : unitExponent value ≤ -52 := by
  rcases eq_or_ne value 0 with zero | nonzero
  · simp [unitExponent, zero]
  · have below := (Int.lt_zpow_iff_log_lt (by norm_num : 1 < 2) (abs_pos.mpr nonzero)).mp
      (show |value| < ((2 : Nat) : ℚ) ^ (1 : Int) by norm_num; linarith)
    rw [unitExponent]
    omega

theorem nearest_intCast (value : Int) : ∃ whole : Int, nearest value = whole := by
  by_cases coarse : 0 ≤ unitExponent value
  · refine ⟨roundEven (value / 2 ^ unitExponent value) * 2 ^ (unitExponent value).toNat, ?_⟩
    rw [nearest_eq, Int.cast_mul, Int.cast_pow, Int.cast_ofNat, ← zpow_natCast,
      Int.toNat_of_nonneg coarse]
  · have log : Int.log 2 |(value : ℚ)| + 1 ≤ 53 := by
      rw [unitExponent] at coarse
      omega
    have bits : |(value : ℚ)| < 2 ^ (53 : Int) :=
      calc |(value : ℚ)| < 2 ^ (Int.log 2 |(value : ℚ)| + 1) := by
            exact_mod_cast Int.lt_zpow_succ_log_self (by norm_num : 1 < 2) |(value : ℚ)|
        _ ≤ 2 ^ (53 : Int) := zpow_le_zpow_right₀ (by norm_num) log
    have representable : Representable value :=
      ⟨value, 0, by exact_mod_cast bits, by norm_num, by simp⟩
    exact ⟨value, nearest_of_representable representable⟩

theorem Representable.mul_pow {value : ℚ} (representable : Representable value) (power : Nat) :
    Representable (value * 2 ^ power) := by
  rcases representable with ⟨mantissa, exponent, bits, fine, rfl⟩
  refine ⟨mantissa, exponent + power, bits, by omega, ?_⟩
  rw [zpow_add₀ (by norm_num), zpow_natCast, mul_assoc]

/-! ## Bounds -/

private theorem le_roundEven {value : ℚ} {bound : Int} (large : bound ≤ value) :
    bound ≤ roundEven value := by
  have below : bound ≤ ⌊value⌋ := Int.le_floor.mpr large
  rcases roundEven_mem value with down | up <;> omega

private theorem roundEven_le {value : ℚ} {bound : Int} (small : value ≤ bound) :
    roundEven value ≤ bound := by
  rcases roundEven_mem value with down | up
  · rw [down]
    exact_mod_cast (Int.floor_le value).trans small
  · rcases eq_or_lt_of_le small with whole | below
    · rw [whole, roundEven_intCast]
    · have floor : ⌊value⌋ < bound := Int.floor_lt.mpr below
      omega

private theorem lt_roundEven {value : ℚ} {bound : Int} (large : bound + 1 / 2 < value) :
    bound < roundEven value := by
  have below : bound ≤ ⌊value⌋ := Int.le_floor.mpr (by linarith)
  rcases eq_or_lt_of_le below with same | above
  · have down : roundEven value = bound + 1 := by
      rw [roundEven, ← same]
      apply if_neg
      simp only [Bool.or_eq_true, Bool.and_eq_true, decide_eq_true_eq, not_or, not_and]
      exact ⟨by linarith, fun half => absurd half (by linarith)⟩
    omega
  · rcases roundEven_mem value with down | up <;> omega

theorem two_pow_le_nearest {value : ℚ} {power : Nat} (large : 2 ^ power ≤ value) :
    2 ^ power ≤ nearest value := by
  have positive : (0 : ℚ) < value := (by positivity : (0 : ℚ) < 2 ^ power).trans_le large
  have magnitude : |value| = value := abs_of_pos positive
  have log : (power : Int) ≤ Int.log 2 value := by
    rw [← Int.zpow_le_iff_le_log (by norm_num : 1 < 2) positive]
    exact_mod_cast large
  have unit : unitExponent value = Int.log 2 value - 52 := by
    rw [unitExponent, magnitude]
    omega
  have scale : ((2 ^ 52 : Int) : ℚ) * 2 ^ unitExponent value = 2 ^ Int.log 2 value := by
    rw [unit, zpow_sub₀ (by norm_num)]
    norm_num
    ring
  have bits : ((2 ^ 52 : Int) : ℚ) ≤ value / 2 ^ unitExponent value := by
    rw [le_div_iff₀ (two_zpow_pos _), scale]
    exact_mod_cast Int.zpow_log_le_self (by norm_num : 1 < 2) positive
  have mantissa : ((2 ^ 52 : Int) : ℚ) ≤ roundEven (value / 2 ^ unitExponent value) := by
    exact_mod_cast le_roundEven bits
  rw [nearest_eq]
  calc (2 : ℚ) ^ power = 2 ^ (power : Int) := (zpow_natCast 2 power).symm
    _ ≤ 2 ^ Int.log 2 value := zpow_le_zpow_right₀ (by norm_num) log
    _ = ((2 ^ 52 : Int) : ℚ) * 2 ^ unitExponent value := scale.symm
    _ ≤ roundEven (value / 2 ^ unitExponent value) * 2 ^ unitExponent value :=
        mul_le_mul_of_nonneg_right mantissa (two_zpow_pos _).le

theorem one_le_nearest {value : ℚ} (large : 1 ≤ value) : 1 ≤ nearest value := by
  have power : 2 ^ 0 ≤ nearest value := two_pow_le_nearest (by simpa using large)
  simpa using power

theorem nearest_le_of_le {value : ℚ} {whole : Int}
    (small : value ≤ whole * 2 ^ unitExponent value) :
    nearest value ≤ whole * 2 ^ unitExponent value := by
  have positive := two_zpow_pos (unitExponent value)
  have mantissa : roundEven (value / 2 ^ unitExponent value) ≤ whole :=
    roundEven_le (by rwa [div_le_iff₀ positive])
  rw [nearest_eq]
  exact mul_le_mul_of_nonneg_right (by exact_mod_cast mantissa) positive.le

/-- More than half a unit above a multiple of the unit is rounded past it. -/
theorem lt_nearest_of_lt {value : ℚ} {whole : Int}
    (large : (whole + 1 / 2) * 2 ^ unitExponent value < value) :
    whole * 2 ^ unitExponent value < nearest value := by
  have positive := two_zpow_pos (unitExponent value)
  have mantissa : whole < roundEven (value / 2 ^ unitExponent value) :=
    lt_roundEven (by rwa [lt_div_iff₀ positive])
  rw [nearest_eq]
  exact mul_lt_mul_of_pos_right (by exact_mod_cast mantissa) positive

theorem nearest_nonpos {value : ℚ} (small : value ≤ 0) : nearest value ≤ 0 := by
  have bounded : value ≤ (0 : Int) * 2 ^ unitExponent value := by simpa using small
  simpa using nearest_le_of_le bounded

theorem nearest_nonneg {value : ℚ} (large : 0 ≤ value) : 0 ≤ nearest value := by
  have positive := two_zpow_pos (unitExponent value)
  have mantissa : (0 : Int) ≤ roundEven (value / 2 ^ unitExponent value) := by
    apply le_roundEven
    rw [Int.cast_zero]
    positivity
  rw [nearest_eq]
  exact mul_nonneg (by exact_mod_cast mantissa) positive.le

theorem nearest_pos {value : ℚ} (large : 2 ^ (-1074 : Int) ≤ value) : 0 < nearest value := by
  have positive : 0 < value := (two_zpow_pos _).trans_le large
  have unit : 2 ^ unitExponent value ≤ value := by
    rw [unitExponent, abs_of_pos positive]
    rcases max_choice (Int.log 2 value - 52) (-1074) with normal | subnormal
    · rw [normal]
      calc (2 : ℚ) ^ (Int.log 2 value - 52) ≤ 2 ^ Int.log 2 value :=
            zpow_le_zpow_right₀ (by norm_num) (by omega)
        _ ≤ value := by exact_mod_cast Int.zpow_log_le_self (by norm_num : 1 < 2) positive
    · rw [subnormal]
      exact large
  have above : ((0 : Int) + 1 / 2) * 2 ^ unitExponent value < value := by
    have half := two_zpow_pos (unitExponent value)
    push_cast
    linarith
  simpa using lt_nearest_of_lt above

theorem unitExponent_of_lt_two {value : ℚ} (large : 1 ≤ value) (small : value < 2) :
    unitExponent value = -52 := by
  have positive : 0 < value := zero_lt_one.trans_le large
  have low : 0 ≤ Int.log 2 value := by
    rw [← Int.zpow_le_iff_le_log (by norm_num : 1 < 2) positive]
    simpa using large
  have high : Int.log 2 value < 1 := by
    rw [← Int.lt_zpow_iff_log_lt (by norm_num : 1 < 2) positive]
    simpa using small
  rw [unitExponent, abs_of_pos positive]
  omega

theorem nearest_le_one {value : ℚ} (small : value ≤ 1) : nearest value ≤ 1 := by
  rcases le_or_gt value 0 with nonpositive | positive
  · exact (nearest_nonpos nonpositive).trans zero_le_one
  · have fine : unitExponent value ≤ 0 := by
      have unit := unitExponent_of_le_one (by rwa [abs_of_pos positive])
      omega
    have whole :
        (1 : ℚ) = ((2 ^ (-unitExponent value).toNat : Int) : ℚ) * 2 ^ unitExponent value := by
      rw [Int.cast_pow, Int.cast_ofNat, ← zpow_natCast, Int.toNat_of_nonneg (by omega),
        ← zpow_add₀ (by norm_num), neg_add_cancel, zpow_zero]
    have bound : nearest value ≤ ((2 ^ (-unitExponent value).toNat : Int) : ℚ) *
        2 ^ unitExponent value := nearest_le_of_le (by rwa [← whole])
    rwa [← whole] at bound

theorem abs_nearest_le {value : ℚ} (small : |value| < 2 ^ 64) : |nearest value| ≤ 2 ^ 64 := by
  have log : Int.log 2 |value| ≤ 63 := by
    rcases eq_or_ne value 0 with zero | nonzero
    · simp [zero]
    · have below := (Int.lt_zpow_iff_log_lt (by norm_num : 1 < 2) (abs_pos.mpr nonzero)).mp
        (show |value| < ((2 : Nat) : ℚ) ^ (64 : Int) by exact_mod_cast small)
      omega
  have unit : unitExponent value ≤ 11 := by
    rw [unitExponent]
    omega
  have mantissa : |(roundEven (value / 2 ^ unitExponent value) : ℚ)| ≤ 2 ^ 53 := by
    exact_mod_cast abs_roundEven_le (abs_div_unit_lt value)
  rw [nearest_eq, abs_mul, abs_of_pos (two_zpow_pos _)]
  calc |(roundEven (value / 2 ^ unitExponent value) : ℚ)| * 2 ^ unitExponent value
      ≤ 2 ^ 53 * 2 ^ (11 : Int) :=
        mul_le_mul mantissa (zpow_le_zpow_right₀ (by norm_num) unit) (two_zpow_pos _).le
          (by norm_num)
    _ = 2 ^ 64 := by norm_num

/-! ## The range -/

private theorem roundEven_le_of_lt {value : ℚ} {bound : Int} (small : value < bound + 1 / 2) :
    roundEven value ≤ bound := by
  have below : ⌊value⌋ < bound + 1 := by
    rw [Int.floor_lt]
    push_cast
    linarith
  rcases eq_or_lt_of_le (Int.lt_add_one_iff.mp below) with same | less
  · have down : roundEven value = bound := by
      rw [roundEven, same]
      apply if_pos
      simp only [Bool.or_eq_true, decide_eq_true_eq]
      exact .inl (by linarith)
    exact down.le
  · rcases roundEven_mem value with down | up <;> omega

private theorem abs_roundEven_le_of_lt {value : ℚ} {bound : Int} (small : |value| < bound + 1 / 2) :
    |roundEven value| ≤ bound := by
  rw [abs_lt] at small
  have low : -bound - 1 < roundEven value := by
    apply lt_roundEven
    push_cast
    linarith [small.1]
  have high := roundEven_le_of_lt small.2
  rw [abs_le]
  omega

private theorem unitExponent_le {value : ℚ} (small : |value| < overflow) :
    unitExponent value ≤ 971 := by
  have bound : overflow ≤ 2 ^ 1024 := by
    rw [overflow, show 1024 = 970 + 54 from rfl, pow_add]
    exact mul_le_mul_of_nonneg_left (by norm_num) (by positivity)
  rcases eq_or_ne value 0 with zero | nonzero
  · simp [unitExponent, zero]
  · have below := (Int.lt_zpow_iff_log_lt (by norm_num : 1 < 2) (abs_pos.mpr nonzero)).mp
      (show |value| < ((2 : Nat) : ℚ) ^ (1024 : Int) by exact_mod_cast small.trans_le bound)
    rw [unitExponent]
    omega

private theorem abs_nearest_lt {value : ℚ} (small : |value| < overflow) :
    |nearest value| < overflow := by
  have positive := two_zpow_pos (unitExponent value)
  rw [nearest_eq, abs_mul, abs_of_pos positive]
  rcases eq_or_lt_of_le (unitExponent_le small) with largest | less
  · have scaled : |value / 2 ^ unitExponent value| < ((2 ^ 53 - 1 : Int) : ℚ) + 1 / 2 := by
      rw [abs_div, abs_of_pos positive, div_lt_iff₀ positive, largest]
      have split : overflow = ((2 ^ 53 - 1 : Int) + 1 / 2) * 2 ^ (971 : Int) := by
        rw [overflow, show (971 : Int) = (970 : Nat) + 1 from rfl, zpow_add_one₀ (by norm_num),
          zpow_natCast]
        generalize (2 : ℚ) ^ 970 = power
        push_cast
        ring
      rwa [← split]
    have mantissa : |(roundEven (value / 2 ^ unitExponent value) : ℚ)| ≤ 2 ^ 53 - 1 := by
      exact_mod_cast abs_roundEven_le_of_lt scaled
    calc |(roundEven (value / 2 ^ unitExponent value) : ℚ)| * 2 ^ unitExponent value
        ≤ (2 ^ 53 - 1) * 2 ^ unitExponent value := mul_le_mul_of_nonneg_right mantissa positive.le
      _ = 2 ^ 970 * (2 ^ 54 - 2) := by
          rw [largest, show (971 : Int) = (970 : Nat) + 1 from rfl, zpow_add_one₀ (by norm_num),
            zpow_natCast]
          generalize (2 : ℚ) ^ 970 = power
          ring
      _ < overflow := mul_lt_mul_of_pos_left (by norm_num) (by positivity)
  · have mantissa : |(roundEven (value / 2 ^ unitExponent value) : ℚ)| ≤ 2 ^ 53 := by
      exact_mod_cast abs_roundEven_le (abs_div_unit_lt value)
    have unit : (2 : ℚ) ^ unitExponent value ≤ 2 ^ 970 := by
      rw [← zpow_natCast]
      exact zpow_le_zpow_right₀ (by norm_num) (by push_cast; omega)
    calc |(roundEven (value / 2 ^ unitExponent value) : ℚ)| * 2 ^ unitExponent value
        ≤ 2 ^ 53 * 2 ^ 970 := mul_le_mul mantissa unit positive.le (by norm_num)
      _ = 2 ^ 970 * 2 ^ 53 := mul_comm _ _
      _ < overflow := mul_lt_mul_of_pos_left (by norm_num) (by positivity)

structure Exact (value : ℚ) : Prop where
  representable : Representable value
  small : |value| < overflow

theorem exact_nearest {value : ℚ} (small : |value| < overflow) : Exact (nearest value) :=
  ⟨representable_nearest value, abs_nearest_lt small⟩

theorem exact_intCast {value : Int} (bits : |value| < 2 ^ 53) : Exact value := by
  refine ⟨⟨value, 0, bits, by norm_num, by simp⟩, ?_⟩
  have small : |(value : ℚ)| < 2 ^ 53 := by exact_mod_cast bits
  calc |(value : ℚ)| < 2 ^ 53 := small
    _ < 2 ^ 64 := by norm_num
    _ < overflow := two_pow_lt_overflow

theorem exact_zero : Exact 0 := by
  exact_mod_cast @exact_intCast 0 (by norm_num)

theorem exact_one : Exact 1 := by
  exact_mod_cast @exact_intCast 1 (by norm_num)

theorem Exact.den {value : ℚ} (exact : Exact value) : ∃ power, value.den = 2 ^ power := by
  rcases exact.representable with ⟨mantissa, exponent, -, -, same⟩
  have fraction : ∃ whole : Int, value = Rat.divInt whole (2 ^ exponent.natAbs : Nat) := by
    cases exponent with
    | ofNat power =>
        refine ⟨mantissa * 2 ^ power * 2 ^ power, ?_⟩
        rw [same, Rat.divInt_eq_div, Int.ofNat_eq_natCast, zpow_natCast, Int.natAbs_natCast]
        push_cast
        field_simp
    | negSucc power =>
        refine ⟨mantissa, ?_⟩
        rw [same, Rat.divInt_eq_div, zpow_negSucc, Int.natAbs_negSucc]
        push_cast
        rfl
  rcases fraction with ⟨whole, divided⟩
  have divides : (value.den : Int) ∣ (2 ^ exponent.natAbs : Nat) := by
    rw [divided]
    exact Rat.den_dvd _ _
  rcases (Nat.dvd_prime_pow Nat.prime_two).mp (Int.natCast_dvd_natCast.mp divides) with
    ⟨power, -, den⟩
  exact ⟨power, den⟩

theorem Exact.nearest {value : ℚ} (exact : Exact value) : nearest value = value :=
  nearest_of_representable exact.representable

end StarLens.Go.Float64
