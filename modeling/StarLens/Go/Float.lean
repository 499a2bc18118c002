import StarLens.Go.Representable

/-! # float64

What a program computes is rounded to the nearest float64. -/

namespace StarLens.Go

/-- A float64; the two zeros are one. -/
inductive Float64
  | finite (value : ℚ) (exact : Float64.Exact value)
  | inf (negative : Bool)
  | nan
deriving DecidableEq

namespace Float64

instance : Zero Float64 := ⟨.finite 0 exact_zero⟩
instance : One Float64 := ⟨.finite 1 exact_one⟩

theorem zero_eq : (0 : Float64) = .finite 0 exact_zero := rfl

def toRat? : Float64 → Option ℚ
  | finite value _ => some value
  | _ => none

def isFinite : Float64 → Bool
  | finite _ _ => true
  | _ => false

def round (value : ℚ) : Float64 :=
  if large : overflow ≤ |value| then inf (value < 0)
  else finite (nearest value) (exact_nearest (not_le.mp large))

/-- The float64 that a literal stands for; out of range there is none. -/
def ofLiteral (value : ℚ) : Option Float64 :=
  if overflow ≤ |value| then none else some (round value)

theorem round_of_lt {value : ℚ} (small : |value| < overflow) :
    round value = finite (nearest value) (exact_nearest small) :=
  dif_neg (not_le.mpr small)

theorem ofLiteral_of_lt {value : ℚ} (small : |value| < overflow) :
    ofLiteral value = some (finite (nearest value) (exact_nearest small)) := by
  rw [ofLiteral, if_neg (not_le.mpr small), round_of_lt small]

theorem ofLiteral_eq_some_iff {value : ℚ} {number : Float64} :
    ofLiteral value = some number ↔ |value| < overflow ∧ number.toRat? = some (nearest value) := by
  rw [ofLiteral, Option.ite_none_left_eq_some, not_le]
  apply and_congr_right
  intro small
  rw [round_of_lt small, Option.some.injEq]
  constructor
  · intro same
    rw [← same]
    rfl
  · intro read
    cases number with
    | finite value' exact =>
        cases read
        rfl
    | inf negative => cases read
    | nan => cases read

theorem ofLiteral_exact {value : ℚ} (exact : Exact value) :
    ofLiteral value = some (finite value exact) := by
  rw [ofLiteral_eq_some_iff]
  exact ⟨exact.small, congrArg some exact.nearest.symm⟩

theorem round_exact {value : ℚ} (exact : Exact value) : round value = finite value exact := by
  simp only [round_of_lt exact.small, exact.nearest]

def ofInt64 (value : Int64) : ℚ := nearest value.toInt

theorem abs_toInt_lt (value : Int64) : |(value.toInt : ℚ)| < 2 ^ 64 := by
  have low := value.le_toInt
  have high := value.toInt_lt
  have bound : |value.toInt| < 2 ^ 64 := by
    rw [abs_lt]
    omega
  exact_mod_cast bound

theorem abs_toInt_lt_overflow (value : Int64) : |(value.toInt : ℚ)| < overflow :=
  (abs_toInt_lt value).trans two_pow_lt_overflow

theorem round_toInt {value : Int64} {rounded : ℚ} (same : nearest value.toInt = rounded) :
    ∃ exact, round value.toInt = finite rounded exact := by
  subst same
  exact ⟨_, round_of_lt (abs_toInt_lt_overflow value)⟩

def lt : Float64 → Float64 → Bool
  | finite left _, finite right _ => left < right
  | finite _ _, inf negative => !negative
  | inf negative, finite _ _ => negative
  | inf left, inf right => left && !right
  | nan, _ => false
  | _, nan => false

def le : Float64 → Float64 → Bool
  | finite left _, finite right _ => left ≤ right
  | finite _ _, inf negative => !negative
  | inf negative, finite _ _ => negative
  | inf left, inf right => left || !right
  | nan, _ => false
  | _, nan => false

def percent : Float64 → Float64
  | finite value _ => round (value * 100)
  | other => other

def scale (factor : ℚ) : Float64 → Float64
  | finite value _ => round (value * factor)
  | other => other

/-- The conversion to an integer drops the fraction. What it makes of a value
out of range depends on the processor; this is amd64. -/
def toInt64 : Float64 → Int64
  | finite value _ =>
      let whole := if value < 0 then ⌈value⌉ else ⌊value⌋
      if -2 ^ 63 ≤ whole ∧ whole < 2 ^ 63 then Int64.ofInt whole else Int64.minValue
  | _ => Int64.minValue

end Float64

end StarLens.Go
