import StarLens.Foundation.Trim
import Mathlib.Data.Nat.Log
import Mathlib.Data.Rat.Floor

/-! # JavaScript numbers and strings

Whole numbers pass through a JavaScript program as float64 values and are
written in the fewest digits that read back as the same value. -/

namespace StarLens.Frontend

namespace Number

def divideEven (value unit : Nat) : Nat :=
  let quotient := value / unit
  let rest := value % unit
  if 2 * rest < unit || (2 * rest = unit && quotient % 2 = 0) then quotient else quotient + 1

/-- The float64 nearest to a natural number: its upper 53 bits, rounded. -/
def round (value : Nat) : Nat :=
  let unit := 2 ^ (value.log2 + 1 - 53)
  divideEven value unit * unit

def neighbours (value grid : Nat) : List Nat :=
  let nearest := divideEven value grid * grid
  if nearest ≤ value then [nearest, nearest + grid] else [nearest, nearest - grid]

/-- `Number::toString` below 1e21: the coarsest power of ten with a multiple
that reads back as the value. -/
def shortest (value : Nat) : Nat → Nat
  | 0 => value
  | digits + 1 =>
      ((neighbours value (10 ^ (digits + 1))).find? fun decimal => round decimal = value).getD
        (shortest value digits)

def signed (magnitude : Nat → Nat) (value : Int) : Int :=
  if value < 0 then -(magnitude value.natAbs) else magnitude value.natAbs

/-- The number that the literal of a whole number stands for. -/
def ofInt : Int → Int := signed round

def toInt : Int → Int := signed fun value => shortest value (Nat.log 10 value + 1)

/-! ## Small numbers -/

private theorem divideEven_one (value : Nat) : divideEven value 1 = value := by
  simp [divideEven, Nat.mod_one]

theorem round_of_lt {value : Nat} (small : value < 2 ^ 53) : round value = value := by
  have bits : value.log2 + 1 - 53 = 0 := by
    by_cases zero : value = 0
    · simp [zero]
    · have := (Nat.log2_lt zero).mpr small
      omega
  rw [round, bits, pow_zero, divideEven_one, mul_one]

theorem le_round {value : Nat} (large : 2 ^ 53 ≤ value) : 2 ^ 53 ≤ round value := by
  have zero : value ≠ 0 := by
    intro same
    subst same
    norm_num at large
  have bits : 53 ≤ value.log2 := (Nat.le_log2 zero).mpr large
  have power : 2 ^ 52 * 2 ^ (value.log2 + 1 - 53) = 2 ^ value.log2 := by
    rw [← pow_add]
    congr 1
    omega
  have quotient : 2 ^ 52 ≤ value / 2 ^ (value.log2 + 1 - 53) := by
    rw [Nat.le_div_iff_mul_le (Nat.pow_pos (by decide)), power]
    exact Nat.log2_self_le zero
  have rounded : 2 ^ 52 ≤ divideEven value (2 ^ (value.log2 + 1 - 53)) := by
    rw [divideEven]
    split
    · exact quotient
    · exact quotient.trans (Nat.le_succ _)
  calc 2 ^ 53 ≤ 2 ^ value.log2 := Nat.pow_le_pow_right (by decide) bits
    _ = 2 ^ 52 * 2 ^ (value.log2 + 1 - 53) := power.symm
    _ ≤ round value := Nat.mul_le_mul_right _ rounded

private theorem shortest_of_lt {value : Nat} (small : value < 2 ^ 53) (digits : Nat) :
    shortest value digits = value := by
  induction digits with
  | zero => rfl
  | succ digits induction =>
      rw [shortest, induction]
      cases found : (neighbours value (10 ^ (digits + 1))).find? fun decimal =>
          round decimal = value with
      | none => rfl
      | some decimal =>
          have reads : round decimal = value := by
            simpa using List.find?_some found
          by_cases large : 2 ^ 53 ≤ decimal
          · have := le_round large
            omega
          · rw [round_of_lt (Nat.lt_of_not_le large)] at reads
            exact reads

theorem toInt_ofInt {value : Int} (small : value.natAbs < 2 ^ 53) :
    toInt (ofInt value) = value := by
  have kept : ofInt value = value := by
    rw [ofInt, signed, round_of_lt small]
    split <;> omega
  rw [kept, toInt, signed, shortest_of_lt small]
  split <;> omega

end Number

def mathRound (value : ℚ) : Int := ⌊value + 1 / 2⌋

/-! ## Strings -/

def isSpace (char : Char) : Bool :=
  char ∈ ['\t', '\n', '\x0b', '\x0c', '\r', ' ', '\u00a0', '\u1680', '\u2028', '\u2029',
      '\u202f', '\u205f', '\u3000', '\ufeff'] ||
    ('\u2000' ≤ char && char ≤ '\u200a')

theorem isSpace_digit {char : Char} (digit : char.isDigit) : isSpace char = false := by
  rw [Bool.eq_false_iff]
  intro space
  simp only [isSpace, Bool.or_eq_true, decide_eq_true_eq, Bool.and_eq_true] at space
  rcases space with member | ⟨above, -⟩
  · simp only [List.mem_cons, List.not_mem_nil, or_false] at member
    rcases member with rfl | rfl | rfl | rfl | rfl | rfl | rfl | rfl | rfl | rfl | rfl | rfl | rfl |
      rfl
    all_goals exact absurd digit (by decide)
  · simp only [Char.isDigit, Bool.and_eq_true, decide_eq_true_eq] at digit
    have below : char ≤ '9' := digit.2
    exact absurd (Char.le_trans above below) (by decide)

def trim (text : String) : String :=
  String.ofList ((text.toList.dropWhile isSpace).rdropWhile isSpace)

theorem trim_eq {first last : Char} {text : String} {middle middle' : List Char}
    (starts : text.toList = first :: middle) (ends : text.toList = middle' ++ [last])
    (firstKept : isSpace first = false) (lastKept : isSpace last = false) : trim text = text := by
  have trimmed : Foundation.Trimmed isSpace isSpace text.toList := by
    constructor
    · rw [starts]
      simp [firstKept]
    · rw [ends]
      simp [lastKept]
  have kept := Foundation.trim_eq_self trimmed
  rw [Foundation.trim] at kept
  rw [trim, kept, String.ofList_toList]

end StarLens.Frontend
