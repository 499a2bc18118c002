import StarLens.Go.Representable
import StarLens.Repository.Row

/-! # Numbers in cells

The grammar of the float parser is wider than the columns' formats: it reads
`NaN` and infinities, and a capacity can leave the range of its integer. -/

namespace StarLens.Repository

open Go

/-! ## Parsed numbers -/

private theorem special_isFinite {text : List Char} {number : Float64}
    (special : Strconv.special text = some number) : number.isFinite = false := by
  unfold Strconv.special at special
  dsimp only at special
  rw [ite_eq_iff] at special
  rcases special with ⟨-, same⟩ | ⟨-, special⟩
  · rw [← Option.some.inj same]
    rfl
  · rw [ite_eq_iff] at special
    rcases special with ⟨-, same⟩ | ⟨-, impossible⟩
    · rw [← Option.some.inj same]
      rfl
    · cases impossible

theorem eq_of_toLower {char letter : Char} (same : char.toLower = letter) :
    char = letter ∨ char.val = letter.val - 32 := by
  delta Char.toLower at same
  split at same
  case isTrue upper =>
      right
      rw [← same]
      exact (UInt32.add_sub_cancel char.val 32).symm
  case isFalse => exact .inl same

private theorem readFloat_letter {first : Char} (rest : List Char)
    (letter : first.toLower = 'i' ∨ first.toLower = 'n') :
    Strconv.readFloat (first :: rest) = none := by
  have listed : first = 'i' ∨ first = 'I' ∨ first = 'n' ∨ first = 'N' := by
    rcases letter with same | same
    · rcases eq_of_toLower same with lower | upper
      · exact .inl lower
      · exact .inr (.inl (Char.ext upper))
    · rcases eq_of_toLower same with lower | upper
      · exact .inr (.inr (.inl lower))
      · exact .inr (.inr (.inr (Char.ext upper)))
  rcases listed with rfl | rfl | rfl | rfl <;>
    simp [Strconv.readFloat, Strconv.isDigitOf, Strconv.digitValue, Strconv.hexDigit]

theorem head_of_map_toLower {chars : List Char} {first : Char} {rest : List Char}
    (name : chars.map Char.toLower = first :: rest) :
    ∃ head tail, chars = head :: tail ∧ head.toLower = first := by
  cases chars with
  | nil => cases name
  | cons head tail => exact ⟨head, tail, rfl, (List.cons.inj name).1⟩

private theorem literal_of_special {text : String} {number : Float64}
    (special : Strconv.special text.toList = some number) : Strconv.literal text = none := by
  unfold Strconv.special at special
  unfold Strconv.literal
  generalize text.toList = chars at special ⊢
  dsimp only at special ⊢
  rw [Option.map_eq_none_iff]
  rw [ite_eq_iff] at special
  rcases special with ⟨infinite, -⟩ | ⟨-, special⟩
  · rw [Bool.or_eq_true, decide_eq_true_eq, decide_eq_true_eq] at infinite
    have first : ∃ head tail, (Strconv.cutSign chars).2 = head :: tail ∧ head.toLower = 'i' := by
      rcases infinite with short | long
      · exact head_of_map_toLower short
      · exact head_of_map_toLower long
    rcases first with ⟨head, tail, name, letter⟩
    rw [name]
    exact readFloat_letter tail (.inl letter)
  · rw [Option.ite_none_right_eq_some] at special
    rcases head_of_map_toLower special.1 with ⟨head, tail, rfl, letter⟩
    have unsigned : Strconv.cutSign (head :: tail) = (false, head :: tail) := by
      rcases eq_of_toLower letter with rfl | upper
      · rfl
      · rw [show head = 'N' from Char.ext upper]
        rfl
    rw [unsigned]
    exact readFloat_letter tail (.inr letter)
/-- A literal is one of the special names, or it has an exact value in range and
is the float64 nearest to it. -/
theorem parseFloat_cases {text : String} {number : Float64}
    (parsed : Strconv.parseFloat text = some number) :
    (Strconv.special text.toList = some number ∧ number.isFinite = false) ∨
      Strconv.special text.toList = none ∧
        ∃ value, Strconv.literal text = some value ∧ |value| < Float64.overflow ∧
          number.toRat? = some (Float64.nearest value) := by
  rw [Strconv.parseFloat] at parsed
  cases special : Strconv.special text.toList with
  | some value =>
      rw [special] at parsed
      have same := Option.some.inj parsed
      rw [← same]
      exact .inl ⟨rfl, special_isFinite special⟩
  | none =>
      simp only [special, Option.bind_eq_some_iff] at parsed
      rcases parsed with ⟨value, read, rounded⟩
      exact .inr ⟨rfl, value, read, Float64.ofLiteral_eq_some_iff.mp rounded⟩

private theorem parseFloat_of_literal {text : String} {value : ℚ}
    (literal : Strconv.literal text = some value) (small : |value| < Float64.overflow) :
    Strconv.parseFloat text =
      some (.finite (Float64.nearest value) (Float64.exact_nearest small)) := by
  rw [Strconv.parseFloat]
  cases special : Strconv.special text.toList with
  | some number => simp [literal_of_special special] at literal
  | none => simp only [literal, Option.bind_some, Float64.ofLiteral_of_lt small]

private theorem toRat?_of_special {text : String} {number : Float64}
    (special : Strconv.special text.toList = some number) : number.toRat? = none := by
  have infinite := special_isFinite special
  cases number with
  | finite value exact => cases infinite
  | inf negative => rfl
  | nan => rfl

def decimalValue (text : String) : Option Int :=
  let (negative, digits) := Strconv.cutSign text.toList
  if digits.isEmpty || !digits.all Char.isDigit then none
  else
    let magnitude : Int := Nat.ofDigitChars 10 digits 0
    some (if negative then -magnitude else magnitude)

private theorem decimalValue_of_parseInt {text : String} {number : Int64}
    (parsed : Strconv.parseInt text = some number) : decimalValue text = some number.toInt := by
  unfold Strconv.parseInt at parsed
  unfold decimalValue
  generalize Strconv.cutSign text.toList = cut at parsed ⊢
  rcases cut with ⟨negative, digits⟩
  dsimp only at parsed ⊢
  generalize Nat.ofDigitChars 10 digits 0 = magnitude at parsed ⊢
  rw [Option.ite_none_left_eq_some] at parsed
  rw [if_neg parsed.1]
  cases negative with
  | true =>
      rw [if_pos rfl, Option.ite_none_right_eq_some, Option.some.injEq] at parsed
      rcases parsed with ⟨-, small, same⟩
      rw [← same, if_pos rfl, Int64.toInt_ofInt_of_le (by omega) (by omega)]
  | false =>
      rw [if_neg Bool.false_ne_true, Option.ite_none_right_eq_some, Option.some.injEq] at parsed
      rcases parsed with ⟨-, small, same⟩
      rw [← same, if_neg Bool.false_ne_true, Int64.toInt_ofInt_of_le (by omega) (by omega)]

def truncate (value : ℚ) : Int := if value < 0 then ⌈value⌉ else ⌊value⌋

theorem toInt_toInt64 {value : ℚ} {exact : Float64.Exact value} (low : -2 ^ 63 ≤ truncate value)
    (high : truncate value < 2 ^ 63) :
    (Float64.toInt64 (.finite value exact)).toInt = truncate value := by
  have inside : -2 ^ 63 ≤ truncate value ∧ truncate value < 2 ^ 63 := ⟨low, high⟩
  change (if -2 ^ 63 ≤ truncate value ∧ truncate value < 2 ^ 63 then Int64.ofInt (truncate value)
    else Int64.minValue).toInt = _
  rw [if_pos inside, Int64.toInt_ofInt_of_le low high]

private theorem abs_lt_of_truncate {value : ℚ} (low : -2 ^ 63 ≤ truncate value)
    (high : truncate value < 2 ^ 63) : |value| < 2 ^ 64 := by
  rw [truncate] at low high
  rw [abs_lt]
  split at low
  case isTrue negative =>
      have below : (⌈value⌉ : ℚ) < value + 1 := Int.ceil_lt_add_one value
      have bound : (-2 ^ 63 : ℚ) ≤ ⌈value⌉ := by exact_mod_cast low
      constructor <;> linarith
  case isFalse positive =>
      rw [if_neg positive] at high
      have above : value < (⌊value⌋ : ℚ) + 1 := Int.lt_floor_add_one value
      have bound : (⌊value⌋ : ℚ) < 2 ^ 63 := by exact_mod_cast high
      constructor <;> linarith

/-! ## Columns -/

namespace Row

section Exact

variable [UnicodeTables] (row : Row) (names : List String)

theorem int64_exact {number : Int64} (read : number ∈ row.int64 names) :
    decimalValue (Strings.trimSpace (row.str names)) = some number.toInt := by
  rw [Option.mem_def, int64, Option.ite_none_left_eq_some] at read
  exact decimalValue_of_parseInt read.2

def floatText : String :=
  Strings.trimSpace (Strings.trimSpace
    (Strings.trimSuffix (Strings.trimSpace (row.str names)) "%"))

/-- A float column is missing, or the float64 nearest to its literal. -/
def Float64Exact : Prop :=
  ∀ number ∈ row.float64 names, ∃ value,
    Strconv.literal (floatText row names) = some value ∧
      number.toRat? = some (Float64.nearest value)

private theorem mem_float64 {number : Float64} :
    number ∈ row.float64 names ↔ Strconv.parseFloat (floatText row names) = some number := by
  rw [Option.mem_def, float64]
  by_cases blank : Strings.trimSpace
      (Strings.trimSuffix (Strings.trimSpace (row.str names)) "%") = ""
  · have unread : Strconv.parseFloat (Strings.trimSpace "") = none := by decide
    rw [if_pos blank, floatText, blank, unread]
  · rw [if_neg blank, floatText]

theorem float64Exact_iff :
    Float64Exact row names ↔ Strconv.special (floatText row names).toList = none := by
  simp only [Float64Exact, mem_float64]
  constructor
  · intro exact
    cases special : Strconv.special (floatText row names).toList with
    | none => rfl
    | some number =>
        have parsed : Strconv.parseFloat (floatText row names) = some number := by
          rw [Strconv.parseFloat, special]
        rcases exact number parsed with ⟨value, -, finite⟩
        rw [toRat?_of_special special] at finite
        cases finite
  · intro plain number parsed
    rcases parseFloat_cases parsed with ⟨special, -⟩ | ⟨-, value, read, -, finite⟩
    · rw [plain] at special
      cases special
    · exact ⟨value, read, finite⟩

def capacity? : Option (String × ℚ) :=
  match Strings.fields (Strings.trimSpace (row.str names)) with
  | [] => none
  | number :: units =>
      (byteUnits.lookup (Strings.toUpper (units.headD "B"))).map fun multiplier =>
        (number, multiplier)

/-- A capacity is missing, or the truncation of its value times its unit. -/
def BytesExact : Prop :=
  ∀ count ∈ row.bytes names, ∃ number multiplier value,
    capacity? row names = some (number, multiplier) ∧
      Strconv.literal number = some value ∧
        count.toInt = truncate (Float64.nearest value * multiplier)

/-- The number is none of the special names, and the product is in range. -/
def BytesFit : Prop :=
  ∀ number multiplier, capacity? row names = some (number, multiplier) →
    Strconv.special number.toList = none ∧
      ∀ value, Strconv.literal number = some value → |value| < Float64.overflow →
        -2 ^ 63 ≤ truncate (Float64.nearest value * multiplier) ∧
          truncate (Float64.nearest value * multiplier) < 2 ^ 63

private theorem mem_bytes {count : Int64} :
    count ∈ row.bytes names ↔
      ∃ number multiplier parsed, capacity? row names = some (number, multiplier) ∧
        Strconv.parseFloat number = some parsed ∧
          count = (parsed.scale multiplier).toInt64 := by
  rw [Option.mem_def, bytes, capacity?]
  cases Strings.fields (Strings.trimSpace (row.str names)) with
  | nil => simp
  | cons number units =>
      dsimp only
      cases parsed : Strconv.parseFloat number with
      | none =>
          simp only [Option.bind_eq_bind, Option.bind_none, reduceCtorEq,
            Option.map_eq_some_iff, Prod.mk.injEq, false_iff]
          intro read
          rcases read with ⟨_, _, value, ⟨multiplier, -, rfl, -⟩, read, -⟩
          rw [parsed] at read
          cases read
      | some value =>
          cases byteUnits.lookup (Strings.toUpper (units.headD "B")) with
          | none => simp
          | some multiplier => simp [parsed, eq_comm]

omit [UnicodeTables] in
private theorem byteUnits_pow {unit : String} {multiplier : ℚ}
    (found : byteUnits.lookup unit = some multiplier) : ∃ power : Nat, multiplier = 2 ^ power := by
  have powers : ∀ entry ∈ byteUnits, ∃ power : Nat, entry.2 = 2 ^ power := by
    simp only [byteUnits, List.forall_mem_cons, List.not_mem_nil, false_implies, implies_true,
      and_true]
    exact ⟨⟨0, rfl⟩, ⟨10, rfl⟩, ⟨20, rfl⟩, ⟨30, rfl⟩, ⟨40, rfl⟩, ⟨50, rfl⟩⟩
  rcases List.lookup_eq_some_iff.mp found with ⟨before, after, split, -⟩
  have member : (unit, multiplier) ∈ byteUnits := by
    rw [split]
    exact List.mem_append_right _ List.mem_cons_self
  exact powers _ member

private theorem multiplier_eq_pow {number : String} {multiplier : ℚ}
    (read : capacity? row names = some (number, multiplier)) :
    ∃ power : Nat, multiplier = 2 ^ power := by
  rw [capacity?] at read
  split at read
  · cases read
  · rcases Option.map_eq_some_iff.mp read with ⟨value, found, same⟩
    rw [← (Prod.mk.inj same).2]
    exact byteUnits_pow found

omit [UnicodeTables] in
private theorem toInt_scale {number : Float64} {value multiplier : ℚ}
    (finite : number.toRat? = some (Float64.nearest value))
    (power : ∃ power : Nat, multiplier = 2 ^ power)
    (low : -2 ^ 63 ≤ truncate (Float64.nearest value * multiplier))
    (high : truncate (Float64.nearest value * multiplier) < 2 ^ 63) :
    (number.scale multiplier).toInt64.toInt = truncate (Float64.nearest value * multiplier) := by
  rcases power with ⟨power, rfl⟩
  have small : |Float64.nearest value * 2 ^ power| < Float64.overflow :=
    (abs_lt_of_truncate low high).trans Float64.two_pow_lt_overflow
  have exact : Float64.Exact (Float64.nearest value * 2 ^ power) :=
    ⟨(Float64.representable_nearest value).mul_pow power, small⟩
  cases number with
  | finite value' exact' =>
      cases finite
      rw [Float64.scale, Float64.round_exact exact, toInt_toInt64 low high]
  | inf negative => cases finite
  | nan => cases finite

theorem bytesExact_iff : BytesExact row names ↔ BytesFit row names := by
  constructor
  · intro exact number multiplier read
    have counted {parsed : Float64} (literal : Strconv.parseFloat number = some parsed) :=
      exact _ ((mem_bytes row names).mpr ⟨number, multiplier, parsed, read, literal, rfl⟩)
    constructor
    · cases special : Strconv.special number.toList with
      | none => rfl
      | some parsed =>
          have literal : Strconv.parseFloat number = some parsed := by
            rw [Strconv.parseFloat, special]
          rcases counted literal with ⟨number', multiplier', value, read', finite, -⟩
          rw [read, Option.some.injEq, Prod.mk.injEq] at read'
          rw [← read'.1, literal_of_special special] at finite
          cases finite
    · intro value literal small
      have parsed := parseFloat_of_literal literal small
      rcases counted parsed with ⟨number', multiplier', value', read', literal', same⟩
      rw [read, Option.some.injEq, Prod.mk.injEq] at read'
      rw [← read'.1, literal, Option.some.injEq] at literal'
      rw [read'.2, literal', ← same]
      exact ⟨Int64.le_toInt _, Int64.toInt_lt _⟩
  · intro fit count read
    rcases (mem_bytes row names).mp read with ⟨number, multiplier, parsed, read, literal, same⟩
    have fits := fit number multiplier read
    rcases parseFloat_cases literal with ⟨special, -⟩ | ⟨-, value, exact, small, finite⟩
    · rw [fits.1] at special
      cases special
    · have range := fits.2 value exact small
      refine ⟨number, multiplier, value, read, exact, ?_⟩
      rw [same]
      exact toInt_scale finite (multiplier_eq_pow row names read) range.1 range.2

end Exact

end Row

end StarLens.Repository
