import Mathlib.Data.List.TakeWhile
import Mathlib.Data.String.Basic
import Mathlib.Tactic.NormNum
import Mathlib.Tactic.Ring
import StarLens.Go.Strconv

/-! # Package time

Durations are nanosecond counts; their text and the parser for it. Instants
and their differences. -/

namespace StarLens.Go

abbrev Duration := Int64

namespace Duration

/-! ## Text -/

/-- The loop of `fmtFrac`: cut `precision` low digits off `value`, dropping
trailing zeros, and put a decimal point before what was kept. -/
def fmtFrac : Nat → Nat → List Char → List Char × Nat
  | 0, value, kept => (if kept.isEmpty then [] else '.' :: kept, value)
  | precision + 1, value, kept =>
      fmtFrac precision (value / 10)
        (if kept.isEmpty && value % 10 == 0 then kept else (value % 10).digitChar :: kept)

def fmtInt (value : Nat) : List Char := Nat.toDigits 10 value

def formatMagnitude (nanos : Nat) : List Char :=
  if nanos < 1000000000 then
    if nanos = 0 then ['0', 's']
    else
      let (precision, unit) :=
        if nanos < 1000 then (0, ['n', 's'])
        else if nanos < 1000000 then (3, ['µ', 's'])
        else (6, ['m', 's'])
      let (fraction, whole) := fmtFrac precision nanos []
      fmtInt whole ++ fraction ++ unit
  else
    let (fraction, seconds) := fmtFrac 9 nanos []
    let minutes := seconds / 60
    let hours := minutes / 60
    (if 0 < hours then fmtInt hours ++ ['h'] else []) ++
      (if 0 < minutes then fmtInt (minutes % 60) ++ ['m'] else []) ++
      (fmtInt (seconds % 60) ++ fraction ++ ['s'])

def string (duration : Duration) : String :=
  String.ofList ((if duration.toInt < 0 then ['-'] else []) ++
    formatMagnitude duration.toInt.natAbs)

/-! ## Parser -/

def unitMap : List (List Char × Nat) :=
  [(['n', 's'], 1), (['u', 's'], 1000), (['\u00b5', 's'], 1000), (['\u03bc', 's'], 1000),
    (['m', 's'], 1000000), (['s'], 1000000000), (['m'], 60000000000),
    (['h'], 3600000000000)]

/-- Take one more digit behind the point into numerator and power of ten. A
digit that would overflow is skipped: it only costs precision. -/
def fractionStep : Nat × ℚ × Bool → Char → Nat × ℚ × Bool
  | (numerator, scale, overflow), digit =>
      if overflow || (2 ^ 63 - 1) / 10 < numerator then (numerator, scale, true)
      else
        let next := 10 * numerator + (digit.toNat - '0'.toNat)
        if 2 ^ 63 < next then (numerator, scale, true)
        else (next, Float64.nearest (scale * 10), false)

def leadingFraction (digits : List Char) : Nat × ℚ :=
  let (numerator, scale, _) := digits.foldl fractionStep (0, 1, false)
  (numerator, scale)

/-- The nanoseconds of a fraction of a unit, which are computed in float64. -/
def fractionNanos (numerator unit : Nat) (scale : ℚ) : Nat :=
  ⌊Float64.nearest (Float64.nearest numerator *
    Float64.nearest (Float64.nearest unit / scale))⌋.toNat

def cutFraction : List Char → List Char × List Char
  | '.' :: text => (text.takeWhile Char.isDigit, text.dropWhile Char.isDigit)
  | text => ([], text)

def isUnitChar (char : Char) : Bool := !(char == '.' || char.isDigit)

/-- Consume `[0-9]*(\.[0-9]*)?[a-z]+` terms, adding them up in a 64-bit
accumulator. Every round consumes a character, so `fuel` is the length of the
text. -/
def parseTerms : Nat → List Char → Nat → Option Nat
  | _, [], total => some total
  | 0, _ :: _, _ => none
  | fuel + 1, first :: text, total =>
      if first != '.' && !first.isDigit then none
      else
        let digits := (first :: text).takeWhile Char.isDigit
        let whole := Nat.ofDigitChars 10 digits 0
        let (decimals, rest) := cutFraction ((first :: text).dropWhile Char.isDigit)
        if 2 ^ 63 < whole then none
        else if digits.isEmpty && decimals.isEmpty then none
        else
          match unitMap.lookup (rest.takeWhile isUnitChar) with
          | none => none
          | some unit =>
              let (numerator, scale) := leadingFraction decimals
              let value :=
                if 0 < numerator then whole * unit + fractionNanos numerator unit scale
                else whole * unit
              let sum := (total + value) % 2 ^ 64
              if 2 ^ 63 / unit < whole then none
              else if 2 ^ 63 < value then none
              else if 2 ^ 63 < sum then none
              else parseTerms fuel (rest.dropWhile isUnitChar) sum

/-- `time.ParseDuration`; every failure is the same `none`. -/
def parse (text : String) : Option Duration :=
  let (negative, chars) := Strconv.cutSign text.toList
  if chars = ['0'] then some 0
  else if chars = [] then none
  else
    match parseTerms chars.length chars 0 with
    | none => none
    | some total =>
        if negative then some (Int64.ofInt (-total))
        else if 2 ^ 63 - 1 < total then none
        else some (Int64.ofInt total)

/-! ## The parser reads back the text -/

private theorem fmtFrac_spec (precision value : Nat) (kept : List Char) (cut : Nat)
    (keptDigits : ∀ char ∈ kept, char.isDigit) (keptLength : kept.length ≤ cut) :
    ∃ digits : List Char,
      fmtFrac precision value kept =
        (if digits.isEmpty then [] else '.' :: digits, value / 10 ^ precision) ∧
      (∀ char ∈ digits, char.isDigit) ∧ digits.length ≤ precision + cut ∧
      Nat.ofDigitChars 10 digits 0 * 10 ^ (precision + cut - digits.length) =
        value % 10 ^ precision * 10 ^ cut +
          Nat.ofDigitChars 10 kept 0 * 10 ^ (cut - kept.length) := by
  induction precision generalizing value kept cut with
  | zero =>
      refine ⟨kept, ?_, keptDigits, by omega, ?_⟩
      · simp [fmtFrac]
      · simp [Nat.mod_one]
  | succ precision induction =>
      rw [fmtFrac]
      have split : value % 10 ^ (precision + 1) =
          value % 10 + 10 * (value / 10 % 10 ^ precision) := by
        rw [pow_succ', Nat.mod_mul]
      have quotient : value / 10 ^ (precision + 1) = value / 10 / 10 ^ precision := by
        rw [pow_succ', Nat.div_div_eq_div_mul]
      have shift : precision + (cut + 1) = precision + 1 + cut := by omega
      by_cases skipped : kept.isEmpty && value % 10 == 0
      · rw [if_pos skipped]
        simp only [List.isEmpty_iff, Bool.and_eq_true, beq_iff_eq] at skipped
        rcases skipped with ⟨rfl, zero⟩
        rcases induction (value / 10) [] (cut + 1) (by simp) (by simp) with
          ⟨digits, text, allDigits, short, number⟩
        rw [shift] at short number
        refine ⟨digits, ?_, allDigits, short, ?_⟩
        · rw [text, quotient]
        · rw [number, split, zero]
          simp only [Nat.ofDigitChars_nil, Nat.zero_mul, Nat.add_zero, Nat.zero_add]
          ring
      · rw [if_neg skipped]
        have digitBound : value % 10 < 10 := Nat.mod_lt _ (by decide)
        rcases induction (value / 10) ((value % 10).digitChar :: kept) (cut + 1)
            (by
              intro char member
              rcases List.mem_cons.mp member with rfl | member
              · simpa [Nat.isDigit_digitChar] using digitBound
              · exact keptDigits char member)
            (by simpa using keptLength) with
          ⟨digits, text, allDigits, short, number⟩
        rw [shift] at short number
        refine ⟨digits, ?_, allDigits, short, ?_⟩
        · rw [text, quotient]
        · have room : cut + 1 - ((value % 10).digitChar :: kept).length =
              cut - kept.length := by simp
          have leading : Nat.ofDigitChars 10 ((value % 10).digitChar :: kept) 0 =
              10 ^ kept.length * (value % 10) + Nat.ofDigitChars 10 kept 0 := by
            rw [Nat.ofDigitChars_cons_digitChar_of_lt_ten digitBound,
              Nat.ofDigitChars_eq_ofDigitChars_zero]
            simp
          have power : 10 ^ cut = 10 ^ kept.length * 10 ^ (cut - kept.length) := by
            rw [← pow_add, Nat.add_sub_cancel' keptLength]
          rw [number, split, room, leading, pow_succ, power]
          ring

private theorem digit_le {char : Char} (isDigit : char.isDigit) : char.toNat - '0'.toNat ≤ 9 := by
  simp only [Char.isDigit, Bool.and_eq_true, decide_eq_true_eq] at isDigit
  have upper : char.toNat ≤ 57 := isDigit.2
  have zero : '0'.toNat = 48 := rfl
  omega

theorem nearest_natCast {value : Nat} (bits : value < 2 ^ 53) :
    Float64.nearest (value : ℚ) = value := by
  have exact : Float64.Exact ((value : Int) : ℚ) := Float64.exact_intCast (by
    rw [abs_of_nonneg (Int.natCast_nonneg _)]
    exact_mod_cast bits)
  exact exact.nearest

private theorem foldl_fractionStep (digits : List Char) (allDigits : ∀ char ∈ digits, char.isDigit)
    (numerator taken : Nat) (below : numerator < 10 ^ taken)
    (room : taken + digits.length ≤ 15) :
    digits.foldl fractionStep (numerator, 10 ^ taken, false) =
      (Nat.ofDigitChars 10 digits numerator, 10 ^ (taken + digits.length), false) := by
  induction digits generalizing numerator taken with
  | nil => simp
  | cons digit digits induction =>
      have bound := digit_le (allDigits digit (by simp))
      simp only [List.length_cons] at room
      have ceiling : 10 ^ taken ≤ 10 ^ 14 := Nat.pow_le_pow_right (by decide) (by omega)
      have scale : Float64.nearest ((10 : ℚ) ^ taken * 10) = 10 ^ (taken + 1) := by
        have exact : 10 ^ (taken + 1) < 2 ^ 53 := by
          rw [pow_succ]
          omega
        rw [← pow_succ]
        exact_mod_cast nearest_natCast exact
      have step : fractionStep (numerator, 10 ^ taken, false) digit =
          (10 * numerator + (digit.toNat - '0'.toNat), 10 ^ (taken + 1), false) := by
        have first : ¬(2 ^ 63 - 1) / 10 < numerator := by omega
        have second : ¬2 ^ 63 < 10 * numerator + (digit.toNat - '0'.toNat) := by omega
        rw [fractionStep]
        simp only [first, decide_false, Bool.or_false, Bool.false_eq_true, if_false, second, scale]
      rw [List.foldl_cons, step, induction (fun char member => allDigits char (by simp [member]))
        _ (taken + 1) (by rw [pow_succ]; omega) (by omega)]
      rw [Nat.ofDigitChars_cons, List.length_cons, Nat.add_assoc, Nat.add_comm 1]

private theorem leadingFraction_eq (digits : List Char) (allDigits : ∀ char ∈ digits, char.isDigit)
    (short : digits.length ≤ 15) :
    leadingFraction digits = (Nat.ofDigitChars 10 digits 0, 10 ^ digits.length) := by
  have taken := foldl_fractionStep digits allDigits 0 0 (by decide) (by omega)
  rw [pow_zero, Nat.zero_add] at taken
  rw [leadingFraction, taken]

private theorem fractionNanos_eq {numerator unit scale : Nat} (positive : 0 < scale)
    (whole : scale ∣ unit) (bits : unit < 2 ^ 53) (below : numerator < scale) :
    fractionNanos numerator unit scale = numerator * unit / scale := by
  rcases whole with ⟨quotient, rfl⟩
  have nonzero : (scale : ℚ) ≠ 0 := by exact_mod_cast positive.ne'
  have share : ((scale * quotient : Nat) : ℚ) / scale = quotient := by
    push_cast
    exact mul_div_cancel_left₀ _ nonzero
  have product : numerator * quotient ≤ scale * quotient := Nat.mul_le_mul_right _ below.le
  have single : quotient ≤ scale * quotient := Nat.le_mul_of_pos_left _ positive
  have factor : numerator < 2 ^ 53 ∨ quotient = 0 := by
    rcases Nat.eq_zero_or_pos quotient with zero | positive
    · exact .inr zero
    · exact .inl ((below.trans_le (Nat.le_mul_of_pos_right _ positive)).trans bits)
  have exact : Float64.nearest (Float64.nearest numerator * quotient) =
      ((numerator * quotient : Nat) : ℚ) := by
    rcases factor with small | zero
    · rw [nearest_natCast small]
      exact_mod_cast nearest_natCast (product.trans_lt bits)
    · have zeroDigits := nearest_natCast (show 0 < 2 ^ 53 by decide)
      rw [zero, Nat.mul_zero, Nat.cast_zero, mul_zero]
      simpa using zeroDigits
  rw [fractionNanos, nearest_natCast bits, share, nearest_natCast (single.trans_lt bits), exact,
    Int.floor_natCast, Int.toNat_natCast, Nat.mul_left_comm, Nat.mul_div_cancel_left _ positive]

theorem fmtInt_ne_nil (value : Nat) : fmtInt value ≠ [] := Nat.toDigits_ne_nil

theorem isDigit_of_mem_fmtInt {value : Nat} {char : Char} (member : char ∈ fmtInt value) :
    char.isDigit :=
  Nat.isDigit_of_mem_toDigits (by decide) (by decide) member

theorem fmtInt_starts (value : Nat) (rest : List Char) :
    ∀ char ∈ (fmtInt value ++ rest).head?, char.isDigit := by
  intro char member
  rw [List.head?_append_of_ne_nil _ (fmtInt_ne_nil value)] at member
  exact isDigit_of_mem_fmtInt (List.mem_of_mem_head? member)

/-! ### One term of the grammar -/

theorem takeWhile_append_stop {stops : Char → Bool} {text rest : List Char}
    (all : ∀ char ∈ text, stops char) (stop : ∀ char ∈ rest.head?, stops char = false) :
    (text ++ rest).takeWhile stops = text ∧ (text ++ rest).dropWhile stops = rest := by
  rw [List.takeWhile_append_of_pos all, List.dropWhile_append_of_pos all]
  cases rest with
  | nil => simp
  | cons char rest => simp [stop char (by simp)]

def fractionText (decimals : List Char) : List Char :=
  if decimals.isEmpty then [] else '.' :: decimals

theorem cutFraction_fractionText {decimals rest : List Char}
    (allDigits : ∀ char ∈ decimals, char.isDigit)
    (stop : ∀ char ∈ rest.head?, char.isDigit = false ∧ char ≠ '.') :
    cutFraction (fractionText decimals ++ rest) = (decimals, rest) := by
  cases decimals with
  | nil =>
      cases rest with
      | nil => rfl
      | cons char rest =>
          have notPoint := (stop char (by simp)).2
          rw [fractionText, List.isEmpty_nil, if_pos rfl, List.nil_append, cutFraction]
          intro text equal
          exact notPoint (List.cons.inj equal).1
  | cons digit decimals =>
      have cut := takeWhile_append_stop allDigits fun char member => (stop char member).1
      rw [fractionText, List.isEmpty_cons, if_neg Bool.false_ne_true, List.cons_append,
        cutFraction, cut.1, cut.2]

private theorem ofDigitChars_lt {digits : List Char} (allDigits : ∀ char ∈ digits, char.isDigit) :
    Nat.ofDigitChars 10 digits 0 < 10 ^ digits.length := by
  induction digits with
  | nil => decide
  | cons digit digits induction =>
      have bound := digit_le (allDigits digit (by simp))
      have rest := induction fun char member => allDigits char (by simp [member])
      rw [Nat.ofDigitChars_cons, Nat.ofDigitChars_eq_ofDigitChars_zero, List.length_cons, pow_succ]
      nlinarith

private theorem unitMap_lt {name : List Char} {unit : Nat}
    (known : unitMap.lookup name = some unit) :
    0 < unit ∧ unit < 2 ^ 53 := by
  have bounds : ∀ entry ∈ unitMap, 0 < entry.2 ∧ entry.2 < 2 ^ 53 := by decide
  rcases List.lookup_eq_some_iff.mp known with ⟨before, after, split, -⟩
  exact bounds (name, unit) (by rw [split]; simp)

private theorem term_nanos {whole unit : Nat} {decimals name : List Char}
    (allDigits : ∀ char ∈ decimals, char.isDigit) (known : unitMap.lookup name = some unit)
    (divides : 10 ^ decimals.length ∣ unit) :
    (if 0 < Nat.ofDigitChars 10 decimals 0 then
      whole * unit + fractionNanos (Nat.ofDigitChars 10 decimals 0) unit (10 ^ decimals.length)
      else whole * unit) =
        whole * unit + Nat.ofDigitChars 10 decimals 0 * unit / 10 ^ decimals.length := by
  have nanos := fractionNanos_eq (Nat.pow_pos (by decide)) divides (unitMap_lt known).2
    (ofDigitChars_lt allDigits)
  rw [Nat.cast_pow, Nat.cast_ofNat] at nanos
  rw [nanos]
  split
  case isTrue => rfl
  case isFalse zero => rw [Nat.eq_zero_of_not_pos zero, Nat.zero_mul, Nat.zero_div, Nat.add_zero]

theorem parseTerms_term (fuel total whole : Nat) {unit value : Nat}
    {decimals name : List Char} (rest : List Char)
    (allDigits : ∀ char ∈ decimals, char.isDigit) (short : decimals.length ≤ 9)
    (known : unitMap.lookup name = some unit) (divides : 10 ^ decimals.length ∣ unit)
    (named : name ≠ []) (unitChars : ∀ char ∈ name, isUnitChar char)
    (stop : ∀ char ∈ rest.head?, isUnitChar char = false)
    (worth : whole * unit + Nat.ofDigitChars 10 decimals 0 * unit / 10 ^ decimals.length = value)
    (bound : total + value ≤ 2 ^ 63) :
    parseTerms (fuel + 1) (fmtInt whole ++ (fractionText decimals ++ (name ++ rest))) total =
      parseTerms fuel rest (total + value) := by
  have wholeDigits : ∀ char ∈ fmtInt whole, char.isDigit :=
    fun char member => isDigit_of_mem_fmtInt member
  have unitHead : ∀ char ∈ (name ++ rest).head?, char.isDigit = false ∧ char ≠ '.' := by
    intro char member
    rw [List.head?_append_of_ne_nil _ named] at member
    have isUnit := unitChars char (List.mem_of_mem_head? member)
    simpa [isUnitChar, and_comm] using isUnit
  have fractionHead : ∀ char ∈ (fractionText decimals ++ (name ++ rest)).head?,
      char.isDigit = false := by
    intro char member
    cases decimals with
    | nil => exact (unitHead char (by simpa [fractionText] using member)).1
    | cons digit decimals =>
        simp only [fractionText, List.isEmpty_cons, Bool.false_eq_true, if_false,
          List.cons_append, List.head?_cons, Option.mem_some_iff] at member
        subst member
        rfl
  have digitsCut := takeWhile_append_stop wholeDigits fractionHead
  have fractionCut := cutFraction_fractionText allDigits unitHead
  have unitCut := takeWhile_append_stop unitChars stop
  have number : Nat.ofDigitChars 10 (fmtInt whole) 0 = whole := Nat.ofDigitChars_ten_toDigits
  have unitPositive := (unitMap_lt known).1
  have wholeBound : whole ≤ 2 ^ 63 / unit := by
    rw [Nat.le_div_iff_mul_le unitPositive]
    exact (Nat.le_add_right _ _).trans (worth.le.trans ((Nat.le_add_left _ _).trans bound))
  have wholeSmall : whole ≤ 2 ^ 63 := wholeBound.trans (Nat.div_le_self _ _)
  cases text : fmtInt whole ++ (fractionText decimals ++ (name ++ rest)) with
  | nil => simp_all
  | cons first tail =>
      rw [text] at digitsCut
      have firstDigit : first.isDigit := fmtInt_starts whole _ first (by rw [text]; rfl)
      rw [parseTerms]
      simp only [firstDigit, Bool.not_true, Bool.and_false, Bool.false_eq_true, if_false,
        digitsCut, fractionCut, unitCut, number, known,
        leadingFraction_eq decimals allDigits (by omega), term_nanos allDigits known divides, worth]
      have nonempty : (fmtInt whole).isEmpty = false := by
        simp [fmtInt_ne_nil]
      have noWrap : (total + value) % 2 ^ 64 = total + value := Nat.mod_eq_of_lt (by omega)
      rw [noWrap, nonempty, if_neg (by omega), Bool.false_and, if_neg Bool.false_ne_true,
        if_neg (by omega), if_neg (by omega), if_neg (by omega)]

theorem fmtFrac_nil (precision value : Nat) :
    ∃ digits : List Char,
      fmtFrac precision value [] = (fractionText digits, value / 10 ^ precision) ∧
      (∀ char ∈ digits, char.isDigit) ∧ digits.length ≤ precision ∧
      Nat.ofDigitChars 10 digits 0 * 10 ^ precision / 10 ^ digits.length =
        value % 10 ^ precision := by
  rcases fmtFrac_spec precision value [] 0 (by simp) (by simp) with
    ⟨digits, text, allDigits, short, number⟩
  refine ⟨digits, text, allDigits, short, ?_⟩
  simp only [Nat.add_zero, pow_zero, Nat.mul_one, Nat.ofDigitChars_nil, Nat.zero_mul]
    at number short
  have power : 10 ^ precision = 10 ^ (precision - digits.length) * 10 ^ digits.length := by
    rw [← pow_add, Nat.sub_add_cancel short]
  calc Nat.ofDigitChars 10 digits 0 * 10 ^ precision / 10 ^ digits.length
      = value % 10 ^ precision * 10 ^ digits.length / 10 ^ digits.length := by
        rw [← number, Nat.mul_assoc, ← power]
    _ = value % 10 ^ precision := Nat.mul_div_cancel _ (Nat.pow_pos (by decide))

private theorem parseTerms_nil (fuel total : Nat) : parseTerms fuel [] total = some total := by
  cases fuel <;> rfl

theorem parseTerms_subsecond (fuel nanos : Nat) {precision : Nat} {name : List Char}
    (known : unitMap.lookup name = some (10 ^ precision)) (small : precision ≤ 9)
    (named : name ≠ []) (unitChars : ∀ char ∈ name, isUnitChar char) (bound : nanos ≤ 2 ^ 63) :
    parseTerms (fuel + 1) (fmtInt (fmtFrac precision nanos []).2 ++
      (fmtFrac precision nanos []).1 ++ name) 0 = some nanos := by
  rcases fmtFrac_nil precision nanos with ⟨digits, text, allDigits, short, number⟩
  have worth : nanos / 10 ^ precision * 10 ^ precision +
      Nat.ofDigitChars 10 digits 0 * 10 ^ precision / 10 ^ digits.length = nanos := by
    rw [number]
    exact Nat.div_add_mod' nanos _
  have term := parseTerms_term fuel 0 _ [] allDigits (short.trans small) known
    (Nat.pow_dvd_pow 10 short) named unitChars (by simp) worth (by omega)
  rw [text]
  simpa [parseTerms_nil] using term

theorem parseTerms_whole {fuel whole total unit : Nat} {name : Char} {rest : List Char}
    (known : unitMap.lookup [name] = some unit)
    (unitChar : isUnitChar name) (starts : ∀ char ∈ rest.head?, char.isDigit)
    (sum : total + whole * unit ≤ 2 ^ 63) :
    parseTerms (fuel + 1) (fmtInt whole ++ [name] ++ rest) total =
      parseTerms fuel rest (total + whole * unit) := by
  have stop : ∀ char ∈ rest.head?, isUnitChar char = false := fun char member => by
    simp [isUnitChar, starts char member]
  have noDigits : ∀ char ∈ ([] : List Char), char.isDigit := List.forall_mem_nil _
  have term := parseTerms_term fuel total whole rest noDigits (Nat.zero_le 9) known
    (one_dvd unit) (by simp) (by simpa using unitChar) stop (by simp) sum
  simpa [fractionText] using term

/-- A magnitude of a second or more has a term for the seconds, and one for
the minutes and one for the hours where these are not zero. -/
theorem parseTerms_seconds {fuel nanos : Nat} (large : ¬nanos < 1000000000)
    (bound : nanos ≤ 2 ^ 63) (enough : (formatMagnitude nanos).length ≤ fuel) :
    parseTerms fuel (formatMagnitude nanos) 0 = some nanos := by
  rcases fmtFrac_nil 9 nanos with ⟨digits, text, allDigits, short, number⟩
  rw [formatMagnitude, if_neg large, text] at enough ⊢
  simp only at enough ⊢
  norm_num only at number enough ⊢
  have nonempty (value : Nat) : 0 < (fmtInt value).length :=
    List.length_pos_iff.mpr (fmtInt_ne_nil value)
  have secondsTerm (less total : Nat) (sum : total +
      (nanos / 1000000000 % 60 * 1000000000 + nanos % 1000000000) = nanos) :
      parseTerms (less + 1) (fmtInt (nanos / 1000000000 % 60) ++ fractionText digits ++ ['s'])
        total = some nanos := by
    have seconds : unitMap.lookup ['s'] = some 1000000000 := rfl
    have term := parseTerms_term less total (nanos / 1000000000 % 60) [] allDigits short seconds
      (Nat.pow_dvd_pow 10 short) (by simp) (by simp [isUnitChar]) (by simp) (by rw [number])
      (by omega)
    simpa [parseTerms_nil, sum] using term
  have secondsStart := fmtInt_starts (nanos / 1000000000 % 60) (fractionText digits ++ ['s'])
  simp only [List.length_append, List.length_cons, List.length_nil] at enough
  have someSeconds := nonempty (nanos / 1000000000 % 60)
  by_cases someMinutes : 0 < nanos / 1000000000 / 60
  · by_cases someHours : 0 < nanos / 1000000000 / 60 / 60
    · rw [if_pos someMinutes, if_pos someHours] at enough ⊢
      obtain ⟨less, rfl⟩ : ∃ less, fuel = less + 1 + 1 + 1 := ⟨fuel - 3, by
        simp only [List.length_append, List.length_cons, List.length_nil] at enough
        omega⟩
      rw [List.append_assoc, parseTerms_whole rfl (by decide)
          (by rw [List.append_assoc]; exact fmtInt_starts _ _) (by omega),
        parseTerms_whole rfl (by decide)
          (by rw [List.append_assoc]; exact secondsStart) (by omega)]
      exact secondsTerm less _ (by omega)
    · rw [if_pos someMinutes, if_neg someHours] at enough ⊢
      obtain ⟨less, rfl⟩ : ∃ less, fuel = less + 1 + 1 := ⟨fuel - 2, by
        simp only [List.length_append, List.length_cons, List.length_nil] at enough
        omega⟩
      rw [List.nil_append, parseTerms_whole rfl (by decide)
        (by rw [List.append_assoc]; exact secondsStart) (by omega)]
      exact secondsTerm less _ (by omega)
  · have noHours : ¬0 < nanos / 1000000000 / 60 / 60 := by omega
    rw [if_neg someMinutes, if_neg noHours] at enough ⊢
    obtain ⟨less, rfl⟩ : ∃ less, fuel = less + 1 := ⟨fuel - 1, by omega⟩
    simpa using secondsTerm less 0 (by omega)

theorem formatMagnitude_shape (nanos : Nat) :
    ∃ whole rest, formatMagnitude nanos = fmtInt whole ++ rest ∧ rest ≠ [] := by
  by_cases small : nanos < 1000000000
  · by_cases zero : nanos = 0
    · exact ⟨0, ['s'], by simp [formatMagnitude, zero, fmtInt], by simp⟩
    · rw [formatMagnitude, if_pos small, if_neg zero]
      by_cases nanoseconds : nanos < 1000
      · simp only [if_pos nanoseconds, List.append_assoc]
        exact ⟨_, _, rfl, by simp⟩
      · by_cases microseconds : nanos < 1000000
        · simp only [if_neg nanoseconds, if_pos microseconds, List.append_assoc]
          exact ⟨_, _, rfl, by simp⟩
        · simp only [if_neg nanoseconds, if_neg microseconds, List.append_assoc]
          exact ⟨_, _, rfl, by simp⟩
  · rw [formatMagnitude, if_neg small]
    by_cases someHours : 0 < (fmtFrac 9 nanos []).2 / 60 / 60
    · exact ⟨_, _, by simp only [if_pos someHours, List.append_assoc]; rfl, by simp⟩
    · by_cases someMinutes : 0 < (fmtFrac 9 nanos []).2 / 60
      · exact ⟨_, _, by
          simp only [if_neg someHours, if_pos someMinutes, List.append_assoc, List.nil_append]
          rfl, by simp⟩
      · exact ⟨_, _, by
          simp only [if_neg someHours, if_neg someMinutes, List.append_assoc, List.nil_append]
          rfl, by simp⟩

private theorem formatMagnitude_ends (nanos : Nat) :
    ∃ front, formatMagnitude nanos = front ++ ['s'] := by
  have unit (number : List Char) (letter : Char) :
      ∃ front, number ++ [letter, 's'] = front ++ ['s'] := ⟨number ++ [letter], by simp⟩
  by_cases small : nanos < 1000000000
  · by_cases zero : nanos = 0
    · exact ⟨['0'], by simp [formatMagnitude, zero]⟩
    · rw [formatMagnitude, if_pos small, if_neg zero]
      by_cases nanoseconds : nanos < 1000
      · simp only [if_pos nanoseconds]
        exact unit _ _
      · by_cases microseconds : nanos < 1000000
        · simp only [if_neg nanoseconds, if_pos microseconds]
          exact unit _ _
        · simp only [if_neg nanoseconds, if_neg microseconds]
          exact unit _ _
  · rw [formatMagnitude, if_neg small]
    simp only [← List.append_assoc]
    exact ⟨_, rfl⟩

private theorem parseTerms_formatMagnitude {fuel : Nat} (nanos : Nat) (bound : nanos ≤ 2 ^ 63)
    (enough : (formatMagnitude nanos).length ≤ fuel) :
    parseTerms fuel (formatMagnitude nanos) 0 = some nanos := by
  by_cases small : nanos < 1000000000
  · obtain ⟨less, rfl⟩ : ∃ less, fuel = less + 1 := ⟨fuel - 1, by
      rcases formatMagnitude_shape nanos with ⟨whole, rest, shape, someRest⟩
      rw [shape, List.length_append] at enough
      have := List.length_pos_iff.mpr someRest
      omega⟩
    rw [formatMagnitude, if_pos small]
    by_cases zero : nanos = 0
    · subst zero
      have seconds : unitMap.lookup ['s'] = some (10 ^ 9) := rfl
      have term := parseTerms_subsecond less 0 seconds (by decide) (by simp)
        (by simp [isUnitChar]) (by decide)
      simpa [fmtFrac, fmtInt] using term
    · rw [if_neg zero]
      by_cases nanoseconds : nanos < 1000
      · simp only [if_pos nanoseconds]
        have known : unitMap.lookup ['n', 's'] = some (10 ^ 0) := rfl
        exact parseTerms_subsecond less nanos known (by decide) (by simp)
          (by simp [isUnitChar]) bound
      · by_cases microseconds : nanos < 1000000
        · simp only [if_neg nanoseconds, if_pos microseconds]
          have known : unitMap.lookup ['µ', 's'] = some (10 ^ 3) := rfl
          exact parseTerms_subsecond less nanos known (by decide) (by simp)
            (by simp [isUnitChar]) bound
        · simp only [if_neg nanoseconds, if_neg microseconds]
          have known : unitMap.lookup ['m', 's'] = some (10 ^ 6) := rfl
          exact parseTerms_subsecond less nanos known (by decide) (by simp)
            (by simp [isUnitChar]) bound
  · exact parseTerms_seconds small bound enough

/-- The parser reads back every duration. -/
theorem parse_string (duration : Duration) : parse duration.string = some duration := by
  have lower := duration.le_toInt
  have upper := duration.toInt_lt
  rcases formatMagnitude_shape duration.toInt.natAbs with ⟨whole, rest, shape, someRest⟩
  have terms := parseTerms_formatMagnitude duration.toInt.natAbs (by omega) le_rfl
  cases starts : formatMagnitude duration.toInt.natAbs with
  | nil => simp [starts, someRest] at shape
  | cons digit tail =>
      have isDigit : digit.isDigit := fmtInt_starts whole rest digit (by rw [← shape, starts]; rfl)
      have notZero : digit :: tail ≠ ['0'] := by
        intro equal
        rw [← starts, shape] at equal
        have lengths := congrArg List.length equal
        have := List.length_pos_iff.mpr (fmtInt_ne_nil whole)
        have := List.length_pos_iff.mpr someRest
        simp only [List.length_append, List.length_cons, List.length_nil] at lengths
        omega
      rw [starts] at terms
      by_cases negative : duration.toInt < 0
      · have value : -(duration.toInt.natAbs : Int) = duration.toInt := by omega
        simp only [parse, string, String.toList_ofList, if_pos negative, starts,
          Strconv.cutSign, List.cons_append, List.nil_append, if_neg notZero, terms, if_true, value,
          Int64.ofInt_toInt, reduceCtorEq, if_false]
      · have value : (duration.toInt.natAbs : Int) = duration.toInt := by omega
        have fits : ¬2 ^ 63 - 1 < duration.toInt.natAbs := by omega
        simp only [parse, string, String.toList_ofList, if_neg negative, starts,
          List.nil_append, Strconv.cutSign_digit isDigit, if_neg notZero, terms,
          Bool.false_eq_true, if_false,
          if_neg fits, value, Int64.ofInt_toInt, reduceCtorEq]

theorem string_ends (duration : Duration) :
    (∃ first rest, duration.string.toList = first :: rest ∧ (first = '-' ∨ first.isDigit)) ∧
      ∃ front, duration.string.toList = front ++ ['s'] := by
  rcases formatMagnitude_shape duration.toInt.natAbs with ⟨whole, rest, shape, -⟩
  rcases formatMagnitude_ends duration.toInt.natAbs with ⟨front, ends⟩
  rw [string, String.toList_ofList]
  refine ⟨?_, ⟨_ ++ front, by rw [ends, List.append_assoc]⟩⟩
  by_cases negative : duration.toInt < 0
  · exact ⟨'-', _, by rw [if_pos negative]; rfl, .inl rfl⟩
  · rw [if_neg negative, List.nil_append, shape]
    cases digits : fmtInt whole with
    | nil => exact absurd digits (fmtInt_ne_nil whole)
    | cons digit tail =>
        have member : digit ∈ fmtInt whole := by
          rw [digits]
          exact List.mem_cons_self
        exact ⟨digit, _, rfl, .inr (isDigit_of_mem_fmtInt member)⟩

end Duration

/-! ## Instants -/

/-- The wall clock in nanoseconds since the zero time, and the monotonic reading
of a clock that gives one. -/
structure Time where
  wall : Int
  mono : Option Int := none
deriving DecidableEq

private theorem toInt_ofIntClamp (value : Int) :
    (Int64.ofIntClamp value).toInt = max (-2 ^ 63) (min value (2 ^ 63 - 1)) := by
  have minimum : Int64.minValue.toInt = -2 ^ 63 := rfl
  have maximum : Int64.maxValue.toInt = 2 ^ 63 - 1 := rfl
  rw [Int64.ofIntClamp]
  split
  case isTrue lower =>
      split
      case isTrue upper =>
          rw [Int64.toInt_ofIntLE]
          omega
      case isFalse upper =>
          rw [maximum]
          omega
  case isFalse lower =>
      rw [minimum]
      omega

namespace Time

/-- `UTC` strips the monotonic reading. -/
def utc (time : Time) : Time := { time with mono := none }

/-- `After` compares monotonic readings when both instants have one. -/
def after (time other : Time) : Bool :=
  match time.mono, other.mono with
  | some reading, some start => start < reading
  | _, _ => other.wall < time.wall

theorem after_plain (time : Time) {other : Time} (plain : other.mono = none) :
    time.after other ↔ other.wall < time.wall := by
  rw [after, plain]
  cases time.mono <;> simp

/-- `Sub` compares monotonic readings when both instants have one. A
difference out of range saturates. -/
def sub (time earlier : Time) : Duration :=
  match time.mono, earlier.mono with
  | some reading, some start => Int64.ofIntClamp (reading - start)
  | _, _ => Int64.ofIntClamp (time.wall - earlier.wall)

theorem toInt_sub_plain (time : Time) {earlier : Time} (plain : earlier.mono = none) :
    (time.sub earlier).toInt = max (-2 ^ 63) (min (time.wall - earlier.wall) (2 ^ 63 - 1)) := by
  rw [sub, plain]
  cases time.mono with
  | none => exact toInt_ofIntClamp _
  | some reading => exact toInt_ofIntClamp _

theorem sub_le_sub {time later : Time} {earlier earliest : Time} (plain : earlier.mono = none)
    (plain' : earliest.mono = none) (onwards : time.wall ≤ later.wall)
    (backwards : earliest.wall ≤ earlier.wall) :
    time.sub earlier ≤ later.sub earliest := by
  rw [Int64.le_iff_toInt_le, toInt_sub_plain _ plain, toInt_sub_plain _ plain']
  omega

end Time

end StarLens.Go
