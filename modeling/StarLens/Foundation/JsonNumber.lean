import Mathlib.Data.String.Basic
import Mathlib.Tactic.Ring

/-! # JSON numbers

A literal has a whole mantissa, and one with a fraction or an exponent counts
units of a power of ten. -/

namespace StarLens.Foundation.JsonText

/-! ## Writing -/

def writePositional (digits : List Char) (places : Nat) : List Char :=
  if places < digits.length then
    digits.take (digits.length - places) ++ '.' :: digits.drop (digits.length - places)
  else '0' :: '.' :: (List.replicate (places - digits.length) '0' ++ digits)

def writeScientific (digits : List Char) (scale : Int) : List Char :=
  digits.take 1 ++ ((if digits.length = 1 then [] else '.' :: digits.drop 1) ++
    'e' :: (if scale < 0 then '-' else '+') :: Nat.toDigits 10 scale.natAbs)

/-- Positional between 1e-6 and 1e21. -/
def writeScaled (digits : List Char) (exponent : Int) : List Char :=
  let scale := digits.length + exponent - 1
  if exponent < 0 ∧ -6 ≤ scale ∧ scale < 21 then writePositional digits exponent.natAbs
  else writeScientific digits scale

def writeMagnitude (value : Nat) : (exponent : Option Int) → List Char
  | none => Nat.toDigits 10 value
  | some exponent => writeScaled (Nat.toDigits 10 value) exponent

def writeNumber (mantissa : Int) (exponent : Option Int) : List Char :=
  if mantissa < 0 then '-' :: writeMagnitude mantissa.natAbs exponent
  else writeMagnitude mantissa.natAbs exponent

/-! ## Reading -/

def readWhole (text : List Char) : Option (List Char × List Char) :=
  let digits := text.takeWhile Char.isDigit
  if digits = [] ∨ (digits.head? = some '0' ∧ digits.length ≠ 1) then none
  else some (digits, text.dropWhile Char.isDigit)

def readFraction (text : List Char) : Option (List Char × List Char) :=
  if text.head? = some '.' then
    let digits := text.tail.takeWhile Char.isDigit
    if digits = [] then none else some (digits, text.tail.dropWhile Char.isDigit)
  else some ([], text)

def readExponent (text : List Char) : Option (Option Int × List Char) :=
  if text.head? = some 'e' ∨ text.head? = some 'E' then
    let negative := text.tail.head? = some '-'
    let unsigned :=
      if negative ∨ text.tail.head? = some '+' then text.tail.tail else text.tail
    let digits := unsigned.takeWhile Char.isDigit
    let magnitude : Int := Nat.ofDigitChars 10 digits 0
    if digits = [] then none
    else some (some (if negative then -magnitude else magnitude), unsigned.dropWhile Char.isDigit)
  else some (none, text)

def readMagnitude (text : List Char) : Option ((Nat × Option Int) × List Char) := do
  let (whole, rest) ← readWhole text
  let (fraction, rest) ← readFraction rest
  let (exponent, rest) ← readExponent rest
  let value := Nat.ofDigitChars 10 (whole ++ fraction) 0
  if fraction = [] ∧ exponent = none then return ((value, none), rest)
  else return ((value, some (exponent.getD 0 - fraction.length)), rest)

def readNumber (text : List Char) : Option ((Int × Option Int) × List Char) :=
  if text.head? = some '-' then
    (readMagnitude text.tail).map fun ((value, exponent), rest) => ((-value, exponent), rest)
  else (readMagnitude text).map fun ((value, exponent), rest) => ((value, exponent), rest)

/-! ## Digits -/

def EndsDigits (rest : List Char) : Prop := ∀ char, rest.head? = some char → ¬char.isDigit

def EndsNumber (rest : List Char) : Prop :=
  ∀ char, rest.head? = some char → ¬char.isDigit ∧ char ∉ ['.', 'e', 'E']

theorem EndsNumber.digits {rest : List Char} (ends : EndsNumber rest) : EndsDigits rest :=
  fun char first => (ends char first).1

theorem EndsNumber.head? {rest : List Char} (ends : EndsNumber rest) :
    rest.head? ≠ some '.' ∧ rest.head? ≠ some 'e' ∧ rest.head? ≠ some 'E' := by
  refine ⟨?_, ?_, ?_⟩ <;> exact fun first => (ends _ first).2 (by decide)

theorem takeWhile_digits {digits rest : List Char} (all : ∀ char ∈ digits, char.isDigit)
    (ends : EndsDigits rest) : (digits ++ rest).takeWhile Char.isDigit = digits ∧
      (digits ++ rest).dropWhile Char.isDigit = rest := by
  rw [List.takeWhile_append_of_pos all, List.dropWhile_append_of_pos all]
  cases rest with
  | nil => simp
  | cons char rest => simp [ends char rfl]

theorem isDigit_toDigits (value : Nat) : ∀ char ∈ Nat.toDigits 10 value, char.isDigit :=
  fun _ member => Nat.isDigit_of_mem_toDigits (by decide) (by decide) member

theorem head?_toDigits (value : Nat) (positive : 0 < value) :
    (Nat.toDigits 10 value).head? ≠ some '0' := by
  induction value using Nat.strongRecOn with
  | ind value induction =>
      rw [Nat.toDigits_eq_if (by decide)]
      split
      case isTrue digit =>
          have nonzero : ∀ digit < 10, 0 < digit → Nat.digitChar digit ≠ '0' := by decide
          simpa using nonzero value digit positive
      case isFalse large =>
          have shorter := induction (value / 10) (by omega) (by omega)
          rw [List.head?_append]
          cases digits : Nat.toDigits 10 (value / 10) with
          | nil => exact absurd digits Nat.toDigits_ne_nil
          | cons head tail =>
              rw [digits] at shorter
              exact shorter

theorem ofDigitChars_replicate (zeros : Nat) (digits : List Char) :
    Nat.ofDigitChars 10 (List.replicate zeros '0' ++ digits) 0 = Nat.ofDigitChars 10 digits 0 := by
  induction zeros with
  | zero => rfl
  | succ zeros induction =>
      rw [List.replicate_succ, List.cons_append, Nat.ofDigitChars_cons]
      exact induction

structure Whole (digits : List Char) : Prop where
  all : ∀ char ∈ digits, char.isDigit
  nonempty : digits ≠ []
  proper : digits.head? = some '0' → digits.length = 1

theorem whole_toDigits (value : Nat) : Whole (Nat.toDigits 10 value) where
  all := isDigit_toDigits value
  nonempty := Nat.toDigits_ne_nil
  proper := by
    intro zero
    rcases Nat.eq_zero_or_pos value with rfl | positive
    · rfl
    · exact absurd zero (head?_toDigits value positive)

theorem Whole.length_pos {digits : List Char} (whole : Whole digits) : 0 < digits.length :=
  List.length_pos_iff.mpr whole.nonempty

theorem Whole.take {digits : List Char} (whole : Whole digits) {count : Nat}
    (positive : 0 < count) :
    Whole (digits.take count) where
  all char member := whole.all char (List.mem_of_mem_take member)
  nonempty := by
    rw [ne_eq, List.take_eq_nil_iff, not_or]
    exact ⟨by omega, whole.nonempty⟩
  proper zero := by
    rw [List.head?_take, if_neg (by omega)] at zero
    have length := whole.proper zero
    rw [List.length_take]
    omega

theorem readWhole_append {digits : List Char} (whole : Whole digits) {rest : List Char}
    (ends : EndsDigits rest) : readWhole (digits ++ rest) = some (digits, rest) := by
  have split := takeWhile_digits whole.all ends
  have proper : ¬(digits = [] ∨ (digits.head? = some '0' ∧ digits.length ≠ 1)) := by
    rw [not_or, not_and, not_not]
    exact ⟨whole.nonempty, whole.proper⟩
  simp only [readWhole, split.1, split.2, if_neg proper]

theorem readFraction_append {digits : List Char} (all : ∀ char ∈ digits, char.isDigit)
    (nonempty : digits ≠ []) {rest : List Char} (ends : EndsDigits rest) :
    readFraction ('.' :: (digits ++ rest)) = some (digits, rest) := by
  have split := takeWhile_digits all ends
  simp only [readFraction, List.head?_cons, if_true, List.tail_cons, split.1, split.2,
    if_neg nonempty]

theorem readFraction_none {rest : List Char} (other : rest.head? ≠ some '.') :
    readFraction rest = some ([], rest) := if_neg other

theorem readExponent_append (scale : Int) {rest : List Char} (ends : EndsDigits rest) :
    readExponent ('e' :: (if scale < 0 then '-' else '+') ::
      (Nat.toDigits 10 scale.natAbs ++ rest)) = some (some scale, rest) := by
  have split := takeWhile_digits (isDigit_toDigits scale.natAbs) ends
  by_cases negative : scale < 0
  · have back : -(scale.natAbs : Int) = scale := by omega
    simp only [readExponent, if_pos negative, List.head?_cons, List.tail_cons, true_or, if_true,
      split.1, split.2, if_neg Nat.toDigits_ne_nil, Nat.ofDigitChars_ten_toDigits, back]
  · have back : (scale.natAbs : Int) = scale := by omega
    simp only [readExponent, if_neg negative, List.head?_cons, List.tail_cons, true_or, or_true,
      if_true, Option.some.injEq, Char.reduceEq, if_false, split.1, split.2,
      if_neg Nat.toDigits_ne_nil, Nat.ofDigitChars_ten_toDigits, back]

theorem readExponent_none {rest : List Char} (ends : EndsNumber rest) :
    readExponent rest = some (none, rest) := by
  rw [readExponent, if_neg (not_or.mpr ends.head?.2)]

/-! ## The round trip -/

theorem readMagnitude_of_parts {text whole fraction rest behind rest' : List Char}
    {exponent : Option Int} (first : readWhole text = some (whole, rest))
    (second : readFraction rest = some (fraction, behind))
    (third : readExponent behind = some (exponent, rest'))
    (scaled : ¬(fraction = [] ∧ exponent = none)) :
    readMagnitude text = some ((Nat.ofDigitChars 10 (whole ++ fraction) 0,
      some (exponent.getD 0 - fraction.length)), rest') := by
  simp only [readMagnitude, first, second, third, bind, Option.bind_some, if_neg scaled, pure]

theorem endsDigits_cons {char : Char} (other : char.isDigit = false) (rest : List Char) :
    EndsDigits (char :: rest) := by
  intro first same
  cases same
  simp [other]

theorem readMagnitude_positional {digits : List Char} (whole : Whole digits) {places : Nat}
    (positive : 0 < places) {rest : List Char} (ends : EndsNumber rest) :
    readMagnitude (writePositional digits places ++ rest) =
      some ((Nat.ofDigitChars 10 digits 0, some (-(places : Int))), rest) := by
  have point (text : List Char) : EndsDigits ('.' :: text) := endsDigits_cons rfl text
  rw [writePositional]
  split
  case isTrue inside =>
      have behind : digits.drop (digits.length - places) ≠ [] := by
        rw [ne_eq, List.drop_eq_nil_iff]
        omega
      have length : (digits.drop (digits.length - places)).length = places := by
        rw [List.length_drop]
        omega
      rw [List.append_assoc, List.cons_append, readMagnitude_of_parts
        (readWhole_append (whole.take (by omega)) (point _))
        (readFraction_append (fun char member => whole.all char (List.mem_of_mem_drop member))
          behind ends.digits)
        (readExponent_none ends) (fun empty => behind empty.1),
        List.take_append_drop, length, Option.getD_none, zero_sub]
  case isFalse outside =>
      have zero : Whole ['0'] := whole_toDigits 0
      have all : ∀ char ∈ List.replicate (places - digits.length) '0' ++ digits, char.isDigit := by
        intro char member
        rcases List.mem_append.mp member with padding | digit
        · rw [List.eq_of_mem_replicate padding]
          rfl
        · exact whole.all char digit
      have behind : List.replicate (places - digits.length) '0' ++ digits ≠ [] :=
        List.append_ne_nil_of_right_ne_nil _ whole.nonempty
      have length : (List.replicate (places - digits.length) '0' ++ digits).length = places := by
        rw [List.length_append, List.length_replicate]
        omega
      have value := ofDigitChars_replicate (places - digits.length + 1) digits
      have read := readMagnitude_of_parts (readWhole_append zero (point _))
        (readFraction_append all behind ends.digits) (readExponent_none ends)
        (fun empty => behind empty.1)
      rw [length, Option.getD_none, zero_sub] at read
      rw [List.replicate_succ] at value
      rw [← value]
      exact read

theorem readMagnitude_scientific {digits : List Char} (whole : Whole digits) (scale : Int)
    {rest : List Char} (ends : EndsNumber rest) :
    readMagnitude (writeScientific digits scale ++ rest) =
      some ((Nat.ofDigitChars 10 digits 0, some (scale - (digits.length - 1))), rest) := by
  have exponent := readExponent_append scale ends.digits
  have positive := whole.length_pos
  have one : Whole (digits.take 1) := whole.take Nat.one_pos
  simp only [writeScientific, List.append_assoc, List.cons_append]
  split
  case isTrue single =>
      have same : digits.take 1 = digits := List.take_of_length_le (by omega)
      have read := readMagnitude_of_parts (readWhole_append one (endsDigits_cons rfl _))
        (readFraction_none (by simp)) exponent (fun empty => nomatch empty.2)
      rw [same, List.append_nil] at read
      rw [List.nil_append, same, read, single]
      simp
  case isFalse several =>
      have behind : digits.drop 1 ≠ [] := by
        rw [ne_eq, List.drop_eq_nil_iff]
        omega
      have length : ((digits.drop 1).length : Int) = digits.length - 1 := by
        rw [List.length_drop]
        omega
      have read := readMagnitude_of_parts (readWhole_append one (endsDigits_cons rfl _))
        (readFraction_append (fun char member => whole.all char (List.mem_of_mem_drop member))
          behind (endsDigits_cons rfl _)) exponent (fun empty => nomatch empty.2)
      rw [List.take_append_drop, length, Option.getD_some] at read
      exact read

theorem readMagnitude_write (value : Nat) (exponent : Option Int) {rest : List Char}
    (ends : EndsNumber rest) :
    readMagnitude (writeMagnitude value exponent ++ rest) = some ((value, exponent), rest) := by
  have whole := whole_toDigits value
  cases exponent with
  | none =>
      have read := readWhole_append whole ends.digits
      simp only [writeMagnitude, readMagnitude, read, readFraction_none ends.head?.1,
        readExponent_none ends, bind, Option.bind_some, and_self, if_true, pure, List.append_nil,
        Nat.ofDigitChars_ten_toDigits]
  | some exponent =>
      rw [writeMagnitude, writeScaled]
      split
      case isTrue positional =>
          rw [readMagnitude_positional whole (by omega) ends, Nat.ofDigitChars_ten_toDigits]
          congr 4
          omega
      case isFalse =>
          rw [readMagnitude_scientific whole _ ends, Nat.ofDigitChars_ten_toDigits]
          congr 4
          omega

theorem writeMagnitude_starts (value : Nat) (exponent : Option Int) :
    ∃ char rest, writeMagnitude value exponent = char :: rest ∧ char.isDigit := by
  have starts {digits : List Char} (whole : Whole digits) (tail : List Char) :
      ∃ char rest, digits ++ tail = char :: rest ∧ char.isDigit := by
    cases digits with
    | nil => exact absurd rfl whole.nonempty
    | cons char digits => exact ⟨char, digits ++ tail, rfl, whole.all char List.mem_cons_self⟩
  have whole := whole_toDigits value
  cases exponent with
  | none =>
      rw [writeMagnitude, ← List.append_nil (Nat.toDigits 10 value)]
      exact starts whole []
  | some exponent =>
      rw [writeMagnitude, writeScaled]
      split
      · rw [writePositional]
        split
        · exact starts (whole.take (by omega)) _
        · exact ⟨'0', _, rfl, rfl⟩
      · exact starts (whole.take Nat.one_pos) _

theorem writeNumber_starts (mantissa : Int) (exponent : Option Int) :
    ∃ char rest, writeNumber mantissa exponent = char :: rest ∧ (char.isDigit ∨ char = '-') := by
  rw [writeNumber]
  split
  · exact ⟨_, _, rfl, .inr rfl⟩
  · rcases writeMagnitude_starts mantissa.natAbs exponent with ⟨char, rest, written, digit⟩
    exact ⟨char, rest, written, .inl digit⟩

/-- A number is read back from what is written of it. -/
theorem readNumber_write (mantissa : Int) (exponent : Option Int) {rest : List Char}
    (ends : EndsNumber rest) :
    readNumber (writeNumber mantissa exponent ++ rest) = some ((mantissa, exponent), rest) := by
  have read := readMagnitude_write mantissa.natAbs exponent ends
  rw [writeNumber]
  split
  case isTrue negative =>
      have back : -(mantissa.natAbs : Int) = mantissa := by omega
      simp only [readNumber, List.cons_append, List.head?_cons, List.tail_cons, if_true, read,
        Option.map_some, back]
  case isFalse nonnegative =>
      have back : (mantissa.natAbs : Int) = mantissa := by omega
      rcases writeMagnitude_starts mantissa.natAbs exponent with ⟨char, tail, written, digit⟩
      have unsigned : (writeMagnitude mantissa.natAbs exponent ++ rest).head? ≠ some '-' := by
        rw [written]
        intro same
        cases same
        cases digit
      simp only [readNumber, if_neg unsigned, read, Option.map_some, back]

end StarLens.Foundation.JsonText
