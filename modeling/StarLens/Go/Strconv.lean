import StarLens.Go.Float
import StarLens.Go.Strings

/-! # Package strconv

Parsers for booleans, integers and floating-point numbers, and `%q`. -/

namespace StarLens.Go

namespace Strconv

def parseBool (text : String) : Option Bool :=
  if text ∈ ["1", "t", "T", "true", "TRUE", "True"] then some true
  else if text ∈ ["0", "f", "F", "false", "FALSE", "False"] then some false
  else none

def cutSign : List Char → Bool × List Char
  | '-' :: text => (true, text)
  | '+' :: text => (false, text)
  | text => (false, text)

/-- `ParseInt(text, 10, 64)`; a value out of range is an error. -/
def parseInt (text : String) : Option Int64 :=
  let (negative, digits) := cutSign text.toList
  if digits.isEmpty || !digits.all Char.isDigit then none
  else
    let magnitude := Nat.ofDigitChars 10 digits 0
    if negative then
      if magnitude ≤ 2 ^ 63 then some (Int64.ofInt (-magnitude)) else none
    else if magnitude < 2 ^ 63 then some (Int64.ofInt magnitude) else none

theorem cutSign_digit {digit : Char} {text : List Char} (isDigit : digit.isDigit) :
    cutSign (digit :: text) = (false, digit :: text) := by
  rw [cutSign]
  · intro rest equal
    rw [(List.cons.inj equal).1] at isDigit
    cases isDigit
  · intro rest equal
    rw [(List.cons.inj equal).1] at isDigit
    cases isDigit

private theorem cutSign_of_digits {digits : List Char} (all : ∀ char ∈ digits, char.isDigit) :
    cutSign digits = (false, digits) := by
  cases digits with
  | nil => rfl
  | cons head tail => exact cutSign_digit (all head List.mem_cons_self)

theorem parseInt_toString (value : Int64) : parseInt (toString value.toInt) = some value := by
  have digits (number : Nat) : ∀ char ∈ Nat.toDigits 10 number, char.isDigit := fun _ member =>
    Nat.isDigit_of_mem_toDigits (by decide) (by decide) member
  have all (number : Nat) : ((Nat.toDigits 10 number).isEmpty ||
      !(Nat.toDigits 10 number).all Char.isDigit) = false := by
    simp [List.all_eq_true.mpr (digits number), Nat.toDigits_ne_nil]
  have low := value.le_toInt
  have high := value.toInt_lt
  rw [parseInt, Int.toString_eq_repr, Int.repr_eq_if]
  by_cases nonneg : 0 ≤ value.toInt
  · have text : value.toInt.toNat.repr.toList = Nat.toDigits 10 value.toInt.toNat := by simp
    have small : value.toInt.toNat < 2 ^ 63 := by omega
    have back : (value.toInt.toNat : Int) = value.toInt := Int.toNat_of_nonneg nonneg
    rw [if_pos nonneg, text, cutSign_of_digits (digits _)]
    simp only [all, Nat.ofDigitChars_ten_toDigits, small, back, Int64.ofInt_toInt]
    rfl
  · have text : ("-" ++ (-value.toInt).toNat.repr).toList =
        '-' :: Nat.toDigits 10 (-value.toInt).toNat := by simp
    have small : (-value.toInt).toNat ≤ 2 ^ 63 := by omega
    have back : -((-value.toInt).toNat : Int) = value.toInt := by omega
    rw [if_neg nonneg, text, cutSign]
    simp only [all, Nat.ofDigitChars_ten_toDigits, small, back, Int64.ofInt_toInt]
    rfl

/-! ## Floating-point numbers -/

def hexDigit (char : Char) : Option Nat :=
  if '0' ≤ char && char ≤ '9' then some (char.toNat - '0'.toNat)
  else if 'a' ≤ char && char ≤ 'f' then some (char.toNat - 'a'.toNat + 10)
  else if 'A' ≤ char && char ≤ 'F' then some (char.toNat - 'A'.toNat + 10)
  else none

def digitValue (base : Nat) (char : Char) : Option Nat :=
  (hexDigit char).filter (· < base)

def isDigitOf (base : Nat) (char : Char) : Bool := (digitValue base char).isSome

def ofDigits (base : Nat) (digits : List Char) : Nat :=
  digits.foldl (fun value char => value * base + (digitValue base char).getD 0) 0

/-- Underscores have to stand between two digits, or behind the base prefix. -/
def underscoreOk (base : Nat) (prefixed : Bool) : List Char → Bool
  | [] => true
  | '_' :: [] => false
  | '_' :: char :: text =>
      prefixed && isDigitOf base char && underscoreOk base (isDigitOf base char) (char :: text)
  | char :: text => underscoreOk base (isDigitOf base char) text

/-- The exponent of a floating-point literal, capped as the source caps it. -/
def parseExponent (text : List Char) : Option Int :=
  let (negative, digits) := cutSign text
  let plain := digits.filter (· != '_')
  if plain.isEmpty || !plain.all Char.isDigit || digits.head? == some '_' then none
  else
    let magnitude := plain.foldl (fun value char =>
      if value < 10000 then value * 10 + (char.toNat - '0'.toNat) else value) 0
    some (if negative then -magnitude else magnitude)

/-- Digits with an optional point and exponent. A decimal exponent scales by
ten; a hexadecimal literal must have a binary one. -/
def readFloat (text : List Char) : Option ℚ :=
  let (base, body) := match text with
    | '0' :: 'x' :: body => (16, body)
    | '0' :: 'X' :: body => (16, body)
    | body => (10, body)
  let marker (char : Char) : Bool := char.toLower == if base = 16 then 'p' else 'e'
  let mantissa := body.takeWhile fun char => !marker char
  let whole := mantissa.takeWhile (· != '.')
  let decimals := (mantissa.dropWhile (· != '.')).drop 1
  let digits := (whole ++ decimals).filter (· != '_')
  let exponent := match body.dropWhile fun char => !marker char with
    | _ :: exponent => parseExponent exponent
    | [] => if base = 16 then none else some 0
  if digits.isEmpty || !digits.all (isDigitOf base) then none
  else if !underscoreOk base (base = 16) body then none
  else
    exponent.map fun exponent =>
      (ofDigits base digits : ℚ) / (base : ℚ) ^ (decimals.filter (· != '_')).length *
        (if base = 16 then 2 else 10 : ℚ) ^ exponent

def special (text : List Char) : Option Float64 :=
  let (negative, name) := cutSign text
  let lower := name.map Char.toLower
  if lower = "inf".toList || lower = "infinity".toList then some (.inf negative)
  else if text.map Char.toLower = "nan".toList then some .nan
  else none

def literal (text : String) : Option ℚ :=
  let (negative, digits) := cutSign text.toList
  (readFloat digits).map fun magnitude => if negative then -magnitude else magnitude

/-- `ParseFloat(text, 64)`; a value out of range is an error. -/
def parseFloat (text : String) : Option Float64 :=
  match special text.toList with
  | some value => some value
  | none => (literal text).bind Float64.ofLiteral

def fixed2 : Float64 → String
  | .finite value _ =>
      let hundredths := (Float64.roundEven (|value| * 100)).toNat
      (if value < 0 then "-" else "") ++ toString (hundredths / 100) ++ "." ++
        toString (hundredths / 10 % 10) ++ toString (hundredths % 10)
  | .inf false => "+Inf"
  | .inf true => "-Inf"
  | .nan => "NaN"

/-! ## Shortest decimals -/

def neighbours (value : ℚ) (places : Nat) : List Int :=
  let nearer := Float64.roundEven (value * 10 ^ places)
  [nearer, if nearer ≤ value * 10 ^ places then nearer + 1 else nearer - 1]

/-- `FormatFloat` in the fewest digits that are read back: a mantissa, and how many
of its digits stand behind the point. -/
def shortest (value : ℚ) : Int × Nat :=
  let places := Nat.log 2 value.den
  let short : Option (Int × Nat) := (List.range places).findSome? fun places =>
    ((neighbours value places).find? fun mantissa : Int =>
      Float64.ofLiteral (mantissa / 10 ^ places) = Float64.ofLiteral value).map (·, places)
  let exact : Int := value.num * (10 ^ places / value.den)
  short.getD (exact, places)

private theorem exact_places {value : ℚ} {power : Nat} (den : value.den = 2 ^ power) :
    ((value.num * (10 ^ Nat.log 2 value.den / value.den) : Int) : ℚ) / 10 ^ Nat.log 2 value.den =
      value := by
  have places : Nat.log 2 value.den = power := by rw [den, Nat.log_pow (by norm_num)]
  have factor : (10 : Int) ^ power / (2 ^ power : Nat) = 5 ^ power := by
    have ten : (10 : Int) ^ power = 5 ^ power * (2 ^ power : Nat) := by
      push_cast
      rw [← mul_pow]
      norm_num
    rw [ten, Int.mul_ediv_cancel _ (by positivity)]
  have ten : (10 : ℚ) ^ power = 5 ^ power * 2 ^ power := by
    rw [← mul_pow]
    norm_num
  have quotient : (value.num : ℚ) / 2 ^ power = value := by
    have whole := Rat.num_div_den value
    rw [den] at whole
    exact_mod_cast whole
  rw [places, den, factor, ten]
  calc ((value.num * 5 ^ power : Int) : ℚ) / (5 ^ power * 2 ^ power)
      = value.num / 2 ^ power := by
        push_cast
        field_simp
    _ = value := quotient

theorem ofLiteral_shortest {value : ℚ} (exact : Float64.Exact value) :
    Float64.ofLiteral ((shortest value).1 / 10 ^ (shortest value).2) = Float64.ofLiteral value := by
  rw [shortest]
  cases found : (List.range (Nat.log 2 value.den)).findSome? fun places =>
      ((neighbours value places).find? fun mantissa : Int =>
        Float64.ofLiteral (mantissa / 10 ^ places) = Float64.ofLiteral value).map (·, places) with
  | none =>
      rcases exact.den with ⟨power, den⟩
      rw [Option.getD_none, exact_places den]
  | some short =>
      rcases List.exists_of_findSome?_eq_some found with ⟨places, -, chosen⟩
      rcases Option.map_eq_some_iff.mp chosen with ⟨mantissa, reads, same⟩
      subst same
      simpa using List.find?_some reads

/-! ## Quoting -/

def hexText (width value : Nat) : List Char :=
  let digits := Nat.toDigits 16 value
  List.replicate (width - digits.length) '0' ++ digits

def quoteChar [UnicodeTables] (char : Char) : List Char :=
  if char = '"' || char = '\\' then ['\\', char]
  else if Unicode.isPrint char then [char]
  else if char = '\x07' then ['\\', 'a']
  else if char = '\x08' then ['\\', 'b']
  else if char = '\x0c' then ['\\', 'f']
  else if char = '\n' then ['\\', 'n']
  else if char = '\r' then ['\\', 'r']
  else if char = '\t' then ['\\', 't']
  else if char = '\x0b' then ['\\', 'v']
  else if char < ' ' || char = '\x7f' then '\\' :: 'x' :: hexText 2 char.toNat
  else if char.toNat < 0x10000 then '\\' :: 'u' :: hexText 4 char.toNat
  else '\\' :: 'U' :: hexText 8 char.toNat

def quote [UnicodeTables] (text : String) : String :=
  String.ofList ('"' :: text.toList.flatMap quoteChar ++ ['"'])

end Strconv

end StarLens.Go
