import Mathlib.Data.String.Basic

/-! # The order of strings

Strings are compared byte by byte. On texts, which are encoded in UTF-8, this is
the order of their characters. -/

namespace StarLens.Go

def bytes (text : String) : List UInt8 :=
  text.toList.flatMap String.utf8EncodeChar

theorem cons_byte_lt_cons {left right : Nat} (isByte : right < 256) {rest rest' : List UInt8}
    (less : left < right ∨ left = right ∧ rest < rest') :
    UInt8.ofNat left :: rest < UInt8.ofNat right :: rest' := by
  rw [List.cons_lt_cons_iff]
  rcases less with less | less
  · left
    rw [UInt8.lt_iff_toNat_lt, UInt8.toNat_ofNat', UInt8.toNat_ofNat']
    omega
  · exact .inr ⟨congrArg UInt8.ofNat less.1, less.2⟩

def encodeIn (mark : Nat) : Nat → Nat → List UInt8
  | 0, code => [UInt8.ofNat (code + mark)]
  | count + 1, code => encodeIn mark count (code / 64) ++ [UInt8.ofNat (code % 64 + 128)]

private theorem encodeIn_lead (mark count code : Nat) :
    ∃ rest, encodeIn mark count code = UInt8.ofNat (code / 64 ^ count + mark) :: rest := by
  induction count generalizing code with
  | zero => exact ⟨[], by simp [encodeIn]⟩
  | succ count induction =>
      rcases induction (code / 64) with ⟨rest, lead⟩
      refine ⟨rest ++ [UInt8.ofNat (code % 64 + 128)], ?_⟩
      rw [encodeIn, lead, Nat.div_div_eq_div_mul, ← Nat.pow_succ', List.cons_append]

private theorem encodeIn_lt_of_lead {mark count left mark' count' right : Nat}
    (less : left / 64 ^ count + mark < right / 64 ^ count' + mark')
    (isByte : right / 64 ^ count' + mark' < 256) (rest rest' : List UInt8) :
    encodeIn mark count left ++ rest < encodeIn mark' count' right ++ rest' := by
  rcases encodeIn_lead mark count left with ⟨tail, lead⟩
  rcases encodeIn_lead mark' count' right with ⟨tail', lead'⟩
  rw [lead, lead', List.cons_append, List.cons_append]
  exact cons_byte_lt_cons isByte (.inl less)

private theorem encodeIn_lt {mark count left right : Nat} (less : left < right)
    (isByte : right / 64 ^ count + mark < 256) (rest rest' : List UInt8) :
    encodeIn mark count left ++ rest < encodeIn mark count right ++ rest' := by
  induction count generalizing left right rest rest' with
  | zero =>
      apply cons_byte_lt_cons
      · simpa using isByte
      · omega
  | succ count induction =>
      rw [Nat.pow_succ', ← Nat.div_div_eq_div_mul] at isByte
      rw [encodeIn, encodeIn, List.append_assoc, List.append_assoc]
      by_cases same : left / 64 = right / 64
      · rw [same]
        apply List.append_left_lt
        apply cons_byte_lt_cons
        · omega
        · omega
      · exact induction (by omega) isByte _ _

private theorem toNat_lt (char : Char) : char.toNat < 0x110000 := by
  rcases char.valid with low | high
  · exact low.trans (by decide)
  · exact high.2

private theorem utf8EncodeChar_eq (char : Char) :
    String.utf8EncodeChar char =
      if char.toNat ≤ 127 then encodeIn 0 0 char.toNat
      else if char.toNat ≤ 2047 then encodeIn 192 1 char.toNat
      else if char.toNat ≤ 65535 then encodeIn 224 2 char.toNat
      else encodeIn 240 3 char.toNat := by
  have bound := toNat_lt char
  change (if char.toNat ≤ 127 then _ else if char.toNat ≤ 2047 then _
    else if char.toNat ≤ 65535 then _ else _) = _
  split_ifs with one two three
  · rfl
  · have lead : char.toNat / 64 % 32 = char.toNat / 64 := by omega
    simp [encodeIn, lead]
  · have lead : char.toNat / 4096 % 16 = char.toNat / 64 / 64 := by omega
    simp [encodeIn, lead]
  · have lead : char.toNat / 262144 % 8 = char.toNat / 64 / 64 / 64 := by omega
    have second : char.toNat / 4096 = char.toNat / 64 / 64 := by omega
    simp [encodeIn, lead, second]

/-- What tells two characters apart is a byte of both encodings, so nothing
behind them matters. -/
theorem utf8EncodeChar_append_lt {left right : Char} (less : left < right)
    (rest rest' : List UInt8) :
    String.utf8EncodeChar left ++ rest < String.utf8EncodeChar right ++ rest' := by
  have smaller : left.toNat < right.toNat := less
  have bound := toNat_lt right
  rw [utf8EncodeChar_eq, utf8EncodeChar_eq]
  split_ifs <;> first
    | omega
    | exact encodeIn_lt smaller (by omega) rest rest'
    | exact encodeIn_lt_of_lead (by omega) (by omega) rest rest'

private theorem flatMap_utf8EncodeChar_lt {left right : List Char} (less : left < right) :
    left.flatMap String.utf8EncodeChar < right.flatMap String.utf8EncodeChar := by
  induction less with
  | @nil char rest =>
      rw [List.flatMap_nil, List.flatMap_cons]
      cases encoded : String.utf8EncodeChar char with
      | nil => exact absurd encoded String.utf8EncodeChar_ne_nil
      | cons byte tail => exact List.nil_lt_cons byte _
  | rel less =>
      rw [List.flatMap_cons, List.flatMap_cons]
      exact utf8EncodeChar_append_lt less _ _
  | cons less induction =>
      rw [List.flatMap_cons, List.flatMap_cons]
      exact List.append_left_lt induction

theorem lt_iff_bytes_lt (left right : String) : left < right ↔ bytes left < bytes right := by
  constructor
  · intro less
    exact flatMap_utf8EncodeChar_lt (String.lt_iff_toList_lt.mp less)
  · intro less
    rcases lt_trichotomy left right with before | same | after
    · exact before
    · rw [same] at less
      exact absurd less (List.lt_irrefl _)
    · have greater := flatMap_utf8EncodeChar_lt (String.lt_iff_toList_lt.mp after)
      exact absurd less (List.lt_asymm greater)

end StarLens.Go
