import Mathlib.Data.List.DropRight
import Mathlib.Data.String.Basic

/-! # Packages strings and unicode

Text is scanned as its list of characters. -/

namespace StarLens.Go

/-- The range tables and case tables of package unicode outside ASCII and
Latin-1. Nothing here depends on their contents, so the model is generic over
them. -/
class UnicodeTables where
  letter : Char → Bool
  digit : Char → Bool
  lower : Char → Char
  upper : Char → Char
  print : Char → Bool

@[reducible] def UnicodeTables.latin : UnicodeTables where
  letter _ := false
  digit _ := false
  lower := id
  upper := id
  print _ := false

/-- One character of each orbit under simple folding. ASCII and what folds into
it is not looked up. -/
class FoldTables where
  fold : Char → Char

namespace Unicode

def isSpace (char : Char) : Bool :=
  char ∈ ['\t', '\n', '\x0b', '\x0c', '\r', ' ', '\u0085', '\u00a0', '\u1680',
      '\u2028', '\u2029', '\u202f', '\u205f', '\u3000'] ||
    ('\u2000' ≤ char && char ≤ '\u200a')

/-- The only characters outside ASCII that fold into it are the long s and the
Kelvin sign. -/
def fold [FoldTables] (char : Char) : Char :=
  if char ≤ '\x7f' then char.toUpper
  else if char = '\u017f' then 'S'
  else if char = '\u212a' then 'K'
  else FoldTables.fold char

variable [UnicodeTables]

def isLetter (char : Char) : Bool :=
  if char ≤ '\u00ff' then
    ('a' ≤ char && char ≤ 'z') || ('A' ≤ char && char ≤ 'Z') ||
      char ∈ ['\u00aa', '\u00b5', '\u00ba'] ||
      ('\u00c0' ≤ char && char != '\u00d7' && char != '\u00f7')
  else UnicodeTables.letter char

def isDigit (char : Char) : Bool :=
  if char ≤ '\u00ff' then '0' ≤ char && char ≤ '9' else UnicodeTables.digit char

def isPrint (char : Char) : Bool :=
  if char ≤ '\u00ff' then
    (' ' ≤ char && char ≤ '~') || ('\u00a1' ≤ char && char != '\u00ad')
  else UnicodeTables.print char

def toLower (char : Char) : Char :=
  if char ≤ '\x7f' then char.toLower else UnicodeTables.lower char

def toUpper (char : Char) : Char :=
  if char ≤ '\x7f' then char.toUpper else UnicodeTables.upper char

end Unicode

namespace Strings

def trimLeftFunc (drop : Char → Bool) (text : String) : String :=
  String.ofList (text.toList.dropWhile drop)

def trimRightFunc (drop : Char → Bool) (text : String) : String :=
  String.ofList (text.toList.rdropWhile drop)

def trimRight (text cutset : String) : String :=
  trimRightFunc (· ∈ cutset.toList) text

def trimSpace (text : String) : String :=
  trimRightFunc Unicode.isSpace (trimLeftFunc Unicode.isSpace text)

def toLower [UnicodeTables] (text : String) : String :=
  String.ofList (text.toList.map Unicode.toLower)

def toUpper [UnicodeTables] (text : String) : String :=
  String.ofList (text.toList.map Unicode.toUpper)

def trimSuffix (text suffix : String) : String :=
  if suffix.toList.isSuffixOf text.toList then
    String.ofList (text.toList.take (text.length - suffix.length))
  else text

def fields (text : String) : List String :=
  ((text.toList.splitOnP Unicode.isSpace).filter fun part => !part.isEmpty).map String.ofList

def equalFold [FoldTables] (left right : String) : Bool :=
  left.toList.map Unicode.fold = right.toList.map Unicode.fold

/-- The text behind the first occurrence of a separator, `rest[idx+n:]` for
`idx = Index(rest, separator)`; `none` when the separator does not occur. -/
def after (separator : List Char) : List Char → Option (List Char)
  | [] => if separator.isEmpty then some [] else none
  | char :: text =>
      if separator.isPrefixOf (char :: text) then
        some ((char :: text).drop separator.length)
      else after separator text

def EndsAtFirst (separator before : List Char) : Prop :=
  ∀ start rest, before = start ++ rest → rest ≠ [] → ¬separator <+: rest ++ separator

theorem after_eq_some_iff {separator text rest : List Char} (nonempty : separator ≠ []) :
    after separator text = some rest ↔
      ∃ before, text = before ++ separator ++ rest ∧ EndsAtFirst separator before := by
  induction text with
  | nil => simp [after, nonempty]
  | cons char text induction =>
      rw [after]
      by_cases here : separator <+: char :: text
      · rw [if_pos (List.isPrefixOf_iff_prefix.mpr here)]
        constructor
        · intro found
          refine ⟨[], ?_, fun start tail split nonemptyTail => ?_⟩
          · rcases here with ⟨tail, split⟩
            rw [← split, List.drop_left, Option.some.injEq] at found
            rw [← split, found, List.nil_append]
          · simp_all
        · intro holds
          rcases holds with ⟨before, split, first⟩
          -- an occurrence at the very start leaves nothing before it
          have noneBefore : before = [] := by
            by_contra someBefore
            apply first [] before rfl someBefore
            apply List.prefix_of_prefix_length_le here ⟨rest, split.symm⟩
            simp
          subst noneBefore
          rw [split]
          simp
      · rw [if_neg (fun isPrefix => here (List.isPrefixOf_iff_prefix.mp isPrefix)), induction]
        constructor
        · intro holds
          rcases holds with ⟨before, rfl, first⟩
          refine ⟨char :: before, rfl, fun start tail split nonemptyTail found => ?_⟩
          cases start with
          | nil =>
              subst split
              exact here (found.trans ⟨rest, by simp⟩)
          | cons head start =>
              simp only [List.cons_append, List.cons.injEq] at split
              exact first start tail split.2 nonemptyTail found
        · intro holds
          rcases holds with ⟨before, split, first⟩
          cases before with
          | nil => exact absurd ⟨rest, by simpa using split.symm⟩ here
          | cons head before =>
              simp only [List.cons_append, List.cons.injEq] at split
              refine ⟨before, by simpa using split.2, fun start tail equal => ?_⟩
              exact first (head :: start) tail (by rw [equal, List.cons_append])

theorem length_after_lt {separator text rest : List Char} (nonempty : separator ≠ [])
    (found : after separator text = some rest) : rest.length < text.length := by
  rcases (after_eq_some_iff nonempty).mp found with ⟨before, rfl, -⟩
  have positive := List.length_pos_iff.mpr nonempty
  simp only [List.length_append]
  omega

end Strings

end StarLens.Go
