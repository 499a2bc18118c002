import StarLens.Service.QueryPolicy

/-! # Statements as the SQL server reads them

Behind the comments a text is a list of words, quoted texts and symbols. The
verb of a statement is its first word, or the one behind its WITH list. -/

namespace StarLens.Service

open Go

/-! ## Comments -/

def skipBlank : Nat → List Char → Option (List Char)
  | 0, _ => none
  | fuel + 1, text =>
      if text.head?.any Unicode.isSpace then skipBlank fuel text.tail
      else if lineComment.isPrefixOf text then
        (Strings.after ['\n'] text).bind (skipBlank fuel)
      else if commentOpen.isPrefixOf text then
        (Strings.after commentClose (text.drop 2)).bind (skipBlank fuel)
      else some text

theorem leads_of_skipBlank {fuel : Nat} {text rest : List Char}
    (skipped : skipBlank fuel text = some rest) : Leads text rest := by
  induction fuel generalizing text with
  | zero => cases skipped
  | succ fuel induction =>
      rw [skipBlank] at skipped
      split at skipped
      case isTrue blank =>
          cases text with
          | nil => cases blank
          | cons char text => exact .space (by simpa using blank) (induction skipped)
      case isFalse notBlank =>
          split at skipped
          case isTrue line =>
              rcases Option.bind_eq_some_iff.mp skipped with ⟨next, found, skippedNext⟩
              have opening := List.isPrefixOf_iff_prefix.mp line
              exact .line ((after_line_iff opening).mp found) (induction skippedNext)
          case isFalse notLine =>
              split at skipped
              case isTrue block =>
                  rcases Option.bind_eq_some_iff.mp skipped with ⟨next, found, skippedNext⟩
                  rcases List.isPrefixOf_iff_prefix.mp block with ⟨tail, rfl⟩
                  exact .block (blockComment_iff.mpr found) (induction skippedNext)
              case isFalse notBlock =>
                  cases skipped
                  refine .word ?_ ?_ ?_
                  · intro char head
                    simpa [Option.mem_def.mp head] using notBlank
                  · exact fun isPrefix => notLine (List.isPrefixOf_iff_prefix.mpr isPrefix)
                  · exact fun isPrefix => notBlock (List.isPrefixOf_iff_prefix.mpr isPrefix)

theorem skipBlank_of_leads {text rest : List Char} (leads : Leads text rest) {fuel : Nat}
    (enough : text.length < fuel) : skipBlank fuel text = some rest := by
  induction leads generalizing fuel with
  | @space char text rest isSpace _ induction =>
      obtain ⟨fuel, rfl⟩ : ∃ less, fuel = less + 1 := ⟨fuel - 1, by omega⟩
      rw [skipBlank, if_pos (by simpa using isSpace)]
      exact induction (by simpa using enough)
  | @line text next rest comment _ induction =>
      obtain ⟨fuel, rfl⟩ : ∃ less, fuel = less + 1 := ⟨fuel - 1, by omega⟩
      have found := (after_line_iff comment.opening).mpr comment
      have less := Strings.length_after_lt (by simp) found
      have trimmed : ¬text.head?.any Unicode.isSpace := by
        rcases comment.opening with ⟨tail, rfl⟩
        exact Bool.eq_false_iff.mp rfl
      rw [skipBlank, if_neg trimmed, if_pos (List.isPrefixOf_iff_prefix.mpr comment.opening), found]
      exact induction (by omega)
  | @block text next rest comment _ induction =>
      obtain ⟨fuel, rfl⟩ : ∃ less, fuel = less + 1 := ⟨fuel - 1, by omega⟩
      have opening := comment.opening
      rcases opening with ⟨tail, rfl⟩
      have found := blockComment_iff.mp comment
      have less := Strings.length_after_lt (by simp [commentClose]) found
      simp only [commentOpen, List.cons_append, List.nil_append, List.length_cons] at enough
      have trimmed : ¬(commentOpen ++ tail).head?.any Unicode.isSpace := Bool.eq_false_iff.mp rfl
      have notLine : ¬lineComment.isPrefixOf (commentOpen ++ tail) := Bool.eq_false_iff.mp rfl
      have block : commentOpen.isPrefixOf (commentOpen ++ tail) := by simp
      rw [skipBlank, if_neg trimmed, if_neg notLine, if_pos block]
      rw [show (commentOpen ++ tail).drop 2 = tail from rfl, found]
      exact induction (by omega)
  | @word text trimmed notLine notBlock =>
      obtain ⟨fuel, rfl⟩ : ∃ less, fuel = less + 1 := ⟨fuel - 1, by omega⟩
      have notSpace : ¬text.head?.any Unicode.isSpace := by
        cases text with
        | nil => simp
        | cons char text => simp [trimmed char rfl]
      rw [skipBlank, if_neg notSpace,
        if_neg (fun line => notLine (List.isPrefixOf_iff_prefix.mp line)),
        if_neg (fun block => notBlock (List.isPrefixOf_iff_prefix.mp block))]

/-! ## Tokens -/

inductive Token
  | word (text : List Char)
  /-- A text or a name in quotes. -/
  | quoted
  | symbol (char : Char)
deriving DecidableEq

/-- The text behind a closing quote. A doubled quote stands for one, and in a
text a backslash takes the next character with it. -/
def closeQuote (quote : Char) : List Char → Option (List Char)
  | [] => none
  | [char] => if char = quote then some [] else none
  | char :: next :: rest =>
      if char = '\\' && quote != '`' then closeQuote quote rest
      else if char = quote then
        if next = quote then closeQuote quote rest else some (next :: rest)
      else closeQuote quote (next :: rest)

section Tokens

variable [UnicodeTables]

/-- Every round takes a character off. What an open quote starts is one
token. -/
def tokensFrom : Nat → List Char → List Token
  | 0, _ => []
  | fuel + 1, text =>
      match skipBlank (text.length + 1) text with
      | none | some [] => []
      | some (char :: rest) =>
          if isWordChar char then
            .word ((char :: rest).takeWhile isWordChar) ::
              tokensFrom fuel ((char :: rest).dropWhile isWordChar)
          else if char ∈ ['\'', '"', '`'] then
            .quoted :: ((closeQuote char rest).map (tokensFrom fuel)).getD []
          else .symbol char :: tokensFrom fuel rest

def tokens (text : List Char) : List Token := tokensFrom (text.length + 1) text

end Tokens

/-! ## Verbs -/

/-- Keywords are compared without regard to case. -/
def keyword (word : List Char) : String := String.ofList (word.map Char.toLower)

/-- The tokens behind the parenthesis that closes `depth` more than have been
opened. -/
def closeParens : Nat → List Token → Option (List Token)
  | _, [] => none
  | 0, .symbol ')' :: rest => some rest
  | depth + 1, .symbol ')' :: rest => closeParens depth rest
  | depth, .symbol '(' :: rest => closeParens (depth + 1) rest
  | depth, _ :: rest => closeParens depth rest

def skipColumns : List Token → Option (List Token)
  | .symbol '(' :: rest => closeParens 0 rest
  | rest => some rest

/-- `name [(columns)] AS (balanced)`, once or more with commas in between. -/
def skipList : Nat → List Token → Option (List Token)
  | 0, _ => none
  | _, [] | _, .symbol _ :: _ => none
  | fuel + 1, _ :: rest =>
      match skipColumns rest with
      | some (.word word :: .symbol '(' :: body) =>
          if keyword word = "as" then
            match closeParens 0 body with
            | some (.symbol ',' :: rest) => skipList fuel rest
            | behind => behind
          else none
      | _ => none

/-- The first word, or the one behind the WITH list. -/
def mainVerb : List Token → Option String
  | .word word :: rest =>
      if keyword word = "with" then
        match skipList rest.length rest with
        | some (.word verb :: _) => some (keyword verb)
        | _ => none
      else some (keyword word)
  | _ => none

def writeVerbs : List String := ["insert", "update", "delete"]

end StarLens.Service
