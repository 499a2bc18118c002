import StarLens.Foundation.Doubling
import StarLens.Service.RoutineLoadReads
import StarLens.Service.SqlText

/-! # Names in statements

A database name cannot be bound to a statement, it is quoted into it. Whatever
is in the name, the server reads it as one token, and as that name. -/

namespace StarLens.Service

open Foundation Go Repository

/-! ## Reading a quoted identifier -/

/-- A quoted identifier at the start of a text: its name, and the text behind
it. -/
def readIdentifier : List Char → Option (List Char × List Char)
  | '\x60' :: text => readDoubled '\x60' text
  | _ => none

private theorem toList_quoteIdentifier (name : String) :
    (quoteIdentifier name).toList = '\x60' :: (doubled '\x60' name.toList ++ ['\x60']) := by
  rw [quoteIdentifier, String.toList_ofList]
  rfl

private theorem readIdentifier_quoteIdentifier (name : String) {rest : List Char}
    (closed : rest.head? ≠ some '\x60') :
    readIdentifier ((quoteIdentifier name).toList ++ rest) = some (name.toList, rest) := by
  rw [toList_quoteIdentifier, List.cons_append, List.append_assoc]
  exact readDoubled_doubled name.toList closed

/-- Backslashes are no escapes in a name, so the server finds the same end. -/
theorem closeQuote_eq (text : List Char) :
    closeQuote '\x60' text = (readDoubled '\x60' text).map Prod.snd := by
  fun_induction readDoubled '\x60' text with
  | case1 => rfl
  | case2 => rfl
  | case3 value other => simp [closeQuote, other]
  | case4 rest induction =>
      rw [Option.map_map, closeQuote]
      simpa [Function.comp_def] using induction
  | case5 next rest different => simp [closeQuote, different]
  | case6 value next rest other induction =>
      rw [Option.map_map, closeQuote]
      simpa [other, Function.comp_def] using induction

/-! ## Tokens -/

structure Capitals (word : List Char) : Prop where
  nonempty : word ≠ []
  letters : ∀ char ∈ word, 'A' ≤ char ∧ char ≤ 'Z'

private theorem capitals_of_all {word : List Char} (nonempty : word ≠ [])
    (letters : (word.all fun char => 'A' ≤ char && char ≤ 'Z') = true) : Capitals word where
  nonempty := nonempty
  letters := by simpa using letters

private theorem not_isSpace_capital {char : Char} (low : 'A' ≤ char) (high : char ≤ 'Z') :
    Unicode.isSpace char = false := by
  have notWide : ¬ '\u2000' ≤ char := not_le.mpr (high.trans_lt (by decide))
  have apart : ∀ space ∈ ['\t', '\n', '\x0b', '\x0c', '\r', ' ', '\u0085', '\u00a0', '\u1680',
      '\u2028', '\u2029', '\u202f', '\u205f', '\u3000'], ¬('A' ≤ space ∧ space ≤ 'Z') := by
    simp only [List.forall_mem_cons, List.not_mem_nil, false_implies, implies_true, and_true]
    decide
  rw [Unicode.isSpace, Bool.or_eq_false_iff, Bool.and_eq_false_iff, decide_eq_false_iff_not,
    decide_eq_false_iff_not]
  exact ⟨fun member => apart char member ⟨low, high⟩, .inl notWide⟩

private theorem skipBlank_of_head {char : Char} (rest : List Char)
    (notSpace : Unicode.isSpace char = false) (notLine : char ≠ '-') (notBlock : char ≠ '/')
    (fuel : Nat) :
    skipBlank (fuel + 1) (char :: rest) = some (char :: rest) := by
  have line : lineComment.isPrefixOf (char :: rest) = false := by
    simp [lineComment, List.isPrefixOf, notLine.symm]
  have block : commentOpen.isPrefixOf (char :: rest) = false := by
    simp [commentOpen, List.isPrefixOf, notBlock.symm]
  rw [skipBlank]
  simp [notSpace, line, block]

section Tokens

variable [UnicodeTables]

private theorem isWordChar_capital {char : Char} (low : 'A' ≤ char) (high : char ≤ 'Z') :
    isWordChar char := by
  have latin : char ≤ '\u00ff' := high.trans (by decide)
  simp [isWordChar, Unicode.isLetter, latin, low, high]

private theorem tokensFrom_space (fuel : Nat) (text : List Char) :
    tokensFrom (fuel + 1) (' ' :: text) = tokensFrom (fuel + 1) text := by
  rw [tokensFrom, tokensFrom, skipBlank]
  rfl

private theorem tokensFrom_word {word : List Char} (capitals : Capitals word) (fuel : Nat)
    (text : List Char) :
    tokensFrom (fuel + 2) (word ++ ' ' :: text) = .word word :: tokensFrom (fuel + 1) text := by
  cases word with
  | nil => exact absurd rfl capitals.nonempty
  | cons char rest =>
      have letter := capitals.letters char List.mem_cons_self
      have words : ∀ other ∈ char :: rest, isWordChar other := fun other member =>
        isWordChar_capital (capitals.letters other member).1 (capitals.letters other member).2
      have blank : isWordChar ' ' = false := rfl
      have hyphen : char ≠ '-' := fun same => absurd (same ▸ letter.1) (by decide)
      have slash : char ≠ '/' := fun same => absurd (same ▸ letter.1) (by decide)
      have skipped := skipBlank_of_head (rest ++ ' ' :: text)
        (not_isSpace_capital letter.1 letter.2) hyphen slash
      rw [List.cons_append, tokensFrom, skipped]
      dsimp only
      rw [if_pos (words char List.mem_cons_self), ← List.cons_append,
        List.takeWhile_append_of_pos words, List.takeWhile_cons_of_neg (by simp [blank]),
        List.dropWhile_append_of_pos words, List.dropWhile_cons_of_neg (by simp [blank]),
        List.append_nil, tokensFrom_space]

private theorem tokensFrom_words {words : List (List Char)}
    (capitals : ∀ word ∈ words, Capitals word) (fuel : Nat) (text : List Char) :
    tokensFrom (words.length + fuel + 1) ((words.flatMap fun word => word ++ [' ']) ++ text) =
      words.map .word ++ tokensFrom (fuel + 1) text := by
  induction words with
  | nil => rw [List.length_nil, Nat.zero_add]; rfl
  | cons word words induction =>
      have rest := induction fun other member => capitals other (List.mem_cons_of_mem _ member)
      have enough : (word :: words).length + fuel + 1 = words.length + fuel + 2 := by
        rw [List.length_cons]
        omega
      rw [enough, List.flatMap_cons, List.append_assoc, List.append_assoc, List.singleton_append,
        tokensFrom_word (capitals word List.mem_cons_self), rest]
      rfl

private theorem tokensFrom_quoteIdentifier (fuel : Nat) (name : String) :
    tokensFrom (fuel + 1) (quoteIdentifier name).toList = [.quoted] := by
  have notSpace : Unicode.isSpace '\x60' = false := rfl
  have skipped := skipBlank_of_head (doubled '\x60' name.toList ++ ['\x60']) notSpace (by decide)
    (by decide)
  have backtick : isWordChar '\x60' = false := rfl
  have notWord : ¬isWordChar '\x60' := by simp [backtick]
  have closed : closeQuote '\x60' (doubled '\x60' name.toList ++ ['\x60']) = some [] := by
    rw [closeQuote_eq, readDoubled_doubled _ (by simp)]
    rfl
  rw [toList_quoteIdentifier, tokensFrom, skipped]
  dsimp only
  rw [if_neg notWord, if_pos (by decide), closed]
  cases fuel <;> rfl

omit [UnicodeTables] in
private theorem length_le_flatMap (words : List (List Char)) :
    words.length ≤ (words.flatMap fun word => word ++ [' ']).length := by
  induction words with
  | nil => exact Nat.le_refl 0
  | cons word words induction =>
      rw [List.flatMap_cons, List.length_append, List.length_append, List.length_cons,
        List.length_singleton]
      omega

private theorem tokens_words_quoteIdentifier {words : List (List Char)}
    (capitals : ∀ word ∈ words, Capitals word) (name : String) :
    tokens ((words.flatMap fun word => word ++ [' ']) ++ (quoteIdentifier name).toList) =
      words.map .word ++ [.quoted] := by
  have enough := length_le_flatMap words
  have fuel : ((words.flatMap fun word => word ++ [' ']) ++ (quoteIdentifier name).toList).length =
      words.length + ((words.flatMap fun word => word ++ [' ']).length - words.length +
        (quoteIdentifier name).toList.length) := by
    rw [List.length_append]
    omega
  rw [tokens, fuel, tokensFrom_words capitals, tokensFrom_quoteIdentifier]

def showRoutineLoadWords : List (List Char) :=
  ["SHOW".toList, "ALL".toList, "ROUTINE".toList, "LOAD".toList, "FROM".toList]

private theorem tokens_useStatement (database : String) :
    tokens (useStatement database).toList = [.word "USE".toList, .quoted] := by
  have fixed : "USE ".toList = ["USE".toList].flatMap fun word => word ++ [' '] := by decide
  rw [useStatement, String.toList_append, fixed, tokens_words_quoteIdentifier]
  · rfl
  · simp only [List.forall_mem_cons, List.not_mem_nil, false_implies, implies_true, and_true]
    exact capitals_of_all (by decide) (by decide)

omit [UnicodeTables] in
private theorem capitals_showRoutineLoadWords : ∀ word ∈ showRoutineLoadWords, Capitals word := by
  simp only [showRoutineLoadWords, List.forall_mem_cons, List.not_mem_nil, false_implies,
    implies_true, and_true]
  refine ⟨?_, ?_, ?_, ?_, ?_⟩
  all_goals exact capitals_of_all (by decide) (by decide)

omit [UnicodeTables] in
private theorem toList_showRoutineLoad : "SHOW ALL ROUTINE LOAD FROM ".toList =
    showRoutineLoadWords.flatMap fun word => word ++ [' '] := by
  decide +kernel

private theorem tokens_showRoutineLoadStmt (database : String) :
    tokens (showRoutineLoadStmt database).toList = showRoutineLoadWords.map .word ++ [.quoted] := by
  have same : (showRoutineLoadStmt database).toList =
      "SHOW ALL ROUTINE LOAD FROM ".toList ++ (quoteIdentifier database).toList :=
    String.toList_append
  rw [same, toList_showRoutineLoad]
  exact tokens_words_quoteIdentifier capitals_showRoutineLoadWords database

/-- The name is read back from its quotes, which end with the text, and a statement it is put
into has the tokens of the statement and one for the name. -/
theorem quoteIdentifier_one_token (name : String) :
    readIdentifier (quoteIdentifier name).toList = some (name.toList, []) ∧
      tokens (useStatement name).toList = [.word "USE".toList, .quoted] ∧
      tokens (showRoutineLoadStmt name).toList =
        showRoutineLoadWords.map .word ++ [.quoted] := by
  have read : readIdentifier ((quoteIdentifier name).toList ++ []) = some (name.toList, []) :=
    readIdentifier_quoteIdentifier name nofun
  rw [List.append_nil] at read
  exact ⟨read, tokens_useStatement name, tokens_showRoutineLoadStmt name⟩

end Tokens

end StarLens.Service
