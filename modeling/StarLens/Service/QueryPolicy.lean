import StarLens.Service.Query

/-! # The read-only policy and the SQL server

The comment skipper behind the policy, compared with the way the SQL server
reads comments. -/

namespace StarLens.Service

open Go

/-! ## The server's reading

A block comment closes at the first close that starts behind its opening, so
the opening star is never the closing one. -/

def LineComment (text rest : List Char) : Prop :=
  ∃ body, text = lineComment ++ body ++ '\n' :: rest ∧ '\n' ∉ body

def BlockComment (text rest : List Char) : Prop :=
  ∃ body, text = commentOpen ++ body ++ commentClose ++ rest ∧
    Strings.EndsAtFirst commentClose body

/-- `rest` is what whitespace and comments, in any number and order, lead to. -/
inductive Leads : List Char → List Char → Prop
  | space {char text rest} : Unicode.isSpace char → Leads text rest → Leads (char :: text) rest
  | line {text next rest} : LineComment text next → Leads next rest → Leads text rest
  | block {text next rest} : BlockComment text next → Leads next rest → Leads text rest
  | word {text} : (∀ char ∈ text.head?, Unicode.isSpace char = false) →
      ¬lineComment <+: text → ¬commentOpen <+: text → Leads text text

/-- The policy as the server's reading gives it: the first word is one of the
read-only keywords. -/
def ReadsOnly [UnicodeTables] (text : List Char) : Prop :=
  ∃ rest, Leads text rest ∧
    Strings.toLower (String.ofList (rest.takeWhile isWordChar)) ∈ readOnlyKeywords

/-- `/*/`, which opens a comment and does not close it. -/
def slashOpening : List Char := commentOpen ++ ['/']

/-- One of the leading comments opens with `/*/`, and `inner` is the text
behind that opening. -/
inductive SlashOpened : List Char → List Char → Prop
  | space {char text inner} : Unicode.isSpace char → SlashOpened text inner →
      SlashOpened (char :: text) inner
  | line {text next inner} : LineComment text next → SlashOpened next inner →
      SlashOpened text inner
  | block {text next inner} : ¬slashOpening <+: text → BlockComment text next →
      SlashOpened next inner → SlashOpened text inner
  | here {inner} : SlashOpened (slashOpening ++ inner) inner

/-- Cut a text behind such openings until none is left. -/
inductive Reopened : List Char → List Char → Prop
  | intact {text} : (∀ inner, ¬SlashOpened text inner) → Reopened text text
  | cut {text inner last} : SlashOpened text inner → Reopened inner last → Reopened text last

/-! ## The skipper's rounds -/

def skip (text : List Char) : Option (List Char) := skipComments (text.length + 1) text

theorem skipComments_fuel {fuel fuel' : Nat} {text : List Char} (enough : text.length < fuel)
    (enough' : text.length < fuel') : skipComments fuel text = skipComments fuel' text := by
  induction fuel generalizing fuel' text with
  | zero => omega
  | succ fuel induction =>
      obtain ⟨fuel', rfl⟩ : ∃ less, fuel' = less + 1 := ⟨fuel' - 1, by omega⟩
      have shorter : (text.dropWhile Unicode.isSpace).length ≤ text.length :=
        (List.dropWhile_suffix _).length_le
      have next {separator rest : List Char} (nonempty : separator ≠ [])
          (found : Strings.after separator (text.dropWhile Unicode.isSpace) = some rest) :
          skipComments fuel rest = skipComments fuel' rest := by
        have less := Strings.length_after_lt nonempty found
        exact induction (by omega) (by omega)
      rw [skipComments, skipComments]
      split
      · cases found : Strings.after ['\n'] (text.dropWhile Unicode.isSpace) with
        | none => rfl
        | some rest => exact next (by simp) found
      · split
        · cases found : Strings.after commentClose (text.dropWhile Unicode.isSpace) with
          | none => rfl
          | some rest => exact next (by simp [commentClose]) found
        · rfl

abbrev Trimmed (text : List Char) : Prop := ∀ char ∈ text.head?, Unicode.isSpace char = false

private theorem trimmed_nil : Trimmed [] := by
  intro char member
  cases member

theorem trimmed_of_head {text : List Char} {char : Char} (starts : text.head? = some char)
    (kept : Unicode.isSpace char = false) : Trimmed text := by
  intro head member
  rw [← Option.some.inj (starts.symm.trans member)]
  exact kept

theorem Trimmed.dropWhile {text : List Char} (trimmed : Trimmed text) :
    text.dropWhile Unicode.isSpace = text := by
  cases text with
  | nil => rfl
  | cons char text => simp [trimmed char (by simp)]

private theorem trimmed_of_prefix {opening text : List Char} (trimmed : Trimmed opening)
    (nonempty : opening ≠ []) (isPrefix : opening <+: text) : Trimmed text := by
  rcases isPrefix with ⟨rest, rfl⟩
  intro char member
  rw [List.head?_append_of_ne_nil _ nonempty] at member
  exact trimmed char member

theorem skip_space {char : Char} (space : Unicode.isSpace char) (text : List Char) :
    skip (char :: text) = skip text := by
  have same : skipComments (text.length + 2) (char :: text) =
      skipComments (text.length + 2) text := by
    rw [skipComments, skipComments, List.dropWhile_cons_of_pos space]
  rw [skip, List.length_cons, same]
  exact skipComments_fuel (by omega) (by omega)

private theorem skip_line {text : List Char} (opening : lineComment <+: text) :
    skip text = (Strings.after ['\n'] text).bind skip := by
  have trimmed : Trimmed text :=
    trimmed_of_prefix (trimmed_of_head rfl (by decide)) (by decide) opening
  rw [skip, skipComments, trimmed.dropWhile, if_pos (List.isPrefixOf_iff_prefix.mpr opening)]
  cases found : Strings.after ['\n'] text with
  | none => rfl
  | some rest =>
      have less := Strings.length_after_lt (by simp) found
      exact skipComments_fuel (by omega) (by omega)

theorem skip_block {text : List Char} (opening : commentOpen <+: text) :
    skip text = (Strings.after commentClose text).bind skip := by
  have trimmed : Trimmed text :=
    trimmed_of_prefix (trimmed_of_head rfl (by decide)) (by decide) opening
  have notLine : ¬lineComment <+: text := by
    intro line
    rcases line with ⟨rest, rfl⟩
    rcases opening with ⟨rest', equal⟩
    simp [commentOpen, lineComment] at equal
  rw [skip, skipComments, trimmed.dropWhile,
    if_neg (fun isPrefix => notLine (List.isPrefixOf_iff_prefix.mp isPrefix)),
    if_pos (List.isPrefixOf_iff_prefix.mpr opening)]
  cases found : Strings.after commentClose text with
  | none => rfl
  | some rest =>
      have less := Strings.length_after_lt (by simp [commentClose]) found
      exact skipComments_fuel (by omega) (by omega)

theorem skip_word {text : List Char} (trimmed : Trimmed text) (notLine : ¬lineComment <+: text)
    (notBlock : ¬commentOpen <+: text) : skip text = some text := by
  rw [skip, skipComments, trimmed.dropWhile,
    if_neg (fun isPrefix => notLine (List.isPrefixOf_iff_prefix.mp isPrefix)),
    if_neg (fun isPrefix => notBlock (List.isPrefixOf_iff_prefix.mp isPrefix))]

/-! ## Where the two readings part -/

private theorem endsAtFirst_singleton {char : Char} {before : List Char} :
    Strings.EndsAtFirst [char] before ↔ char ∉ before := by
  constructor
  · intro ends member
    rcases List.append_of_mem member with ⟨start, tail, rfl⟩
    exact ends start (char :: tail) rfl (by simp) ⟨tail ++ [char], rfl⟩
  · intro absent start tail same nonempty holds
    subst same
    rcases holds with ⟨others, found⟩
    cases tail with
    | nil => exact nonempty rfl
    | cons head tail =>
        simp only [List.cons_append, List.nil_append, List.cons.injEq] at found
        exact absent (by rw [found.1]; simp)

theorem after_line_iff {text rest : List Char} (opening : lineComment <+: text) :
    Strings.after ['\n'] text = some rest ↔ LineComment text rest := by
  rw [Strings.after_eq_some_iff (by simp)]
  constructor
  · intro holds
    rcases holds with ⟨before, split, ends⟩
    rw [endsAtFirst_singleton] at ends
    rcases opening with ⟨tail, rfl⟩
    match before with
    | [] => simp [lineComment] at split
    | [first] => simp [lineComment] at split
    | first :: second :: body =>
        simp only [lineComment, List.cons_append, List.nil_append, List.append_assoc,
          List.cons.injEq] at split
        refine ⟨body, by simp [lineComment, split.2.2], fun member => ends ?_⟩
        exact List.mem_cons_of_mem _ (List.mem_cons_of_mem _ member)
  · intro holds
    rcases holds with ⟨body, rfl, absent⟩
    exact ⟨lineComment ++ body, by simp,
      endsAtFirst_singleton.mpr (by simp [lineComment, absent])⟩

/-- Searching from the comment's first character on finds the end the server
finds, unless the slash behind the opening makes it a close of its own. -/
theorem after_block_iff {text rest : List Char} (opening : commentOpen <+: text)
    (notSlash : ¬slashOpening <+: text) :
    Strings.after commentClose text = some rest ↔ BlockComment text rest := by
  rw [Strings.after_eq_some_iff (by simp [commentClose])]
  rcases opening with ⟨tail, rfl⟩
  constructor
  · intro holds
    rcases holds with ⟨before, split, ends⟩
    match before with
    | [] => simp [commentOpen, commentClose] at split
    | [first] =>
        simp only [commentOpen, commentClose, List.cons_append, List.nil_append,
          List.cons.injEq] at split
        exact absurd ⟨rest, by simp [slashOpening, commentOpen, split.2.2]⟩ notSlash
    | first :: second :: body =>
        simp only [commentOpen, List.cons_append, List.nil_append, List.append_assoc,
          List.cons.injEq] at split
        refine ⟨body, by simp [split.2.2], fun start tail' equal => ?_⟩
        exact ends (first :: second :: start) tail' (by rw [equal]; rfl)
  · intro holds
    rcases holds with ⟨body, split, ends⟩
    refine ⟨commentOpen ++ body, by simpa using split, ?_⟩
    intro start tail' equal nonempty found
    match start with
    | [] =>
        rw [List.nil_append] at equal
        subst equal
        simp [commentOpen, commentClose] at found
    | [first] =>
        simp only [commentOpen, List.cons_append, List.nil_append, List.cons.injEq] at equal
        rw [← equal.2] at found
        -- a close here would be the star of the opening and a slash
        refine notSlash (split ▸ ?_)
        rcases found with ⟨others, equal'⟩
        simp only [commentClose, List.cons_append, List.nil_append, List.cons.injEq,
          true_and] at equal'
        refine ⟨others ++ rest, ?_⟩
        have shift : '/' :: (others ++ rest) = body ++ commentClose ++ rest := by
          rw [← List.cons_append, equal']
          rfl
        simp only [slashOpening, commentOpen, List.cons_append, List.nil_append]
        rw [shift]
    | first :: second :: start =>
        simp only [commentOpen, List.cons_append, List.nil_append, List.cons.injEq] at equal
        exact ends start tail' equal.2.2 nonempty found

private theorem after_slash (inner : List Char) :
    Strings.after commentClose (slashOpening ++ inner) = some inner := by
  simp [slashOpening, commentOpen, commentClose, Strings.after, List.isPrefixOf]

theorem LineComment.opening {text rest : List Char} (comment : LineComment text rest) :
    lineComment <+: text := by
  rcases comment with ⟨body, rfl, -⟩
  exact ⟨body ++ '\n' :: rest, by simp⟩

theorem BlockComment.opening {text rest : List Char} (comment : BlockComment text rest) :
    commentOpen <+: text := by
  rcases comment with ⟨body, rfl, -⟩
  exact ⟨body ++ (commentClose ++ rest), by simp⟩

theorem LineComment.skip {text rest : List Char} (comment : LineComment text rest) :
    skip text = skip rest := by
  rw [skip_line comment.opening, (after_line_iff comment.opening).mpr comment]
  rfl

theorem BlockComment.skip {text rest : List Char} (comment : BlockComment text rest)
    (notSlash : ¬slashOpening <+: text) : skip text = skip rest := by
  rw [skip_block comment.opening, (after_block_iff comment.opening notSlash).mpr comment]
  rfl

theorem SlashOpened.skip {text inner : List Char} (opened : SlashOpened text inner) :
    skip text = skip inner := by
  induction opened with
  | space isSpace _ induction => rw [skip_space isSpace, induction]
  | line comment _ induction => rw [comment.skip, induction]
  | block notSlash comment _ induction => rw [comment.skip notSlash, induction]
  | @here inner =>
      have opening : commentOpen <+: slashOpening ++ inner := ⟨'/' :: inner, rfl⟩
      rw [skip_block opening, after_slash]
      rfl

theorem SlashOpened.shorter {text inner : List Char} (opened : SlashOpened text inner) :
    inner.length < text.length := by
  induction opened with
  | space _ _ induction => exact Nat.lt_succ_of_lt induction
  | line comment _ induction =>
      rcases comment with ⟨body, rfl, -⟩
      simp only [List.length_append, List.length_cons]
      omega
  | block _ comment _ induction =>
      rcases comment with ⟨body, rfl, -⟩
      simp only [List.length_append]
      omega
  | here =>
      rw [List.length_append]
      exact Nat.lt_add_of_pos_left (by decide)

private theorem not_slashOpening {text : List Char} (intact : ∀ inner, ¬SlashOpened text inner) :
    ¬slashOpening <+: text := by
  intro opening
  rcases opening with ⟨inner, rfl⟩
  exact intact inner .here

private theorem skip_of_leads {text rest : List Char} (leads : Leads text rest)
    (intact : ∀ inner, ¬SlashOpened text inner) : skip text = some rest := by
  induction leads with
  | space isSpace _ induction =>
      rw [skip_space isSpace]
      exact induction fun inner opened => intact inner (.space isSpace opened)
  | line comment _ induction =>
      rw [comment.skip]
      exact induction fun inner opened => intact inner (.line comment opened)
  | @block text next rest comment _ induction =>
      have notSlash := not_slashOpening intact
      rw [comment.skip notSlash]
      exact induction fun inner opened => intact inner (.block notSlash comment opened)
  | word trimmed notLine notBlock => exact skip_word trimmed notLine notBlock

private theorem leads_of_skip {text rest : List Char} (skipped : skip text = some rest)
    (intact : ∀ inner, ¬SlashOpened text inner) : Leads text rest := by
  induction length : text.length using Nat.strong_induction_on generalizing text with
  | _ bound induction =>
      subst length
      have further {next : List Char} (found : skip next = some rest)
          (less : next.length < text.length)
          (open' : ∀ inner, SlashOpened next inner → SlashOpened text inner) : Leads next rest :=
        induction next.length less found (fun inner opened => intact inner (open' inner opened)) rfl
      by_cases line : lineComment <+: text
      · rw [skip_line line] at skipped
        rcases Option.bind_eq_some_iff.mp skipped with ⟨next, found, skippedNext⟩
        have comment := (after_line_iff line).mp found
        exact .line comment (further skippedNext (Strings.length_after_lt (by simp) found)
          fun inner opened => .line comment opened)
      · by_cases block : commentOpen <+: text
        · have notSlash := not_slashOpening intact
          rw [skip_block block] at skipped
          rcases Option.bind_eq_some_iff.mp skipped with ⟨next, found, skippedNext⟩
          have comment := (after_block_iff block notSlash).mp found
          exact .block comment (further skippedNext
            (Strings.length_after_lt (by simp [commentClose]) found)
            fun inner opened => .block notSlash comment opened)
        · cases text with
          | nil =>
              rw [skip_word trimmed_nil line block] at skipped
              rw [← Option.some.inj skipped]
              exact .word trimmed_nil line block
          | cons char text =>
              by_cases isSpace : Unicode.isSpace char
              · rw [skip_space isSpace] at skipped
                exact .space isSpace (further skipped (Nat.lt_succ_self _)
                  fun inner opened => .space isSpace opened)
              · have trimmed : Trimmed (char :: text) := by
                  intro head member
                  rw [← Option.some.inj member]
                  simpa using isSpace
                rw [skip_word trimmed line block] at skipped
                rw [← Option.some.inj skipped]
                exact .word trimmed line block

/-- The skipper reads a text as the server reads it cut behind every opening
`/*/`. -/
theorem Reopened.skip_iff {text last rest : List Char} (reopened : Reopened text last) :
    skip text = some rest ↔ Leads last rest := by
  induction reopened with
  | intact intact =>
      exact ⟨fun skipped => leads_of_skip skipped intact, fun leads => skip_of_leads leads intact⟩
  | cut opened _ induction => rw [opened.skip, induction]

theorem exists_reopened (text : List Char) : ∃ last, Reopened text last := by
  induction length : text.length using Nat.strong_induction_on generalizing text with
  | _ bound induction =>
      subst length
      by_cases opened : ∃ inner, SlashOpened text inner
      · rcases opened with ⟨inner, opened⟩
        rcases induction inner.length opened.shorter inner rfl with ⟨last, reopened⟩
        exact ⟨last, .cut opened reopened⟩
      · exact ⟨text, .intact fun inner found => opened ⟨inner, found⟩⟩

/-! ## The policy -/

section Policy

variable [UnicodeTables]

theorem firstKeyword_mem_iff (statement : String) :
    firstKeyword statement ∈ readOnlyKeywords ↔ ∃ rest, skip statement.toList = some rest ∧
      Strings.toLower (String.ofList (rest.takeWhile isWordChar)) ∈ readOnlyKeywords := by
  rw [firstKeyword, ← skip]
  cases skip statement.toList with
  | none => simp [readOnlyKeywords]
  | some rest => simp

theorem handed_readOnly_iff (policy : QueryPolicy) (readOnly : policy.readOnly)
    (request : QueryRequest) :
    (∃ call, handed policy request = .ok call) ↔
      firstKeyword (cleanStatement request.sql) ∈ readOnlyKeywords := by
  by_cases empty : cleanStatement request.sql = ""
  · have noKeyword : firstKeyword "" = "" := rfl
    simp [handed, empty, noKeyword, readOnlyKeywords]
  · by_cases keyword : firstKeyword (cleanStatement request.sql) ∈ readOnlyKeywords
    · simp [handed, empty, readOnly, keyword]
    · simp [handed, empty, readOnly, keyword]

theorem Reopened.firstKeyword_mem_iff {statement : String} {last : List Char}
    (reopened : Reopened statement.toList last) :
    firstKeyword statement ∈ readOnlyKeywords ↔ ReadsOnly last := by
  rw [Service.firstKeyword_mem_iff]
  exact exists_congr fun rest => and_congr_left fun _ => reopened.skip_iff

/-- The policy admits what the server's reading admits exactly where cutting
the statement behind its comment openings `/*/` leaves that reading's answer as
it is; in particular wherever no leading comment opens so. -/
theorem handed_iff_readsOnly_iff (policy : QueryPolicy) (readOnly : policy.readOnly)
    (request : QueryRequest) :
    let statement := (cleanStatement request.sql).toList
    ((∃ call, handed policy request = .ok call) ↔ ReadsOnly statement) ↔
      ∀ last, Reopened statement last → (ReadsOnly last ↔ ReadsOnly statement) := by
  intro statement
  rw [handed_readOnly_iff policy readOnly]
  constructor
  · intro agree last reopened
    rw [← agree, reopened.firstKeyword_mem_iff]
  · intro same
    rcases exists_reopened statement with ⟨last, reopened⟩
    rw [← same last reopened, reopened.firstKeyword_mem_iff]

theorem handed_of_intact {policy : QueryPolicy} (readOnly : policy.readOnly)
    {request : QueryRequest}
    (intact : ∀ inner, ¬SlashOpened (cleanStatement request.sql).toList inner) :
    (∃ call, handed policy request = .ok call) ↔
      ReadsOnly (cleanStatement request.sql).toList := by
  rw [handed_readOnly_iff policy readOnly]
  exact (Reopened.intact intact).firstKeyword_mem_iff

end Policy

theorem blockComment_iff {tail rest : List Char} :
    BlockComment (commentOpen ++ tail) rest ↔ Strings.after commentClose tail = some rest := by
  rw [Strings.after_eq_some_iff (by simp [commentClose]), BlockComment]
  simp

/-- Two statements behind comments, the second one behind an opening at which both
readings find a read. -/
theorem handed_iff_readsOnly_iff_comments :
    ∃ (_ : UnicodeTables),
      ∀ sql ∈ ["/* totals */ -- per day\nSELECT 1;", "/*/ SELECT 1 */ SELECT 2"],
        ReadsOnly (cleanStatement sql).toList ∧
        ∀ last, Reopened (cleanStatement sql).toList last →
          (ReadsOnly last ↔ ReadsOnly (cleanStatement sql).toList) := by
  let tables := UnicodeTables.latin
  let policy : QueryPolicy := { readOnly := true, maxRows := 1000, timeout := 0 }
  have agrees (sql : String) (keyword : firstKeyword (cleanStatement sql) ∈ readOnlyKeywords)
      (reads : ReadsOnly (cleanStatement sql).toList) :
      ∀ last, Reopened (cleanStatement sql).toList last →
        (ReadsOnly last ↔ ReadsOnly (cleanStatement sql).toList) := by
    let request : QueryRequest := { sql, database := "", maxRows := 0 }
    apply (handed_iff_readsOnly_iff policy rfl request).mp
    rw [handed_readOnly_iff policy rfl request]
    exact iff_of_true keyword reads
  have word {text : List Char} (starts : text.head? = some 'S') : Leads text text := by
    have trimmed : Trimmed text := trimmed_of_head starts (by decide)
    refine .word trimmed ?_ ?_
    all_goals
      intro opening
      rcases opening with ⟨rest, rfl⟩
      simp [lineComment, commentOpen] at starts
  have day : LineComment "-- per day\nSELECT 1".toList "SELECT 1".toList :=
    ⟨" per day".toList, by decide, by decide⟩
  have first : ReadsOnly (cleanStatement "/* totals */ -- per day\nSELECT 1;").toList := by
    have clean : (cleanStatement "/* totals */ -- per day\nSELECT 1;").toList =
        commentOpen ++ " totals */ -- per day\nSELECT 1".toList := by decide
    have close : Strings.after commentClose " totals */ -- per day\nSELECT 1".toList =
        some (' ' :: "-- per day\nSELECT 1".toList) := by decide
    refine ⟨"SELECT 1".toList, clean ▸ .block (blockComment_iff.mpr close) ?_, by decide⟩
    exact .space (by decide) (.line day (word (by decide)))
  have second : ReadsOnly (cleanStatement "/*/ SELECT 1 */ SELECT 2").toList := by
    have clean : (cleanStatement "/*/ SELECT 1 */ SELECT 2").toList =
        commentOpen ++ "/ SELECT 1 */ SELECT 2".toList := by decide
    have close : Strings.after commentClose "/ SELECT 1 */ SELECT 2".toList =
        some (' ' :: "SELECT 2".toList) := by decide
    refine ⟨"SELECT 2".toList, clean ▸ .block (blockComment_iff.mpr close) ?_, by decide⟩
    exact .space (by decide) (word (by decide))
  refine ⟨tables, fun sql listed => ?_⟩
  simp only [List.mem_cons, List.not_mem_nil, or_false] at listed
  rcases listed with rfl | rfl
  · exact ⟨first, agrees _ (by decide) first⟩
  · exact ⟨second, agrees _ (by decide) second⟩

/-- The server executes a DROP behind what it reads as a comment, and the
skipper reads a SELECT inside it. -/
theorem handed_slash_opening :
    ∃ (_ : UnicodeTables), ¬∀ (policy : QueryPolicy) (request : QueryRequest), policy.readOnly →
      ((∃ call, handed policy request = .ok call) ↔
        ReadsOnly (cleanStatement request.sql).toList) := by
  let tables := UnicodeTables.latin
  refine ⟨tables, fun agree => ?_⟩
  let policy : QueryPolicy := { readOnly := true, maxRows := 1000, timeout := 0 }
  let request : QueryRequest :=
    { sql := "/*/ SELECT 1 */ DROP TABLE t", database := "", maxRows := 0 }
  have keyword : firstKeyword (cleanStatement "/*/ SELECT 1 */ DROP TABLE t") ∈
      readOnlyKeywords := by decide
  have reads := (agree policy request rfl).mp
    ((handed_readOnly_iff policy rfl request).mpr keyword)
  have text : (cleanStatement "/*/ SELECT 1 */ DROP TABLE t").toList =
      commentOpen ++ "/ SELECT 1 */ DROP TABLE t".toList := by decide
  rcases reads with ⟨rest, leads, keyword⟩
  rw [text] at leads
  cases leads with
  | space isSpace _ => exact absurd isSpace (by decide)
  | line comment _ => exact absurd comment.opening (by decide)
  | word _ _ notBlock => exact notBlock ⟨_, rfl⟩
  | @block _ next _ comment leads =>
      have close : Strings.after commentClose "/ SELECT 1 */ DROP TABLE t".toList =
          some " DROP TABLE t".toList := by decide
      have behind : next = " DROP TABLE t".toList :=
        Option.some.inj ((blockComment_iff.mp comment).symm.trans close)
      subst behind
      cases leads with
      | line comment _ => exact absurd comment.opening (by decide)
      | block comment _ => exact absurd comment.opening (by decide)
      | word trimmed _ _ => exact absurd (trimmed ' ' rfl) (by decide)
      | space _ leads =>
          cases leads with
          | space isSpace _ => exact absurd isSpace (by decide)
          | line comment _ => exact absurd comment.opening (by decide)
          | block comment _ => exact absurd comment.opening (by decide)
          | word _ _ _ => exact absurd keyword (by decide)

end StarLens.Service
