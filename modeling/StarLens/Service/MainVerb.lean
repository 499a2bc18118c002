import StarLens.Service.SqlText

/-! # Writes behind the read-only policy

The policy looks at one word, the one its own skipper finds. A write gets past
it behind a WITH list, or behind a comment the skipper misreads. -/

namespace StarLens.Service

open Go

private theorem le_of_toLower_le {char : Char} (ascii : char.toLower ≤ '\x7f') : char ≤ '\x7f' := by
  by_cases upper : char.val ≥ 'A'.val ∧ char.val ≤ 'Z'.val
  · have small : char ≤ 'Z' := upper.2
    exact Char.le_trans small (by decide)
  · have kept : char.toLower = char := dif_neg upper
    rwa [kept] at ascii

private theorem ascii_of_mem {name : String} (listed : name ∈ "with" :: writeVerbs) :
    ∀ char ∈ name.toList, char ≤ '\x7f' := by
  have ascii : name.toList.all fun char => char ≤ '\x7f' := by
    simp only [writeVerbs, List.mem_cons, List.not_mem_nil, or_false] at listed
    rcases listed with rfl | rfl | rfl | rfl <;> decide
  simpa using ascii

section Words

variable [UnicodeTables]

private theorem tokens_word_iff {text word : List Char} (nonempty : word ≠ []) :
    (∃ later, tokens text = .word word :: later) ↔
      ∃ rest, Leads text rest ∧ rest.takeWhile isWordChar = word := by
  constructor
  · intro first
    rcases first with ⟨later, first⟩
    rw [tokens, tokensFrom] at first
    split at first
    case h_1 | h_2 => cases first
    case h_3 char rest skipped =>
        refine ⟨char :: rest, leads_of_skipBlank skipped, ?_⟩
        split at first
        · cases first
          rfl
        · split at first <;> cases first
  · intro leads
    rcases leads with ⟨rest, leads, rfl⟩
    have skipped := skipBlank_of_leads leads (Nat.lt_succ_self _)
    cases rest with
    | nil => exact absurd rfl nonempty
    | cons char rest =>
        have isWord : isWordChar char := by
          by_contra other
          rw [List.takeWhile_cons_of_neg other] at nonempty
          exact nonempty rfl
        rw [tokens, tokensFrom, skipped]
        simp only [isWord, if_true]
        exact ⟨_, rfl⟩

private theorem toLower_of_keyword {word : List Char} {name : String}
    (ascii : ∀ char ∈ name.toList, char ≤ '\x7f') (same : keyword word = name) :
    Strings.toLower (String.ofList word) = name := by
  rw [Strings.toLower, String.toList_ofList, ← same, keyword]
  congr 1
  apply List.map_congr_left
  intro char member
  have lower : char.toLower ≤ '\x7f' := by
    apply ascii
    rw [← same, keyword, String.toList_ofList]
    exact List.mem_map_of_mem member
  rw [Unicode.toLower, if_pos (le_of_toLower_le lower)]

/-- The statement is a WITH list and a write behind it. -/
def WithWrite (text : List Char) : Prop :=
  ∃ opening later verb behind, tokens text = .word opening :: later ∧
    keyword opening = "with" ∧ skipList later.length later = some (.word verb :: behind) ∧
    keyword verb ∈ writeVerbs

def Writes (text : List Char) : Prop := ∃ verb ∈ mainVerb (tokens text), verb ∈ writeVerbs

/-- One of the leading comments opens with `/*/`, and cut behind such openings
the text starts with a read-only keyword. -/
def MisreadAsRead (text : List Char) : Prop :=
  (∃ inner, SlashOpened text inner) ∧ ∃ last, Reopened text last ∧ ReadsOnly last

theorem WithWrite.writes {text : List Char} (hidden : WithWrite text) : Writes text := by
  rcases hidden with ⟨opening, later, verb, behind, read, isWith, skipped, write⟩
  refine ⟨keyword verb, ?_, write⟩
  rw [read, mainVerb, if_pos isWith, skipped]
  rfl

theorem WithWrite.readsOnly {text : List Char} (hidden : WithWrite text) : ReadsOnly text := by
  rcases hidden with ⟨opening, later, verb, behind, read, isWith, skipped, write⟩
  have nonempty : opening ≠ [] := by
    intro empty
    subst empty
    exact absurd isWith (by decide)
  rcases (tokens_word_iff nonempty).mp ⟨later, read⟩ with ⟨rest, leads, rfl⟩
  refine ⟨rest, leads, ?_⟩
  rw [toLower_of_keyword (ascii_of_mem List.mem_cons_self) isWith]
  decide

/-- A statement whose first word reads and whose main verb writes has a WITH
list. -/
theorem ReadsOnly.withWrite {text : List Char} (reads : ReadsOnly text) (writes : Writes text) :
    WithWrite text := by
  rcases reads with ⟨rest, leads, listed⟩
  have nonempty : rest.takeWhile isWordChar ≠ [] := by
    intro empty
    rw [empty] at listed
    simp [Strings.toLower, readOnlyKeywords] at listed
  rcases (tokens_word_iff nonempty).mpr ⟨rest, leads, rfl⟩ with ⟨later, read⟩
  rcases writes with ⟨verb, main, write⟩
  rw [read, mainVerb] at main
  split at main
  case isTrue isWith =>
      split at main
      case h_1 word behind skipped =>
          cases main
          exact ⟨_, later, word, behind, read, isWith, skipped, write⟩
      case h_2 => cases main
  case isFalse other =>
      cases main
      rw [toLower_of_keyword (ascii_of_mem (List.mem_cons_of_mem _ write)) rfl] at listed
      simp only [writeVerbs, List.mem_cons, List.not_mem_nil, or_false] at write
      rcases write with same | same | same <;> simp [same, readOnlyKeywords] at listed

end Words

theorem handed_statement [UnicodeTables] {policy : QueryPolicy} {request : QueryRequest}
    {call : QueryCall} (ok : handed policy request = .ok call) :
    call.statement = cleanStatement request.sql := by
  rw [handed] at ok
  split at ok
  · simp at ok
  · split at ok
    · simp at ok
    · rw [← Except.ok.inj ok]

/-- In read-only mode no write is forwarded, except for one behind a WITH list
and one behind a comment that opens with `/*/` and is cut there to a read. -/
theorem forwards_no_write_iff [UnicodeTables] (policy : QueryPolicy) (readOnly : policy.readOnly)
    (request : QueryRequest) :
    let text := (cleanStatement request.sql).toList
    (∀ call, handed policy request = .ok call →
      ∀ verb ∈ mainVerb (tokens call.statement.toList), verb ∉ writeVerbs) ↔
      ¬(((∀ inner, ¬SlashOpened text inner) ∧ WithWrite text) ∨
        (MisreadAsRead text ∧ Writes text)) := by
  intro text
  have forwards : (∀ call, handed policy request = .ok call →
      ∀ verb ∈ mainVerb (tokens call.statement.toList), verb ∉ writeVerbs) ↔
      ¬((∃ call, handed policy request = .ok call) ∧ Writes text) := by
    constructor
    · intro silent forwarded
      rcases forwarded with ⟨⟨call, ok⟩, verb, main, write⟩
      refine silent call ok verb ?_ write
      rw [handed_statement ok]
      exact main
    · intro silent call ok verb main write
      rw [handed_statement ok] at main
      exact silent ⟨⟨call, ok⟩, verb, main, write⟩
  rw [forwards, not_iff_not]
  by_cases intact : ∀ inner, ¬SlashOpened text inner
  · have misread : ¬MisreadAsRead text := fun misread => misread.1.elim intact
    rw [handed_of_intact readOnly intact]
    constructor
    · intro written
      exact .inl ⟨intact, written.1.withWrite written.2⟩
    · intro hidden
      rcases hidden with hidden | hidden
      · exact ⟨hidden.2.readsOnly, hidden.2.writes⟩
      · exact absurd hidden.1 misread
  · have opened : ∃ inner, SlashOpened text inner := by simpa using intact
    rw [handed_readOnly_iff policy readOnly]
    constructor
    · intro written
      rcases exists_reopened text with ⟨last, reopened⟩
      exact .inr ⟨⟨opened, last, reopened, reopened.firstKeyword_mem_iff.mp written.1⟩, written.2⟩
    · intro hidden
      rcases hidden with hidden | ⟨⟨-, last, reopened, reads⟩, writes⟩
      · exact absurd hidden.1 intact
      · exact ⟨reopened.firstKeyword_mem_iff.mpr reads, writes⟩

def listedRead : String := "/* totals */ WITH c AS (SELECT 1), d AS (SELECT 2) SELECT 3;"

theorem forwards_no_write_iff_listedRead :
    ∃ (_ : UnicodeTables),
      (∃ call, handed { readOnly := true, maxRows := 1000, timeout := 0 }
        { sql := listedRead, database := "", maxRows := 0 } = .ok call) ∧
      ∀ call, handed { readOnly := true, maxRows := 1000, timeout := 0 }
          { sql := listedRead, database := "", maxRows := 0 } = .ok call →
        ∀ verb ∈ mainVerb (tokens call.statement.toList), verb ∉ writeVerbs := by
  let tables := UnicodeTables.latin
  have admitted : firstKeyword (cleanStatement listedRead) ∈ readOnlyKeywords := by decide
  have main : mainVerb (tokens (cleanStatement listedRead).toList) = some "select" := by decide
  have reads : ¬Writes (cleanStatement listedRead).toList := by
    intro writes
    rcases writes with ⟨verb, first, write⟩
    rw [main] at first
    cases first
    exact absurd write (by decide)
  refine ⟨tables, (handed_readOnly_iff _ rfl _).mpr admitted,
    (forwards_no_write_iff _ rfl _).mpr fun hidden => ?_⟩
  rcases hidden with hidden | hidden
  · exact reads hidden.2.writes
  · exact reads hidden.2

/-- A DELETE behind a common table expression passes as a read. -/
theorem forwards_write_behind_with :
    ∃ (_ : UnicodeTables), ¬∀ (policy : QueryPolicy) (request : QueryRequest), policy.readOnly →
      ∀ call, handed policy request = .ok call →
        ∀ verb ∈ mainVerb (tokens call.statement.toList), verb ∉ writeVerbs := by
  let tables := UnicodeTables.latin
  refine ⟨tables, fun silent => ?_⟩
  let policy : QueryPolicy := { readOnly := true, maxRows := 1000, timeout := 0 }
  let request : QueryRequest :=
    { sql := "WITH c AS (SELECT 1) DELETE FROM t", database := "", maxRows := 0 }
  have clean : cleanStatement "WITH c AS (SELECT 1) DELETE FROM t" =
      "WITH c AS (SELECT 1) DELETE FROM t" := by decide
  have admitted : firstKeyword "WITH c AS (SELECT 1) DELETE FROM t" ∈ readOnlyKeywords := by decide
  have main : mainVerb (tokens "WITH c AS (SELECT 1) DELETE FROM t".toList) = some "delete" := by
    decide
  rcases (handed_readOnly_iff policy rfl request).mpr (clean ▸ admitted) with ⟨call, ok⟩
  have statement : call.statement = "WITH c AS (SELECT 1) DELETE FROM t" :=
    (handed_statement ok).trans clean
  have quiet := silent policy request rfl call ok
  rw [statement, main] at quiet
  exact quiet "delete" rfl (by decide)

end StarLens.Service
