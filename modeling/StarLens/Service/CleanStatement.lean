import StarLens.Foundation.Trim
import StarLens.Service.Query

/-! # Cleaned statements

`cleanStatement` trims Unicode whitespace first and a cutset with ASCII
whitespace only second. Other whitespace in front of a last semicolon is out of
reach of both. -/

namespace StarLens.Service

open Foundation Go

def inCutset (char : Char) : Bool :=
  char ∈ "; \t\r\n".toList

def Blank (text : List Char) : Prop :=
  ∀ char ∈ text, Unicode.isSpace char ∨ char = ';'

/-- Whitespace outside the cutset stands behind a character that is no
whitespace, and a semicolon behind it, with only whitespace and semicolons up to
the end. -/
def StopsAtBlank (text : List Char) : Prop :=
  ∃ before left behind, text = before ++ left :: behind ∧
    (∃ char ∈ before, ¬Unicode.isSpace char) ∧
    Unicode.isSpace left ∧ left ∉ [' ', '\t', '\r', '\n'] ∧ Blank behind ∧ ';' ∈ behind

theorem inCutset_iff (char : Char) :
    inCutset char ↔ char = ';' ∨ char ∈ [' ', '\t', '\r', '\n'] := by
  simp [inCutset]

private theorem isSpace_of_ascii {char : Char} (ascii : char ∈ [' ', '\t', '\r', '\n']) :
    Unicode.isSpace char := by
  simp only [List.mem_cons, List.not_mem_nil, or_false] at ascii
  rcases ascii with rfl | rfl | rfl | rfl <;> decide

theorem blank_iff (char : Char) :
    (Unicode.isSpace char || inCutset char) ↔ Unicode.isSpace char ∨ char = ';' := by
  rw [Bool.or_eq_true, inCutset_iff]
  constructor
  · intro either
    rcases either with blank | semicolon | ascii
    · exact .inl blank
    · exact .inr semicolon
    · exact .inl (isSpace_of_ascii ascii)
  · intro either
    rcases either with blank | semicolon
    · exact .inl blank
    · exact .inr (.inl semicolon)

theorem toList_cleanStatement (raw : String) :
    (cleanStatement raw).toList = trimInTurn Unicode.isSpace inCutset raw.toList := by
  simp only [cleanStatement, Strings.trimRight, Strings.trimSpace, Strings.trimRightFunc,
    Strings.trimLeftFunc, String.toList_ofList]
  rfl

theorem covered_iff_stopsAtBlank (text : List Char) :
    Covered Unicode.isSpace inCutset text ↔ StopsAtBlank text := by
  constructor
  · intro covered
    rcases covered with
      ⟨before, left, behind, split, inner, blank, kept, either, element, member, solid⟩
    rw [inCutset_iff, not_or] at kept
    have listed : Blank behind := fun char member => (blank_iff char).mp (either char member)
    have semicolon := (listed element member).resolve_left solid
    rw [semicolon] at member
    exact ⟨before, left, behind, split, inner, blank, kept.2, listed, member⟩
  · intro stops
    rcases stops with ⟨before, left, behind, split, inner, blank, kept, listed, member⟩
    refine ⟨before, left, behind, split, inner, blank, ?_, ?_, ';', member, by decide⟩
    · rw [inCutset_iff]
      intro either
      rcases either with semicolon | ascii
      · rw [semicolon] at blank
        exact absurd blank (by decide)
      · exact kept ascii
    · intro char member
      exact (blank_iff char).mpr (listed char member)

private theorem cleanStatement_eq_empty_iff {raw : String} (blank : Blank raw.toList) :
    cleanStatement raw = "" ↔ ¬StopsAtBlank raw.toList := by
  rw [← String.toList_eq_nil_iff, toList_cleanStatement, ← covered_iff_stopsAtBlank]
  apply trimInTurn_eq_nil_iff
  intro char member
  exact (blank_iff char).mpr (blank char member)

/-! ## What holds of every text -/

private theorem cleanStatement_head {raw : String} {first : Char}
    (head : first ∈ (cleanStatement raw).toList.head?) : ¬Unicode.isSpace first := by
  rw [toList_cleanStatement] at head
  exact trimInTurn_head head

private theorem cleanStatement_last {raw : String} {last : Char}
    (ending : last ∈ (cleanStatement raw).toList.getLast?) : last ≠ ';' := by
  rw [toList_cleanStatement] at ending
  have plain := trimInTurn_last ending
  rw [inCutset_iff, not_or] at plain
  exact plain.1

private theorem cleanStatement_split (raw : String) :
    ∃ front behind, raw.toList = front ++ (cleanStatement raw).toList ++ behind ∧
      (∀ char ∈ front, Unicode.isSpace char) ∧ Blank behind := by
  rw [toList_cleanStatement]
  rcases trimInTurn_split Unicode.isSpace inCutset raw.toList with
    ⟨front, behind, split, fronts, either⟩
  refine ⟨front, behind, split, fronts, ?_⟩
  intro char member
  exact (blank_iff char).mp (either char member)

/-! ## What depends on the whitespace left over -/

private theorem cleanStatement_idempotent_iff (raw : String) :
    cleanStatement (cleanStatement raw) = cleanStatement raw ↔ ¬StopsAtBlank raw.toList := by
  rw [← String.toList_inj, toList_cleanStatement, toList_cleanStatement,
    trimInTurn_idempotent_iff, covered_iff_stopsAtBlank]

private theorem cleanStatement_ends_iff (raw : String) :
    (∀ last ∈ (cleanStatement raw).toList.getLast?, ¬Unicode.isSpace last) ↔
      ¬StopsAtBlank raw.toList := by
  rw [toList_cleanStatement, ← trimmed_trimInTurn_iff, trimmed_trimInTurn_iff_not_covered,
    covered_iff_stopsAtBlank]

section Requests

variable [UnicodeTables]

private theorem handed_eq_empty_iff (policy : QueryPolicy) (request : QueryRequest) :
    handed policy request = .error .empty ↔ cleanStatement request.sql = "" := by
  simp only [handed]
  by_cases empty : cleanStatement request.sql = ""
  · simp [empty]
  · rw [if_neg empty]
    split <;> simp [empty]

def RejectedEmpty (policy : QueryPolicy) (request : QueryRequest) : Prop :=
  (∀ call, handed policy request ≠ .ok call) ∧
    ∀ run expired elapsed, execute policy request run expired elapsed = .error .empty

private theorem rejectedEmpty_iff (policy : QueryPolicy) (request : QueryRequest) :
    RejectedEmpty policy request ↔ cleanStatement request.sql = "" := by
  rw [← handed_eq_empty_iff policy]
  constructor
  · intro rejected
    have answer := rejected.2 (fun _ => .error .deadlineExceeded) false 0
    cases result : handed policy request with
    | ok call => exact absurd result (rejected.1 call)
    | error failure =>
        rw [execute_of_rejected _ _ _ result] at answer
        simpa using answer
  · intro empty
    constructor
    · intro call
      rw [empty]
      exact nofun
    · intro run expired elapsed
      exact execute_of_rejected run expired elapsed empty

structure Cleans (policy : QueryPolicy) (request : QueryRequest) : Prop where
  idempotent :
    cleanStatement (cleanStatement request.sql) = cleanStatement request.sql
  starts : ∀ first ∈ (cleanStatement request.sql).toList.head?, ¬Unicode.isSpace first
  ends : ∀ last ∈ (cleanStatement request.sql).toList.getLast?,
    ¬Unicode.isSpace last ∧ last ≠ ';'
  removes : ∃ front behind,
    request.sql.toList = front ++ (cleanStatement request.sql).toList ++ behind ∧
      (∀ char ∈ front, Unicode.isSpace char) ∧ Blank behind
  rejects : Blank request.sql.toList → RejectedEmpty policy request

theorem cleans_iff (policy : QueryPolicy) (request : QueryRequest) :
    Cleans policy request ↔ ¬StopsAtBlank request.sql.toList := by
  constructor
  · intro cleans
    rw [← cleanStatement_idempotent_iff]
    exact cleans.idempotent
  · intro free
    refine {
      idempotent := (cleanStatement_idempotent_iff request.sql).mpr free
      starts := fun first head => cleanStatement_head head
      ends := fun last ending => ⟨?_, cleanStatement_last ending⟩
      removes := cleanStatement_split request.sql
      rejects := fun blank => ?_ }
    · exact (cleanStatement_ends_iff request.sql).mpr free last ending
    · rw [rejectedEmpty_iff, cleanStatement_eq_empty_iff blank]
      exact free

end Requests

/-- A no-break space between semicolons is forwarded behind the first of them. -/
theorem forwards_semicolon_behind_space :
    ∃ (_ : UnicodeTables), ¬∀ (policy : QueryPolicy) (request : QueryRequest),
      Cleans policy request := by
  let tables := UnicodeTables.latin
  refine ⟨tables, fun cleans => ?_⟩
  let policy : QueryPolicy := { readOnly := false, maxRows := 1000, timeout := 0 }
  let request : QueryRequest := { sql := ";\u00a0;", database := "", maxRows := 0 }
  have blank : Blank ";\u00a0;".toList := by
    intro char member
    rw [show ";\u00a0;".toList = [';', '\u00a0', ';'] by decide] at member
    simp only [List.mem_cons, List.not_mem_nil, or_false] at member
    rcases member with rfl | rfl | rfl
    · exact .inr rfl
    · exact .inl (by decide)
    · exact .inr rfl
  have forwarded : handed policy request =
      .ok { statement := ";\u00a0", database := "", maxRows := 1000 } := by decide
  exact ((cleans policy request).rejects blank).1 _ forwarded

end StarLens.Service
