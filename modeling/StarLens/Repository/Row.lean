import StarLens.Go.Strconv

/-! # Result rows

The accessors of a row, which read a column by its name with fallbacks. -/

namespace StarLens.Repository

open Go

/-- The cells of a row under their lower-cased column names. -/
abbrev Row := List (String × String)

namespace Row

variable [UnicodeTables]

def str (row : Row) (names : List String) : String :=
  (names.findSome? fun name =>
    (row.lookup (Strings.toLower name)).filter fun value => value != "").getD ""

def bool (row : Row) (names : List String) : Bool :=
  Strings.toLower (row.str names) ∈ ["true", "1", "yes", "y"]

def int64 (row : Row) (names : List String) : Option Int64 :=
  let raw := row.str names
  if raw = "" then none else Strconv.parseInt (Strings.trimSpace raw)

/-- A percentage may have its sign behind it. -/
def float64 (row : Row) (names : List String) : Option Float64 :=
  let raw := Strings.trimSpace
    (Strings.trimSuffix (Strings.trimSpace (row.str names)) "%")
  if raw = "" then none
  else Strconv.parseFloat (Strings.trimSpace raw)

def byteUnits : List (String × ℚ) :=
  [("B", 1), ("KB", 2 ^ 10), ("MB", 2 ^ 20), ("GB", 2 ^ 30), ("TB", 2 ^ 40), ("PB", 2 ^ 50)]

/-- A capacity such as `1.500 GB`. -/
def bytes (row : Row) (names : List String) : Option Int64 :=
  match Strings.fields (Strings.trimSpace (row.str names)) with
  | [] => none
  | number :: units => do
      let value ← Strconv.parseFloat number
      let multiplier ← byteUnits.lookup (Strings.toUpper (units.headD "B"))
      return (value.scale multiplier).toInt64

end Row

/-! ## The cells that are read -/

variable [UnicodeTables]

/-- What a row has of a column; nothing and an empty cell are the same to its
readers. -/
def Row.cell (row : Row) (name : String) : Option String :=
  (row.lookup (Strings.toLower name)).filter fun value => value != ""

theorem Row.cell_ne {row : Row} {name value : String} (held : row.cell name = some value) :
    value ≠ "" := by
  rw [Row.cell, Option.filter_eq_some_iff] at held
  exact bne_iff_ne.mp held.2

theorem Row.str_eq (row : Row) (names : List String) :
    row.str names = (names.findSome? row.cell).getD "" := rfl

theorem Row.str_eq_iff {row : Row} {names : List String} {value : String} (nonempty : value ≠ "") :
    row.str names = value ↔ names.findSome? row.cell = some value := by
  rw [row.str_eq]
  cases names.findSome? row.cell with
  | none => simp [Ne.symm nonempty]
  | some found => simp

theorem Row.int64_eq (row : Row) (names : List String) :
    row.int64 names =
      (names.findSome? row.cell).bind fun raw => Strconv.parseInt (Strings.trimSpace raw) := by
  rw [Row.int64, row.str_eq]
  cases found : names.findSome? row.cell with
  | none => simp
  | some raw =>
      rcases List.exists_of_findSome?_eq_some found with ⟨name, -, held⟩
      simp [Row.cell_ne held]

end StarLens.Repository
