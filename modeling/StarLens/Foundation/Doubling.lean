import Mathlib.Data.List.Basic

/-! # Quoting by doubling

A text between two quotes, with each quote inside it doubled. The first quote
that no other one follows closes it, so it is read back in exactly one way. -/

namespace StarLens.Foundation

variable {α : Type} [DecidableEq α]

def doubled (quote : α) (name : List α) : List α :=
  name.flatMap fun value => if value = quote then [quote, quote] else [value]

/-- Read behind an opening quote: what is quoted, and what comes behind the
closing quote. -/
def readDoubled (quote : α) : List α → Option (List α × List α)
  | [] => none
  | [value] => if value = quote then some ([], []) else none
  | value :: next :: rest =>
      if value = quote then
        if next = quote then (readDoubled quote rest).map fun read => (quote :: read.1, read.2)
        else some ([], next :: rest)
      else (readDoubled quote (next :: rest)).map fun read => (value :: read.1, read.2)

variable {quote : α}

theorem doubled_cons_quote (name : List α) :
    doubled quote (quote :: name) = quote :: quote :: doubled quote name := by
  rw [doubled, List.flatMap_cons, if_pos rfl]
  rfl

theorem doubled_cons_of_ne {value : α} (other : value ≠ quote) (name : List α) :
    doubled quote (value :: name) = value :: doubled quote name := by
  rw [doubled, List.flatMap_cons, if_neg other]
  rfl

theorem readDoubled_quote_quote (rest : List α) :
    readDoubled quote (quote :: quote :: rest) =
      (readDoubled quote rest).map fun read => (quote :: read.1, read.2) := by
  rw [readDoubled, if_pos rfl, if_pos rfl]

theorem readDoubled_close {rest : List α} (closed : rest.head? ≠ some quote) :
    readDoubled quote (quote :: rest) = some ([], rest) := by
  cases rest with
  | nil => rw [readDoubled, if_pos rfl]
  | cons next rest =>
      have other : next ≠ quote := fun same => closed (by rw [same, List.head?_cons])
      rw [readDoubled, if_pos rfl, if_neg other]

theorem readDoubled_cons_of_ne {value : α} (other : value ≠ quote) (rest : List α) :
    readDoubled quote (value :: rest) =
      (readDoubled quote rest).map fun read => (value :: read.1, read.2) := by
  cases rest with
  | nil => simp [readDoubled, other]
  | cons next rest => rw [readDoubled, if_neg other]

theorem readDoubled_doubled (name : List α) {rest : List α} (closed : rest.head? ≠ some quote) :
    readDoubled quote (doubled quote name ++ quote :: rest) = some (name, rest) := by
  induction name with
  | nil => exact readDoubled_close closed
  | cons value name induction =>
      by_cases same : value = quote
      · rw [same, doubled_cons_quote, List.cons_append, List.cons_append, readDoubled_quote_quote,
          induction, Option.map_some]
      · rw [doubled_cons_of_ne same, List.cons_append, readDoubled_cons_of_ne same, induction,
          Option.map_some]

end StarLens.Foundation
