import Mathlib.Data.List.DropRight

/-! # Layered values

A value that several layers may set is the one the last layer to set it gave.
A change adds a layer; a resetting change forgets every earlier layer first. -/

namespace StarLens.Foundation

variable {α Layer : Type}

def lastSet (values : List (Option α)) : Option α :=
  (values.filterMap id).getLast?

@[simp] theorem lastSet_nil : lastSet ([] : List (Option α)) = none := rfl

@[simp] theorem lastSet_concat (values : List (Option α)) (value : Option α) :
    lastSet (values ++ [value]) = value.or (lastSet values) := by
  cases value <;> simp [lastSet, List.getLast?_append]

theorem lastSet_isSome (values : List (Option α)) :
    (lastSet values).isSome ↔ ∃ value ∈ values, value.isSome := by
  induction values using List.reverseRecOn with
  | nil => simp
  | append_singleton values value induction =>
      cases value with
      | none => simpa [Option.isSome_iff_exists] using induction
      | some value => simp

structure Change (Layer : Type) where
  layer : Layer
  reset : Bool

/-- The layers in force: the layer of the last resetting change, or `start`
when nothing was reset, and the layers of the changes after it. -/
def sinceLastReset (start : Layer) (changes : List (Change Layer)) : List Layer :=
  (match (changes.rdropWhile (fun change => !change.reset)).getLast? with
    | some change => change.layer
    | none => start) ::
    (changes.rtakeWhile fun change => !change.reset).map Change.layer

@[simp] theorem sinceLastReset_nil (start : Layer) :
    sinceLastReset start [] = [start] := rfl

theorem sinceLastReset_concat (start : Layer) (changes : List (Change Layer))
    (change : Change Layer) :
    sinceLastReset start (changes ++ [change]) =
      if change.reset then [change.layer]
      else sinceLastReset start changes ++ [change.layer] := by
  cases reset : change.reset <;>
    simp [sinceLastReset, reset]

end StarLens.Foundation
