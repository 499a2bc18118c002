import Mathlib.Data.String.Basic

/-! # Package errors

An error is a tree: what `%w` wraps and what `Join` joins hangs below it, and
`Is` looks for a sentinel anywhere in the tree. -/

namespace StarLens.Go

/-- Errors over the sentinels of a package. A foreign error is one of another
package: none of the sentinels is in it. -/
inductive GoError (Sentinel : Type)
  | sentinel (sentinel : Sentinel)
  | foreign (text : String)
  | wrap (text : String) (err : GoError Sentinel)
  | wraps (text : String) (err err' : GoError Sentinel)

namespace GoError

variable {Sentinel : Type}

def text (name : Sentinel → String) : GoError Sentinel → String
  | sentinel err => name err
  | foreign text | wrap text _ | wraps text _ _ => text

variable [DecidableEq Sentinel]

def is (target : Sentinel) : GoError Sentinel → Bool
  | sentinel err => err = target
  | foreign _ => false
  | wrap _ err => err.is target
  | wraps _ err err' => err.is target || err'.is target

/-- The first of the cases that applies: a switch over `errors.Is`. -/
def switch {Answer : Type} (cases : List (Sentinel × Answer)) (default : Answer)
    (err : GoError Sentinel) : Answer :=
  ((cases.find? fun entry => err.is entry.1).map Prod.snd).getD default

def Marks (err : GoError Sentinel) (sentinel : Sentinel) : Prop :=
  ∀ target, err.is target = decide (sentinel = target)

theorem Marks.wrap {err : GoError Sentinel} {sentinel : Sentinel} (marks : err.Marks sentinel)
    (text : String) : (GoError.wrap text err).Marks sentinel := marks

theorem Marks.switch {Answer : Type} {err : GoError Sentinel} {sentinel : Sentinel}
    (marks : err.Marks sentinel) (cases : List (Sentinel × Answer)) (default : Answer) :
    err.switch cases default = (cases.lookup sentinel).getD default := by
  induction cases with
  | nil => rfl
  | cons entry cases induction =>
      rcases entry with ⟨target, answer⟩
      rw [GoError.switch, List.find?_cons, marks target, List.lookup_cons]
      by_cases same : sentinel = target
      · simp [same]
      · have apart : (sentinel == target) = false := beq_eq_false_iff_ne.mpr same
        rw [decide_eq_false same, apart]
        exact induction

end GoError

end StarLens.Go
