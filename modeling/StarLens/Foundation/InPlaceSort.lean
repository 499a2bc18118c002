import Mathlib.Order.Lattice

/-! # Insertion sort in place

Round by round an element sinks to the front by swaps, until the one before it is
not greater. In a round everything up to the round's index is in order, but for
the element that sinks. -/

namespace StarLens.Foundation

section Loops

variable {α : Type} [LT α] [DecidableLT α] {size : Nat}

def sink : (index : Nat) → index < size → Vector α size → Vector α size
  | 0, _, vector => vector
  | index + 1, bound, vector =>
      if vector[index + 1] < vector[index] then
        sink index (Nat.lt_of_succ_lt bound) (vector.swap (index + 1) index)
      else vector

def rounds : (last : Nat) → last < size → Vector α size → Vector α size
  | 0, _, vector => vector
  | last + 1, bound, vector =>
      sink (last + 1) bound (rounds last (Nat.lt_of_succ_lt bound) vector)

def sortInPlace : {size : Nat} → Vector α size → Vector α size
  | 0, vector => vector
  | size + 1, vector => rounds size (Nat.lt_succ_self size) vector

theorem sink_perm (index : Nat) (bound : index < size) (vector : Vector α size) :
    (sink index bound vector).Perm vector := by
  induction index generalizing vector with
  | zero => exact .rfl
  | succ index induction =>
      rw [sink]
      split
      · exact (induction _ _).trans (Vector.swap_perm _ _)
      · exact .rfl

theorem rounds_perm (last : Nat) (bound : last < size) (vector : Vector α size) :
    (rounds last bound vector).Perm vector := by
  induction last with
  | zero => exact .rfl
  | succ last induction => exact (sink_perm _ _ _).trans (induction _)

theorem sortInPlace_perm (vector : Vector α size) : (sortInPlace vector).Perm vector := by
  cases size with
  | zero => exact .rfl
  | succ size => exact rounds_perm _ _ _

end Loops

section Order

variable {α : Type} [LinearOrder α] {size : Nat}

def SortedUpTo (last : Nat) (vector : Vector α size) : Prop :=
  ∀ before after (_ : before < after) (_ : after < size), after ≤ last →
    vector[before] ≤ vector[after]

/-- The element that sinks is not greater than what it has passed. -/
def SortedBut (sinking last : Nat) (vector : Vector α size) : Prop :=
  ∀ before after (_ : before < after) (_ : after < size), after ≤ last → after ≠ sinking →
    vector[before] ≤ vector[after]

theorem SortedUpTo.next {last : Nat} {vector : Vector α size} (sorted : SortedUpTo last vector) :
    SortedBut (last + 1) (last + 1) vector := by
  intro before after order bound upTo other
  exact sorted before after order bound (by omega)

theorem SortedBut.swap {index last : Nat} {vector : Vector α size} (bound : index + 1 < size)
    (sorted : SortedBut (index + 1) last vector) (upTo : index + 1 ≤ last)
    (smaller : vector[index + 1] < vector[index]) :
    SortedBut index last (vector.swap (index + 1) index) := by
  intro before after order inside afterUpTo other
  by_cases passed : after = index + 1
  · -- What was passed is not smaller than anything before it.
    subst passed
    rw [Vector.getElem_swap_left]
    by_cases sinking : before = index
    · subst sinking
      rw [Vector.getElem_swap_right]
      exact smaller.le
    · rw [Vector.getElem_swap_of_ne (by omega) sinking]
      exact sorted before index (by omega) (by omega) (by omega) (by omega)
  · rw [Vector.getElem_swap_of_ne passed other]
    by_cases first : before = index + 1
    · subst first
      rw [Vector.getElem_swap_left]
      exact sorted index after (by omega) inside afterUpTo passed
    · by_cases sinking : before = index
      · subst sinking
        rw [Vector.getElem_swap_right]
        exact sorted (before + 1) after (by omega) inside afterUpTo passed
      · rw [Vector.getElem_swap_of_ne first sinking]
        exact sorted before after order inside afterUpTo passed

theorem SortedBut.stop {index last : Nat} {vector : Vector α size} (bound : index + 1 < size)
    (sorted : SortedBut (index + 1) last vector)
    (ordered : ¬vector[index + 1] < vector[index]) : SortedUpTo last vector := by
  intro before after order inside afterUpTo
  by_cases sinking : after = index + 1
  · subst sinking
    have last := not_lt.mp ordered
    by_cases first : before = index
    · subst first
      exact last
    · exact (sorted before index (by omega) (by omega) (by omega) (by omega)).trans last
  · exact sorted before after order inside afterUpTo sinking

theorem sortedUpTo_sink {index last : Nat} (bound : index < size) {vector : Vector α size}
    (sorted : SortedBut index last vector) (upTo : index ≤ last) :
    SortedUpTo last (sink index bound vector) := by
  induction index generalizing vector with
  | zero =>
      intro before after order inside afterUpTo
      exact sorted before after order inside afterUpTo (by omega)
  | succ index induction =>
      rw [sink]
      split
      · exact induction _ (sorted.swap bound upTo ‹_›) (by omega)
      · exact sorted.stop bound ‹_›

theorem sortedUpTo_rounds (last : Nat) (bound : last < size) (vector : Vector α size) :
    SortedUpTo last (rounds last bound vector) := by
  induction last with
  | zero =>
      intro before after order inside upTo
      omega
  | succ last induction => exact sortedUpTo_sink bound (induction _).next (Nat.le_refl _)

theorem pairwise_sortInPlace (vector : Vector α size) :
    (sortInPlace vector).toList.Pairwise (· ≤ ·) := by
  rw [List.pairwise_iff_getElem]
  intro before after beforeInside afterInside order
  cases size with
  | zero => simp at afterInside
  | succ size =>
      rw [Vector.length_toList] at afterInside
      exact sortedUpTo_rounds size _ vector before after order afterInside (by omega)

theorem pairwise_lt_sortInPlace {vector : Vector α size} (distinct : vector.toList.Nodup) :
    (sortInPlace vector).toList.Pairwise (· < ·) := by
  have perm := (sortInPlace_perm vector).toList
  have apart := perm.nodup_iff.mpr distinct
  have sorted := (pairwise_sortInPlace vector).and apart
  exact sorted.imp fun both => lt_of_le_of_ne both.1 both.2

end Order

end StarLens.Foundation
