import Mathlib.Algebra.BigOperators.Group.List.Basic
import Mathlib.Algebra.Order.BigOperators.Group.List
import Mathlib.Data.List.Sort

/-! # Samples

A sample is a list of values. How large the element at a place of the sorted
sample is can be told by counting, and a sum can be taken group by group. -/

namespace StarLens.Foundation

variable {α κ : Type}

theorem le_getElem_iff_countP_le [LinearOrder α] {list : List α} (sorted : list.Pairwise (· ≤ ·))
    {index : Nat} (inside : index < list.length) (bound : α) :
    bound ≤ list[index] ↔ list.countP (· < bound) ≤ index := by
  induction list generalizing index with
  | nil => exact absurd inside (Nat.not_lt_zero index)
  | cons head tail induction =>
      rw [List.pairwise_cons] at sorted
      by_cases below : head < bound
      · rw [List.countP_cons_of_pos (by simpa using below)]
        cases index with
        | zero => simp [below]
        | succ index =>
            rw [List.getElem_cons_succ, induction sorted.2, Nat.add_le_add_iff_right]
      · have aboveAll : tail.countP (· < bound) = 0 := by
          rw [List.countP_eq_zero]
          intro value member
          simpa using (not_lt.mp below).trans (sorted.1 value member)
        have first : bound ≤ (head :: tail)[index] := by
          cases index with
          | zero => exact not_lt.mp below
          | succ index =>
              exact (not_lt.mp below).trans (sorted.1 _ (List.getElem_mem _))
        rw [List.countP_cons_of_neg (by simpa using below), aboveAll]
        simp [first]

theorem sum_groups [AddCommMonoid α] [DecidableEq κ] {Element : Type} (key : Element → κ)
    (value : Element → α) (elements : List Element) {keys : List κ} (distinct : keys.Nodup)
    (listed : ∀ element ∈ elements, key element ∈ keys) :
    (keys.map fun group =>
        ((elements.filter fun element => key element = group).map value).sum).sum =
      (elements.map value).sum := by
  induction elements with
  | nil => simp
  | cons head tail induction =>
      have member := listed head List.mem_cons_self
      have rest := induction fun element later => listed element (List.mem_cons_of_mem _ later)
      have split (group : κ) :
          (((head :: tail).filter fun element => key element = group).map value).sum =
            (if key head = group then value head else 0) +
              ((tail.filter fun element => key element = group).map value).sum := by
        by_cases same : key head = group
        · rw [List.filter_cons_of_pos (by simpa using same), List.map_cons, List.sum_cons,
            if_pos same]
        · rw [List.filter_cons_of_neg (by simpa using same), if_neg same, zero_add]
      have own : (keys.map fun group => if key head = group then value head else 0).sum =
          value head := by
        rw [List.sum_map_eq_nsmul_single (key head) _ fun group other _ => if_neg other.symm,
          List.count_eq_one_of_mem distinct member, one_nsmul, if_pos rfl]
      simp only [split]
      rw [List.sum_map_add, own, rest, List.map_cons, List.sum_cons]

end StarLens.Foundation
