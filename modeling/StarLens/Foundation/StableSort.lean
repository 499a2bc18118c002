import Mathlib.Data.List.Sort

/-! # Stable sorting with a comparison

A stable sort keeps elements that compare equal in their order, so in general
its result depends on the order of its input. Where no two elements compare
equal it does not. What it leaves first and last in a selection can be told
without sorting. -/

namespace StarLens.Foundation

variable {α β γ : Type}

/-- The comparison of a strict order in which incomparable elements may be
swapped. -/
structure StrictWeak (less : α → α → Bool) : Prop where
  asymm : ∀ left right, less left right → less right left = false
  trans : ∀ left middle right, less middle left = false → less right middle = false →
    less right left = false

theorem strictWeak_key [LinearOrder β] (key : α → β) :
    StrictWeak fun left right => decide (key left < key right) := by
  constructor
  · intro left right before
    simp only [decide_eq_true_eq, decide_eq_false_iff_not, not_lt] at before ⊢
    exact before.le
  · intro left middle right order order'
    simp only [decide_eq_false_iff_not, not_lt] at order order' ⊢
    exact order.trans order'

theorem strictWeak_then [LinearOrder β] (key : α → β) {less : α → α → Bool}
    (rest : StrictWeak less) :
    StrictWeak fun left right =>
      if key left ≠ key right then decide (key left < key right) else less left right := by
  constructor
  · intro left right before
    by_cases same : key left = key right
    · simp only [same, ne_eq, not_true_eq_false, if_false] at before ⊢
      exact rest.asymm _ _ before
    · simp only [same, Ne.symm same, ne_eq, not_false_eq_true, if_true, decide_eq_true_eq,
        decide_eq_false_iff_not, not_lt] at before ⊢
      exact before.le
  · intro left middle right order order'
    have trans := rest.trans left middle right
    simp only [Bool.ite_eq_false_distrib, decide_eq_false_iff_not, not_lt] at order order' ⊢
    split at order <;> split at order' <;> split <;> grind

theorem strictWeak_keys [LinearOrder β] [LinearOrder γ] (first : α → β) (second : α → γ) :
    StrictWeak fun left right =>
      if first left ≠ first right then decide (first left < first right)
      else decide (second left < second right) :=
  strictWeak_then first (strictWeak_key second)

theorem keys_eq_of_not_less [LinearOrder β] [LinearOrder γ] (first : α → β) (second : α → γ)
    {left right : α}
    (after : (if first left ≠ first right then decide (first left < first right)
      else decide (second left < second right)) = false)
    (before : (if first right ≠ first left then decide (first right < first left)
      else decide (second right < second left)) = false) :
    first left = first right ∧ second left = second right := by
  by_cases same : first left = first right
  · simp only [same, ne_eq, not_true_eq_false, if_false, decide_eq_false_iff_not, not_lt]
      at after before
    exact ⟨same, le_antisymm before after⟩
  · simp only [same, Ne.symm same, ne_eq, not_false_eq_true, if_true, decide_eq_false_iff_not,
      not_lt] at after before
    exact absurd (le_antisymm before after) same

section Stable

variable {less : α → α → Bool}

theorem StrictWeak.pairwise_insertionSort (order : StrictWeak less) (list : List α) :
    (list.insertionSort fun left right => !less right left).Pairwise fun left right =>
      (!less right left) = true := by
  have total : Std.Total fun left right : α => (!less right left) = true := by
    constructor
    intro left right
    cases after : less right left with
    | false => exact .inl (by simp)
    | true => exact .inr (by simp [order.asymm _ _ after])
  have trans : IsTrans α fun left right => (!less right left) = true := by
    constructor
    intro left middle right
    simpa using order.trans left middle right
  exact List.pairwise_insertionSort _ list

/-- The result does not depend on the order of the input if no two of its
elements compare equal. -/
theorem StrictWeak.insertionSort_eq_of_perm (order : StrictWeak less) {list other : List α}
    (perm : list.Perm other)
    (apart : ∀ left ∈ list, ∀ right ∈ list, less left right = false → less right left = false →
      left = right) :
    (list.insertionSort fun left right => !less right left) =
      other.insertionSort fun left right => !less right left := by
  have sorted := order.pairwise_insertionSort list
  have sorted' := order.pairwise_insertionSort other
  have same : (list.insertionSort fun left right => !less right left).Perm
      (other.insertionSort fun left right => !less right left) :=
    (List.perm_insertionSort _ list).trans
      (perm.trans (List.perm_insertionSort _ other).symm)
  refine List.Perm.eq_of_pairwise (fun left right member member' => ?_) sorted sorted' same
  intro before after
  rw [List.mem_insertionSort] at member member'
  simp only [Bool.not_eq_true'] at before after
  exact apart left member right (perm.mem_iff.mpr member') after before

end Stable

theorem insertionSort_keys_eq_of_perm [LinearOrder β] [LinearOrder γ] (first : α → β)
    (second : α → γ) {list other : List α} (perm : list.Perm other)
    (apart : ∀ left ∈ list, ∀ right ∈ list, first left = first right →
      second left = second right → left = right) :
    (list.insertionSort fun left right =>
      !if first right ≠ first left then decide (first right < first left)
        else decide (second right < second left)) =
      other.insertionSort fun left right =>
        !if first right ≠ first left then decide (first right < first left)
          else decide (second right < second left) := by
  apply (strictWeak_keys first second).insertionSort_eq_of_perm perm
  intro left member right member' after before
  have keys := keys_eq_of_not_less first second after before
  exact apart left member right member' keys.1 keys.2

/-! ## The ends of a sorted selection -/

/-- The least element; of those that compare equal, the first. -/
def firstBy (less : α → α → Bool) : List α → Option α
  | [] => none
  | head :: tail =>
      match firstBy less tail with
      | none => some head
      | some least => if less least head then some least else some head

/-- The greatest element; of those that compare equal, the last. -/
def lastBy (less : α → α → Bool) : List α → Option α
  | [] => none
  | head :: tail =>
      match lastBy less tail with
      | none => some head
      | some greatest => if less greatest head then some head else some greatest

theorem firstBy_mem {less : α → α → Bool} {list : List α} {least : α}
    (first : firstBy less list = some least) : least ∈ list := by
  induction list with
  | nil => simp [firstBy] at first
  | cons head tail induction =>
      rw [firstBy] at first
      split at first
      · rw [Option.some.inj first]
        exact List.mem_cons_self
      · split at first
        · exact List.mem_cons_of_mem _ (induction (by rw [← Option.some.inj first]; assumption))
        · rw [Option.some.inj first]
          exact List.mem_cons_self

theorem firstBy_eq_none_iff {less : α → α → Bool} {list : List α} :
    firstBy less list = none ↔ list = [] := by
  cases list with
  | nil => simp [firstBy]
  | cons head tail =>
      rw [firstBy]
      split
      · simp
      · split <;> simp

theorem lastBy_mem {less : α → α → Bool} {list : List α} {greatest : α}
    (last : lastBy less list = some greatest) : greatest ∈ list := by
  induction list with
  | nil => simp [lastBy] at last
  | cons head tail induction =>
      rw [lastBy] at last
      split at last
      · rw [Option.some.inj last]
        exact List.mem_cons_self
      · split at last
        · rw [Option.some.inj last]
          exact List.mem_cons_self
        · exact List.mem_cons_of_mem _ (induction (by rw [← Option.some.inj last]; assumption))

theorem lastBy_eq_none_iff {less : α → α → Bool} {list : List α} :
    lastBy less list = none ↔ list = [] := by
  cases list with
  | nil => simp [lastBy]
  | cons head tail =>
      rw [lastBy]
      split
      · simp
      · split <;> simp

section Ends

variable {less : α → α → Bool}

theorem head?_insertionSort (list : List α) :
    (list.insertionSort fun left right => !less right left).head? = firstBy less list := by
  induction list with
  | nil => rfl
  | cons head tail induction =>
      rw [List.insertionSort_cons, firstBy, ← induction]
      cases tail.insertionSort fun left right => !less right left with
      | nil => rfl
      | cons least rest =>
          rw [List.orderedInsert_cons, List.head?_cons]
          cases before : less least head <;> simp [before]

theorem StrictWeak.getLast?_orderedInsert (order : StrictWeak less) (value : α) {list : List α}
    (sorted : list.Pairwise fun left right => (!less right left) = true) :
    (list.orderedInsert (fun left right => !less right left) value).getLast? =
      match list.getLast? with
      | none => some value
      | some greatest => if less greatest value then some value else some greatest := by
  induction list with
  | nil => rfl
  | cons head tail induction =>
      rw [List.pairwise_cons] at sorted
      cases before : less head value with
      | true =>
          rw [List.orderedInsert_of_not_le _ tail (by simp [before]), List.getLast?_cons,
            induction sorted.2, List.getLast?_cons]
          cases tail.getLast? with
          | none => simp [before]
          | some greatest => cases after : less greatest value <;> simp [after]
      | false =>
          rw [List.orderedInsert_cons_of_le _ tail (by simp [before]), List.getLast?_cons,
            List.getLast?_cons]
          cases last : tail.getLast? with
          | none => simp [before]
          | some greatest =>
              have after := sorted.1 greatest (List.mem_of_getLast? last)
              have kept := order.trans value head greatest before (by simpa using after)
              simp [kept]

theorem StrictWeak.getLast?_insertionSort (order : StrictWeak less) (list : List α) :
    (list.insertionSort fun left right => !less right left).getLast? = lastBy less list := by
  induction list with
  | nil => rfl
  | cons head tail induction =>
      rw [List.insertionSort_cons,
        order.getLast?_orderedInsert head (order.pairwise_insertionSort tail), induction, lastBy]

theorem StrictWeak.filter_orderedInsert (order : StrictWeak less) (selected : α → Bool) (value : α)
    {list : List α} (sorted : list.Pairwise fun left right => (!less right left) = true) :
    (list.orderedInsert (fun left right => !less right left) value).filter selected =
      if selected value then
        (list.filter selected).orderedInsert (fun left right => !less right left) value
      else list.filter selected := by
  induction list with
  | nil => cases chosen : selected value <;> simp [chosen]
  | cons head tail induction =>
      rw [List.pairwise_cons] at sorted
      cases before : less head value with
      | true =>
          rw [List.orderedInsert_of_not_le _ tail (by simp [before]), List.filter_cons,
            induction sorted.2, List.filter_cons]
          cases selected head <;> cases selected value <;> simp [before]
      | false =>
          rw [List.orderedInsert_cons_of_le _ tail (by simp [before]), List.filter_cons]
          cases selected value with
          | false => rfl
          | true =>
              -- Everything selected comes after the head, so after the value too.
              cases kept : (head :: tail).filter selected with
              | nil => rfl
              | cons first rest =>
                  have member : first ∈ head :: tail :=
                    List.mem_of_mem_filter (by rw [kept]; exact List.mem_cons_self)
                  have after : less first value = false := by
                    rcases List.mem_cons.mp member with same | later
                    · rw [same]
                      exact before
                    · exact order.trans value head first before
                        (by simpa using sorted.1 first later)
                  simp [after]

theorem StrictWeak.filter_insertionSort (order : StrictWeak less) (selected : α → Bool)
    (list : List α) :
    (list.insertionSort fun left right => !less right left).filter selected =
      (list.filter selected).insertionSort fun left right => !less right left := by
  induction list with
  | nil => rfl
  | cons head tail induction =>
      rw [List.insertionSort_cons,
        order.filter_orderedInsert selected head (order.pairwise_insertionSort tail), induction,
        List.filter_cons]
      cases selected head <;> rfl

end Ends

theorem find?_eq_some_iff_of_sorted [LinearOrder β] (key : α → β) (selected : α → Bool)
    {list : List α}
    (sorted : list.Pairwise fun left right => ¬key right < key left)
    (distinct : (list.map key).Nodup) {element : α} (member : element ∈ list)
    (chosen : selected element) :
    list.find? selected = some element ↔
      ∀ other ∈ list, key other < key element → ¬selected other := by
  induction list with
  | nil => exact absurd member List.not_mem_nil
  | cons head tail induction =>
      rw [List.pairwise_cons] at sorted
      rw [List.map_cons, List.nodup_cons] at distinct
      by_cases first : selected head
      · rw [List.find?_cons_of_pos first, Option.some.injEq]
        rcases List.mem_cons.mp member with same | later
        · rw [same]
          constructor
          · intro _ other listed smaller
            rcases List.mem_cons.mp listed with same | later
            · rw [same] at smaller
              exact absurd smaller (lt_irrefl _)
            · exact absurd smaller (sorted.1 other later)
          · intro _
            rfl
        · have apart : key head ≠ key element := fun same =>
            distinct.1 (same ▸ List.mem_map_of_mem later)
          have smaller := lt_of_le_of_ne (not_lt.mp (sorted.1 element later)) apart
          constructor
          · intro same
            exact absurd (congrArg key same) apart
          · intro allLarger
            exact absurd first (allLarger head List.mem_cons_self smaller)
      · have later : element ∈ tail := by
          rcases List.mem_cons.mp member with same | later
          · rw [same] at chosen
            exact absurd chosen first
          · exact later
        rw [List.find?_cons_of_neg first, induction sorted.2 distinct.2 later, List.forall_mem_cons]
        simp [first]

end StarLens.Foundation
