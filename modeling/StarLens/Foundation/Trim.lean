import Mathlib.Data.List.DropRight

/-! # Trimming the ends of a list

Taking two sets of elements off the end at once leaves a normal form. Taking off
one set and then the other leaves the same, unless an element of the first set
alone stands in front of one of the second. -/

namespace StarLens.Foundation

variable {α : Type} {front back : α → Bool}

structure Trimmed (front back : α → Bool) (list : List α) : Prop where
  head : ∀ first ∈ list.head?, ¬front first
  last : ∀ last ∈ list.getLast?, ¬back last

def trim (front back : α → Bool) (list : List α) : List α :=
  (list.dropWhile front).rdropWhile back

theorem dropWhile_split (front : α → Bool) (list : List α) :
    ∃ before, list = before ++ list.dropWhile front ∧ ∀ element ∈ before, front element := by
  refine ⟨list.takeWhile front, List.takeWhile_append_dropWhile.symm, ?_⟩
  intro element member
  exact List.mem_takeWhile_imp member

theorem rdropWhile_split (back : α → Bool) (list : List α) :
    ∃ behind, list = list.rdropWhile back ++ behind ∧ ∀ element ∈ behind, back element := by
  refine ⟨list.rtakeWhile back, List.rdropWhile_append_rtakeWhile.symm, ?_⟩
  intro element member
  exact List.mem_rtakeWhile_imp member

theorem mem_head?_of_start {start list : List α} (isPrefix : start <+: list) {first : α}
    (head : first ∈ start.head?) : first ∈ list.head? := by
  have starts := List.singleton_prefix_iff_head?_eq_some.mpr head
  exact List.singleton_prefix_iff_head?_eq_some.mp (starts.trans isPrefix)

theorem not_front_of_head? {list : List α} {first : α}
    (head : first ∈ (list.dropWhile front).head?) : ¬front first := by
  have stopped := List.head?_dropWhile_not front list
  rw [Option.mem_def.mp head] at stopped
  simpa using stopped

theorem not_back_of_getLast? {list : List α} {last : α}
    (ending : last ∈ (list.rdropWhile back).getLast?) : ¬back last := by
  have split' := List.getLast?_eq_some_iff.mp ending
  have nonempty : list.rdropWhile back ≠ [] := by
    rcases split' with ⟨start, split⟩
    simp [split]
  have stopped := List.rdropWhile_last_not back list nonempty
  rw [List.getLast?_eq_some_getLast nonempty, Option.mem_def, Option.some.injEq] at ending
  rwa [ending] at stopped

theorem trim_sublist (front back : α → Bool) (list : List α) :
    (trim front back list).Sublist list :=
  (List.rdropWhile_prefix back _).sublist.trans (List.dropWhile_sublist front)

theorem trimmed_trim (front back : α → Bool) (list : List α) :
    Trimmed front back (trim front back list) := by
  constructor
  · intro first head
    exact not_front_of_head? (mem_head?_of_start (List.rdropWhile_prefix back _) head)
  · intro last
    exact not_back_of_getLast?

theorem trim_split (front back : α → Bool) (list : List α) :
    ∃ before behind, list = before ++ trim front back list ++ behind ∧
      (∀ element ∈ before, front element) ∧ ∀ element ∈ behind, back element := by
  rcases dropWhile_split front list with ⟨before, split, fronts⟩
  rcases rdropWhile_split back (list.dropWhile front) with ⟨behind, split', backs⟩
  refine ⟨before, behind, ?_, fronts, backs⟩
  rw [List.append_assoc, trim, ← split', ← split]

theorem rdropWhile_append_of_pos {kept behind : List α} (backs : ∀ element ∈ behind, back element) :
    (kept ++ behind).rdropWhile back = kept.rdropWhile back := by
  rw [List.rdropWhile, List.reverse_append, List.dropWhile_append_of_pos, List.rdropWhile]
  intro element member
  exact backs element (List.mem_reverse.mp member)

theorem rdropWhile_append_of_exists {kept behind : List α}
    (stops : ∃ element ∈ behind, ¬back element) :
    (kept ++ behind).rdropWhile back = kept ++ behind.rdropWhile back := by
  have nonempty : (behind.reverse.dropWhile back).isEmpty = false := by
    simpa using stops
  rw [List.rdropWhile, List.reverse_append, List.dropWhile_append, nonempty,
    if_neg Bool.false_ne_true, List.reverse_append, List.reverse_reverse, List.rdropWhile]

theorem dropWhile_append_of_exists {kept behind : List α}
    (stops : ∃ element ∈ kept, ¬front element) :
    (kept ++ behind).dropWhile front = kept.dropWhile front ++ behind := by
  have nonempty : (kept.dropWhile front).isEmpty = false := by
    simpa using stops
  rw [List.dropWhile_append, nonempty, if_neg Bool.false_ne_true]

theorem dropWhile_eq_self_of_head? {list : List α} (head : ∀ first ∈ list.head?, ¬front first) :
    list.dropWhile front = list := by
  cases list with
  | nil => rfl
  | cons first rest => exact List.dropWhile_cons_of_neg (head first rfl)

theorem rdropWhile_eq_self_of_getLast? {list : List α}
    (last : ∀ last ∈ list.getLast?, ¬back last) : list.rdropWhile back = list := by
  rw [List.rdropWhile_eq_self_iff]
  intro nonempty
  exact last _ (List.getLast?_eq_some_getLast nonempty)

theorem trim_eq_self {list : List α} (trimmed : Trimmed front back list) :
    trim front back list = list := by
  rw [trim, dropWhile_eq_self_of_head? trimmed.head, rdropWhile_eq_self_of_getLast? trimmed.last]

theorem trim_eq_of_split {before kept behind : List α}
    (fronts : ∀ element ∈ before, front element) (backs : ∀ element ∈ behind, back element)
    (trimmed : Trimmed front back kept) : trim front back (before ++ kept ++ behind) = kept := by
  rw [trim, List.append_assoc, List.dropWhile_append_of_pos fronts]
  cases kept with
  | nil =>
      rw [List.nil_append, List.rdropWhile_eq_nil_iff]
      intro element member
      exact backs element (List.dropWhile_subset front member)
  | cons first rest =>
      rw [List.cons_append, List.dropWhile_cons_of_neg (trimmed.head first rfl),
        ← List.cons_append, rdropWhile_append_of_pos backs]
      exact rdropWhile_eq_self_of_getLast? trimmed.last

theorem trim_eq_nil {list : List α} (backs : ∀ element ∈ list, back element) :
    trim front back list = [] := by
  rw [trim, List.rdropWhile_eq_nil_iff]
  intro element member
  exact backs element (List.dropWhile_subset front member)

/-! ## Two sets in turn -/

section InTurn

variable (space cut : α → Bool) (list : List α)

/-- `space` is taken off both ends, and then `cut` off the end. -/
def trimInTurn : List α :=
  (trim space space list).rdropWhile cut

/-- An element of `space` alone stands behind one outside `space`, and behind it
only elements of either set, not all of them in `space`. -/
def Covered : Prop :=
  ∃ before left behind, list = before ++ left :: behind ∧
    (∃ element ∈ before, ¬space element) ∧
    space left ∧ ¬cut left ∧
    (∀ element ∈ behind, space element || cut element) ∧ ∃ element ∈ behind, ¬space element

theorem trimInTurn_split :
    ∃ before behind, list = before ++ trimInTurn space cut list ++ behind ∧
      (∀ element ∈ before, space element) ∧
      ∀ element ∈ behind, space element || cut element := by
  rcases trim_split space space list with ⟨before, behind, split, fronts, backs⟩
  rcases rdropWhile_split cut (trim space space list) with ⟨behind', split', backs'⟩
  refine ⟨before, behind' ++ behind, ?_, fronts, ?_⟩
  · rw [← List.append_assoc, List.append_assoc before, trimInTurn, ← split', ← split]
  · rw [List.forall_mem_append]
    constructor
    · intro element member
      simp [backs' element member]
    · intro element member
      simp [backs element member]

variable {space cut list}

theorem trimInTurn_head {first : α} (head : first ∈ (trimInTurn space cut list).head?) :
    ¬space first := by
  apply (trimmed_trim space space list).head
  exact mem_head?_of_start (List.rdropWhile_prefix cut _) head

theorem trimInTurn_last {last : α} (ending : last ∈ (trimInTurn space cut list).getLast?) :
    ¬cut last :=
  not_back_of_getLast? ending

theorem trimmed_trimInTurn_iff :
    Trimmed space (fun element => space element || cut element) (trimInTurn space cut list) ↔
      ∀ last ∈ (trimInTurn space cut list).getLast?, ¬space last := by
  constructor
  · intro trimmed last ending blank
    exact trimmed.last last ending (by simp [blank])
  · intro plain
    constructor
    · intro first
      exact trimInTurn_head
    · intro last ending
      simp [plain last ending, trimInTurn_last ending]

theorem last_of_covered (covered : Covered space cut list) :
    ∃ last ∈ (trimInTurn space cut list).getLast?, space last := by
  rcases covered with ⟨before, left, behind, rfl, inner, blank, kept, either, stops⟩
  have trimmed : trimInTurn space cut (before ++ left :: behind) =
      before.dropWhile space ++ (left :: behind.rdropWhile space).rdropWhile cut := by
    rw [trimInTurn, trim, dropWhile_append_of_exists inner, List.append_cons,
      rdropWhile_append_of_exists stops, ← List.append_cons, rdropWhile_append_of_exists]
    exact ⟨left, List.mem_cons_self, kept⟩
  have nonempty : (left :: behind.rdropWhile space).rdropWhile cut ≠ [] := by
    intro empty
    exact kept (List.rdropWhile_eq_nil_iff.mp empty left List.mem_cons_self)
  have ending := List.getLast?_eq_some_getLast nonempty
  refine ⟨_, by rw [trimmed, List.getLast?_append_of_ne_nil _ nonempty]; exact ending, ?_⟩
  have plain := not_back_of_getLast? ending
  have member := (List.rdropWhile_prefix cut _).subset (List.getLast_mem nonempty)
  rcases List.mem_cons.mp member with same | later
  · rw [same]
    exact blank
  · have listed := either _ ((List.rdropWhile_prefix space _).subset later)
    simpa [plain] using listed

theorem covered_of_last {last : α} (ending : last ∈ (trimInTurn space cut list).getLast?)
    (blank : space last) : Covered space cut list := by
  rcases trim_split space space list with ⟨before, behind, split, fronts, backs⟩
  rcases rdropWhile_split cut (trim space space list) with ⟨cuts, split', onlyCut⟩
  rcases List.getLast?_eq_some_iff.mp ending with ⟨start, shape⟩
  have kept : trim space space list = start ++ last :: cuts := by
    rw [split', ← trimInTurn, shape, List.append_assoc, List.singleton_append]
  have trimmed := trimmed_trim space space list
  rw [kept] at trimmed
  refine ⟨before ++ start, last, cuts ++ behind, ?_, ?_, blank, trimInTurn_last ending, ?_, ?_⟩
  · rw [split, kept]
    simp
  · cases start with
    | nil => exact absurd blank (trimmed.head last rfl)
    | cons first rest => exact ⟨first, by simp, trimmed.head first rfl⟩
  · rw [List.forall_mem_append]
    constructor
    · intro element member
      simp [onlyCut element member]
    · intro element member
      simp [backs element member]
  · cases cuts with
    | nil => exact absurd blank (trimmed.last last (by simp))
    | cons first rest =>
        have nonempty := List.cons_ne_nil first rest
        refine ⟨_, List.mem_append_left _ (List.getLast_mem nonempty), trimmed.last _ ?_⟩
        rw [List.append_cons, List.getLast?_append_of_ne_nil _ nonempty]
        exact List.getLast?_eq_some_getLast nonempty

theorem trimmed_trimInTurn_iff_not_covered :
    Trimmed space (fun element => space element || cut element) (trimInTurn space cut list) ↔
      ¬Covered space cut list := by
  rw [trimmed_trimInTurn_iff]
  constructor
  · intro plain covered
    rcases last_of_covered covered with ⟨last, ending, blank⟩
    exact plain last ending blank
  · intro uncovered last ending blank
    exact uncovered (covered_of_last ending blank)

theorem trimInTurn_eq_trim_iff :
    trimInTurn space cut list = trim space (fun element => space element || cut element) list ↔
      ¬Covered space cut list := by
  rw [← trimmed_trimInTurn_iff_not_covered]
  constructor
  · intro same
    rw [same]
    exact trimmed_trim _ _ list
  · intro trimmed
    rcases trimInTurn_split space cut list with ⟨before, behind, split, fronts, backs⟩
    have unique := trim_eq_of_split fronts backs trimmed
    rw [← split] at unique
    exact unique.symm

theorem trimInTurn_eq_self
    (trimmed : Trimmed space (fun element => space element || cut element) list) :
    trimInTurn space cut list = list := by
  have plain : ∀ last ∈ list.getLast?, ¬space last ∧ ¬cut last := by
    intro last ending
    simpa using trimmed.last last ending
  have spaces : Trimmed space space list :=
    ⟨trimmed.head, fun last ending => (plain last ending).1⟩
  rw [trimInTurn, trim_eq_self spaces,
    rdropWhile_eq_self_of_getLast? fun last ending => (plain last ending).2]

/-- Trimming in turn a second time takes off a covered element. -/
theorem trimInTurn_idempotent_iff :
    trimInTurn space cut (trimInTurn space cut list) = trimInTurn space cut list ↔
      ¬Covered space cut list := by
  rw [← trimmed_trimInTurn_iff_not_covered]
  constructor
  · intro same
    rw [trimmed_trimInTurn_iff]
    intro last ending
    -- The first round has to leave everything.
    have sublist : (trimInTurn space cut list).Sublist
        (trim space space (trimInTurn space cut list)) := by
      have isPrefix := List.rdropWhile_prefix cut (trim space space (trimInTurn space cut list))
      rw [← trimInTurn, same] at isPrefix
      exact isPrefix.sublist
    have whole := sublist.antisymm (trim_sublist space space _)
    have trimmed := trimmed_trim space space (trimInTurn space cut list)
    rw [← whole] at trimmed
    exact trimmed.last last ending
  · exact trimInTurn_eq_self

theorem trimInTurn_eq_nil_iff (either : ∀ element ∈ list, space element || cut element) :
    trimInTurn space cut list = [] ↔ ¬Covered space cut list := by
  rw [← trimInTurn_eq_trim_iff, trim_eq_nil either]

end InTurn

end StarLens.Foundation
