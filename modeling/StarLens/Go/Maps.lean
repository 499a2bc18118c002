import Mathlib.Data.List.Nodup

/-! # Maps

The language leaves open in which order a map is ranged over. -/

namespace StarLens.Go

structure MapOrder (Entry : Type) where
  range : List Entry → List Entry
  perm : ∀ entries, (range entries).Perm entries

/-! ## Entries with distinct keys

What a map holds under a key does not depend on the order of its entries. -/

section Lookup

variable {Key Value Other : Type} [BEq Key] [LawfulBEq Key]

theorem lookup_cons_of_ne {key name : Key} (different : key ≠ name) (held : Value)
    (entries : List (Key × Value)) :
    ((name, held) :: entries).lookup key = entries.lookup key := by
  rw [List.lookup_cons, beq_eq_false_iff_ne.mpr different]

theorem lookup_eq_some_iff_mem {entries : List (Key × Value)}
    (distinct : (entries.map Prod.fst).Nodup) (key : Key) (value : Value) :
    entries.lookup key = some value ↔ (key, value) ∈ entries := by
  induction entries with
  | nil => simp
  | cons head tail induction =>
      rcases head with ⟨name, held⟩
      rw [List.map_cons, List.nodup_cons] at distinct
      rw [List.mem_cons, Prod.mk.injEq]
      by_cases same : key = name
      · subst same
        have absent : (key, value) ∉ tail := fun member =>
          distinct.1 (List.mem_map.mpr ⟨_, member, rfl⟩)
        simp [absent, eq_comm]
      · rw [lookup_cons_of_ne same, induction distinct.2]
        simp [same]

theorem lookup_perm {left right : List (Key × Value)} (perm : left.Perm right)
    (distinct : (left.map Prod.fst).Nodup) (key : Key) : left.lookup key = right.lookup key := by
  apply Option.ext
  intro value
  have reordered : (right.map Prod.fst).Nodup := (perm.map Prod.fst).nodup_iff.mp distinct
  rw [lookup_eq_some_iff_mem distinct, lookup_eq_some_iff_mem reordered, perm.mem_iff]

theorem lookup_filter_ne (entries : List (Key × Value)) {other key : Key}
    (different : key ≠ other) :
    (entries.filter fun entry => entry.1 != other).lookup key = entries.lookup key := by
  induction entries with
  | nil => rfl
  | cons head tail induction =>
      rcases head with ⟨name, held⟩
      rw [List.filter_cons]
      by_cases dropped : name = other
      · rw [if_neg (by simp [dropped]), induction, lookup_cons_of_ne (dropped ▸ different)]
      · rw [if_pos (by simp [dropped])]
        by_cases found : key = name
        · subst found
          rw [List.lookup_cons_self, List.lookup_cons_self]
        · rw [lookup_cons_of_ne found, lookup_cons_of_ne found, induction]

theorem lookup_filter (entries : List (Key × Value)) (keep : Key → Bool) {key : Key}
    (kept : keep key) : (entries.filter fun entry => keep entry.1).lookup key =
      entries.lookup key := by
  induction entries with
  | nil => rfl
  | cons head tail induction =>
      rcases head with ⟨name, held⟩
      rw [List.filter_cons]
      by_cases same : key = name
      · subst same
        rw [if_pos kept, List.lookup_cons_self, List.lookup_cons_self]
      · rw [lookup_cons_of_ne same, ← induction]
        split
        · rw [lookup_cons_of_ne same]
        · rfl

theorem lookup_map (transform : Key → Value → Other) (entries : List (Key × Value)) (key : Key) :
    (entries.map fun entry => (entry.1, transform entry.1 entry.2)).lookup key =
      (entries.lookup key).map (transform key) := by
  induction entries with
  | nil => rfl
  | cons head tail induction =>
      rcases head with ⟨name, held⟩
      rw [List.map_cons]
      by_cases same : key = name
      · subst same
        rw [List.lookup_cons_self, List.lookup_cons_self, Option.map_some]
      · rw [lookup_cons_of_ne same, lookup_cons_of_ne same, induction]

def filterValues (transform : Value → Option Other) (entries : List (Key × Value)) :
    List (Key × Other) :=
  entries.filterMap fun entry => (transform entry.2).map fun value => (entry.1, value)

omit [BEq Key] [LawfulBEq Key] in
theorem filterValues_cons_none {transform : Value → Option Other} {held : Value}
    (dropped : transform held = none) (name : Key) (entries : List (Key × Value)) :
    filterValues transform ((name, held) :: entries) = filterValues transform entries := by
  simp [filterValues, dropped]

omit [BEq Key] [LawfulBEq Key] in
theorem filterValues_cons_some {transform : Value → Option Other} {held : Value} {value : Other}
    (kept : transform held = some value) (name : Key) (entries : List (Key × Value)) :
    filterValues transform ((name, held) :: entries) =
      (name, value) :: filterValues transform entries := by
  simp [filterValues, kept]

omit [BEq Key] [LawfulBEq Key] in
theorem filterValues_keys (transform : Value → Option Other) (entries : List (Key × Value)) :
    ((filterValues transform entries).map Prod.fst).Sublist (entries.map Prod.fst) := by
  induction entries with
  | nil => exact List.Sublist.slnil
  | cons head tail induction =>
      rcases head with ⟨name, held⟩
      cases transformed : transform held with
      | none =>
          rw [filterValues_cons_none transformed]
          exact induction.cons name
      | some value =>
          rw [filterValues_cons_some transformed]
          exact induction.cons_cons name

theorem lookup_filterValues (transform : Value → Option Other) {entries : List (Key × Value)}
    (distinct : (entries.map Prod.fst).Nodup) (key : Key) :
    (filterValues transform entries).lookup key = (entries.lookup key).bind transform := by
  induction entries with
  | nil => rfl
  | cons head tail induction =>
      rcases head with ⟨name, held⟩
      rw [List.map_cons, List.nodup_cons] at distinct
      by_cases same : key = name
      · subst same
        rw [List.lookup_cons_self]
        cases transformed : transform held with
        | none =>
            have absent : tail.lookup key = none := by
              rw [List.lookup_eq_none_iff]
              intro entry member
              rw [bne_iff_ne]
              intro equal
              exact distinct.1 (List.mem_map.mpr ⟨entry, member, equal.symm⟩)
            rw [filterValues_cons_none transformed, induction distinct.2, absent, Option.bind_some,
              transformed, Option.bind_none]
        | some value =>
            rw [filterValues_cons_some transformed, List.lookup_cons_self, Option.bind_some,
              transformed]
      · rw [lookup_cons_of_ne same, ← induction distinct.2]
        cases transformed : transform held with
        | none => rw [filterValues_cons_none transformed]
        | some value => rw [filterValues_cons_some transformed, lookup_cons_of_ne same]

end Lookup

end StarLens.Go
