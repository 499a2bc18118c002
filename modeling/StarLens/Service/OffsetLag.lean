import Mathlib.Algebra.BigOperators.Group.Finset.Basic
import Mathlib.Algebra.Order.BigOperators.Group.Finset
import StarLens.Go.Maps
import StarLens.Go.Representable
import StarLens.Go.Wraparound
import StarLens.Service.RoutineLoad

/-! # The offset lag

`computeOffsetLag` reads two maps of offsets and adds up how far the one is
behind the other, in whatever order the maps are ranged over. -/

namespace StarLens.Service

open Alert (Document Json)
open Go

/-! ## Map orders -/

/-- The orders of one call: of the decoded members of both columns, and of the
latest offsets. -/
structure OffsetOrders where
  progress : MapOrder (String × Json)
  latest : MapOrder (String × Json)
  common : MapOrder (String × Int64)

section Columns

variable (parse : String → Except String Document)

/-- `parseOffsetMap`, ranging over the decoded members in this order. -/
def parseOffsetMapIn (order : MapOrder (String × Json)) (raw : String) :
    List (String × Int64) :=
  let raw := Strings.trimSpace raw
  if raw = "" || raw = "NULL" || raw.toList.head? != some '\x7b' then []
  else
    match parse raw with
    | .ok (.object members) =>
        if members.all fun member => readableNumber member.2 then
          (order.range (lastMembers members)).filterMap fun member =>
            (offset? member.2).map fun offset => (member.1, offset)
        else []
    | _ => []

def computeOffsetLagIn (orders : OffsetOrders) (progressRaw latestRaw : String) : Option Int64 :=
  let progress := parseOffsetMapIn parse orders.progress progressRaw
  let latest := parseOffsetMapIn parse orders.latest latestRaw
  let deltas := (orders.common.range latest).filterMap fun entry =>
    (progress.lookup entry.1).map fun consumed => entry.2 - consumed
  if deltas.isEmpty then none
  else some (deltas.foldl (fun lag delta => if 0 < delta then lag + delta else lag) 0)

end Columns

/-! ## Members -/

def lastValue (members : List (String × Json)) (name : String) : Option Json :=
  members.reverse.lookup name

/-- The offset of a partition, where it has one. -/
def offsetOf (members : List (String × Json)) (partition : String) : Option Int64 :=
  (lastValue members partition).bind offset?

private theorem lastMembers_append (members : List (String × Json)) (member : String × Json) :
    lastMembers (members ++ [member]) =
      member :: (lastMembers members).filter fun entry => entry.1 != member.1 := by
  rw [lastMembers, List.foldl_append]
  rfl

private theorem lastMembers_distinct (members : List (String × Json)) :
    ((lastMembers members).map Prod.fst).Nodup := by
  induction members using List.reverseRecOn with
  | nil => exact List.nodup_nil
  | append_singleton front last induction =>
      rw [lastMembers_append, List.map_cons, List.nodup_cons]
      constructor
      · intro member
        rcases List.mem_map.mp member with ⟨entry, kept, same⟩
        simp [same] at kept
      · exact induction.sublist (List.filter_sublist.map Prod.fst)

private theorem lookup_lastMembers (members : List (String × Json)) (name : String) :
    (lastMembers members).lookup name = lastValue members name := by
  induction members using List.reverseRecOn with
  | nil => rfl
  | append_singleton front last induction =>
      rcases last with ⟨key, value⟩
      rw [lastMembers_append, lastValue, List.reverse_append, List.reverse_singleton,
        List.singleton_append]
      by_cases same : name = key
      · subst same
        rw [List.lookup_cons_self, List.lookup_cons_self]
      · rw [lookup_cons_of_ne same, lookup_cons_of_ne same, lookup_filter_ne _ same, induction,
          lastValue]

theorem mem_of_lastValue {members : List (String × Json)} {name : String} {value : Json}
    (held : lastValue members name = some value) : (name, value) ∈ members := by
  rcases List.lookup_eq_some_iff.mp held with ⟨before, after, split, -⟩
  rw [← List.mem_reverse, split]
  simp

section Reading

variable (parse : String → Except String Document)

def IsObject (raw : String) (members : List (String × Json)) : Prop :=
  (Strings.trimSpace raw).toList.head? = some '\x7b' ∧
    parse (Strings.trimSpace raw) = .ok (.object members)

private theorem parseOffsetMapIn_members (raw : String) :
    ∃ members : List (String × Json), (members.map Prod.fst).Nodup ∧
      ∀ order, parseOffsetMapIn parse order raw = filterValues offset? (order.range members) := by
  have empty (order : MapOrder (String × Json)) :
      [] = filterValues offset? (order.range []) := by
    rw [List.perm_nil.mp (order.perm [])]
    rfl
  simp only [parseOffsetMapIn]
  split
  · exact ⟨[], List.nodup_nil, empty⟩
  · split
    · split
      · exact ⟨_, lastMembers_distinct _, fun order => rfl⟩
      · exact ⟨[], List.nodup_nil, empty⟩
    · exact ⟨[], List.nodup_nil, empty⟩

private theorem parseOffsetMap_eq (raw : String) :
    parseOffsetMap parse raw =
      parseOffsetMapIn parse ⟨id, fun entries => .refl entries⟩ raw := rfl

private theorem parseOffsetMapIn_perm (order : MapOrder (String × Json)) (raw : String) :
    (parseOffsetMapIn parse order raw).Perm (parseOffsetMap parse raw) := by
  rcases parseOffsetMapIn_members parse raw with ⟨members, -, read⟩
  rw [parseOffsetMap_eq, read, read]
  exact (order.perm members).filterMap _

theorem parseOffsetMap_distinct (raw : String) :
    ((parseOffsetMap parse raw).map Prod.fst).Nodup := by
  rcases parseOffsetMapIn_members parse raw with ⟨members, distinct, read⟩
  rw [parseOffsetMap_eq, read]
  exact distinct.sublist (filterValues_keys offset? members)

theorem lookup_parseOffsetMap {raw : String} {members : List (String × Json)}
    (object : IsObject parse raw members)
    (readable : ∀ member ∈ members, readableNumber member.2) (partition : String) :
    (parseOffsetMap parse raw).lookup partition = offsetOf members partition := by
  rcases object with ⟨opens, parsed⟩
  have blank : Strings.trimSpace raw ≠ "" := by
    intro equal
    rw [equal] at opens
    cases opens
  have null : Strings.trimSpace raw ≠ "NULL" := by
    intro equal
    rw [equal] at opens
    simp at opens
  have all : (members.all fun member => readableNumber member.2) = true :=
    List.all_eq_true.mpr readable
  have read : parseOffsetMap parse raw = filterValues offset? (lastMembers members) := by
    simp [parseOffsetMap, blank, null, opens, parsed, all, filterValues]
  rw [read, lookup_filterValues offset? (lastMembers_distinct members), lookup_lastMembers,
    offsetOf]

/-! ## The sum -/

def lagOf (deltas : List Int64) : Option Int64 :=
  if deltas.isEmpty then none
  else some (Int64.ofInt (deltas.map fun delta => max 0 delta.toInt).sum)

private theorem lagOf_perm {left right : List Int64} (perm : left.Perm right) :
    lagOf left = lagOf right := by
  rw [lagOf, lagOf, perm.isEmpty_eq, (perm.map fun delta => max 0 delta.toInt).sum_eq]

def deltasOf (progress latest : List (String × Int64)) : List Int64 :=
  latest.filterMap fun entry => (progress.lookup entry.1).map fun consumed => entry.2 - consumed

private theorem computeOffsetLagIn_lagOf (orders : OffsetOrders) (progressRaw latestRaw : String) :
    computeOffsetLagIn parse orders progressRaw latestRaw =
      lagOf (deltasOf (parseOffsetMapIn parse orders.progress progressRaw)
        (orders.common.range (parseOffsetMapIn parse orders.latest latestRaw))) := by
  rw [lagOf, computeOffsetLagIn, deltasOf]
  simp only [foldl_positive, Int64.zero_add]

theorem computeOffsetLag_lagOf (progressRaw latestRaw : String) :
    computeOffsetLag parse progressRaw latestRaw =
      lagOf (deltasOf (parseOffsetMap parse progressRaw) (parseOffsetMap parse latestRaw)) := by
  rw [lagOf, computeOffsetLag, deltasOf]
  simp only [foldl_positive, Int64.zero_add]

/-- No order changes the lag. -/
theorem computeOffsetLagIn_eq (orders : OffsetOrders) (progressRaw latestRaw : String) :
    computeOffsetLagIn parse orders progressRaw latestRaw =
      computeOffsetLag parse progressRaw latestRaw := by
  have consumed (partition : String) :
      (parseOffsetMapIn parse orders.progress progressRaw).lookup partition =
        (parseOffsetMap parse progressRaw).lookup partition :=
    (lookup_perm (parseOffsetMapIn_perm parse orders.progress progressRaw).symm
      (parseOffsetMap_distinct parse progressRaw) partition).symm
  have latest := (orders.common.perm _).trans (parseOffsetMapIn_perm parse orders.latest latestRaw)
  rw [computeOffsetLagIn_lagOf, computeOffsetLag_lagOf]
  simp only [deltasOf, consumed]
  exact lagOf_perm (latest.filterMap _)

end Reading

/-! ## Partitions

What the lag is in terms of the offsets of each partition. -/

def atPartition (measure : Int64 → Int64 → Int) (progress latest : String → Option Int64)
    (partition : String) : Int :=
  match latest partition, progress partition with
  | some position, some consumed => measure position consumed
  | _, _ => 0

def Common (progress latest : String → Option Int64) : Prop :=
  ∃ partition, (progress partition).isSome ∧ (latest partition).isSome

def gain (position consumed : Int64) : Int := max 0 (position - consumed).toInt

theorem atPartition_some {progress latest : String → Option Int64} {partition : String}
    {position consumed : Int64} (measure : Int64 → Int64 → Int)
    (current : latest partition = some position) (past : progress partition = some consumed) :
    atPartition measure progress latest partition = measure position consumed := by
  rw [atPartition, current, past]

private theorem atPartition_none {progress latest : String → Option Int64} {partition : String}
    (measure : Int64 → Int64 → Int) (missing : latest partition = none) :
    atPartition measure progress latest partition = 0 := by
  rw [atPartition, missing]

private theorem sum_deltasOf (progress : List (String × Int64)) {latest : List (String × Int64)}
    (distinct : (latest.map Prod.fst).Nodup) {partitions : Finset String}
    (covers : ∀ entry ∈ latest, entry.1 ∈ partitions) :
    ((deltasOf progress latest).map fun delta => max 0 delta.toInt).sum =
      ∑ partition ∈ partitions, atPartition gain (fun name => progress.lookup name)
        (fun name => latest.lookup name) partition := by
  have entries (rest : List (String × Int64)) (included : ∀ entry ∈ rest, entry ∈ latest) :
      ((deltasOf progress rest).map fun delta => max 0 delta.toInt).sum =
        ((rest.map Prod.fst).map (atPartition gain (fun name => progress.lookup name)
          fun name => latest.lookup name)).sum := by
    induction rest with
    | nil => rfl
    | cons head tail induction =>
        rw [List.forall_mem_cons] at included
        have current : latest.lookup head.1 = some head.2 :=
          (lookup_eq_some_iff_mem distinct head.1 head.2).mpr included.1
        rw [List.map_cons, List.map_cons, List.sum_cons, ← induction included.2, deltasOf,
          List.filterMap_cons]
        cases past : progress.lookup head.1 with
        | none => simp [atPartition, past, deltasOf]
        | some consumed => simp [atPartition, past, current, gain, deltasOf]
  have names : (latest.map Prod.fst).toFinset ⊆ partitions := by
    intro name member
    rcases List.mem_map.mp (List.mem_toFinset.mp member) with ⟨entry, held, same⟩
    exact same ▸ covers entry held
  rw [entries latest fun _ member => member, ← List.sum_toFinset _ distinct]
  apply Finset.sum_subset names
  intro name _ absent
  apply atPartition_none
  rw [List.lookup_eq_none_iff]
  intro entry member
  rw [bne_iff_ne]
  intro same
  exact absent (List.mem_toFinset.mpr (List.mem_map.mpr ⟨entry, member, same.symm⟩))

private theorem deltasOf_isEmpty_iff (progress : List (String × Int64))
    {latest : List (String × Int64)} (distinct : (latest.map Prod.fst).Nodup) :
    (deltasOf progress latest).isEmpty ↔
      ¬Common (fun name => progress.lookup name) fun name => latest.lookup name := by
  rw [List.isEmpty_iff, deltasOf, List.filterMap_eq_nil_iff, Common]
  constructor
  · intro unmatched common
    rcases common with ⟨partition, past, current⟩
    rcases Option.isSome_iff_exists.mp current with ⟨position, held⟩
    have missing := unmatched (partition, position)
      ((lookup_eq_some_iff_mem distinct partition position).mp held)
    rw [Option.map_eq_none_iff] at missing
    rw [missing] at past
    cases past
  · intro distinctPartitions entry member
    rw [Option.map_eq_none_iff, ← Option.not_isSome_iff_eq_none]
    intro past
    have current := (lookup_eq_some_iff_mem distinct entry.1 entry.2).mpr member
    exact distinctPartitions ⟨entry.1, past, by rw [current]; rfl⟩

section Objects

variable {parse : String → Except String Document} {progressRaw latestRaw : String}
  {progress latest : String → Option Int64}

theorem computeOffsetLag_eq_none_iff
    (past : ∀ name, (parseOffsetMap parse progressRaw).lookup name = progress name)
    (current : ∀ name, (parseOffsetMap parse latestRaw).lookup name = latest name) :
    computeOffsetLag parse progressRaw latestRaw = none ↔ ¬Common progress latest := by
  have matched := deltasOf_isEmpty_iff (parseOffsetMap parse progressRaw)
    (parseOffsetMap_distinct parse latestRaw)
  simp only [past, current] at matched
  rw [computeOffsetLag_lagOf, ← matched, lagOf]
  split
  · rename_i empty
    simp [empty]
  · rename_i filled
    simp [filled]

theorem eq_of_computeOffsetLag
    (past : ∀ name, (parseOffsetMap parse progressRaw).lookup name = progress name)
    (current : ∀ name, (parseOffsetMap parse latestRaw).lookup name = latest name)
    {partitions : Finset String} (covers : ∀ name, (latest name).isSome → name ∈ partitions)
    {lag : Int64} (computed : computeOffsetLag parse progressRaw latestRaw = some lag) :
    lag = Int64.ofInt (∑ partition ∈ partitions, atPartition gain progress latest partition) := by
  have distinct := parseOffsetMap_distinct parse latestRaw
  have held : ∀ entry ∈ parseOffsetMap parse latestRaw, entry.1 ∈ partitions := by
    intro entry member
    apply covers
    rw [← current, (lookup_eq_some_iff_mem distinct entry.1 entry.2).mpr member]
    rfl
  have sum := sum_deltasOf (parseOffsetMap parse progressRaw) distinct held
  simp only [past, current] at sum
  rw [computeOffsetLag_lagOf, lagOf, sum] at computed
  split at computed
  · cases computed
  · exact (Option.some.inj computed).symm

end Objects

/-! ## Exactness -/

def behind (position consumed : Int64) : Int := max 0 (position.toInt - consumed.toInt)

/-- What the wraparound makes of a position far behind the consumed offset. -/
def wrapped (position consumed : Int64) : Int :=
  if position.toInt - consumed.toInt < -2 ^ 63 then
    position.toInt - consumed.toInt + 2 ^ 64
  else 0

private theorem gain_of_near {position consumed : Int64}
    (near : position.toInt - consumed.toInt < 2 ^ 63) :
    gain position consumed = behind position consumed + wrapped position consumed := by
  have low := position.le_toInt
  have high := consumed.toInt_lt
  rw [gain, behind, wrapped]
  rcases toInt_sub_cases position consumed with ⟨exact, -, same⟩ | ⟨far, -⟩ | ⟨far, same⟩
  · rw [if_neg (not_lt.mpr exact), same, add_zero]
  · omega
  · have ahead : 0 ≤ position.toInt - consumed.toInt + 2 ^ 64 := by omega
    have caughtUp : position.toInt - consumed.toInt ≤ 0 := by omega
    rw [if_pos far, same, max_eq_right ahead, max_eq_left caughtUp, zero_add]

def partitionsOf (members : List (String × Json)) : Finset String :=
  (members.map Prod.fst).toFinset

private theorem mem_partitionsOf {members : List (String × Json)} {partition : String}
    (held : (offsetOf members partition).isSome) : partition ∈ partitionsOf members := by
  rcases Option.isSome_iff_exists.mp held with ⟨offset, reads⟩
  rcases Option.bind_eq_some_iff.mp reads with ⟨value, last, -⟩
  exact List.mem_toFinset.mpr (List.mem_map.mpr ⟨_, mem_of_lastValue last, rfl⟩)

section Exactness

variable (progress latest : List (String × Json))

def lagSum (measure : Int64 → Int64 → Int) : Int :=
  ∑ partition ∈ partitionsOf latest,
    atPartition measure (offsetOf progress) (offsetOf latest) partition

/-- No lag exactly when no partition has an offset in both objects, and
otherwise what is left to consume in all of them. -/
def LagExact (lag : Option Int64) : Prop :=
  (lag = none ↔ ¬Common (offsetOf progress) (offsetOf latest)) ∧
    ∀ number, lag = some number →
      number.toInt = lagSum progress latest behind ∧ 0 ≤ number.toInt

variable {progress latest}

private theorem atPartition_nonneg {measure : Int64 → Int64 → Int}
    (nonneg : ∀ position consumed, 0 ≤ measure position consumed)
    (past current : String → Option Int64) (partition : String) :
    0 ≤ atPartition measure past current partition := by
  rw [atPartition]
  split
  · exact nonneg _ _
  · exact le_rfl

private theorem lagSum_nonneg {measure : Int64 → Int64 → Int}
    (nonneg : ∀ position consumed, 0 ≤ measure position consumed) :
    0 ≤ lagSum progress latest measure :=
  Finset.sum_nonneg fun partition _ => atPartition_nonneg nonneg _ _ partition

private theorem lagSum_gain (fits : lagSum progress latest behind < 2 ^ 63) :
    lagSum progress latest gain =
      lagSum progress latest behind + lagSum progress latest wrapped := by
  rw [lagSum, lagSum, lagSum, ← Finset.sum_add_distrib]
  apply Finset.sum_congr rfl
  intro partition member
  have nonneg (position consumed : Int64) : 0 ≤ behind position consumed := le_max_left _ _
  have single : atPartition behind (offsetOf progress) (offsetOf latest) partition ≤
      lagSum progress latest behind :=
    Finset.single_le_sum (fun name _ => atPartition_nonneg nonneg _ _ name) member
  cases current : offsetOf latest partition with
  | none => simp only [atPartition_none _ current, add_zero]
  | some position =>
      cases past : offsetOf progress partition with
      | none => simp only [atPartition, current, past, add_zero]
      | some consumed =>
          rw [atPartition_some behind current past, behind, max_le_iff] at single
          simp only [atPartition_some _ current past]
          exact gain_of_near (single.2.trans_lt fits)

private theorem toInt_lagSum_gain_iff :
    (Int64.ofInt (lagSum progress latest gain)).toInt = lagSum progress latest behind ↔
      lagSum progress latest behind < 2 ^ 63 ∧ 2 ^ 64 ∣ lagSum progress latest wrapped := by
  have nonneg : 0 ≤ lagSum progress latest behind := lagSum_nonneg fun _ _ => le_max_left _ _
  have inside : (-2 ^ 63 ≤ lagSum progress latest behind ∧ lagSum progress latest behind < 2 ^ 63) ↔
      lagSum progress latest behind < 2 ^ 63 := by omega
  rw [toInt_ofInt_eq_iff, inside]
  apply and_congr_right
  intro fits
  rw [lagSum_gain fits, add_sub_cancel_left]

end Exactness

/-- The sum is exact if it fits, and what positions far behind the consumed
offsets wrap to is nothing or comes to full turns. -/
theorem computeOffsetLag_exact_iff (parse : String → Except String Document)
    (orders : OffsetOrders) {progressRaw latestRaw : String}
    {progress latest : List (String × Json)} (progressObject : IsObject parse progressRaw progress)
    (latestObject : IsObject parse latestRaw latest)
    (progressTexts : ∀ member ∈ progress, ∃ text, member.2 = .string text)
    (latestTexts : ∀ member ∈ latest, ∃ text, member.2 = .string text) :
    LagExact progress latest (computeOffsetLagIn parse orders progressRaw latestRaw) ↔
      ¬Common (offsetOf progress) (offsetOf latest) ∨
        lagSum progress latest behind < 2 ^ 63 ∧ 2 ^ 64 ∣ lagSum progress latest wrapped := by
  have readable {members : List (String × Json)}
      (texts : ∀ member ∈ members, ∃ text, member.2 = .string text) :
      ∀ member ∈ members, readableNumber member.2 := by
    intro member held
    rcases texts member held with ⟨text, same⟩
    rw [same]
    rfl
  have past := lookup_parseOffsetMap parse progressObject (readable progressTexts)
  have current := lookup_parseOffsetMap parse latestObject (readable latestTexts)
  have missing := computeOffsetLag_eq_none_iff past current
  have nonneg : 0 ≤ lagSum progress latest behind := lagSum_nonneg fun _ _ => le_max_left _ _
  rw [computeOffsetLagIn_eq, LagExact]
  cases computed : computeOffsetLag parse progressRaw latestRaw with
  | none => simp [missing.mp computed]
  | some lag =>
      have common : Common (offsetOf progress) (offsetOf latest) := by
        by_contra unmatched
        rw [missing.mpr unmatched] at computed
        cases computed
      have sum : lag = Int64.ofInt (lagSum progress latest gain) :=
        eq_of_computeOffsetLag past current (fun _ => mem_partitionsOf) computed
      rw [← toInt_lagSum_gain_iff, ← sum]
      constructor
      · intro computes
        exact .inr (computes.2 lag rfl).1
      · intro holds
        rcases holds with unmatched | same
        · exact absurd common unmatched
        · refine ⟨iff_of_false (Option.some_ne_none lag) (not_not.mpr common), ?_⟩
          intro number equal
          cases equal
          exact ⟨same, same ▸ nonneg⟩

theorem computeOffsetLag_exact_behind :
    ∃ (parse : String → Except String Document) (orders : OffsetOrders)
      (progress latest : List (String × Json)),
      LagExact progress latest (computeOffsetLagIn parse orders
        "\x7b\"0\":\"7\",\"1\":\"1\",\"2\":\"4\"\x7d"
        "\x7b\"0\":\"9\",\"1\":\"2\",\"2\":\"OFFSET_END\"\x7d") ∧
      lagSum progress latest behind = 3 := by
  let progress : List (String × Json) :=
    [("0", .string "7"), ("1", .string "1"), ("2", .string "4")]
  let latest : List (String × Json) :=
    [("0", .string "9"), ("1", .string "2"), ("2", .string "OFFSET_END")]
  let parse : String → Except String Document := fun text =>
    if text = "\x7b\"0\":\"7\",\"1\":\"1\",\"2\":\"4\"\x7d" then .ok (.object progress)
    else if text = "\x7b\"0\":\"9\",\"1\":\"2\",\"2\":\"OFFSET_END\"\x7d" then
      .ok (.object latest)
    else .error "invalid character"
  let order {Entry : Type} : MapOrder Entry := ⟨List.reverse, List.reverse_perm⟩
  refine ⟨parse, ⟨order, order, order⟩, progress, latest, ?_, by decide⟩
  apply (computeOffsetLag_exact_iff parse ⟨order, order, order⟩ _ _ _ _).mpr
  · exact .inr (by decide)
  · exact ⟨by decide, by decide⟩
  · exact ⟨by decide, by decide⟩
  · simp [progress]
  · simp [latest]

/-- Two partitions with all of their offsets left wrap to a negative lag. -/
theorem computeOffsetLag_negative :
    ¬∀ (parse : String → Except String Document) (orders : OffsetOrders)
      (progressRaw latestRaw : String) (progress latest : List (String × Json)),
      IsObject parse progressRaw progress → IsObject parse latestRaw latest →
      (∀ member ∈ progress, ∃ text, member.2 = .string text) →
      (∀ member ∈ latest, ∃ text, member.2 = .string text) →
      LagExact progress latest (computeOffsetLagIn parse orders progressRaw latestRaw) := by
  let progress : List (String × Json) := [("0", .string "0"), ("1", .string "0")]
  let latest : List (String × Json) :=
    [("0", .string "9223372036854775807"), ("1", .string "9223372036854775807")]
  let progressRaw := "\x7b\"0\":\"0\",\"1\":\"0\"\x7d"
  let latestRaw := "\x7b\"0\":\"9223372036854775807\",\"1\":\"9223372036854775807\"\x7d"
  let parse : String → Except String Document := fun text =>
    if text = progressRaw then .ok (.object progress)
    else if text = latestRaw then .ok (.object latest)
    else .error "invalid character"
  let order {Entry : Type} : MapOrder Entry := ⟨id, fun entries => .refl entries⟩
  intro claim
  have exact := claim parse ⟨order, order, order⟩ progressRaw latestRaw progress latest
    ⟨by decide, by decide⟩ ⟨by decide, by decide⟩ (by simp [progress]) (by simp [latest])
  have negative : computeOffsetLagIn parse ⟨order, order, order⟩ progressRaw latestRaw =
      some (-2) := by
    decide
  exact absurd (exact.2 (-2) negative).2 (by decide)

end StarLens.Service
