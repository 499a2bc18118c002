import StarLens.Alert.Manager
import StarLens.Foundation.InPlaceSort
import StarLens.Go.ByteOrder
import StarLens.Go.Maps
import StarLens.Go.Strings

/-! # The text for Slack

A label map is ranged over in an order of its own on every run, and its keys are
sorted before they are written. -/

namespace StarLens.Alert

open Foundation Go

/-- The outer and the inner loop of the sort are `rounds` and `sink`. -/
def sortedKeys (order : MapOrder (String × String)) (labels : List (String × String)) :
    List String :=
  (sortInPlace ((order.range labels).map Prod.fst).toArray.toVector).toList

def writeLabels (labels : List (String × String)) : List String → Bool → String → String
  | [], _, text => text
  | key :: keys, first, text =>
      let separated := if !first then text ++ " · " else text
      writeLabels labels keys false (separated ++ key ++ "=" ++ (labels.lookup key).getD "")

def slackText [UnicodeTables] (order : MapOrder (String × String)) (alert : Alert) : String :=
  let title := "[" ++ Strings.toUpper alert.severity.text ++ "] " ++ alert.title
  let text := if alert.message ≠ "" then title ++ "\n" ++ alert.message else title
  if 0 < alert.labels.length then
    writeLabels alert.labels (sortedKeys order alert.labels) true (text ++ "\n")
  else text

def SameAlert (alert other : Alert) : Prop :=
  { alert with labels := other.labels } = other ∧ alert.labels.Perm other.labels

theorem sortedKeys_perm (order : MapOrder (String × String)) (labels : List (String × String)) :
    (sortedKeys order labels).Perm (labels.map Prod.fst) := by
  have sorted := (sortInPlace_perm ((order.range labels).map Prod.fst).toArray.toVector).toList
  exact sorted.trans ((order.perm labels).map Prod.fst)

theorem sortedKeys_increasing (order : MapOrder (String × String))
    {labels : List (String × String)} (distinct : (labels.map Prod.fst).Nodup) :
    (sortedKeys order labels).Pairwise (· < ·) := by
  apply pairwise_lt_sortInPlace
  exact (((order.perm labels).map Prod.fst).nodup_iff).mpr distinct

theorem mem_sortedKeys_iff (order : MapOrder (String × String)) (labels : List (String × String))
    (key : String) : key ∈ sortedKeys order labels ↔ ∃ value, (key, value) ∈ labels := by
  rw [(sortedKeys_perm order labels).mem_iff]
  simp

private theorem sortedKeys_eq (order order' : MapOrder (String × String))
    {labels other : List (String × String)} (perm : labels.Perm other)
    (distinct : (labels.map Prod.fst).Nodup) :
    sortedKeys order labels = sortedKeys order' other := by
  have distinct' := ((perm.map Prod.fst).nodup_iff).mp distinct
  have same : (sortedKeys order labels).Perm (sortedKeys order' other) :=
    (sortedKeys_perm order labels).trans
      ((perm.map Prod.fst).trans (sortedKeys_perm order' other).symm)
  apply same.eq_of_pairwise _ (sortedKeys_increasing order distinct)
    (sortedKeys_increasing order' distinct')
  intro before after _ _ less greater
  exact absurd less greater.asymm

private theorem writeLabels_congr {labels other : List (String × String)}
    (same : ∀ key, labels.lookup key = other.lookup key) (keys : List String) (first : Bool)
    (text : String) : writeLabels labels keys first text = writeLabels other keys first text := by
  induction keys generalizing first text with
  | nil => rfl
  | cons key keys induction =>
      rw [writeLabels, writeLabels, same key]
      exact induction _ _

theorem slackText_same [UnicodeTables] (order order' : MapOrder (String × String))
    {alert other : Alert} (same : SameAlert alert other)
    (distinct : (alert.labels.map Prod.fst).Nodup) :
    slackText order alert = slackText order' other := by
  rcases same with ⟨fields, perm⟩
  have lookups := fun key => lookup_perm perm distinct key
  have keys := sortedKeys_eq order order' perm distinct
  rw [← fields]
  simp only [slackText, keys, perm.length_eq, writeLabels_congr lookups]

/-- The keys of a label map come out once each and in byte order, so equal alerts
have one text. -/
theorem sortedKeys_slackText [UnicodeTables] (order : MapOrder (String × String))
    {labels : List (String × String)} (distinct : (labels.map Prod.fst).Nodup) :
    (∀ key, key ∈ sortedKeys order labels ↔ ∃ value, (key, value) ∈ labels) ∧
      (sortedKeys order labels).Nodup ∧
      ((sortedKeys order labels).Pairwise fun before after => bytes before < bytes after) ∧
      ∀ (order' : MapOrder (String × String)) (alert other : Alert), alert.labels = labels →
        SameAlert alert other → slackText order alert = slackText order' other := by
  refine ⟨mem_sortedKeys_iff order labels, ?_, ?_, ?_⟩
  · exact ((sortedKeys_perm order labels).nodup_iff).mpr distinct
  · apply (sortedKeys_increasing order distinct).imp
    intro before after less
    exact (lt_iff_bytes_lt before after).mp less
  · intro order' alert other held same
    subst held
    exact slackText_same order order' same distinct

theorem sortedKeys_slackText_node :
    ∃ (_ : UnicodeTables) (order order' : MapOrder (String × String)),
      slackText order
          { key := "node_down|fe1", ruleID := "node_down", severity := .critical,
            title := "FE fe1 is down", message := "",
            labels := [("node", "fe1"), ("host", "fe1.example"), ("role", "LEADER")] } =
        slackText order'
          { key := "node_down|fe1", ruleID := "node_down", severity := .critical,
            title := "FE fe1 is down", message := "",
            labels := [("host", "fe1.example"), ("node", "fe1"), ("role", "LEADER")] } := by
  let tables := UnicodeTables.latin
  let order : MapOrder (String × String) := ⟨List.reverse, List.reverse_perm⟩
  let order' : MapOrder (String × String) := ⟨id, fun entries => .refl entries⟩
  let labels := [("node", "fe1"), ("host", "fe1.example"), ("role", "LEADER")]
  have distinct : (labels.map Prod.fst).Nodup := by decide
  have facts := sortedKeys_slackText order distinct
  exact ⟨tables, order, order', facts.2.2.2 order' _ _ rfl ⟨rfl, .swap _ _ _⟩⟩

end StarLens.Alert
