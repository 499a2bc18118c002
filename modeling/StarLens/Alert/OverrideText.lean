import StarLens.Alert.OverrideJson
import StarLens.Foundation.JsonText

/-! # The text of an override

The text level of encoding/json: what the settings rely on, and what it does with
an object of plain members. -/

namespace StarLens.Alert

open Foundation Go

/-- What is written of an override, with a line feed behind it, is read as the same
override. A float64 is read from fewer digits than its value has. -/
structure JSONText where
  marshalIndent : List (String × Json) → String
  parse : String → Except String Document
  parse_marshalIndent : ∀ (override : Override) (members : List (String × Json)),
    override.marshal = .ok members → ∃ read,
      parse (marshalIndent members ++ "\n") = .ok (.object read) ∧
        Override.unmarshal read = Override.unmarshal members

/-! ## Members -/

def Json.toValue : Json → JsonValue
  | .null => .null
  | .bool value => .bool value
  | .number value true => .number value.num
  | .number value false => .decimal (Strconv.shortest value).1 (-(Strconv.shortest value).2)
  | .string text => .string text
  | .compound => .object []

def Json.ofValue : JsonValue → Json
  | .null => .null
  | .bool value => .bool value
  | .number value => .number value true
  | .decimal mantissa exponent => .number (mantissa * 10 ^ exponent) false
  | .string text => .string text
  | .array _ | .object _ => .compound

structure Json.ReadsAs (read written : Json) : Prop where
  null : read = .null ↔ written = .null
  fields : ∀ field : Field, field.ofJson read = field.ofJson written

theorem Json.readsAs_refl (value : Json) : value.ReadsAs value := ⟨Iff.rfl, fun _ => rfl⟩

theorem Json.ofValue_ofRat {ratio : ℚ} (exact : Float64.Exact ratio) :
    (ofValue (Json.ofRat ratio).toValue).ReadsAs (.ofRat ratio) := by
  rw [ofRat]
  cases integral : ratio.den = 1 && -10 ^ 21 < ratio && ratio < 10 ^ 21 with
  | true =>
      simp only [Bool.and_eq_true, decide_eq_true_eq] at integral
      have whole : ((ratio.num : Int) : ℚ) = ratio := Rat.coe_int_num_of_den_eq_one integral.1.1
      rw [toValue, ofValue, whole]
      exact readsAs_refl _
  | false =>
      have reads := Strconv.ofLiteral_shortest exact
      refine ⟨by simp [toValue, ofValue], fun field => ?_⟩
      cases field with
      | errorRowsRatio =>
          rw [toValue, ofValue, zpow_neg, zpow_natCast, ← div_eq_mul_inv]
          exact reads
      | _ => rfl

theorem Field.ofValue_toJson {field : Field} {raw : field.Raw} {value : Json}
    (written : field.toJson raw = some value) : (Json.ofValue value.toValue).ReadsAs value := by
  cases field with
  | enabled | pollInterval | cooldown | webhookURL | webhookFormat =>
      cases written
      exact Json.readsAs_refl _
  | errorRowsRatio =>
      cases raw with
      | finite ratio exact =>
          cases written
          exact Json.ofValue_ofRat exact
      | inf negative => cases written
      | nan => cases written
  | errorRowsMinTotal | maxOffsetLag | maxJournalLag =>
      cases written
      rw [Json.toValue, Json.ofValue, Rat.num_intCast]
      exact Json.readsAs_refl _

theorem Override.unmarshalMember_readsAs (override : Override) (name : String) {read written : Json}
    (same : read.ReadsAs written) :
    override.unmarshalMember name read = override.unmarshalMember name written := by
  rw [unmarshalMember, unmarshalMember]
  cases Field.ofName? name with
  | none => rfl
  | some field => simp only [same.null, same.fields]

theorem Override.unmarshal_map (convert : Json → Json) {members : List (String × Json)}
    (same : ∀ member ∈ members, (convert member.2).ReadsAs member.2) :
    unmarshal (members.map fun member => (member.1, convert member.2)) = unmarshal members := by
  rw [unmarshal, unmarshal]
  generalize ({} : Override) = start
  induction members generalizing start with
  | nil => rfl
  | cons member members induction =>
      rw [List.map_cons, List.foldlM_cons, List.foldlM_cons,
        unmarshalMember_readsAs start member.1 (same member List.mem_cons_self)]
      congr 1
      funext next
      exact induction (fun member listed => same member (List.mem_cons_of_mem _ listed)) next

/-! ## Objects -/

/-- encoding/json on an object of plain members. -/
def sampleJSON : JSONText where
  marshalIndent members :=
    String.ofList (JsonText.writeLines (members.map fun member => (member.1, member.2.toValue)))
  parse raw :=
    match JsonText.read raw.toList with
    | none => .error "invalid character"
    | some .null => .ok .null
    | some (.object members) =>
        .ok (.object (members.map fun member => (member.1, .ofValue member.2)))
    | some _ => .ok .other
  parse_marshalIndent override members written := by
    refine ⟨members.map fun member => (member.1, .ofValue member.2.toValue), ?_, ?_⟩
    · rw [String.toList_append, String.toList_ofList, JsonText.read_writeLines _ rfl]
      dsimp only
      rw [List.map_map]
      rfl
    · apply Override.unmarshal_map fun value => .ofValue value.toValue
      intro member listed
      rw [Override.marshal_ok written] at listed
      rcases List.mem_flatMap.mp listed with ⟨field, -, mine⟩
      rcases List.mem_map.mp mine with ⟨value, held, rfl⟩
      rcases Option.bind_eq_some_iff.mp (Option.mem_toList.mp held) with ⟨raw, -, toJson⟩
      exact Field.ofValue_toJson toJson

end StarLens.Alert
