import StarLens.Alert.Settings

/-! # Overrides as JSON

encoding/json down to the values of an object's members. -/

namespace StarLens.Alert

open Go

/-! ## JSON values -/

/-- The value of a member. No field of an override is an array or an object,
so nothing inside one is kept. -/
inductive Json
  | null
  | bool (value : Bool)
  | number (value : ℚ) (integral : Bool)
  | string (text : String)
  | compound
deriving DecidableEq

inductive Document
  | null
  | object (members : List (String × Json))
  | other
deriving DecidableEq

/-- Numbers are written without a fraction and an exponent when they are whole
and below 1e21. -/
def Json.ofRat (value : ℚ) : Json :=
  .number value (value.den = 1 && -10 ^ 21 < value && value < 10 ^ 21)

/-- A literal with a fraction or an exponent is no integer, whatever its
value. -/
def Json.toInt64? : Json → Option Int64
  | .number value true =>
      if -2 ^ 63 ≤ value.num ∧ value.num < 2 ^ 63 then some (Int64.ofInt value.num) else none
  | _ => none

theorem Json.toInt64?_number (value : Int64) :
    (Json.number value.toInt true).toInt64? = some value := by
  rw [toInt64?, Rat.num_intCast, if_pos ⟨value.le_toInt, value.toInt_lt⟩, Int64.ofInt_toInt]

theorem Json.toInt64?_eq_some_iff {value : Int} {number : Int64} :
    (Json.number value true).toInt64? = some number ↔ value = number.toInt := by
  constructor
  · intro read
    rw [toInt64?, Rat.num_intCast] at read
    split at read
    case isTrue range =>
        rw [← Option.some.inj read, Int64.toInt_ofInt_of_le range.1 range.2]
    case isFalse => simp at read
  · intro same
    subst same
    exact toInt64?_number number

def Json.toFloat64? : Json → Option Float64
  | .number value _ => Float64.ofLiteral value
  | _ => none

namespace Field

def all : List Field :=
  [enabled, pollInterval, cooldown, webhookURL, webhookFormat, errorRowsRatio,
    errorRowsMinTotal, maxOffsetLag, maxJournalLag]

def toJson : (field : Field) → field.Raw → Option Json
  | enabled, raw => some (.bool raw)
  | pollInterval, raw | cooldown, raw | webhookURL, raw | webhookFormat, raw =>
      some (.string raw)
  | errorRowsRatio, .finite value _ => some (.ofRat value)
  | errorRowsRatio, _ => none
  | errorRowsMinTotal, raw | maxOffsetLag, raw | maxJournalLag, raw =>
      some (.number raw.toInt true)

def ofJson : (field : Field) → Json → Option field.Raw
  | enabled, .bool value => some value
  | pollInterval, .string text | cooldown, .string text | webhookURL, .string text
  | webhookFormat, .string text => some text
  | errorRowsRatio, value => value.toFloat64?
  | errorRowsMinTotal, value | maxOffsetLag, value | maxJournalLag, value => value.toInt64?
  | _, _ => none

/-- The folding of member names: the only characters outside ASCII that fold
into it are the long s and the Kelvin sign. -/
def foldRune (char : Char) : Char :=
  if char = '\u017f' then 'S' else if char = '\u212a' then 'K' else char.toUpper

def foldName (name : String) : String := String.ofList (name.toList.map foldRune)

/-- The field a member is decoded into: by its exact name, else by its folded
one. -/
def ofName? (key : String) : Option Field :=
  (all.find? fun field => field.name = key).or
    (all.find? fun field => foldName field.name = foldName key)

private theorem ofName?_name (field : Field) : ofName? field.name = some field := by
  cases field <;> decide

end Field

def Override.set (override : Override) : (field : Field) → Option field.Raw → Override
  | .enabled, raw => { override with enabled := raw }
  | .pollInterval, raw => { override with pollInterval := raw }
  | .cooldown, raw => { override with cooldown := raw }
  | .webhookURL, raw => { override with webhookURL := raw }
  | .webhookFormat, raw => { override with webhookFormat := raw }
  | .errorRowsRatio, raw => { override with errorRowsRatio := raw }
  | .errorRowsMinTotal, raw => { override with errorRowsMinTotal := raw }
  | .maxOffsetLag, raw => { override with maxOffsetLag := raw }
  | .maxJournalLag, raw => { override with maxJournalLag := raw }

@[simp] theorem Override.set_get_same (override : Override) (field : Field)
    (raw : Option field.Raw) : (override.set field raw).get field = raw := by
  cases field <;> rfl

theorem Override.set_get_other (override : Override) {field other : Field}
    (raw : Option field.Raw) (different : other ≠ field) :
    (override.set field raw).get other = override.get other := by
  cases field <;> cases other <;> first | rfl | exact absurd rfl different

/-! ## Marshal and Unmarshal -/

def unsupportedText : Float64 → String
  | .inf false => "+Inf"
  | .inf true => "-Inf"
  | _ => "NaN"

/-- `omitempty`: a pointer that is nil has no member. -/
def Override.member (override : Override) (field : Field) : List (String × Json) :=
  ((override.get field).bind field.toJson).toList.map fun value => (field.name, value)

def Override.marshal (override : Override) : Except String (List (String × Json)) :=
  match override.errorRowsRatio with
  | some (.inf negative) =>
      .error ("json: unsupported value: " ++ unsupportedText (.inf negative))
  | some .nan => .error ("json: unsupported value: " ++ unsupportedText .nan)
  | _ => .ok (Field.all.flatMap override.member)

theorem Override.marshal_ok {override : Override} {members : List (String × Json)}
    (written : override.marshal = .ok members) : members = Field.all.flatMap override.member := by
  rw [marshal] at written
  split at written
  · simp at written
  · simp at written
  · exact (Except.ok.inj written).symm

/-- One member: an unknown name is skipped, and `null` clears the pointer. -/
def Override.unmarshalMember (override : Override) (key : String) (value : Json) :
    Except Field Override :=
  match Field.ofName? key with
  | none => .ok override
  | some field =>
      if value = .null then .ok (override.set field none)
      else
        match field.ofJson value with
        | none => .error field
        | some raw => .ok (override.set field (some raw))

def Override.unmarshal (members : List (String × Json)) : Except Field Override :=
  members.foldlM (fun override member => override.unmarshalMember member.1 member.2) {}

theorem Field.ofJson_toJson [UnicodeTables] {field : Field} {raw : field.Raw} {value : Json}
    (passed : field.check raw = .ok ()) (written : field.toJson raw = some value) :
    value ≠ .null ∧ field.ofJson value = some raw := by
  cases field with
  | enabled =>
      cases written
      exact ⟨by simp, rfl⟩
  | pollInterval | cooldown | webhookURL | webhookFormat =>
      cases written
      exact ⟨by simp, rfl⟩
  | errorRowsRatio =>
      cases raw with
      | finite ratio exact =>
          cases written
          exact ⟨by simp [Json.ofRat], Float64.ofLiteral_exact exact⟩
      | inf negative => cases written
      | nan => cases written
  | errorRowsMinTotal | maxOffsetLag | maxJournalLag =>
      cases written
      exact ⟨by simp, Json.toInt64?_number raw⟩

theorem Override.unmarshalMember_member [UnicodeTables] (start : Override) {override : Override}
    (passed : override.validate = .ok ()) (finite : ∀ ratio ∈ override.errorRowsRatio,
      ratio.isFinite) (field : Field) :
    (override.member field).foldlM (fun current member =>
        current.unmarshalMember member.1 member.2) start =
      .ok (match override.get field with
        | none => start
        | some raw => start.set field (some raw)) := by
  cases set : override.get field with
  | none => simp [member, set, pure, Except.pure]
  | some raw =>
      have written : ∃ value, field.toJson raw = some value := by
        cases field with
        | errorRowsRatio =>
            have isFinite := finite raw set
            cases raw with
            | finite value exact => exact ⟨_, rfl⟩
            | inf negative => simp [Float64.isFinite] at isFinite
            | nan => simp [Float64.isFinite] at isFinite
        | _ => exact ⟨_, rfl⟩
      rcases written with ⟨value, written⟩
      rcases Field.ofJson_toJson ((validate_ok_iff _).mp passed field raw set) written with
        ⟨notNull, read⟩
      simp [member, set, written, unmarshalMember, Field.ofName?_name, notNull, read, pure,
        Except.pure, bind, Except.bind]

theorem Field.mem_all (field : Field) : field ∈ all := by
  cases field <;> decide

def Override.copy (override : Override) (fields : List Field) (start : Override) : Override :=
  fields.foldl (fun current field => match override.get field with
    | none => current
    | some raw => current.set field (some raw)) start

theorem Override.copy_get (override : Override) (fields : List Field) (start : Override)
    (field : Field) :
    (override.copy fields start).get field =
      if field ∈ fields then (override.get field).or (start.get field)
      else start.get field := by
  induction fields generalizing start with
  | nil => simp [copy]
  | cons head tail induction =>
      rw [copy, List.foldl_cons, ← copy, induction]
      by_cases same : field = head
      · subst same
        cases set : override.get field with
        | none => simp
        | some raw => by_cases later : field ∈ tail <;> simp [later]
      · cases set : override.get head with
        | none => simp [same]
        | some raw => simp [same, set_get_other start (some raw) same]

/-- `Unmarshal` reads back what `Marshal` wrote: no pointer to a zero value is
lost to `omitempty`. -/
theorem Override.unmarshal_marshal [UnicodeTables] {override : Override}
    {members : List (String × Json)} (passed : override.validate = .ok ())
    (written : override.marshal = .ok members) : unmarshal members = .ok override := by
  have finite : ∀ ratio ∈ override.errorRowsRatio, ratio.isFinite := by
    intro ratio set
    cases ratio with
    | finite value exact => rfl
    | inf negative => simp [marshal, Option.mem_def.mp set] at written
    | nan => simp [marshal, Option.mem_def.mp set] at written
  have each (fields : List Field) (start : Override) :
      (fields.flatMap override.member).foldlM
        (fun current member => current.unmarshalMember member.1 member.2) start =
        .ok (override.copy fields start) := by
    induction fields generalizing start with
    | nil => rfl
    | cons field fields induction =>
        rw [List.flatMap_cons, List.foldlM_append,
          unmarshalMember_member start passed finite field]
        exact induction _
  rw [unmarshal, marshal_ok written, each]
  congr 1
  apply ext_get
  intro field
  rw [copy_get, if_pos (Field.mem_all field)]
  cases field <;> exact Option.or_none

end StarLens.Alert
