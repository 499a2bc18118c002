import StarLens.Go.Time
import StarLens.Go.URL

/-! # Alert settings

A persisted override layered over the environment's defaults. This is the part
in memory; the override file is `StarLens.Alert.OverrideFile`. -/

namespace StarLens.Alert

open Go

structure Config where
  enabled : Bool
  pollInterval : Duration
  cooldown : Duration
  webhookURL : String
  webhookFormat : String
  errorRowsRatio : Float64
  errorRowsMinTotal : Int64
  maxOffsetLag : Int64
  maxJournalLag : Int64
deriving DecidableEq

/-- What the environment gives when it sets nothing. -/
def Config.standard : Config where
  enabled := true
  pollInterval := 30000000000
  cooldown := 600000000000
  webhookURL := ""
  webhookFormat := "generic"
  errorRowsRatio := .round (1 / 100)
  errorRowsMinTotal := 10000
  maxOffsetLag := 0
  maxJournalLag := 1000

/-- The partial configuration written from the UI: `none` falls back to the
environment's default. Durations are kept as text. -/
structure Override where
  enabled : Option Bool := none
  pollInterval : Option String := none
  cooldown : Option String := none
  webhookURL : Option String := none
  webhookFormat : Option String := none
  errorRowsRatio : Option Float64 := none
  errorRowsMinTotal : Option Int64 := none
  maxOffsetLag : Option Int64 := none
  maxJournalLag : Option Int64 := none
deriving DecidableEq

def Override.isEmpty (override : Override) : Bool :=
  override.enabled.isNone && override.pollInterval.isNone && override.cooldown.isNone &&
    override.webhookURL.isNone && override.webhookFormat.isNone &&
    override.errorRowsRatio.isNone && override.errorRowsMinTotal.isNone &&
    override.maxOffsetLag.isNone && override.maxJournalLag.isNone

/-! ## Validation -/

def minPollInterval : Duration := 5000000000

def webhookFormatGeneric : String := "generic"
def webhookFormatSlack : String := "slack"

def KnownFormat (format : String) : Prop :=
  format = webhookFormatGeneric ∨ format = webhookFormatSlack

def errInvalidOverride : String := "invalid alert configuration"

def invalid (message : String) : Except String Unit :=
  .error (errInvalidOverride ++ ": " ++ message)

section Checks

variable [UnicodeTables]

def checkDuration (name sample : String) (least : Duration) (tooSmall : String)
    (text : String) : Except String Unit :=
  match Duration.parse text with
  | none =>
      invalid (name ++ (" " ++ Strconv.quote text ++ " is not a duration (want e.g. \"" ++
        sample ++ "\")"))
  | some duration => if duration < least then invalid (name ++ tooSmall) else .ok ()

def checkPollInterval : String → Except String Unit :=
  checkDuration "pollInterval" "30s" minPollInterval
    (" must be at least " ++ minPollInterval.string)

def checkCooldown : String → Except String Unit :=
  checkDuration "cooldown" "10m" 0 " must not be negative"

def isWebURL (raw : String) : Bool :=
  match URL.parse raw with
  | none => false
  | some url => (url.scheme = "http" || url.scheme = "https") && url.host != ""

def checkWebhookURL (raw : String) : Except String Unit :=
  if raw != "" && !isWebURL raw then invalid "webhookUrl must be an http(s) URL" else .ok ()

def checkWebhookFormat (format : String) : Except String Unit :=
  if format != webhookFormatGeneric && format != webhookFormatSlack then
    invalid ("webhookFormat" ++ (" must be " ++ Strconv.quote webhookFormatGeneric ++ " or " ++
      Strconv.quote webhookFormatSlack))
  else .ok ()

def checkErrorRowsRatio (ratio : Float64) : Except String Unit :=
  if ratio.lt 0 || Float64.lt 1 ratio then
    invalid "errorRowsRatio must be within [0, 1] (a fraction, not a percent)"
  else .ok ()

def checkNotNegative (name : String) (value : Int64) : Except String Unit :=
  if value < 0 then invalid (name ++ " must not be negative") else .ok ()

/-- `Validate`: the first check that fails is reported. -/
def Override.validate (override : Override) : Except String Unit := do
  override.pollInterval.forM checkPollInterval
  override.cooldown.forM checkCooldown
  override.webhookURL.forM checkWebhookURL
  override.webhookFormat.forM checkWebhookFormat
  override.errorRowsRatio.forM checkErrorRowsRatio
  override.errorRowsMinTotal.forM (checkNotNegative "errorRowsMinTotal")
  override.maxOffsetLag.forM (checkNotNegative "maxOffsetLag")
  override.maxJournalLag.forM (checkNotNegative "maxJournalLag")

end Checks

/-! ## Fields

The nine fields are handled one by one in the source. Here each of them also
has a name, so that what holds of all of them is said once. -/

inductive Field
  | enabled
  | pollInterval
  | cooldown
  | webhookURL
  | webhookFormat
  | errorRowsRatio
  | errorRowsMinTotal
  | maxOffsetLag
  | maxJournalLag
deriving DecidableEq

namespace Field

def name : Field → String
  | enabled => "enabled"
  | pollInterval => "pollInterval"
  | cooldown => "cooldown"
  | webhookURL => "webhookUrl"
  | webhookFormat => "webhookFormat"
  | errorRowsRatio => "errorRowsRatio"
  | errorRowsMinTotal => "errorRowsMinTotal"
  | maxOffsetLag => "maxOffsetLag"
  | maxJournalLag => "maxJournalLag"

abbrev Raw : Field → Type
  | enabled => Bool
  | pollInterval | cooldown | webhookURL | webhookFormat => String
  | errorRowsRatio => Float64
  | errorRowsMinTotal | maxOffsetLag | maxJournalLag => Int64

abbrev Value : Field → Type
  | enabled => Bool
  | pollInterval | cooldown => Duration
  | webhookURL | webhookFormat => String
  | errorRowsRatio => Float64
  | errorRowsMinTotal | maxOffsetLag | maxJournalLag => Int64

def decode : (field : Field) → field.Raw → Option field.Value
  | enabled, raw => some raw
  | pollInterval, raw | cooldown, raw => Duration.parse raw
  | webhookURL, raw | webhookFormat, raw => some raw
  | errorRowsRatio, raw => some raw
  | errorRowsMinTotal, raw | maxOffsetLag, raw | maxJournalLag, raw => some raw

def check [UnicodeTables] : (field : Field) → field.Raw → Except String Unit
  | enabled, _ => .ok ()
  | pollInterval, raw => checkPollInterval raw
  | cooldown, raw => checkCooldown raw
  | webhookURL, raw => checkWebhookURL raw
  | webhookFormat, raw => checkWebhookFormat raw
  | errorRowsRatio, raw => checkErrorRowsRatio raw
  | errorRowsMinTotal, raw => checkNotNegative "errorRowsMinTotal" raw
  | maxOffsetLag, raw => checkNotNegative "maxOffsetLag" raw
  | maxJournalLag, raw => checkNotNegative "maxJournalLag" raw

end Field

def Override.get (override : Override) : (field : Field) → Option field.Raw
  | .enabled => override.enabled
  | .pollInterval => override.pollInterval
  | .cooldown => override.cooldown
  | .webhookURL => override.webhookURL
  | .webhookFormat => override.webhookFormat
  | .errorRowsRatio => override.errorRowsRatio
  | .errorRowsMinTotal => override.errorRowsMinTotal
  | .maxOffsetLag => override.maxOffsetLag
  | .maxJournalLag => override.maxJournalLag

def Config.get (config : Config) : (field : Field) → field.Value
  | .enabled => config.enabled
  | .pollInterval => config.pollInterval
  | .cooldown => config.cooldown
  | .webhookURL => config.webhookURL
  | .webhookFormat => config.webhookFormat
  | .errorRowsRatio => config.errorRowsRatio
  | .errorRowsMinTotal => config.errorRowsMinTotal
  | .maxOffsetLag => config.maxOffsetLag
  | .maxJournalLag => config.maxJournalLag

theorem Override.ext_get {left right : Override}
    (agree : ∀ field, left.get field = right.get field) : left = right := by
  rcases left with ⟨⟩
  rcases right with ⟨⟩
  have enabled := agree .enabled
  have pollInterval := agree .pollInterval
  have cooldown := agree .cooldown
  have webhookURL := agree .webhookURL
  have webhookFormat := agree .webhookFormat
  have errorRowsRatio := agree .errorRowsRatio
  have errorRowsMinTotal := agree .errorRowsMinTotal
  have maxOffsetLag := agree .maxOffsetLag
  have maxJournalLag := agree .maxJournalLag
  simp only [Override.get] at *
  subst_vars
  rfl

theorem Config.ext_get {left right : Config}
    (agree : ∀ field, left.get field = right.get field) : left = right := by
  rcases left with ⟨⟩
  rcases right with ⟨⟩
  have enabled := agree .enabled
  have pollInterval := agree .pollInterval
  have cooldown := agree .cooldown
  have webhookURL := agree .webhookURL
  have webhookFormat := agree .webhookFormat
  have errorRowsRatio := agree .errorRowsRatio
  have errorRowsMinTotal := agree .errorRowsMinTotal
  have maxOffsetLag := agree .maxOffsetLag
  have maxJournalLag := agree .maxJournalLag
  simp only [Config.get] at *
  subst_vars
  rfl

theorem Override.isEmpty_iff (override : Override) :
    override.isEmpty ↔ ∀ field, override.get field = none := by
  constructor
  · intro empty field
    simp only [isEmpty, Bool.and_eq_true, Option.isNone_iff_eq_none] at empty
    cases field <;> simp only [get, empty]
  · intro unset
    have equal : override = {} := Override.ext_get fun field => by
      rw [unset field]
      cases field <;> rfl
    rw [equal]
    rfl

def Override.merge (base patch : Override) : Override where
  enabled := patch.enabled.or base.enabled
  pollInterval := patch.pollInterval.or base.pollInterval
  cooldown := patch.cooldown.or base.cooldown
  webhookURL := patch.webhookURL.or base.webhookURL
  webhookFormat := patch.webhookFormat.or base.webhookFormat
  errorRowsRatio := patch.errorRowsRatio.or base.errorRowsRatio
  errorRowsMinTotal := patch.errorRowsMinTotal.or base.errorRowsMinTotal
  maxOffsetLag := patch.maxOffsetLag.or base.maxOffsetLag
  maxJournalLag := patch.maxJournalLag.or base.maxJournalLag

theorem Override.merge_get (base patch : Override) (field : Field) :
    (base.merge patch).get field = (patch.get field).or (base.get field) := by
  cases field <;> rfl

/-! ### Validation field by field -/

private theorem forM_ok_iff {α : Type} (check : α → Except String Unit) (value : Option α) :
    value.forM check = .ok () ↔ ∀ raw ∈ value, check raw = .ok () := by
  cases value with
  | none => simp [Option.forM, pure, Except.pure]
  | some raw => simp [Option.forM]

private theorem andThen_ok_iff (first second : Except String Unit) :
    (do first; second) = .ok () ↔ first = .ok () ∧ second = .ok () := by
  cases first with
  | error text => simp [bind, Except.bind]
  | ok passed => simp [bind, Except.bind]

section Validation

variable [UnicodeTables]

theorem Override.validate_ok_iff (override : Override) :
    override.validate = .ok () ↔
      ∀ field, ∀ raw ∈ override.get field, field.check raw = .ok () := by
  simp only [validate, andThen_ok_iff, forM_ok_iff]
  constructor
  · intro holds field raw set
    rcases holds with ⟨pollInterval, cooldown, webhookURL, webhookFormat, errorRowsRatio,
      errorRowsMinTotal, maxOffsetLag, maxJournalLag⟩
    cases field with
    | enabled => rfl
    | pollInterval => exact pollInterval raw set
    | cooldown => exact cooldown raw set
    | webhookURL => exact webhookURL raw set
    | webhookFormat => exact webhookFormat raw set
    | errorRowsRatio => exact errorRowsRatio raw set
    | errorRowsMinTotal => exact errorRowsMinTotal raw set
    | maxOffsetLag => exact maxOffsetLag raw set
    | maxJournalLag => exact maxJournalLag raw set
  · intro every
    exact ⟨every .pollInterval, every .cooldown, every .webhookURL, every .webhookFormat,
      every .errorRowsRatio, every .errorRowsMinTotal, every .maxOffsetLag,
      every .maxJournalLag⟩

theorem checkDuration_ok_iff {name sample tooSmall : String} {least : Duration}
    {text : String} :
    checkDuration name sample least tooSmall text = .ok () ↔
      ∃ duration, Duration.parse text = some duration ∧ least ≤ duration := by
  rw [checkDuration]
  cases parsed : Duration.parse text with
  | none => simp [invalid]
  | some duration =>
      by_cases small : duration < least
      · simp [invalid, small, Int64.not_le.mpr small]
      · simp [small, Int64.not_lt.mp small]

omit [UnicodeTables] in
theorem checkErrorRowsRatio_ok_iff {ratio : ℚ} {exact : Float64.Exact ratio} :
    checkErrorRowsRatio (.finite ratio exact) = .ok () ↔ 0 ≤ ratio ∧ ratio ≤ 1 := by
  simp only [checkErrorRowsRatio, Float64.lt, Bool.or_eq_true, decide_eq_true_eq]
  split
  case isTrue outside =>
      simp only [invalid, reduceCtorEq, false_iff, not_and_or, not_le]
      exact outside
  case isFalse inside => simpa only [not_or, not_lt, true_iff] using inside

omit [UnicodeTables] in
theorem checkNotNegative_ok_iff {name : String} {value : Int64} :
    checkNotNegative name value = .ok () ↔ 0 ≤ value := by
  rw [checkNotNegative]
  by_cases negative : value < 0
  · simp [invalid, negative, Int64.not_le.mpr negative]
  · simp [negative, Int64.not_lt.mp negative]

theorem checkWebhookFormat_ok_iff {format : String} :
    checkWebhookFormat format = .ok () ↔ KnownFormat format := by
  rw [checkWebhookFormat, KnownFormat]
  by_cases generic : format = webhookFormatGeneric
  · simp [generic]
  · by_cases slack : format = webhookFormatSlack
    · simp [slack]
    · simp [generic, slack, invalid]

theorem Field.decode_of_check {field : Field} {raw : field.Raw}
    (passed : field.check raw = .ok ()) : ∃ value, field.decode raw = some value := by
  cases field with
  | pollInterval | cooldown =>
      rcases checkDuration_ok_iff.mp passed with ⟨duration, parsed, -⟩
      exact ⟨duration, parsed⟩
  | _ => exact ⟨raw, rfl⟩

end Validation

/-! ## Settings -/

def mustDuration (raw : String) (fallback : Duration) : Duration :=
  (Duration.parse raw).getD fallback

def appendIf (set : Bool) (name : String) (fields : List String) : List String :=
  if set then fields ++ [name] else fields

private theorem mem_appendIf {set : Bool} {name text : String} {fields : List String} :
    text ∈ appendIf set name fields ↔ text ∈ fields ∨ (set ∧ text = name) := by
  cases set <;> simp [appendIf]

section ValidOverrides

variable [UnicodeTables]

/-- Only overrides that passed `Validate` are stored. -/
structure ValidOverride where
  value : Override
  valid : value.validate = .ok ()

namespace ValidOverride

@[ext] theorem ext {left right : ValidOverride} (equal : left.value = right.value) :
    left = right := by
  cases left
  cases right
  simpa using equal

def empty : ValidOverride := { value := {}, valid := rfl }

theorem empty_get (field : Field) : empty.value.get field = none := by
  cases field <;> rfl

def merge (base patch : ValidOverride) : ValidOverride where
  value := base.value.merge patch.value
  valid := by
    rw [Override.validate_ok_iff]
    intro field raw set
    rw [Override.merge_get, Option.mem_def, Option.or_eq_some_iff] at set
    rcases set with set | ⟨-, set⟩
    · exact (Override.validate_ok_iff _).mp patch.valid field raw set
    · exact (Override.validate_ok_iff _).mp base.valid field raw set

theorem merge_get (base patch : ValidOverride) (field : Field) :
    (base.merge patch).value.get field = (patch.value.get field).or (base.value.get field) :=
  Override.merge_get _ _ _

theorem decode (override : ValidOverride) {field : Field} {raw : field.Raw}
    (set : override.value.get field = some raw) :
    ∃ value, field.decode raw = some value :=
  Field.decode_of_check ((Override.validate_ok_iff _).mp override.valid field raw set)

end ValidOverride

def Override.validated (override : Override) : Except String ValidOverride :=
  match passed : override.validate with
  | .error text => .error text
  | .ok () => .ok { value := override, valid := passed }

theorem Override.validated_eq_ok_iff {override : Override} {valid : ValidOverride} :
    override.validated = .ok valid ↔ valid.value = override := by
  rw [validated]
  split
  case h_1 text failed =>
      constructor
      · simp
      · intro same
        subst same
        rw [valid.valid] at failed
        simp at failed
  case h_2 passed =>
      constructor
      · intro equal
        rw [← Except.ok.inj equal]
      · intro same
        subst same
        rfl

theorem Override.validated_eq_error_iff {override : Override} {text : String} :
    override.validated = .error text ↔ override.validate = .error text := by
  rw [validated]
  split
  case h_1 failure failed => simp [failed]
  case h_2 passed => simp [passed]

structure Settings where
  defaults : Config
  override : ValidOverride
  path : String

namespace Settings

def effective (settings : Settings) : Config :=
  let config := settings.defaults
  let override := settings.override.value
  { enabled := override.enabled.getD config.enabled
    pollInterval := override.pollInterval.elim config.pollInterval fun raw =>
      mustDuration raw config.pollInterval
    cooldown := override.cooldown.elim config.cooldown fun raw =>
      mustDuration raw config.cooldown
    webhookURL := override.webhookURL.getD config.webhookURL
    webhookFormat := override.webhookFormat.getD config.webhookFormat
    errorRowsRatio := override.errorRowsRatio.getD config.errorRowsRatio
    errorRowsMinTotal := override.errorRowsMinTotal.getD config.errorRowsMinTotal
    maxOffsetLag := override.maxOffsetLag.getD config.maxOffsetLag
    maxJournalLag := override.maxJournalLag.getD config.maxJournalLag }

def overridden (settings : Settings) : List String :=
  let override := settings.override.value
  []
  |> appendIf override.enabled.isSome "enabled"
  |> appendIf override.pollInterval.isSome "pollInterval"
  |> appendIf override.cooldown.isSome "cooldown"
  |> appendIf override.webhookURL.isSome "webhookUrl"
  |> appendIf override.webhookFormat.isSome "webhookFormat"
  |> appendIf override.errorRowsRatio.isSome "errorRowsRatio"
  |> appendIf override.errorRowsMinTotal.isSome "errorRowsMinTotal"
  |> appendIf override.maxOffsetLag.isSome "maxOffsetLag"
  |> appendIf override.maxJournalLag.isSome "maxJournalLag"

theorem name_mem_overridden (settings : Settings) (field : Field) :
    field.name ∈ settings.overridden ↔ (settings.override.value.get field).isSome := by
  simp only [overridden, mem_appendIf, List.not_mem_nil, false_or]
  cases field <;> simp [Field.name, Override.get]

/-- A field that is set has the meaning of what was set: the override passed
`Validate`, so the fallback of `mustDuration` is never taken. -/
theorem effective_set {settings : Settings} {field : Field} {raw : field.Raw}
    (set : settings.override.value.get field = some raw) :
    field.decode raw = some (settings.effective.get field) := by
  rcases settings.override.decode set with ⟨value, decoded⟩
  cases field with
  | pollInterval | cooldown =>
      simp only [Override.get] at set
      simp only [Field.decode] at decoded ⊢
      simp only [effective, Config.get, set, Option.elim_some, mustDuration, decoded,
        Option.getD_some]
  | _ =>
      simp only [Override.get] at set
      simp only [Field.decode, effective, Config.get, set, Option.getD_some]

theorem effective_unset {settings : Settings} {field : Field}
    (unset : settings.override.value.get field = none) :
    settings.effective.get field = settings.defaults.get field := by
  cases field <;>
    simp only [Override.get] at unset <;>
    simp only [effective, Config.get, unset, Option.elim_none, Option.getD_none]

theorem effective_knownFormat {settings : Settings}
    (known : KnownFormat settings.defaults.webhookFormat) :
    KnownFormat settings.effective.webhookFormat := by
  cases set : settings.override.value.webhookFormat with
  | none => simpa only [effective, set, Option.getD_none] using known
  | some format =>
      simp only [effective, set, Option.getD_some]
      exact checkWebhookFormat_ok_iff.mp
        ((Override.validate_ok_iff _).mp settings.override.valid .webhookFormat format set)

theorem effective_cooldown_nonneg {settings : Settings} (nonneg : 0 ≤ settings.defaults.cooldown) :
    0 ≤ settings.effective.cooldown := by
  cases set : settings.override.value.cooldown with
  | none => simpa only [effective, set, Option.elim_none] using nonneg
  | some raw =>
      have passed := (Override.validate_ok_iff _).mp settings.override.valid .cooldown raw set
      rcases checkDuration_ok_iff.mp passed with ⟨duration, parsed, least⟩
      simpa only [effective, set, Option.elim_some, mustDuration, parsed, Option.getD_some] using
        least

end Settings

/-! ## The webhook hint -/

/-- Hide the secret path of a webhook and keep its destination. -/
def maskWebhookURL (raw : String) : String :=
  if raw = "" then ""
  else
    match URL.parse raw with
    | none => "•••"
    | some url =>
        if url.host = "" then "•••" else url.scheme ++ "://" ++ url.host ++ "/•••"

end ValidOverrides

end StarLens.Alert
