import StarLens.Alert.Settings

/-! # Alert configuration from the environment

`getenv` is the empty text for a variable that is not set. -/

namespace StarLens.Config

open Go

/-- A variable that is not set, or does not parse, has the fallback. -/
def envParsed {Value : Type} (parse : String → Option Value) (getenv : String → String)
    (key : String) (fallback : Value) : Value :=
  let raw := Strings.trimSpace (getenv key)
  if raw = "" then fallback else (parse raw).getD fallback

def envString : (String → String) → String → String → String := envParsed some

def envBool : (String → String) → String → Bool → Bool := envParsed Strconv.parseBool

def envFloat : (String → String) → String → Float64 → Float64 := envParsed Strconv.parseFloat

def envInt64 : (String → String) → String → Int64 → Int64 := envParsed Strconv.parseInt

def envDuration : (String → String) → String → Duration → Duration :=
  envParsed fun raw => (Duration.parse raw).filter fun duration => 0 < duration

structure AlertConfig where
  enabled : Bool
  pollInterval : Duration
  cooldown : Duration
  webhookURL : String
  webhookFormat : String
  errorRowsRatio : Float64
  errorRowsMinTotal : Int64
  maxOffsetLag : Int64
  maxJournalLag : Int64
  uiEditable : Bool
  overrideFile : String
deriving DecidableEq

def loadAlert [UnicodeTables] (getenv : String → String) : Except String AlertConfig :=
  let config : AlertConfig := {
    enabled := envBool getenv "ALERT_ENABLED" true
    pollInterval := envDuration getenv "ALERT_POLL_INTERVAL" 30000000000
    cooldown := envDuration getenv "ALERT_COOLDOWN" 600000000000
    webhookURL := Strings.trimSpace (getenv "ALERT_WEBHOOK_URL")
    webhookFormat := envString getenv "ALERT_WEBHOOK_FORMAT" "generic"
    errorRowsRatio := envFloat getenv "ALERT_ERROR_ROWS_RATIO" (.round (1 / 100))
    errorRowsMinTotal := envInt64 getenv "ALERT_ERROR_ROWS_MIN_TOTAL" 10000
    maxOffsetLag := envInt64 getenv "ALERT_MAX_OFFSET_LAG" 0
    maxJournalLag := envInt64 getenv "ALERT_MAX_JOURNAL_LAG" 1000
    uiEditable := envBool getenv "ALERT_CONFIG_UI" true
    overrideFile := envString getenv "ALERT_CONFIG_FILE" "starlens-alerts.json" }
  if config.webhookFormat != "generic" && config.webhookFormat != "slack" then
    .error ("config: ALERT_WEBHOOK_FORMAT must be \"generic\" or \"slack\", got " ++
      Strconv.quote config.webhookFormat)
  else .ok config

def AlertConfig.defaults (config : AlertConfig) : Alert.Config where
  enabled := config.enabled
  pollInterval := config.pollInterval
  cooldown := config.cooldown
  webhookURL := config.webhookURL
  webhookFormat := config.webhookFormat
  errorRowsRatio := config.errorRowsRatio
  errorRowsMinTotal := config.errorRowsMinTotal
  maxOffsetLag := config.maxOffsetLag
  maxJournalLag := config.maxJournalLag

theorem envParsed_unset {Value : Type} (parse : String → Option Value)
    {getenv : String → String} {key : String} (fallback : Value) (unset : getenv key = "") :
    envParsed parse getenv key fallback = fallback := by
  have empty : Strings.trimSpace "" = "" := by decide
  rw [envParsed, unset, empty, if_pos rfl]

theorem envParsed_keeps {Value : Type} {parse : String → Option Value} (keeps : Value → Prop)
    (parsed : ∀ raw value, parse raw = some value → keeps value) (getenv : String → String)
    (key : String) {fallback : Value} (kept : keeps fallback) :
    keeps (envParsed parse getenv key fallback) := by
  simp only [envParsed]
  split
  · exact kept
  · cases read : parse (Strings.trimSpace (getenv key)) with
    | none => exact kept
    | some value => exact parsed _ value read

theorem envDuration_pos (getenv : String → String) (key : String) {fallback : Duration}
    (positive : 0 < fallback) : 0 < envDuration getenv key fallback := by
  refine envParsed_keeps (0 < ·) (fun raw duration parsed => ?_) getenv key positive
  simpa using (Option.filter_eq_some_iff.mp parsed).2

section Load

variable [UnicodeTables] {getenv : String → String} {config : AlertConfig}

theorem loadAlert_knownFormat (loaded : loadAlert getenv = .ok config) :
    Alert.KnownFormat config.defaults.webhookFormat := by
  simp only [loadAlert] at loaded
  split at loaded
  case isTrue => simp at loaded
  case isFalse known =>
      rw [← Except.ok.inj loaded]
      simpa [AlertConfig.defaults, Alert.KnownFormat, Alert.webhookFormatGeneric,
        Alert.webhookFormatSlack, or_iff_not_imp_left] using known

theorem loadAlert_cooldown (loaded : loadAlert getenv = .ok config) :
    0 < config.defaults.cooldown := by
  simp only [loadAlert] at loaded
  split at loaded
  case isTrue => simp at loaded
  case isFalse =>
      rw [← Except.ok.inj loaded]
      have positive : (0 : Duration) < 600000000000 := by decide
      simp only [AlertConfig.defaults]
      exact envDuration_pos getenv "ALERT_COOLDOWN" positive

example : (loadAlert fun _ => "").map AlertConfig.defaults = .ok .standard := rfl

end Load

end StarLens.Config
