import StarLens.Api.AlertConfig
import StarLens.Config.Alert
import StarLens.Frontend.Number

/-! # The alert settings dialog

The dialog fills a form from the view of the configuration and turns the form
into a patch of every field but the webhook's URL. A numeric field of the form
is kept as the number its text stands for, since `Number` reads back what
`String` writes. -/

namespace StarLens.Frontend

open Alert Foundation Go

/-! ## View, form and patch -/

structure ConfigView where
  enabled : Bool
  pollInterval : String
  cooldown : String
  webhookConfigured : Bool
  webhookHint : Option String
  webhookFormat : String
  errorRowsRatio : ℚ
  errorRowsMinTotal : Int
  maxOffsetLag : Int
  maxJournalLag : Int

structure AlertConfigView where
  editable : Bool
  overridden : List String
  config : ConfigView

/-- What a response becomes in the browser: a ratio that is no number cannot
be encoded, and whole numbers become float64 values. -/
def receive (view : Api.AlertConfigView) : Option AlertConfigView :=
  match view.config.errorRowsRatio with
  | .finite errorRowsRatio _ =>
      some {
        editable := view.editable
        overridden := view.overridden
        config := {
          enabled := view.config.enabled
          pollInterval := view.config.pollInterval
          cooldown := view.config.cooldown
          webhookConfigured := view.config.webhookConfigured
          webhookHint :=
            if view.config.webhookHint = "" then none else some view.config.webhookHint
          webhookFormat := view.config.webhookFormat
          errorRowsRatio
          errorRowsMinTotal := Number.ofInt view.config.errorRowsMinTotal.toInt
          maxOffsetLag := Number.ofInt view.config.maxOffsetLag.toInt
          maxJournalLag := Number.ofInt view.config.maxJournalLag.toInt } }
  | _ => none

structure FormState where
  enabled : Bool
  pollInterval : String
  cooldown : String
  webhookUrl : String
  clearWebhook : Bool
  webhookFormat : String
  errorRowsPercent : ℚ
  errorRowsMinTotal : Int
  maxOffsetLag : Int
  maxJournalLag : Int

def toFormState (view : AlertConfigView) : FormState where
  enabled := view.config.enabled
  pollInterval := view.config.pollInterval
  cooldown := view.config.cooldown
  webhookUrl := ""
  clearWebhook := false
  webhookFormat := view.config.webhookFormat
  errorRowsPercent := mathRound (view.config.errorRowsRatio * 10000) / 100
  errorRowsMinTotal := view.config.errorRowsMinTotal
  maxOffsetLag := view.config.maxOffsetLag
  maxJournalLag := view.config.maxJournalLag

/-- `webhookUrl` is left out of the patch when it is `none`. -/
structure AlertConfigPatch where
  enabled : Bool
  pollInterval : String
  cooldown : String
  webhookFormat : String
  errorRowsRatio : ℚ
  errorRowsMinTotal : Int
  maxOffsetLag : Int
  maxJournalLag : Int
  webhookUrl : Option String

def toPatch (form : FormState) : AlertConfigPatch where
  enabled := form.enabled
  pollInterval := trim form.pollInterval
  cooldown := trim form.cooldown
  webhookFormat := form.webhookFormat
  errorRowsRatio := form.errorRowsPercent / 100
  errorRowsMinTotal := form.errorRowsMinTotal
  maxOffsetLag := form.maxOffsetLag
  maxJournalLag := form.maxJournalLag
  webhookUrl :=
    if form.clearWebhook then some ""
    else if trim form.webhookUrl != "" then some (trim form.webhookUrl)
    else none

def AlertConfigPatch.members (patch : AlertConfigPatch) : List (String × Json) :=
  [("enabled", .bool patch.enabled), ("pollInterval", .string patch.pollInterval),
    ("cooldown", .string patch.cooldown), ("webhookFormat", .string patch.webhookFormat),
    ("errorRowsRatio", .ofRat patch.errorRowsRatio),
    ("errorRowsMinTotal", .number (Number.toInt patch.errorRowsMinTotal) true),
    ("maxOffsetLag", .number (Number.toInt patch.maxOffsetLag) true),
    ("maxJournalLag", .number (Number.toInt patch.maxJournalLag) true)] ++
    patch.webhookUrl.toList.map fun url => ("webhookUrl", .string url)

private theorem bindPatch_members {patch : AlertConfigPatch} (bare : patch.webhookUrl = none)
    {bound : Override × Bool} :
    Api.bindPatch patch.members = some bound ↔
      ∃ ratio total offset journal,
        (Json.ofRat patch.errorRowsRatio).toFloat64? = some ratio ∧
        (Json.number (Number.toInt patch.errorRowsMinTotal) true).toInt64? = some total ∧
        (Json.number (Number.toInt patch.maxOffsetLag) true).toInt64? = some offset ∧
        (Json.number (Number.toInt patch.maxJournalLag) true).toInt64? = some journal ∧
        bound = ({
          enabled := some patch.enabled
          pollInterval := some patch.pollInterval
          cooldown := some patch.cooldown
          webhookFormat := some patch.webhookFormat
          errorRowsRatio := some ratio
          errorRowsMinTotal := some total
          maxOffsetLag := some offset
          maxJournalLag := some journal }, false) := by
  have reset : Api.bindReset patch.members = some false := by
    rw [Api.bindReset, AlertConfigPatch.members, bare]
    simp only [Option.toList_none, List.map_nil, List.append_nil, List.foldlM_cons,
      List.foldlM_nil]
    rfl
  have names : Field.ofName? "enabled" = some .enabled ∧
      Field.ofName? "pollInterval" = some .pollInterval ∧
      Field.ofName? "cooldown" = some .cooldown ∧
      Field.ofName? "webhookFormat" = some .webhookFormat ∧
      Field.ofName? "errorRowsRatio" = some .errorRowsRatio ∧
      Field.ofName? "errorRowsMinTotal" = some .errorRowsMinTotal ∧
      Field.ofName? "maxOffsetLag" = some .maxOffsetLag ∧
      Field.ofName? "maxJournalLag" = some .maxJournalLag := by decide
  have ratioGiven : Json.ofRat patch.errorRowsRatio ≠ .null := nofun
  rw [Api.bindPatch, reset]
  simp only [Override.unmarshal, AlertConfigPatch.members, bare, Option.toList_none,
    List.map_nil, List.append_nil, List.foldlM_cons, List.foldlM_nil, Override.unmarshalMember,
    names, ratioGiven, Field.ofJson, reduceCtorEq, if_false, bind, Except.bind, Override.set]
  cases (Json.ofRat patch.errorRowsRatio).toFloat64? with
  | none => simp
  | some ratio =>
      cases (Json.number (Number.toInt patch.errorRowsMinTotal) true).toInt64? with
      | none => simp
      | some total =>
          cases (Json.number (Number.toInt patch.maxOffsetLag) true).toInt64? with
          | none => simp
          | some offset =>
              cases (Json.number (Number.toInt patch.maxJournalLag) true).toInt64? with
              | none => simp
              | some journal => simp [pure, Except.pure, eq_comm]

theorem tenThousandth_mem {hundredths : Nat} (bounded : hundredths ≤ 10000) :
    (0 : ℚ) ≤ hundredths / 10000 ∧ (hundredths : ℚ) / 10000 ≤ 1 := by
  constructor
  · positivity
  · rw [div_le_one (by norm_num)]
    exact_mod_cast bounded

private theorem mathRound_nearest {hundredths : Nat} (bounded : hundredths ≤ 10000) :
    mathRound (Float64.nearest (hundredths / 10000) * 10000) = hundredths := by
  rcases tenThousandth_mem bounded with ⟨lower, upper⟩
  have magnitude : |(hundredths : ℚ) / 10000| ≤ 1 := by rwa [abs_of_nonneg lower]
  have unit : (2 : ℚ) ^ Float64.unitExponent (hundredths / 10000) ≤ 2 ^ (-52 : Int) :=
    zpow_le_zpow_right₀ (by norm_num) (Float64.unitExponent_of_le_one magnitude)
  have small : (2 : ℚ) ^ (-52 : Int) ≤ 1 / 20000 := by norm_num
  have moved := Float64.abs_nearest_sub_le (hundredths / 10000 : ℚ)
  rw [abs_le] at moved
  have share : (hundredths : ℚ) / 10000 * 10000 = hundredths := by ring
  rw [mathRound, Int.floor_eq_iff]
  push_cast
  constructor <;> linarith

private theorem percent_eq_iff {ratio : ℚ} {exact : Float64.Exact ratio} (lower : 0 ≤ ratio)
    (upper : ratio ≤ 1) :
    Float64.ofLiteral (mathRound (ratio * 10000) / 100 / 100) = some (.finite ratio exact) ↔
      ∃ hundredths : Nat, hundredths ≤ 10000 ∧
        .finite ratio exact = Float64.round (hundredths / 10000) := by
  constructor
  · intro kept
    have nonneg : 0 ≤ mathRound (ratio * 10000) := by
      rw [mathRound, Int.le_floor]
      push_cast
      linarith
    have bounded : mathRound (ratio * 10000) < 10001 := by
      rw [mathRound, Int.floor_lt]
      push_cast
      linarith
    rcases Int.eq_ofNat_of_zero_le nonneg with ⟨hundredths, equal⟩
    rw [equal, Float64.ofLiteral, Option.ite_none_left_eq_some, Option.some.injEq] at kept
    refine ⟨hundredths, by omega, ?_⟩
    rw [← kept.2, div_div, Int.cast_natCast]
    norm_num
  · intro multiple
    rcases multiple with ⟨hundredths, bounded, same⟩
    rcases tenThousandth_mem bounded with ⟨small, large⟩
    have inRange : |(hundredths : ℚ) / 10000| < Float64.overflow := by
      rw [abs_of_nonneg small]
      exact large.trans_lt Float64.one_lt_overflow
    have value : ratio = Float64.nearest (hundredths / 10000) := by
      rw [Float64.round_of_lt inRange] at same
      exact Float64.finite.inj same
    have percent : ((hundredths : Int) : ℚ) / 100 / 100 = hundredths / 10000 := by
      rw [div_div, Int.cast_natCast]
      norm_num
    rw [same, value, mathRound_nearest bounded, percent, Float64.ofLiteral,
      if_neg (not_le.mpr inRange)]

private theorem nearest_tenThousandth_mem {hundredths : Nat} (bounded : hundredths ≤ 10000) :
    0 ≤ Float64.nearest (hundredths / 10000 : ℚ) ∧
      Float64.nearest (hundredths / 10000 : ℚ) ≤ 1 := by
  rcases tenThousandth_mem bounded with ⟨lower, upper⟩
  exact ⟨Float64.nearest_nonneg lower, Float64.nearest_le_one upper⟩

private theorem round_hundredths {hundredths : Nat} (bounded : hundredths ≤ 10000) :
    ∃ exact, Float64.round (hundredths / 10000) =
      .finite (Float64.nearest (hundredths / 10000)) exact := by
  rcases tenThousandth_mem bounded with ⟨lower, upper⟩
  have inRange : |(hundredths : ℚ) / 10000| < Float64.overflow := by
    rw [abs_of_nonneg lower]
    exact upper.trans_lt Float64.one_lt_overflow
  exact ⟨_, Float64.round_of_lt inRange⟩

private theorem checkErrorRowsRatio_hundredths {hundredths : Nat} (bounded : hundredths ≤ 10000) :
    checkErrorRowsRatio (.round (hundredths / 10000)) = .ok () := by
  rcases round_hundredths bounded with ⟨exact, rounded⟩
  rw [rounded]
  exact checkErrorRowsRatio_ok_iff.mpr (nearest_tenThousandth_mem bounded)

section Saving

variable [UnicodeTables]

/-- The patch that the server reads when the dialog is saved as it opens. -/
def savedUnedited (settings : Settings) : Option (Override × Bool) :=
  (receive (Api.view true settings.effective settings.overridden)).bind fun view =>
    Api.bindPatch (toPatch (toFormState view)).members

/-- Saving the dialog as it opens is accepted, with files that can be written,
and leaves the effective configuration as it is. -/
def SavesUnchanged (json : JSONText) (settings : Settings) (files : Files) : Prop :=
  ∃ patch reset final after, savedUnedited settings = some (patch, reset) ∧
    (settings.update json patch reset).exec [.succeed, .succeed, .succeed] files =
      (final, some (after, none)) ∧
    after.effective = settings.effective

/-- A threshold that is admitted, and that JavaScript shows as it is. -/
def Shown (threshold : Int64) : Prop :=
  0 ≤ threshold ∧ Number.toInt (Number.ofInt threshold.toInt) = threshold.toInt

structure Representable (config : Config) : Prop where
  pollInterval : minPollInterval ≤ config.pollInterval
  errorRowsRatio : ∃ hundredths : Nat, hundredths ≤ 10000 ∧
    config.errorRowsRatio = .round (hundredths / 10000)
  errorRowsMinTotal : Shown config.errorRowsMinTotal
  maxOffsetLag : Shown config.maxOffsetLag
  maxJournalLag : Shown config.maxJournalLag

omit [UnicodeTables] in
private theorem trim_duration (duration : Duration) : trim duration.string = duration.string := by
  rcases duration.string_ends with ⟨⟨first, rest, starts, visible⟩, ⟨front, ends⟩⟩
  refine trim_eq starts ends ?_ (by decide)
  rcases visible with rfl | digit
  · decide
  · exact isSpace_digit digit

def unedited (config : Config) (ratio : Float64) (total offset journal : Int64) : Override where
  enabled := some config.enabled
  pollInterval := some config.pollInterval.string
  cooldown := some config.cooldown.string
  webhookFormat := some config.webhookFormat
  errorRowsRatio := some ratio
  errorRowsMinTotal := some total
  maxOffsetLag := some offset
  maxJournalLag := some journal

private theorem savedUnedited_eq_some_iff {settings : Settings} {ratio : ℚ}
    {exact : Float64.Exact ratio} (finite : settings.effective.errorRowsRatio = .finite ratio exact)
    {bound : Override × Bool} :
    savedUnedited settings = some bound ↔
      ∃ sent total offset journal,
        Float64.ofLiteral (mathRound (ratio * 10000) / 100 / 100) = some sent ∧
        Number.toInt (Number.ofInt settings.effective.errorRowsMinTotal.toInt) = total.toInt ∧
        Number.toInt (Number.ofInt settings.effective.maxOffsetLag.toInt) = offset.toInt ∧
        Number.toInt (Number.ofInt settings.effective.maxJournalLag.toInt) = journal.toInt ∧
        bound = (unedited settings.effective sent total offset journal, false) := by
  have bare (view : AlertConfigView) : (toPatch (toFormState view)).webhookUrl = none := by
    have empty : trim "" = "" := by decide
    simp [toPatch, toFormState, empty]
  rw [savedUnedited, receive]
  simp only [Api.view, finite, Option.bind_some]
  rw [bindPatch_members (bare _)]
  simp only [toPatch, toFormState, trim_duration, Json.toInt64?_eq_some_iff, unedited,
    Json.ofRat, Json.toFloat64?]

private theorem representable_of_savesUnchanged {json : JSONText} {settings : Settings}
    {files : Files}
    (saves : SavesUnchanged json settings files) : Representable settings.effective := by
  rcases saves with ⟨patch, reset, final, after, saved, updated, same⟩
  cases finite : settings.effective.errorRowsRatio with
  | inf negative => simp [savedUnedited, receive, Api.view, finite] at saved
  | nan => simp [savedUnedited, receive, Api.view, finite] at saved
  | finite ratio exact =>
      rcases (savedUnedited_eq_some_iff finite).mp saved with
        ⟨sent, total, offset, journal, number, totalShown, offsetShown, journalShown, equal⟩
      rw [Prod.mk.injEq] at equal
      rcases equal with ⟨rfl, rfl⟩
      rcases update_ok json updated with ⟨valid, validated, rfl, -⟩
      have value := Override.validated_eq_ok_iff.mp validated
      have agrees := (Settings.effective_merged_iff settings valid).mp same
      have checked := (Override.validate_ok_iff _).mp valid.valid
      rw [value] at agrees checked
      have shown {arrived threshold : Int64} (kept : arrived = threshold) (passed : 0 ≤ arrived)
          (same : Number.toInt (Number.ofInt threshold.toInt) = arrived.toInt) :
          Shown threshold := by
        subst kept
        exact ⟨passed, same⟩
      refine ⟨?_, ?_,
        shown (Option.some.inj (agrees .errorRowsMinTotal total rfl))
          (checkNotNegative_ok_iff.mp (checked .errorRowsMinTotal total rfl)) totalShown,
        shown (Option.some.inj (agrees .maxOffsetLag offset rfl))
          (checkNotNegative_ok_iff.mp (checked .maxOffsetLag offset rfl)) offsetShown,
        shown (Option.some.inj (agrees .maxJournalLag journal rfl))
          (checkNotNegative_ok_iff.mp (checked .maxJournalLag journal rfl)) journalShown⟩
      · rcases checkDuration_ok_iff.mp (checked .pollInterval _ rfl) with
          ⟨duration, parsed, least⟩
        rw [Duration.parse_string, Option.some.injEq] at parsed
        rw [parsed]
        exact least
      · have kept : sent = .finite ratio exact := by
          rw [← finite]
          exact Option.some.inj (agrees .errorRowsRatio sent rfl)
        have passed := checked .errorRowsRatio sent rfl
        rw [kept] at number passed
        rcases checkErrorRowsRatio_ok_iff.mp passed with ⟨lower, upper⟩
        rw [finite]
        exact (percent_eq_iff lower upper).mp number

private theorem unedited_fields {config : Config} (known : KnownFormat config.webhookFormat)
    (cooldown : 0 ≤ config.cooldown) (representable : Representable config) (field : Field)
    (raw : field.Raw)
    (sent : (unedited config config.errorRowsRatio config.errorRowsMinTotal config.maxOffsetLag
      config.maxJournalLag).get field = some raw) :
    field.check raw = .ok () ∧ field.decode raw = some (config.get field) := by
  rcases representable with ⟨interval, ⟨hundredths, bounded, ratio⟩, total, offset, journal⟩
  cases field with
  | enabled =>
      cases sent
      exact ⟨rfl, rfl⟩
  | pollInterval =>
      cases sent
      have parsed := Duration.parse_string config.pollInterval
      exact ⟨checkDuration_ok_iff.mpr ⟨_, parsed, interval⟩, parsed⟩
  | cooldown =>
      cases sent
      have parsed := Duration.parse_string config.cooldown
      exact ⟨checkDuration_ok_iff.mpr ⟨_, parsed, cooldown⟩, parsed⟩
  | webhookURL => cases sent
  | webhookFormat =>
      cases sent
      exact ⟨checkWebhookFormat_ok_iff.mpr known, rfl⟩
  | errorRowsRatio =>
      cases sent
      exact ⟨(congrArg checkErrorRowsRatio ratio).trans (checkErrorRowsRatio_hundredths bounded),
        rfl⟩
  | errorRowsMinTotal =>
      cases sent
      exact ⟨checkNotNegative_ok_iff.mpr total.1, rfl⟩
  | maxOffsetLag =>
      cases sent
      exact ⟨checkNotNegative_ok_iff.mpr offset.1, rfl⟩
  | maxJournalLag =>
      cases sent
      exact ⟨checkNotNegative_ok_iff.mpr journal.1, rfl⟩

private theorem savesUnchanged_of_representable (json : JSONText) {settings : Settings}
    (files : Files) (known : KnownFormat settings.effective.webhookFormat)
    (cooldown : 0 ≤ settings.effective.cooldown)
    (representable : Representable settings.effective) : SavesUnchanged json settings files := by
  have fields := unedited_fields known cooldown representable
  rcases representable with ⟨-, ⟨hundredths, bounded, ratio⟩, total, offset, journal⟩
  rcases nearest_tenThousandth_mem bounded with ⟨lower, upper⟩
  rcases round_hundredths bounded with ⟨exact, rounded⟩
  have finite := ratio.trans rounded
  have sent := (percent_eq_iff lower upper).mpr ⟨hundredths, bounded, rounded.symm⟩
  have saved := (savedUnedited_eq_some_iff finite).mpr
    ⟨_, _, _, _, sent, total.2, offset.2, journal.2, rfl⟩
  rw [← finite] at saved
  have passed := (Override.validate_ok_iff _).mpr fun field raw set => (fields field raw set).1
  let valid : ValidOverride := { value := _, valid := passed }
  have given : (settings.merged valid false).value.errorRowsRatio =
      some (.finite (Float64.nearest (hundredths / 10000)) exact) := by
    rw [← finite]
    rfl
  rcases update_succeeds json files settings (Override.validated_eq_ok_iff.mpr rfl) false
    (by rw [Override.marshal, given]) with ⟨final, updated⟩
  exact ⟨_, _, final, _, saved, updated, (Settings.effective_merged_iff settings valid).mpr
    fun field raw set => (fields field raw set).2⟩

/-- Saving without edits is a no-op exactly for the configurations that the
dialog can represent. -/
theorem save_unedited_iff (json : JSONText) {getenv : String → String}
    {config : Config.AlertConfig} (loaded : Config.loadAlert getenv = .ok config)
    (override : ValidOverride) (files : Files) :
    let settings : Settings :=
      { defaults := config.defaults, override, path := config.overrideFile }
    SavesUnchanged json settings files ↔ Representable settings.effective := by
  intro settings
  have known : KnownFormat settings.effective.webhookFormat :=
    Settings.effective_knownFormat (Config.loadAlert_knownFormat loaded)
  have positive : 0 < settings.defaults.cooldown := Config.loadAlert_cooldown loaded
  have cooldown : 0 ≤ settings.effective.cooldown :=
    Settings.effective_cooldown_nonneg (Int64.le_of_lt positive)
  exact ⟨representable_of_savesUnchanged,
    savesUnchanged_of_representable json files known cooldown⟩

end Saving

/-! ## Two environments -/

def tunedEnvironment : String → String
  | "ALERT_POLL_INTERVAL" => "45s"
  | "ALERT_WEBHOOK_FORMAT" => "slack"
  | "ALERT_MAX_JOURNAL_LAG" => "500"
  | _ => ""

def tunedOverride : Override where
  enabled := some false
  cooldown := some "15m0s"
  errorRowsRatio := some (.round (5 / 100))
  maxOffsetLag := some 5000

theorem save_unedited_iff_tuned :
    ∃ (_ : UnicodeTables) (config : Config.AlertConfig) (override : ValidOverride),
      Config.loadAlert tunedEnvironment = .ok config ∧ override.value = tunedOverride ∧
      SavesUnchanged sampleJSON
        { defaults := config.defaults, override, path := config.overrideFile } fun _ => none := by
  let tables := UnicodeTables.latin
  let override : ValidOverride := { value := tunedOverride, valid := by decide +kernel }
  have loads : ∃ config : Config.AlertConfig, Config.loadAlert tunedEnvironment = .ok config ∧
      config.pollInterval = 45000000000 ∧ config.errorRowsMinTotal = 10000 ∧
      config.maxJournalLag = 500 := by
    simp only [Config.loadAlert]
    rw [if_neg (by decide)]
    exact ⟨_, rfl, by decide, by decide, by decide⟩
  rcases loads with ⟨config, loaded, interval, total, journal⟩
  let settings : Settings := { defaults := config.defaults, override, path := config.overrideFile }
  have representable : Representable settings.effective := by
    constructor
    · change minPollInterval ≤ config.pollInterval
      rw [interval]
      decide
    · exact ⟨500, by decide, congrArg Float64.round (by norm_num)⟩
    · change Shown config.errorRowsMinTotal
      rw [total]
      exact ⟨by decide, Number.toInt_ofInt (by decide)⟩
    · change Shown 5000
      exact ⟨by decide, Number.toInt_ofInt (by decide)⟩
    · change Shown config.maxJournalLag
      rw [journal]
      exact ⟨by decide, Number.toInt_ofInt (by decide)⟩
  exact ⟨tables, config, override, loaded, rfl,
    (save_unedited_iff sampleJSON loaded override fun _ => none).mpr representable⟩

/-- A negative threshold, which disables a rule. -/
def disabledLag (key : String) : String := if key = "ALERT_MAX_OFFSET_LAG" then "-1" else ""

theorem save_unedited_rejects_disabled :
    ∃ (_ : UnicodeTables) (config : Config.AlertConfig), Config.loadAlert disabledLag = .ok config ∧
      ¬SavesUnchanged sampleJSON
        { defaults := config.defaults, override := .empty, path := config.overrideFile }
        fun _ => none := by
  let tables := UnicodeTables.latin
  have loads : ∃ config, Config.loadAlert disabledLag = .ok config ∧ config.maxOffsetLag = -1 := by
    simp only [Config.loadAlert]
    rw [if_neg (by decide)]
    exact ⟨_, rfl, by decide⟩
  rcases loads with ⟨config, loaded, negative⟩
  refine ⟨tables, config, loaded, fun saves => ?_⟩
  have representable := (representable_of_savesUnchanged saves).maxOffsetLag.1
  have effective : (0 : Int64) ≤ config.maxOffsetLag := representable
  rw [negative] at effective
  exact absurd effective (by decide)

end StarLens.Frontend
