import StarLens.Alert.OverrideText
import StarLens.Foundation.FileProgram

/-! # The override file

`LoadSettings`, `Update` and `persist` as programs over files. The text of a
JSON document is a parameter. -/

namespace StarLens.Alert

open Foundation Go

inductive LoadError
  | read (failure : String)
  | malformed (failure : String)
  | type (field : Option Field)
  | invalid (text : String)
deriving DecidableEq

inductive UpdateError
  | invalid (text : String)
  | persist (text : String)
deriving DecidableEq

def UpdateError.text : UpdateError → String
  | invalid text | persist text => text

abbrev Files := Store String String

abbrev Program (Result : Type) := FileProgram String String String Result

/-- The directory of a path, up to its last slash and not cleaned. -/
def dir (path : String) : String :=
  if '/' ∈ path.toList then String.ofList (path.toList.rdropWhile (· != '/')) else "."

def tmpPath (path : String) : String := path ++ ".tmp"

private theorem tmpPath_ne (path : String) : path ≠ tmpPath path := by
  intro equal
  have lengths := congrArg String.length equal
  have suffix : ".tmp".length = 4 := by decide
  rw [tmpPath, String.length_append, suffix] at lengths
  omega

section Files

variable [UnicodeTables] (json : JSONText)

def decodeOverride (raw : String) : Except LoadError ValidOverride :=
  match json.parse raw with
  | .error failure => .error (.malformed failure)
  | .ok .other => .error (.type none)
  | .ok .null => .ok .empty
  | .ok (.object members) =>
      match Override.unmarshal members with
      | .error field => .error (.type (some field))
      | .ok override =>
          match override.validated with
          | .error text => .error (.invalid text)
          | .ok valid => .ok valid

/-- Read the override file. Whatever is wrong with it is reported, next to
settings without overrides. -/
def loadSettings (path : String) (defaults : Config) :
    Program (Settings × Option LoadError) :=
  .perform (.read path) fun
    | .contents raw =>
        match decodeOverride json raw with
        | .error failure => .finish ({ defaults, override := .empty, path }, some failure)
        | .ok override => .finish ({ defaults, override, path }, none)
    | .failed failure =>
        .finish ({ defaults, override := .empty, path }, some (.read failure))
    | _ => .finish ({ defaults, override := .empty, path }, none)

/-- Write a temporary file and rename it; an empty override removes the
file. -/
def persist (path : String) (override : Override) : Program (Except UpdateError Unit) :=
  if override.isEmpty then
    .perform (.remove path) fun
      | .failed failure => .finish (.error (.persist ("alert: remove override file: " ++ failure)))
      | _ => .finish (.ok ())
  else
    match override.marshal with
    | .error failure => .finish (.error (.persist ("alert: encode override: " ++ failure)))
    | .ok members =>
        .perform (.mkdirAll (dir path)) fun
          | .failed failure =>
              .finish (.error (.persist ("alert: create override directory: " ++ failure)))
          | _ =>
              .perform (.write (tmpPath path) (json.marshalIndent members ++ "\n")) fun
                | .failed failure =>
                    .finish (.error (.persist ("alert: write override file: " ++ failure)))
                | _ =>
                    .perform (.rename (tmpPath path) path) fun
                      | .failed failure =>
                          .finish (.error (.persist ("alert: replace override file: " ++ failure)))
                      | .missing =>
                          .finish (.error (.persist ("alert: replace override file: rename " ++
                            tmpPath path ++ " " ++ path ++ ": no such file or directory")))
                      | _ => .finish (.ok ())

namespace Settings

def merged (settings : Settings) (patch : ValidOverride) (reset : Bool) : ValidOverride :=
  (if reset then .empty else settings.override).merge patch

/-- The critical section of `Update`: merge, persist, and only then keep. -/
def commit (settings : Settings) (patch : ValidOverride) (reset : Bool) :
    Program (Settings × Option UpdateError) :=
  (persist json settings.path (settings.merged patch reset).value).bind fun
    | .error failure => .finish (settings, some failure)
    | .ok () => .finish ({ settings with override := settings.merged patch reset }, none)

def update (settings : Settings) (patch : Override) (reset : Bool) :
    Program (Settings × Option UpdateError) :=
  match patch.validated with
  | .error text => .finish (settings, some (.invalid text))
  | .ok patch => settings.commit json patch reset

/-- A patch changes nothing exactly when each of its fields says what is
effective already. -/
theorem effective_merged_iff (settings : Settings) (patch : ValidOverride) :
    ({ settings with override := settings.merged patch false } : Settings).effective =
        settings.effective ↔
      ∀ field, ∀ raw ∈ patch.value.get field,
        field.decode raw = some (settings.effective.get field) := by
  generalize defined : ({ settings with override := settings.merged patch false } : Settings) =
    after
  have merged (field : Field) : after.override.value.get field =
      (patch.value.get field).or (settings.override.value.get field) := by
    rw [← defined]
    exact ValidOverride.merge_get _ _ field
  constructor
  · intro same field raw set
    rw [Option.mem_def] at set
    rw [← same]
    exact effective_set (by rw [merged, set, Option.some_or])
  · intro agrees
    apply Config.ext_get
    intro field
    cases set : patch.value.get field with
    | some raw =>
        have new : after.override.value.get field = some raw := by rw [merged, set, Option.some_or]
        exact Option.some.inj ((effective_set new).symm.trans (agrees field raw set))
    | none =>
        have kept : after.override.value.get field = settings.override.value.get field := by
          rw [merged, set, Option.none_or]
        cases old : settings.override.value.get field with
        | none =>
            rw [effective_unset old, effective_unset (kept.trans old), ← defined]
        | some raw =>
            exact Option.some.inj ((effective_set (kept.trans old)).symm.trans (effective_set old))

end Settings

/-! ## What the file holds -/

def stored (files : Files) (path : String) : Except LoadError ValidOverride :=
  match files path with
  | none => .ok .empty
  | some raw => decodeOverride json raw

/-- The content that stands for an override: no file when it is empty. -/
def Encodes (override : Override) (content : Option String) : Prop :=
  if override.isEmpty then content = none
  else ∃ members, override.marshal = .ok members ∧
    content = some (json.marshalIndent members ++ "\n")

theorem stored_of_encodes {files : Files} {path : String} {override : ValidOverride}
    (encodes : Encodes json override.value (files path)) :
    stored json files path = .ok override := by
  rw [Encodes] at encodes
  split at encodes
  case isTrue empty =>
      rw [stored, encodes]
      refine congrArg Except.ok (ValidOverride.ext (Override.ext_get fun field => ?_))
      rw [ValidOverride.empty_get, (override.value.isEmpty_iff.mp empty) field]
  case isFalse nonempty =>
      rcases encodes with ⟨members, written, content⟩
      rcases json.parse_marshalIndent _ _ written with ⟨read, parsed, same⟩
      have decoded := same.trans (Override.unmarshal_marshal override.valid written)
      have valid : override.value.validated = .ok override :=
        Override.validated_eq_ok_iff.mpr rfl
      simp only [stored, content, decodeOverride, parsed, decoded, valid]

theorem loadSettings_exec (files : Files) (path : String) (defaults : Config) :
    (loadSettings json path defaults).exec [.succeed] files =
      (files, some (match stored json files path with
        | .ok override => ({ defaults, override, path }, none)
        | .error failure => ({ defaults, override := .empty, path }, some failure))) := by
  cases content : files path with
  | none =>
      simp only [loadSettings, FileProgram.exec, Operation.apply, Operation.effect, content,
        stored]
  | some raw =>
      cases decoded : decodeOverride json raw with
      | error failure =>
          simp only [loadSettings, FileProgram.exec, Operation.apply, Operation.effect, content,
            stored, decoded]
      | ok override =>
          simp only [loadSettings, FileProgram.exec, Operation.apply, Operation.effect, content,
            stored, decoded]

omit [UnicodeTables] in
/-- `persist` at every point where the process can stop and with every result:
the file is the old one or the new one, and the old one after an error. -/
theorem persist_meets (files : Files) (path : String) (override : Override) :
    (persist json path override).Meets files
      (fun final => final path = files path ∨ Encodes json override (final path))
      (fun result final => match result with
        | .ok () => Encodes json override (final path)
        | .error _ => final path = files path) := by
  rw [persist]
  split
  case isTrue empty =>
      have encodes : Encodes json override none := by simp [Encodes, empty]
      rw [FileProgram.meets_atomic fun _ => rfl]
      cases content : files path with
      | none => simp [Operation.effect, content, encodes]
      | some raw => simp [Operation.effect, content, encodes]
  case isFalse nonempty =>
      cases written : override.marshal with
      | error failure => simp
      | ok members =>
          have encodes : Encodes json override (some (json.marshalIndent members ++ "\n")) := by
            simp [Encodes, nonempty, written]
          have apart := tmpPath_ne path
          simp only
          rw [FileProgram.meets_atomic fun _ => rfl]
          simp only [Operation.effect, true_or, true_and, FileProgram.meets_finish,
            implies_true, and_true]
          rw [FileProgram.meets_write]
          -- only the temporary file has been touched before the rename
          have same (content : Option String) :
              Function.update files (tmpPath path) content path = files path :=
            Function.update_of_ne apart _ _
          refine ⟨.inl rfl, fun leftover => .inl (same leftover), ?_, fun failure leftover =>
            (FileProgram.meets_finish _).mpr (same leftover)⟩
          rw [FileProgram.meets_atomic fun _ => rfl]
          simp [Operation.effect, same, encodes]

omit [UnicodeTables] in
private theorem persist_succeeds (files : Files) (path : String) {override : Override}
    {members : List (String × Json)} (written : override.marshal = .ok members) :
    ∃ final, (persist json path override).exec [.succeed, .succeed, .succeed] files =
      (final, some (.ok ())) := by
  rw [persist]
  split
  case isTrue =>
      cases content : files path with
      | none => simp [FileProgram.exec, Operation.apply, Operation.effect, content]
      | some raw => simp [FileProgram.exec, Operation.apply, Operation.effect, content]
  case isFalse =>
      simp [written, FileProgram.exec, Operation.apply, Operation.effect]

theorem commit_meets (files : Files) (settings : Settings) (patch : ValidOverride)
    (reset : Bool) :
    (settings.commit json patch reset).Meets files
      (fun final => final settings.path = files settings.path ∨
        Encodes json (settings.merged patch reset).value (final settings.path))
      (fun result final => match result.2 with
        | none => result.1 = { settings with override := settings.merged patch reset } ∧
            Encodes json (settings.merged patch reset).value (final settings.path)
        | some _ => result.1 = settings ∧ final settings.path = files settings.path) := by
  rw [Settings.commit, FileProgram.meets_bind]
  apply (persist_meets json files _ _).weaken (fun _ stopped => stopped)
  intro result final returned
  cases result with
  | error failure => exact (FileProgram.meets_finish _).mpr ⟨rfl, returned⟩
  | ok done => exact (FileProgram.meets_finish _).mpr ⟨rfl, returned⟩

theorem loadSettings_meets (files : Files) (path : String) (defaults : Config) :
    (loadSettings json path defaults).Meets files (fun final => final = files)
      (fun result final => final = files ∧ result.1.defaults = defaults ∧
        result.1.path = path ∧ match result.2 with
          | none => stored json files path = .ok result.1.override
          | some _ => result.1.override = .empty) := by
  rw [loadSettings, FileProgram.meets_atomic fun _ => rfl]
  cases content : files path with
  | none => simp [Operation.effect, content, stored]
  | some raw =>
      cases decoded : decodeOverride json raw with
      | error failure => simp [Operation.effect, content, decoded]
      | ok override => simp [Operation.effect, content, stored, decoded]

theorem update_meets (files : Files) (settings : Settings) (patch : Override) (reset : Bool) :
    (settings.update json patch reset).Meets files
      (fun final => final settings.path = files settings.path ∨
        ∃ valid, patch.validated = .ok valid ∧
          Encodes json (settings.merged valid reset).value (final settings.path))
      (fun result final => match result.2 with
        | none => ∃ valid, patch.validated = .ok valid ∧
            result.1 = { settings with override := settings.merged valid reset } ∧
            Encodes json (settings.merged valid reset).value (final settings.path)
        | some _ => result.1 = settings ∧ final settings.path = files settings.path) := by
  rw [Settings.update]
  cases validated : patch.validated with
  | error text => simp
  | ok valid =>
      apply (commit_meets json files settings valid reset).weaken
      · intro final holds
        rcases holds with same | encodes
        · exact .inl same
        · exact .inr ⟨valid, rfl, encodes⟩
      · intro result final returned
        cases failure : result.2 with
        | none =>
            rw [failure] at returned
            exact ⟨valid, rfl, returned⟩
        | some error =>
            rw [failure] at returned
            exact returned

theorem update_ok {files final : Files} {settings after : Settings} {patch : Override}
    {reset : Bool} {outcomes : List (Outcome String String)}
    (updated : (settings.update json patch reset).exec outcomes files =
      (final, some (after, none))) :
    ∃ valid, patch.validated = .ok valid ∧
      after = { settings with override := settings.merged valid reset } ∧
      Encodes json (settings.merged valid reset).value (final settings.path) := by
  have meets := update_meets json files settings patch reset outcomes
  rw [updated] at meets
  exact meets

theorem update_error {files final : Files} {settings after : Settings} {patch : Override}
    {reset : Bool} {outcomes : List (Outcome String String)} {failure : UpdateError}
    (updated : (settings.update json patch reset).exec outcomes files =
      (final, some (after, some failure))) :
    after = settings ∧ final settings.path = files settings.path := by
  have meets := update_meets json files settings patch reset outcomes
  rw [updated] at meets
  exact meets

theorem update_succeeds (files : Files) (settings : Settings) {patch : Override}
    {valid : ValidOverride} (validated : patch.validated = .ok valid) (reset : Bool)
    {members : List (String × Json)}
    (written : (settings.merged valid reset).value.marshal = .ok members) :
    ∃ final, (settings.update json patch reset).exec [.succeed, .succeed, .succeed] files =
      (final, some ({ settings with override := settings.merged valid reset }, none)) := by
  rcases persist_succeeds json files settings.path written with ⟨final, persisted⟩
  refine ⟨final, ?_⟩
  simp only [Settings.update, validated, Settings.commit]
  rw [FileProgram.exec_bind_finish (fun
    | .error failure => (settings, some failure)
    | .ok _ => ({ settings with override := settings.merged valid reset }, none))
    (fun result => by cases result <;> rfl), persisted]
  rfl

theorem stored_congr {files final : Files} {path : String} (same : final path = files path) :
    stored json final path = stored json files path := by
  rw [stored, stored, same]

theorem Settings.effective_empty (defaults : Config) (path : String) :
    ({ defaults, override := .empty, path } : Settings).effective = defaults := rfl

theorem Settings.overridden_empty (defaults : Config) (path : String) :
    ({ defaults, override := .empty, path } : Settings).overridden = [] := rfl

private theorem reload_old_or_new {files final : Files} {settings : Settings} {patch : Override}
    {reset : Bool} {defaults : Config} {old : Settings}
    (accepted : (loadSettings json settings.path defaults).exec [.succeed] files =
      (files, some (old, none)))
    {outcomes : List (Outcome String String)} {returned : Option (Settings × Option UpdateError)}
    (executed : (settings.update json patch reset).exec outcomes files = (final, returned)) :
    ∃ loaded,
      (loadSettings json settings.path defaults).exec [.succeed] final =
        (final, some (loaded, none)) ∧
      (loaded = old ∨ ∃ valid, patch.validated = .ok valid ∧
        loaded = { old with override := settings.merged valid reset }) := by
  have loads (override : ValidOverride)
      (holds : stored json final settings.path = .ok override) :
      (loadSettings json settings.path defaults).exec [.succeed] final =
        (final, some ({ defaults, override, path := settings.path }, none)) := by
    rw [loadSettings_exec, holds]
  have meets := loadSettings_meets json files settings.path defaults [.succeed]
  rw [accepted] at meets
  rcases meets with ⟨-, sameDefaults, samePath, holds⟩
  have oldEqual : old = { defaults, override := old.override, path := settings.path } := by
    rw [← sameDefaults, ← samePath]
  have oldLoads (same : final settings.path = files settings.path) :=
    loads old.override ((stored_congr json same).trans holds)
  have newLoads (valid : ValidOverride) (encodes : Encodes json
      (settings.merged valid reset).value (final settings.path)) :=
    loads _ (stored_of_encodes json encodes)
  rw [oldEqual]
  cases returned with
  | none =>
      have stopped := update_meets json files settings patch reset outcomes
      rw [executed] at stopped
      rcases stopped with same | ⟨valid, validated, encodes⟩
      · exact ⟨_, oldLoads same, .inl rfl⟩
      · exact ⟨_, newLoads valid encodes, .inr ⟨valid, validated, rfl⟩⟩
  | some result =>
      rcases result with ⟨after, failure⟩
      cases failure with
      | some failure => exact ⟨_, oldLoads (update_error json executed).2, .inl rfl⟩
      | none =>
          rcases update_ok json executed with ⟨valid, validated, -, encodes⟩
          exact ⟨_, newLoads valid encodes, .inr ⟨valid, validated, rfl⟩⟩

private theorem load_whole {files final : Files} {path : String} {defaults : Config}
    {outcomes : List (Outcome String String)} {loaded : Settings}
    (executed : (loadSettings json path defaults).exec outcomes files =
      (final, some (loaded, none))) :
    loaded.defaults = defaults ∧
      ((files path = none ∧ loaded.override = .empty) ∨
        ∃ raw, files path = some raw ∧ decodeOverride json raw = .ok loaded.override) := by
  have meets := loadSettings_meets json files path defaults outcomes
  rw [executed] at meets
  rcases meets with ⟨-, sameDefaults, -, holds⟩
  refine ⟨sameDefaults, ?_⟩
  cases content : files path with
  | none =>
      rw [stored, content] at holds
      exact .inl ⟨rfl, (Except.ok.inj holds).symm⟩
  | some raw =>
      rw [stored, content] at holds
      exact .inr ⟨raw, rfl, holds⟩

private theorem load_none {files final : Files} {path : String} {defaults : Config}
    {outcomes : List (Outcome String String)} {loaded : Settings} {failure : LoadError}
    (executed : (loadSettings json path defaults).exec outcomes files =
      (final, some (loaded, some failure))) :
    loaded.effective = defaults ∧ loaded.overridden = [] := by
  have meets := loadSettings_meets json files path defaults outcomes
  rw [executed] at meets
  rcases meets with ⟨-, sameDefaults, samePath, holds⟩
  rcases loaded with ⟨loadedDefaults, override, loadedPath⟩
  subst sameDefaults samePath
  cases holds
  exact ⟨Settings.effective_empty _ _, Settings.overridden_empty _ _⟩

/-- An `Update` that fails changes nothing, one that the process stops in
leaves a file that loads as the old or the new override, and no part of a file
is ever applied on its own. -/
theorem Settings.update_all_or_nothing (files : Files) (settings : Settings)
    (patch : Override) (reset : Bool) :
    (∀ outcomes final after failure,
      (settings.update json patch reset).exec outcomes files =
        (final, some (after, some failure)) →
      after.effective = settings.effective ∧ after.overridden = settings.overridden ∧
        final settings.path = files settings.path) ∧
    (∀ defaults old,
      (loadSettings json settings.path defaults).exec [.succeed] files =
        (files, some (old, none)) →
      ∀ outcomes final returned,
        (settings.update json patch reset).exec outcomes files = (final, returned) →
        ∃ loaded,
          (loadSettings json settings.path defaults).exec [.succeed] final =
            (final, some (loaded, none)) ∧
          (loaded = old ∨ ∃ valid, patch.validated = .ok valid ∧
            loaded = { old with override := settings.merged valid reset })) ∧
    (∀ path defaults outcomes final loaded failure,
      (loadSettings json path defaults).exec outcomes files = (final, some (loaded, failure)) →
      match failure with
      | none => loaded.defaults = defaults ∧
          ((files path = none ∧ loaded.override = .empty) ∨
            ∃ raw, files path = some raw ∧ decodeOverride json raw = .ok loaded.override)
      | some _ => loaded.effective = defaults ∧ loaded.overridden = []) := by
  refine ⟨?_, ?_, ?_⟩
  · intro outcomes final after failure executed
    rcases update_error json executed with ⟨rfl, same⟩
    exact ⟨rfl, rfl, same⟩
  · intro defaults old accepted outcomes final returned executed
    exact reload_old_or_new json accepted executed
  · intro path defaults outcomes final loaded failure executed
    cases failure with
    | none => exact load_whole json executed
    | some failure => exact load_none json executed

end Files

/-- The process stops while the temporary file is being written. -/
theorem Settings.update_all_or_nothing_torn :
    ∃ (_ : UnicodeTables) (loaded : Settings),
      (loadSettings sampleJSON "alerts.json" .standard).exec [.succeed]
        (Function.update (fun _ => none) "alerts.json.tmp" (some "\x7b")) =
        (Function.update (fun _ => none) "alerts.json.tmp" (some "\x7b"), some (loaded, none)) := by
  let tables := UnicodeTables.latin
  have torn := (Settings.update_all_or_nothing sampleJSON (fun _ => none)
    { defaults := .standard, override := .empty, path := "alerts.json" }
    { enabled := some false } false).2.1 .standard _
    (loadSettings_exec sampleJSON (fun _ => none) "alerts.json" .standard)
    [.succeed, .stop false (some "\x7b")] _ _ rfl
  rcases torn with ⟨loaded, loads, -⟩
  exact ⟨tables, loaded, loads⟩

end StarLens.Alert
