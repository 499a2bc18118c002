import StarLens.Repository.Pool
import StarLens.Service.MainVerb

/-! # Second statements

The policy reads one word and leaves the text behind a semicolon to the driver,
which runs it when the pool's DSN turns `multiStatements` on. -/

namespace StarLens.Service

open Go Config Repository

/-- A semicolon that another token follows. -/
def secondStatement : List Token → Bool
  | .symbol ';' :: _ :: _ => true
  | _ :: rest => secondStatement rest
  | [] => false

def configuredPolicy (config : QueryConfig) : QueryPolicy :=
  newQueryPolicy {
    readOnly := config.readOnly
    maxRows := config.maxRows.toInt
    timeout := config.timeout }

private theorem readOnly_configuredPolicy (config : QueryConfig) :
    (configuredPolicy config).readOnly = config.readOnly := by
  simp only [configuredPolicy, newQueryPolicy]
  split <;> rfl

def twoStatements : String := "SELECT 1; DROP TABLE t"

theorem cleanStatement_twoStatements : cleanStatement twoStatements = twoStatements := by decide

/-- The pool has multiple statements off, or the text has no second one. -/
def RunsOne [UnicodeTables] (driver : Driver) (config : StarRocksConfig) (statement : String) :
    Prop :=
  (∃ db, newDB driver config = .ok db ∧ db.opened.multiStatements = false) ∨
    secondStatement (tokens statement.toList) = false

section Statements

variable [UnicodeTables]

theorem runsOne_iff {driver : Driver} (keeps : driver.KeepsMultiStatements)
    {getenv : String → String} {config : StarRocksConfig}
    (loaded : loadStarRocks driver getenv = .ok config) (statement : String) :
    RunsOne driver config statement ↔
      ¬AsksMultiStatements driver getenv ∨ secondStatement (tokens statement.toList) = false := by
  have single : (∃ db, newDB driver config = .ok db ∧ db.opened.multiStatements = false) ↔
      ¬AsksMultiStatements driver getenv := by
    rcases newDB_of_load loaded with ⟨db, opens, -⟩
    rw [← newDB_multiStatements keeps loaded opens, Bool.not_eq_true]
    constructor
    · intro off
      rcases off with ⟨db', opens', off⟩
      rwa [Except.ok.inj (opens.symm.trans opens')]
    · exact fun off => ⟨db, opens, off⟩
  rw [RunsOne, single]

private theorem firstKeyword_twoStatements : firstKeyword twoStatements ∈ readOnlyKeywords := by
  have keyword : firstKeyword twoStatements = "select" := by
    simp [firstKeyword, twoStatements, skipComments, Unicode.isSpace, isWordChar,
      Unicode.isLetter, Unicode.isDigit, List.isPrefixOf, lineComment, commentOpen,
      Strings.toLower, Unicode.toLower]
  simp [keyword, readOnlyKeywords]

private theorem secondStatement_twoStatements : secondStatement (tokens twoStatements.toList) := by
  simp [tokens, twoStatements, tokensFrom, skipBlank, Unicode.isSpace, isWordChar,
    Unicode.isLetter, Unicode.isDigit, List.isPrefixOf, lineComment, commentOpen, secondStatement]

/-- Only one statement of a forwarded text runs unless `STARROCKS_DSN` turns
`multiStatements` on; then a text with a second one behind an admitted keyword
runs both. -/
theorem forwards_one_statement_iff {driver : Driver} (keeps : driver.KeepsMultiStatements)
    {getenv : String → String} {config : Config} (loaded : load driver getenv = .ok config)
    (readOnly : config.query.readOnly) :
    (∀ request : QueryRequest,
      (∀ call, handed (configuredPolicy config.query) request = .ok call →
        RunsOne driver config.starRocks call.statement) ↔
        ¬AsksMultiStatements driver getenv ∨
          firstKeyword (cleanStatement request.sql) ∉ readOnlyKeywords ∨
          secondStatement (tokens (cleanStatement request.sql).toList) = false) ∧
    ((∀ request call, handed (configuredPolicy config.query) request = .ok call →
      RunsOne driver config.starRocks call.statement) ↔ ¬AsksMultiStatements driver getenv) := by
  have policy : (configuredPolicy config.query).readOnly :=
    (readOnly_configuredPolicy config.query).trans readOnly
  have each (request : QueryRequest) :
      (∀ call, handed (configuredPolicy config.query) request = .ok call →
        RunsOne driver config.starRocks call.statement) ↔
        ¬AsksMultiStatements driver getenv ∨
          firstKeyword (cleanStatement request.sql) ∉ readOnlyKeywords ∨
          secondStatement (tokens (cleanStatement request.sql).toList) = false := by
    rw [← handed_readOnly_iff _ policy request]
    constructor
    · intro runsOne
      by_cases forwarded : ∃ call, handed (configuredPolicy config.query) request = .ok call
      · rcases forwarded with ⟨call, ok⟩
        have runs := (runsOne_iff keeps (load_ok loaded).1 _).mp (runsOne call ok)
        rw [handed_statement ok] at runs
        exact runs.imp_right .inr
      · exact .inr (.inl forwarded)
    · intro condition call ok
      rw [runsOne_iff keeps (load_ok loaded).1, handed_statement ok]
      rcases condition with off | stopped | single
      · exact .inl off
      · exact absurd ⟨call, ok⟩ stopped
      · exact .inr single
  refine ⟨each, ?_⟩
  constructor
  · intro runsOne
    have condition := (each { sql := twoStatements, database := "", maxRows := 0 }).mp (runsOne _)
    rw [cleanStatement_twoStatements] at condition
    rcases condition with off | stopped | single
    · exact off
    · exact absurd firstKeyword_twoStatements stopped
    · exact absurd secondStatement_twoStatements (Bool.eq_false_iff.mp single)
  · exact fun off request => (each request).mpr (.inl off)

end Statements

/-! ## A driver for two DSNs -/

def localConfig (dbName : String) (timeout : Duration) (multiStatements : Bool) :
    DriverConfig Unit where
  user := "root"
  passwd := ""
  net := "tcp"
  addr := "127.0.0.1:9030"
  dbName
  params := none
  timeout
  parseTime := false
  multiStatements
  others := ()

def multiDSN : String := "root@tcp(127.0.0.1:9030)/?multiStatements=true"

def Driver.sample : Driver where
  Others := Unit
  newConfig := {
    user := "", passwd := "", net := "", addr := "", dbName := "", params := none
    timeout := 0, parseTime := false, multiStatements := false, others := () }
  parseDSN dsn :=
    if dsn = multiDSN then .ok (localConfig "" 0 true)
    else if dsn = multiDSN ++ "&timeout=5s&charset=utf8mb4" then
      .ok (localConfig "" 5000000000 true)
    else if dsn = "root@tcp(127.0.0.1:9030)/information_schema?timeout=5s&charset=utf8mb4" then
      .ok (localConfig "information_schema" 5000000000 false)
    else .error "invalid DSN: missing the slash separating the database name"
  formatDSN config :=
    if config = (localConfig "" 0 true).completed 5000000000 then
      multiDSN ++ "&timeout=5s&charset=utf8mb4"
    else if config = (localConfig "information_schema" 0 false).completed 5000000000 then
      "root@tcp(127.0.0.1:9030)/information_schema?timeout=5s&charset=utf8mb4"
    else ""

theorem keepsMultiStatements_sample : Driver.sample.KeepsMultiStatements where
  newConfig_off := rfl
  newConfig_param := rfl
  parseDSN_param := by
    intro dsn config parsed
    simp only [Driver.sample] at parsed
    split at parsed
    · rw [← Except.ok.inj parsed]
      rfl
    · split at parsed
      · rw [← Except.ok.inj parsed]
        rfl
      · split at parsed
        · rw [← Except.ok.inj parsed]
          rfl
        · simp at parsed
  formatDSN_kept := by
    intro config parsed apart read
    by_cases multi : config = (localConfig "" 0 true).completed 5000000000
    · have dsn : Driver.sample.formatDSN config = multiDSN ++ "&timeout=5s&charset=utf8mb4" :=
        if_pos multi
      have known : Driver.sample.parseDSN (multiDSN ++ "&timeout=5s&charset=utf8mb4") =
          .ok (localConfig "" 5000000000 true) := rfl
      rw [dsn, known] at read
      rw [← Except.ok.inj read, multi]
      rfl
    · by_cases plain : config = (localConfig "information_schema" 0 false).completed 5000000000
      · have dsn : Driver.sample.formatDSN config =
            "root@tcp(127.0.0.1:9030)/information_schema?timeout=5s&charset=utf8mb4" :=
          (if_neg multi).trans (if_pos plain)
        have known : Driver.sample.parseDSN
            "root@tcp(127.0.0.1:9030)/information_schema?timeout=5s&charset=utf8mb4" =
            .ok (localConfig "information_schema" 5000000000 false) := rfl
        rw [dsn, known] at read
        rw [← Except.ok.inj read, plain]
        rfl
      · have dsn : Driver.sample.formatDSN config = "" := (if_neg multi).trans (if_neg plain)
        have unknown : Driver.sample.parseDSN "" =
            .error "invalid DSN: missing the slash separating the database name" := rfl
        rw [dsn, unknown] at read
        simp at read

def onlyDSN (dsn key : String) : String := if key = "STARROCKS_DSN" then dsn else ""

theorem onlyDSN_unset {dsn key : String} (other : key ≠ "STARROCKS_DSN") :
    onlyDSN dsn key = "" :=
  if_neg other

private theorem load_onlyDSN [UnicodeTables] {driver : Driver} {dsn : String}
    {requested parsed : DriverConfig driver.Others}
    (ok : requestedConfig driver (onlyDSN dsn) = .ok requested) (addressed : requested.addr ≠ "")
    (read : driver.parseDSN (driver.formatDSN (requested.completed 5000000000)) = .ok parsed) :
    ∃ config, load driver (onlyDSN dsn) = .ok config ∧ config.query.readOnly := by
  have resolved : resolveDSN driver (onlyDSN dsn) 5000000000 =
      .ok (driver.formatDSN (requested.completed 5000000000)) :=
    resolveDSN_ok_iff.mpr ⟨requested, ok, addressed, rfl⟩
  have loadedStarRocks : ∃ starRocks, loadStarRocks driver (onlyDSN dsn) = .ok starRocks := by
    simp [loadStarRocks, envInt, envDuration, envParsed_unset, onlyDSN_unset, resolved, read,
      Except.mapError, bind, Except.bind, pure, Except.pure]
  have loadedAlert : ∃ alert, loadAlert (onlyDSN dsn) = .ok alert := by
    simp [loadAlert, envBool, envString, envFloat, envInt64, envDuration, envParsed_unset,
      onlyDSN_unset]
  have readOnly : (loadQuery (onlyDSN dsn)).readOnly = true := by
    simp [loadQuery, envBool, envParsed_unset, onlyDSN_unset]
  rcases loadedStarRocks with ⟨starRocks, loadedStarRocks⟩
  rcases loadedAlert with ⟨alert, loadedAlert⟩
  rw [load, loadedStarRocks, loadedAlert]
  exact ⟨_, rfl, readOnly⟩

theorem load_unset [UnicodeTables] :
    ∃ config, load Driver.sample (onlyDSN "") = .ok config ∧ config.query.readOnly := by
  have notSet : Strings.trimSpace (onlyDSN "" "STARROCKS_DSN") = "" := by decide
  have requested : requestedConfig Driver.sample (onlyDSN "") =
      .ok (localConfig "information_schema" 0 false) := by
    simp only [requestedConfig, notSet, envString]
    rw [envParsed_unset _ _ (onlyDSN_unset (by simp)),
      envParsed_unset _ _ (onlyDSN_unset (by simp)),
      envParsed_unset _ _ (onlyDSN_unset (by simp)), envParsed_unset _ _ (onlyDSN_unset (by simp))]
    rfl
  exact load_onlyDSN requested (by simp [localConfig]) rfl

theorem forwards_one_statement_iff_unset :
    ∃ (_ : UnicodeTables) (config : Config), load Driver.sample (onlyDSN "") = .ok config ∧
      ∀ request call, handed (configuredPolicy config.query) request = .ok call →
        RunsOne Driver.sample config.starRocks call.statement := by
  let tables := UnicodeTables.latin
  have notSet : Strings.trimSpace (onlyDSN "" "STARROCKS_DSN") = "" := by decide
  rcases load_unset with ⟨config, loaded, readOnly⟩
  refine ⟨tables, config, loaded, ?_⟩
  apply (forwards_one_statement_iff keepsMultiStatements_sample loaded readOnly).2.mpr
  exact fun asks => asks.1 notSet

/-- A second statement runs where `STARROCKS_DSN` turns `multiStatements` on. -/
theorem forwards_second_statement :
    ∃ (_ : UnicodeTables), ¬∀ (driver : Driver) (getenv : String → String) (config : Config),
      driver.KeepsMultiStatements → load driver getenv = .ok config → config.query.readOnly →
      ∀ request call, handed (configuredPolicy config.query) request = .ok call →
        RunsOne driver config.starRocks call.statement := by
  let tables := UnicodeTables.latin
  refine ⟨tables, fun runsOne => ?_⟩
  have given : Strings.trimSpace (onlyDSN multiDSN "STARROCKS_DSN") = multiDSN := by decide
  have read : Driver.sample.parseDSN multiDSN = .ok (localConfig "" 0 true) := rfl
  have requested : requestedConfig Driver.sample (onlyDSN multiDSN) =
      .ok (localConfig "" 0 true) := by
    rw [requestedConfig, given, read]
    rfl
  rcases load_onlyDSN requested (by simp [localConfig]) rfl with ⟨config, loaded, readOnly⟩
  have asks : AsksMultiStatements Driver.sample (onlyDSN multiDSN) := by
    rw [AsksMultiStatements, given]
    exact ⟨by decide, _, read, rfl⟩
  have policy := (readOnly_configuredPolicy config.query).trans readOnly
  let request : QueryRequest := { sql := twoStatements, database := "", maxRows := 0 }
  rcases (handed_readOnly_iff _ policy request).mpr
    (cleanStatement_twoStatements ▸ firstKeyword_twoStatements) with ⟨call, ok⟩
  have one := runsOne _ _ config keepsMultiStatements_sample loaded readOnly request call ok
  rw [runsOne_iff keepsMultiStatements_sample (load_ok loaded).1, handed_statement ok,
    cleanStatement_twoStatements] at one
  rcases one with off | single
  · exact off asks
  · exact absurd secondStatement_twoStatements (Bool.eq_false_iff.mp single)

end StarLens.Service
