import StarLens.Config.Alert

/-! # The configuration from the environment

`Load`, with the DSN it resolves for the pool. The driver's package is not part
of the repository and is a parameter. -/

namespace StarLens.Config

open Go

def envInt : (String → String) → String → Int64 → Int64 :=
  envParsed fun raw => (Strconv.parseInt raw).filter fun value => 0 < value

/-- The parts between commas; a list without one has the fallback. -/
def envStringSlice : (String → String) → String → List String → List String :=
  envParsed fun raw =>
    let parts := (raw.toList.splitOn ',').map fun part => Strings.trimSpace (String.ofList part)
    let out := parts.filter (· != "")
    if out.isEmpty then none else some out

/-! ## The driver -/

structure DriverConfig (Others : Type) where
  user : String
  passwd : String
  net : String
  addr : String
  dbName : String
  params : Option (List (String × String))
  timeout : Duration
  parseTime : Bool
  multiStatements : Bool
  others : Others
deriving DecidableEq

structure Driver where
  Others : Type
  newConfig : DriverConfig Others
  parseDSN : String → Except String (DriverConfig Others)
  formatDSN : DriverConfig Others → String

def DriverConfig.hasParam {Others : Type} (config : DriverConfig Others) (name : String) : Bool :=
  (config.params.getD []).any fun param => param.1 == name

/-- `multiStatements` is off by default, has a field of its own, and a DSN
carries that field. -/
structure Driver.KeepsMultiStatements (driver : Driver) : Prop where
  newConfig_off : driver.newConfig.multiStatements = false
  newConfig_param : driver.newConfig.hasParam "multiStatements" = false
  parseDSN_param : ∀ dsn config, driver.parseDSN dsn = .ok config →
    config.hasParam "multiStatements" = false
  formatDSN_kept : ∀ config parsed, config.hasParam "multiStatements" = false →
    driver.parseDSN (driver.formatDSN config) = .ok parsed →
      parsed.multiStatements = config.multiStatements

/-! ## StarRocks -/

structure StarRocksConfig where
  dsn : String
  addr : String
  database : String
  maxOpenConns : Int64
  maxIdleConns : Int64
  connMaxLifetime : Duration
  queryTimeout : Duration
  dialTimeout : Duration
deriving DecidableEq

section StarRocks

variable (driver : Driver) (getenv : String → String)

/-- `STARROCKS_DSN` parsed, or a configuration assembled from the parts. -/
def requestedConfig : Except String (DriverConfig driver.Others) :=
  let raw := Strings.trimSpace (getenv "STARROCKS_DSN")
  if raw != "" then
    (driver.parseDSN raw).mapError ("config: STARROCKS_DSN is not a valid MySQL DSN " ++
      "(want user:pass@tcp(host:9030)/db): " ++ ·)
  else
    .ok { driver.newConfig with
      net := "tcp"
      user := envString getenv "STARROCKS_USER" "root"
      passwd := getenv "STARROCKS_PASSWORD"
      addr := envString getenv "STARROCKS_HOST" "127.0.0.1" ++ ":" ++
        envString getenv "STARROCKS_PORT" "9030"
      dbName := envString getenv "STARROCKS_DATABASE" "information_schema" }

def DriverConfig.completed {Others : Type} (config : DriverConfig Others)
    (dialTimeout : Duration) : DriverConfig Others :=
  { config with
    timeout := if config.timeout = 0 then dialTimeout else config.timeout
    params :=
      let params := config.params.getD []
      if config.hasParam "charset" then some params
      else some (params ++ [("charset", "utf8mb4")])
    parseTime := false }

def resolveDSN (dialTimeout : Duration) : Except String String := do
  let config ← requestedConfig driver getenv
  if config.addr = "" then
    throw "config: StarRocks address is empty; set STARROCKS_DSN or STARROCKS_HOST"
  return driver.formatDSN (config.completed dialTimeout)

def loadStarRocks : Except String StarRocksConfig := do
  let maxOpen := envInt getenv "STARROCKS_MAX_OPEN_CONNS" 25
  let maxIdle := envInt getenv "STARROCKS_MAX_IDLE_CONNS" 10
  let lifetime := envDuration getenv "STARROCKS_CONN_MAX_LIFETIME" 1800000000000
  let queryTimeout := envDuration getenv "STARROCKS_QUERY_TIMEOUT" 10000000000
  let dialTimeout := envDuration getenv "STARROCKS_DIAL_TIMEOUT" 5000000000
  if maxOpen < maxIdle then
    throw ("config: STARROCKS_MAX_IDLE_CONNS (" ++ toString maxIdle.toInt ++
      ") must not exceed STARROCKS_MAX_OPEN_CONNS (" ++ toString maxOpen.toInt ++ ")")
  let dsn ← resolveDSN driver getenv dialTimeout
  let parsed ← (driver.parseDSN dsn).mapError ("config: invalid StarRocks DSN: " ++ ·)
  return {
    dsn
    addr := parsed.addr
    database := parsed.dbName
    maxOpenConns := maxOpen
    maxIdleConns := maxIdle
    connMaxLifetime := lifetime
    queryTimeout
    dialTimeout }

end StarRocks

/-! ## All of it -/

structure ServerConfig where
  port : String
  allowedOrigins : List String
  ginMode : String
deriving DecidableEq

structure QueryConfig where
  readOnly : Bool
  maxRows : Int64
  timeout : Duration
deriving DecidableEq

set_option linter.dupNamespace false in
structure Config where
  starRocks : StarRocksConfig
  server : ServerConfig
  alert : AlertConfig
  query : QueryConfig
deriving DecidableEq

def loadServer (getenv : String → String) : ServerConfig where
  port := envString getenv "SERVER_PORT" "8080"
  allowedOrigins := envStringSlice getenv "CORS_ALLOWED_ORIGINS"
    ["http://localhost:5173", "http://127.0.0.1:5173"]
  ginMode := envString getenv "GIN_MODE" "debug"

def loadQuery (getenv : String → String) : QueryConfig where
  readOnly := envBool getenv "QUERY_READ_ONLY" true
  maxRows := envInt getenv "QUERY_MAX_ROWS" 1000
  timeout := envDuration getenv "QUERY_TIMEOUT" 60000000000

def load [UnicodeTables] (driver : Driver) (getenv : String → String) : Except String Config := do
  let starRocks ← loadStarRocks driver getenv
  let alert ← loadAlert getenv
  return { starRocks, server := loadServer getenv, alert, query := loadQuery getenv }

/-! ## What a configuration that loads says -/

theorem bind_ok_iff {Error First Second : Type} {first : Except Error First}
    {next : First → Except Error Second} {second : Second} :
    first >>= next = .ok second ↔ ∃ value, first = .ok value ∧ next value = .ok second := by
  cases first with
  | error failure => simp [bind, Except.bind]
  | ok value => simp [bind, Except.bind]

private theorem mapError_ok_iff {Error Text Value : Type} {read : Except Error Value}
    {explain : Error → Text} {value : Value} :
    read.mapError explain = .ok value ↔ read = .ok value := by
  cases read with
  | error failure => simp [Except.mapError]
  | ok value => simp [Except.mapError]

theorem envInt_pos (getenv : String → String) (key : String) {fallback : Int64}
    (positive : 0 < fallback) : 0 < envInt getenv key fallback := by
  refine envParsed_keeps (0 < ·) (fun raw value parsed => ?_) getenv key positive
  simpa using (Option.filter_eq_some_iff.mp parsed).2

theorem resolveDSN_ok_iff {driver : Driver} {getenv : String → String} {dialTimeout : Duration}
    {dsn : String} :
    resolveDSN driver getenv dialTimeout = .ok dsn ↔
      ∃ requested, requestedConfig driver getenv = .ok requested ∧ requested.addr ≠ "" ∧
        dsn = driver.formatDSN (requested.completed dialTimeout) := by
  rw [resolveDSN, bind_ok_iff]
  apply exists_congr
  intro requested
  apply and_congr_right
  intro _
  by_cases addressed : requested.addr = ""
  · simp [addressed, throw, throwThe, MonadExceptOf.throw, bind, Except.bind]
  · simp [addressed, pure, Except.pure, eq_comm]

theorem loadStarRocks_ok {driver : Driver} {getenv : String → String} {config : StarRocksConfig}
    (loaded : loadStarRocks driver getenv = .ok config) :
    (0 < config.maxIdleConns ∧ config.maxIdleConns ≤ config.maxOpenConns ∧
      0 < config.connMaxLifetime ∧ 0 < config.queryTimeout ∧ 0 < config.dialTimeout) ∧
      ∃ requested, requestedConfig driver getenv = .ok requested ∧ requested.addr ≠ "" ∧
        config.dsn = driver.formatDSN (requested.completed config.dialTimeout) ∧
        ∃ parsed, driver.parseDSN config.dsn = .ok parsed ∧
          config.addr = parsed.addr ∧ config.database = parsed.dbName := by
  simp only [loadStarRocks] at loaded
  split at loaded
  case isTrue => cases loaded
  case isFalse within =>
      rcases bind_ok_iff.mp loaded with ⟨dsn, resolved, loaded⟩
      rcases bind_ok_iff.mp loaded with ⟨parsed, read, loaded⟩
      rcases resolveDSN_ok_iff.mp resolved with ⟨requested, ok, addressed, formatted⟩
      have same := Except.ok.inj loaded
      subst same
      dsimp only
      constructor
      · exact ⟨envInt_pos _ _ (by decide), Int64.not_lt.mp within, envDuration_pos _ _ (by decide),
          envDuration_pos _ _ (by decide), envDuration_pos _ _ (by decide)⟩
      · exact ⟨requested, ok, addressed, formatted, parsed, mapError_ok_iff.mp read, rfl, rfl⟩

theorem load_ok [UnicodeTables] {driver : Driver} {getenv : String → String} {config : Config}
    (loaded : load driver getenv = .ok config) :
    loadStarRocks driver getenv = .ok config.starRocks ∧ loadAlert getenv = .ok config.alert ∧
      config.server = loadServer getenv ∧ config.query = loadQuery getenv := by
  rw [load] at loaded
  rcases bind_ok_iff.mp loaded with ⟨starRocks, loadedStarRocks, loaded⟩
  rcases bind_ok_iff.mp loaded with ⟨alert, loadedAlert, loaded⟩
  have same := Except.ok.inj loaded
  subst same
  exact ⟨loadedStarRocks, loadedAlert, rfl, rfl⟩

def AsksMultiStatements (driver : Driver) (getenv : String → String) : Prop :=
  Strings.trimSpace (getenv "STARROCKS_DSN") ≠ "" ∧
    ∃ parsed, driver.parseDSN (Strings.trimSpace (getenv "STARROCKS_DSN")) = .ok parsed ∧
      parsed.multiStatements

theorem DriverConfig.hasParam_completed {Others : Type} (config : DriverConfig Others)
    (dialTimeout : Duration) (name : String) (other : name ≠ "charset") :
    (config.completed dialTimeout).hasParam name = config.hasParam name := by
  have params : (config.completed dialTimeout).params =
      if config.hasParam "charset" then some (config.params.getD [])
      else some (config.params.getD [] ++ [("charset", "utf8mb4")]) := rfl
  rw [hasParam, params]
  split
  · rfl
  · simp [hasParam, other.symm]

section Requested

variable {driver : Driver} (keeps : driver.KeepsMultiStatements) {getenv : String → String}
include keeps

private theorem requestedConfig_multiStatements {requested : DriverConfig driver.Others}
    (ok : requestedConfig driver getenv = .ok requested) :
    requested.hasParam "multiStatements" = false ∧
      (requested.multiStatements ↔ AsksMultiStatements driver getenv) := by
  simp only [requestedConfig] at ok
  split at ok
  case isTrue isSet =>
      have given : Strings.trimSpace (getenv "STARROCKS_DSN") ≠ "" := by simpa using isSet
      have read := mapError_ok_iff.mp ok
      refine ⟨keeps.parseDSN_param _ requested read,
        fun asked => ⟨given, requested, read, asked⟩, ?_⟩
      intro asks
      rcases asks with ⟨-, parsed, read', asked⟩
      rwa [Except.ok.inj (read.symm.trans read')]
  case isFalse notSet =>
      have same := Except.ok.inj ok
      subst same
      refine ⟨by simpa only [DriverConfig.hasParam] using keeps.newConfig_param, ?_⟩
      simp only [keeps.newConfig_off, Bool.false_eq_true, false_iff]
      exact fun asks => asks.1 (by simpa using notSet)

/-- The pool's DSN turns multiple statements on exactly if `STARROCKS_DSN`
does. -/
theorem loadStarRocks_multiStatements {config : StarRocksConfig}
    {opened : DriverConfig driver.Others} (loaded : loadStarRocks driver getenv = .ok config)
    (parsed : driver.parseDSN config.dsn = .ok opened) :
    opened.multiStatements ↔ AsksMultiStatements driver getenv := by
  rcases loadStarRocks_ok loaded with ⟨-, requested, ok, -, dsn, -⟩
  rcases requestedConfig_multiStatements keeps ok with ⟨noParam, asks⟩
  have apart := requested.hasParam_completed config.dialTimeout "multiStatements" (by simp)
  rw [dsn] at parsed
  rw [keeps.formatDSN_kept _ opened (apart.trans noParam) parsed]
  exact asks

end Requested

end StarLens.Config
