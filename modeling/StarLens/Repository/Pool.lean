import StarLens.Config.Load

/-! # The connection pool

`NewDB` opens the pool with the DSN that was loaded; the driver reads the DSN
when the pool is opened. -/

namespace StarLens.Repository

open Go Config

structure DB (driver : Driver) where
  opened : DriverConfig driver.Others
  maxOpenConns : Int64
  maxIdleConns : Int64
  connMaxLifetime : Duration
  connMaxIdleTime : Duration
  addr : String
  queryTimeout : Duration

def newDB (driver : Driver) (config : StarRocksConfig) : Except String (DB driver) :=
  match driver.parseDSN config.dsn with
  | .error failure => .error ("repository: open StarRocks pool: " ++ failure)
  | .ok opened =>
      .ok {
        opened
        maxOpenConns := config.maxOpenConns
        maxIdleConns := config.maxIdleConns
        connMaxLifetime := config.connMaxLifetime
        connMaxIdleTime := config.connMaxLifetime / 2
        addr := config.addr
        queryTimeout := config.queryTimeout }

theorem newDB_addr {driver : Driver} {config : StarRocksConfig} {db : DB driver}
    (opens : newDB driver config = .ok db) : db.addr = config.addr := by
  rw [newDB] at opens
  split at opens
  · cases opens
  · cases opens
    rfl

/-- A configuration that loads opens a pool, at the address that is logged. -/
theorem newDB_of_load {driver : Driver} {getenv : String → String} {config : StarRocksConfig}
    (loaded : loadStarRocks driver getenv = .ok config) :
    ∃ db, newDB driver config = .ok db ∧ db.opened.addr = db.addr ∧
      db.maxIdleConns ≤ db.maxOpenConns := by
  rcases loadStarRocks_ok loaded with ⟨⟨-, idle, -⟩, -, -, -, -, opened, read, addr, -⟩
  rw [newDB, read]
  exact ⟨_, rfl, addr.symm, idle⟩

theorem newDB_multiStatements {driver : Driver} (keeps : driver.KeepsMultiStatements)
    {getenv : String → String} {config : StarRocksConfig} {db : DB driver}
    (loaded : loadStarRocks driver getenv = .ok config) (opens : newDB driver config = .ok db) :
    db.opened.multiStatements ↔ AsksMultiStatements driver getenv := by
  rw [newDB] at opens
  split at opens
  case h_1 => simp at opens
  case h_2 opened read =>
      rw [← Except.ok.inj opens]
      exact loadStarRocks_multiStatements keeps loaded read

end StarLens.Repository
