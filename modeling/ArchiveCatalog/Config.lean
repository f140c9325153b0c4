import ArchiveCatalog.Error
import ArchiveCatalog.Json.Printer
import ArchiveCatalog.Json.Reader
import ArchiveCatalog.Json.Record

namespace ArchiveCatalog

/-- How often and at what distance a failed attempt is repeated. -/
structure RetryConfig where
  /-- Retries after the first attempt. -/
  maxRetries : UInt32
  retryDelay : Duration
  deriving DecidableEq

def RetryConfig.default : RetryConfig := ⟨10, Duration.ofSecs 1⟩

def RetryConfig.never : RetryConfig := ⟨0, Duration.ofSecs 0⟩

structure LocalConfig where
  /-- The directory that holds the store. -/
  path : String
  /-- An upper bound on the size of the store in megabytes. -/
  maxSizeMb : UInt64
  deriving DecidableEq

def LocalConfig.ofPath (path : String) : LocalConfig := ⟨path, 1024⟩

def LocalConfig.bytes (config : LocalConfig) : Nat := config.maxSizeMb.toNat * 1048576

def LocalConfig.validate (config : LocalConfig) : Except ConfigError Unit := do
  if config.path.isEmpty then throw (.missingRequired "local.path")
  if config.maxSizeMb = 0 then
    throw (.invalidValue "local.max_size_mb" (numeral config.maxSizeMb.toNat)
      "max_size_mb must be positive")

structure SqlConfig where
  host : String
  port : UInt16
  dbname : String
  user : String
  password : String
  maxPoolSize : UInt64
  /-- How long to wait for a connection. -/
  connectTimeout : Duration
  /-- The schema that comes first on the search path. -/
  searchPath : Option String
  retry : RetryConfig
  deriving DecidableEq

def SqlConfig.default : SqlConfig where
  host := "localhost"
  port := 5432
  dbname := "vellum"
  user := "postgres"
  password := ""
  maxPoolSize := 16
  connectTimeout := Duration.ofSecs 30
  searchPath := none
  retry := RetryConfig.default

/-- Schema names go into statements as they are, so they must be plain identifiers. -/
def isSchemaName (name : String) : Bool :=
  !name.isEmpty && name.toList.all fun c => c.isAlphanum || c == '_'

def SqlConfig.validate (config : SqlConfig) : Except ConfigError Unit := do
  if config.host.isEmpty then throw (.missingRequired "sql.host")
  if config.dbname.isEmpty then throw (.missingRequired "sql.dbname")
  if config.maxPoolSize = 0 then
    throw (.invalidValue "sql.max_pool_size" (numeral config.maxPoolSize.toNat)
      "pool size must be positive")
  if config.connectTimeout.isZero then
    throw (.invalidValue "sql.connect_timeout" config.connectTimeout.text
      "connect_timeout must be positive")
  match config.searchPath with
  | none => return
  | some schema =>
    if isSchemaName schema then return
    else throw (.invalidValue "sql.search_path" schema
      "schema name must be a non-empty identifier of [A-Za-z0-9_]")

inductive BackendKind where
  | volatile
  | local
  | sql
  deriving DecidableEq

namespace BackendKind

def name : BackendKind → String
  | .volatile => "volatile"
  | .local => "local"
  | .sql => "sql"

def ofName? (name : String) : Option BackendKind :=
  if name = "volatile" then some .volatile
  else if name = "local" then some .local
  else if name = "sql" then some .sql
  else none

/-- Read a name in any case. -/
def ofText (text : String) : Except ConfigError BackendKind :=
  let lowered := String.ofList (text.toList.map Char.toLower)
  match ofName? lowered with
  | some kind => .ok kind
  | none => .error (.invalidValue "backend" lowered "expected volatile, local or sql")

end BackendKind

structure CatalogConfig where
  backend : BackendKind
  /-- Required where the backend is local. -/
  localConfig : Option LocalConfig
  /-- Required where the backend is a database. -/
  sqlConfig : Option SqlConfig
  /-- How long callers wait for the catalog to become ready. -/
  readyTimeout : Duration
  deriving DecidableEq

namespace CatalogConfig

def volatile : CatalogConfig := ⟨.volatile, none, none, Duration.ofSecs 60⟩

def ofLocal (config : LocalConfig) : CatalogConfig :=
  ⟨.local, some config, none, Duration.ofSecs 60⟩

def ofSql (config : SqlConfig) : CatalogConfig := ⟨.sql, none, some config, Duration.ofSecs 60⟩

/-- Accept settings whose selected backend is configured and that leave time to become ready. -/
def validate (config : CatalogConfig) : Except ConfigError Unit := do
  match config.backend with
  | .volatile => pure ()
  | .local =>
    match config.localConfig with
    | some settings => settings.validate
    | none => throw (.missingRequired "local")
  | .sql =>
    match config.sqlConfig with
    | some settings => settings.validate
    | none => throw (.missingRequired "sql")
  if config.readyTimeout.isZero then
    throw (.invalidValue "ready_timeout" config.readyTimeout.text "ready_timeout must be positive")

end CatalogConfig

namespace Duration

def toJson (duration : Duration) : Json :=
  .record [("secs", .ofNat duration.secs.toNat), ("nanos", .ofNat duration.nanos.val)]

/-- Read seconds and nanoseconds; no other field is accepted. -/
def ofJson? (value : Json) : Option Duration := do
  let [secs, nanos] ← value.onlyFields? ["secs", "nanos"] | none
  carrying? (← Json.required? (Json.naturalBelow? UInt64.size) secs)
    (← Json.required? (Json.naturalBelow? UInt32.size) nanos)

end Duration

namespace RetryConfig

def toJson (config : RetryConfig) : Json :=
  .record [("max_retries", .ofNat config.maxRetries.toNat),
    ("retry_delay", config.retryDelay.toJson)]

def ofJson? (value : Json) : Option RetryConfig := do
  let [maxRetries, retryDelay] ← value.fields? ["max_retries", "retry_delay"] | none
  return { maxRetries := UInt32.ofNat (← Json.required? (Json.naturalBelow? UInt32.size) maxRetries)
           retryDelay := ← Json.required? Duration.ofJson? retryDelay }

end RetryConfig

namespace LocalConfig

def toJson (config : LocalConfig) : Json :=
  .record [("path", .ofString config.path), ("max_size_mb", .ofNat config.maxSizeMb.toNat)]

def ofJson? (value : Json) : Option LocalConfig := do
  let [path, maxSizeMb] ← value.fields? ["path", "max_size_mb"] | none
  return { path := ← Json.required? Json.string? path
           maxSizeMb := UInt64.ofNat (← Json.required? (Json.naturalBelow? UInt64.size) maxSizeMb) }

end LocalConfig

namespace SqlConfig

def toJson (config : SqlConfig) : Json :=
  .record [("host", .ofString config.host), ("port", .ofNat config.port.toNat),
    ("dbname", .ofString config.dbname), ("user", .ofString config.user),
    ("password", .ofString config.password), ("max_pool_size", .ofNat config.maxPoolSize.toNat),
    ("connect_timeout", config.connectTimeout.toJson),
    ("search_path", .ofOption (config.searchPath.map .ofString)), ("retry", config.retry.toJson)]

def ofJson? (value : Json) : Option SqlConfig := do
  let [host, port, dbname, user, password, maxPoolSize, connectTimeout, searchPath, retry] ←
    value.fields? ["host", "port", "dbname", "user", "password", "max_pool_size",
      "connect_timeout", "search_path", "retry"] | none
  return { host := ← Json.required? Json.string? host
           port := UInt16.ofNat (← Json.required? (Json.naturalBelow? UInt16.size) port)
           dbname := ← Json.required? Json.string? dbname
           user := ← Json.required? Json.string? user
           password := ← Json.required? Json.string? password
           maxPoolSize := UInt64.ofNat
             (← Json.required? (Json.naturalBelow? UInt64.size) maxPoolSize)
           connectTimeout := ← Json.required? Duration.ofJson? connectTimeout
           searchPath := ← Json.optional? Json.string? searchPath
           retry := ← Json.required? RetryConfig.ofJson? retry }

end SqlConfig

namespace BackendKind

def toJson (kind : BackendKind) : Json := .ofString kind.name

def ofJson? (value : Json) : Option BackendKind := value.choice?.bind ofName?

end BackendKind

namespace CatalogConfig

def toJson (config : CatalogConfig) : Json :=
  .record [("backend", config.backend.toJson),
    ("local", .ofOption (config.localConfig.map LocalConfig.toJson)),
    ("sql", .ofOption (config.sqlConfig.map SqlConfig.toJson)),
    ("ready_timeout", config.readyTimeout.toJson)]

def ofJson? (value : Json) : Option CatalogConfig := do
  let [backend, localConfig, sqlConfig, readyTimeout] ←
    value.fields? ["backend", "local", "sql", "ready_timeout"] | none
  return { backend := ← Json.required? BackendKind.ofJson? backend
           localConfig := ← Json.optional? LocalConfig.ofJson? localConfig
           sqlConfig := ← Json.optional? SqlConfig.ofJson? sqlConfig
           readyTimeout := ← Json.required? Duration.ofJson? readyTimeout }

end CatalogConfig

end ArchiveCatalog
