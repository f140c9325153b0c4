import ArchiveCatalog.Config

namespace ArchiveCatalog

abbrev Environment := List (String × String)

namespace Environment

def get? (env : Environment) (name : String) : Option String := env.lookup name

/-- The number below `bound` in a variable, or a default. -/
def natural (env : Environment) (name : String) (bound fallback : Nat) : Nat :=
  ((env.get? name).bind (Text.unsignedSetting? bound)).getD fallback

end Environment

def RetryConfig.ofEnvironment (env : Environment) : RetryConfig where
  maxRetries := UInt32.ofNat (env.natural "VELLUM_DB_MAX_RETRIES" UInt32.size 10)
  retryDelay :=
    Duration.ofMillis (UInt64.ofNat (env.natural "VELLUM_DB_RETRY_DELAY_MS" UInt64.size 1000))

def LocalConfig.ofEnvironment (env : Environment) : LocalConfig where
  path := (env.get? "VELLUM_LOCAL_INDEX_PATH").getD "./vellum-index"
  maxSizeMb := UInt64.ofNat (env.natural "VELLUM_LOCAL_INDEX_MAX_SIZE_MB" UInt64.size 1024)

def SqlConfig.ofEnvironment (env : Environment) : SqlConfig where
  host := (env.get? "VELLUM_DB_HOST").getD SqlConfig.default.host
  port := UInt16.ofNat (env.natural "VELLUM_DB_PORT" UInt16.size SqlConfig.default.port.toNat)
  dbname := (env.get? "VELLUM_DB_NAME").getD SqlConfig.default.dbname
  user := (env.get? "VELLUM_DB_USER").getD SqlConfig.default.user
  password := (env.get? "VELLUM_DB_PASSWORD").getD ""
  maxPoolSize := UInt64.ofNat
    (env.natural "VELLUM_DB_POOL_SIZE" UInt64.size SqlConfig.default.maxPoolSize.toNat)
  connectTimeout :=
    Duration.ofSecs (UInt64.ofNat (env.natural "VELLUM_DB_TIMEOUT" UInt64.size 30))
  searchPath := env.get? "VELLUM_DB_SEARCH_PATH"
  retry := RetryConfig.ofEnvironment env

/-- The settings that the selected backend reads; an unknown backend is refused. -/
def CatalogConfig.ofEnvironment (env : Environment) : Except ConfigError CatalogConfig := do
  let backend ← match env.get? "VELLUM_INDEX_BACKEND" with
    | some text => BackendKind.ofText text
    | none => pure .volatile
  let config := match backend with
    | .volatile => volatile
    | .local => ofLocal (LocalConfig.ofEnvironment env)
    | .sql => ofSql (SqlConfig.ofEnvironment env)
  return { config with
    readyTimeout := Duration.ofSecs
      (UInt64.ofNat (env.natural "VELLUM_INDEX_READY_TIMEOUT_SECS" UInt64.size 60)) }

end ArchiveCatalog
