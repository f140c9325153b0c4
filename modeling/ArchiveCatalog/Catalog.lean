import ArchiveCatalog.Lifecycle.Waiters
import ArchiveCatalog.Local.Session
import ArchiveCatalog.Sql
import ArchiveCatalog.Sql.Scripted

namespace ArchiveCatalog

/-- A catalog with what it is kept on. -/
inductive Catalog where
  | volatile (catalog : Volatile)
  | local (session : LocalSession)
  | sql (catalog : Sql) (backing : Sql.Pool × Sql.Server)

namespace Catalog

def component : Catalog → String
  | .volatile _ => Volatile.component
  | .local _ => Local.component
  | .sql .. => Sql.component

def state : Catalog → State
  | .volatile catalog => catalog.state
  | .local session => session.state
  | .sql catalog _ => catalog.state

def onDatabase (program : Sql.Program (α × Sql)) (backing : Sql.Pool × Sql.Server) : α × Catalog :=
  let ((answer, catalog), backing) := Sql.Pool.run program backing
  (answer, .sql catalog backing)

def within (wrap : β → Catalog) (step : α × β) : α × Catalog := (step.1, wrap step.2)

def init : Catalog → Outcome Unit × Catalog
  | .volatile catalog => within .volatile catalog.init
  | .local session => within .local session.init
  | .sql catalog backing => onDatabase catalog.init backing

def start : Catalog → Outcome Unit × Catalog
  | .volatile catalog => within .volatile catalog.start
  | .local session => within .local session.start
  | .sql catalog backing => onDatabase catalog.start backing

def stop : Catalog → Outcome Unit × Catalog
  | .volatile catalog => within .volatile catalog.stop
  | .local session => within .local session.stop
  | .sql catalog backing => onDatabase catalog.stop backing

def setDataStore (store : DataStore) : Catalog → Catalog
  | .volatile catalog => .volatile (catalog.setDataStore store)
  | .local session => .local { session with catalog := session.catalog.setDataStore store }
  | .sql catalog backing => .sql (catalog.setDataStore store) backing

def dataStore? : Catalog → Option DataStore
  | .volatile catalog => catalog.dataStore
  | .local session => session.catalog.memory.dataStore
  | .sql catalog _ => catalog.dataStore

def setWarcSize (ns auid : String) (size : Int64) (catalog : Catalog) : Catalog :=
  match catalog.dataStore? with
  | some store => catalog.setDataStore (store.setSize ns auid size)
  | none => catalog

def run (catalog : Catalog) (operation : Operation) : Outcome operation.Answer × Catalog :=
  match catalog with
  | .volatile catalog => within .volatile (catalog.run operation)
  | .local session => within .local (session.run operation)
  | .sql catalog backing => within (.sql catalog) (Sql.Pool.run (catalog.run operation) backing)

def health : Catalog → HealthCheck × Catalog
  | .volatile catalog => (catalog.health, .volatile catalog)
  | .local session => (session.catalog.health, .local session)
  | .sql catalog backing => within (.sql catalog) (Sql.Pool.run catalog.health backing)

/-- What someone gets who waits while nothing else happens. -/
def waitReady (catalog : Catalog) (timeout : Duration) : Outcome Unit :=
  match (Waiters.start.wait catalog.state timeout).1 with
  | .ok () => .ok ()
  | .error error => .refuse (.lifecycle error)

/-- Build the selected catalog, not yet started, on the given files or the given server. -/
def build (config : CatalogConfig) (directory : Directory) (server : Option Sql.Server) :
    Outcome Catalog :=
  match config.validate with
  | .error error => .refuse (.config error)
  | .ok () =>
    match config.backend, config.localConfig, config.sqlConfig with
    | .volatile, _, _ => .ok (.volatile .new)
    | .local, some settings, _ => .ok (.local (.new directory settings))
    | .local, none, _ => .refuse (.config (.missingRequired "local"))
    | .sql, _, some settings =>
      .ok (.sql (.new settings) (.new settings server.isSome, server.getD (.new [])))
    | .sql, _, none => .refuse (.config (.missingRequired "sql"))

/-- Build and start the selected catalog, and wait until it is ready. -/
def launch (config : CatalogConfig) (directory : Directory) (server : Option Sql.Server) :
    Outcome Catalog := do
  let (answer, catalog) := (← build config directory server).start
  answer
  catalog.waitReady config.readyTimeout
  return catalog

end Catalog

end ArchiveCatalog
