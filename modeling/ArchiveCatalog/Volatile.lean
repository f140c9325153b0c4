import ArchiveCatalog.DataStore
import ArchiveCatalog.Operation
import ArchiveCatalog.Table

namespace ArchiveCatalog

namespace Table

/-- Sizes of an archival unit. The content store is asked after the lengths are added up. -/
def auSize (table : Table) (store : Option DataStore) (ns auid : String) : Outcome AuSize :=
  match table.sizeTotals ns auid with
  | .error abort => .error (.aborted abort)
  | .ok (latest, all) =>
    match DataStore.sizeIn store ns auid with
    | .error error => .refuse error
    | .ok warc => .ok ⟨latest, all, warc⟩

/-- Carry out an accepted operation: its answer, and the table after it. -/
def perform (table : Table) (store : Option DataStore) :
    (operation : Operation) → Outcome operation.Answer × Table
  | .index artifact =>
    match table.insert artifact with
    | .ok (stored, table) => (.ok stored, table)
    | .error error => (.refuse error, table)
  | .commit uuid =>
    match table.commit uuid with
    | some (artifact, table) => (.ok (some artifact), table)
    | none => (.ok none, table)
  | .delete uuid =>
    match table.remove uuid with
    | some (_, table) => (.ok true, table)
    | none => (.ok false, table)
  | .relocate uuid storageUrl =>
    match table.setStorageUrl uuid storageUrl with
    | some (artifact, table) => (.ok artifact, table)
    | none => (.refuse (.storage (.notFound uuid)), table)
  | .find uuid => (.ok (table.get? uuid), table)
  | .contains uuid => (.ok (table.get? uuid).isSome, table)
  | .latest ns auid url uncommitted => (.ok (table.latest ns auid url uncommitted), table)
  | .version ns auid url version uncommitted =>
    (.ok (table.version ns auid url version uncommitted), table)
  | .namespaces => (.ok table.namespaces, table)
  | .auIds ns => (.ok (table.auIds ns), table)
  | .listLatest ns auid uncommitted => (.ok (table.auLatest ns auid uncommitted), table)
  | .listAll ns auid uncommitted => (.ok (table.auAllVersions ns auid uncommitted), table)
  | .listUrl ns auid url uncommitted => (.ok (table.urlAllVersions ns auid url uncommitted), table)
  | .searchLatest ns auid start => (.ok (table.startLatest ns auid start), table)
  | .searchAll ns auid start => (.ok (table.startAllVersions ns auid start), table)
  | .acrossAusByUrl ns url selection => (.ok (table.acrossAus ns (· == url) selection), table)
  | .acrossAusByStart ns start selection =>
    (.ok (table.acrossAus ns (startsWith · start) selection), table)
  | .auSize ns auid => (table.auSize store ns auid, table)

end Table

structure Volatile where
  table : Table
  state : State
  dataStore : Option DataStore
  deriving Inhabited

namespace Volatile

def component : String := "volatile_artifact_index"

def new : Volatile := ⟨.empty, .constructed, none⟩

def size (catalog : Volatile) : Nat := catalog.table.size

/-- Move to the state that a step leads to, or stay. -/
def moveTo (catalog : Volatile) (next : Except LifecycleError State) : Outcome Unit × Volatile :=
  let (answer, state) := catalog.state.settle next
  (answer, { catalog with state })

def init (catalog : Volatile) : Outcome Unit × Volatile :=
  catalog.moveTo catalog.state.toInitialized

/-- Become ready, by way of the initialization if it is still to be done. -/
def start (catalog : Volatile) : Outcome Unit × Volatile :=
  let catalog := if catalog.state = .constructed then catalog.init.2 else catalog
  catalog.moveTo catalog.state.toReady

def stop (catalog : Volatile) : Outcome Unit × Volatile :=
  (.ok (), { catalog with state := .stopped })

def setDataStore (catalog : Volatile) (store : DataStore) : Volatile :=
  { catalog with dataStore := some store }

/-- Serve an operation whose arguments have been looked at. One that is not let through changes
nothing. -/
def guarded (catalog : Volatile) (arguments : Except ValidationError Unit)
    (operation : Operation) : Outcome operation.Answer × Volatile :=
  match catalog.state.accept arguments with
  | .error error => (.refuse error, catalog)
  | .ok () =>
    let (answer, table) := catalog.table.perform catalog.dataStore operation
    (answer, { catalog with table })

open Operation in
/-- Serve an operation. Each looks at its own arguments. -/
def run (catalog : Volatile) : (operation : Operation) → Outcome operation.Answer × Volatile
  | .index artifact => catalog.guarded artifact.validate (.index artifact)
  | .commit uuid => catalog.guarded (requireUuid uuid) (.commit uuid)
  | .delete uuid => catalog.guarded (requireUuid uuid) (.delete uuid)
  | .relocate uuid storageUrl =>
    catalog.guarded (do requireUuid uuid; requireNonEmpty "storage_url" storageUrl)
      (.relocate uuid storageUrl)
  | .find uuid => catalog.guarded (requireUuid uuid) (.find uuid)
  | .contains uuid => catalog.guarded (requireUuid uuid) (.contains uuid)
  | .latest ns auid url uncommitted =>
    catalog.guarded (requireStem ns auid url) (.latest ns auid url uncommitted)
  | .version ns auid url number uncommitted =>
    catalog.guarded (requireStem ns auid url) (.version ns auid url number uncommitted)
  | .namespaces => catalog.guarded (.ok ()) .namespaces
  | .auIds ns => catalog.guarded (requireNonEmpty "namespace" ns) (.auIds ns)
  | .listLatest ns auid uncommitted =>
    catalog.guarded (requireAu ns auid) (.listLatest ns auid uncommitted)
  | .listAll ns auid uncommitted =>
    catalog.guarded (requireAu ns auid) (.listAll ns auid uncommitted)
  | .listUrl ns auid url uncommitted =>
    catalog.guarded (requireStem ns auid url) (.listUrl ns auid url uncommitted)
  | .searchLatest ns auid start =>
    catalog.guarded (requireAu ns auid) (.searchLatest ns auid start)
  | .searchAll ns auid start => catalog.guarded (requireAu ns auid) (.searchAll ns auid start)
  | .acrossAusByUrl ns url selection =>
    catalog.guarded (requireAcrossAus ns "url" url) (.acrossAusByUrl ns url selection)
  | .acrossAusByStart ns start selection =>
    catalog.guarded (requireAcrossAus ns "prefix" start) (.acrossAusByStart ns start selection)
  | .auSize ns auid => catalog.guarded (requireAu ns auid) (.auSize ns auid)

def health (catalog : Volatile) : HealthCheck :=
  let check := if catalog.state = .ready then
      (HealthCheck.healthy component).withMetadata "artifacts" (.ofNat catalog.size)
    else idleHealth component catalog.state
  check.withResponseTime 0

end Volatile

end ArchiveCatalog
