import ArchiveCatalog.Config
import ArchiveCatalog.Local.Records
import ArchiveCatalog.Volatile

/-! A catalog in memory that is written to a store. Whether the store can be opened and whether a
transaction succeeds is decided elsewhere: every step takes these decisions as arguments, and the
records of the store besides. -/

namespace ArchiveCatalog

/-- Decides on a transaction that writes some changes: none to let it succeed. -/
abbrev Permit := Changes → Option StoreError

structure Local where
  config : LocalConfig
  memory : Volatile
  /-- Whether the store is held open. -/
  opened : Bool
  pending : Changes

namespace Local

def component : String := "local_artifact_index"

def new (config : LocalConfig) : Local := ⟨config, .new, false, .empty⟩

def state (catalog : Local) : State := catalog.memory.state

def pendingWrites (catalog : Local) : Nat := catalog.pending.size

/-- The size of the store; a number of bytes that 64 bits cannot hold aborts the opening. -/
def mapSize (config : LocalConfig) : Except Abort Nat :=
  if config.bytes < UInt64.size then .ok config.bytes else .error .multiplicationOverflow

def flush (permit : Permit) (catalog : Local) (records : Records) :
    Outcome Unit × Local × Records :=
  if catalog.pending.isEmpty then (.ok (), catalog, records)
  else if catalog.opened then
    match permit catalog.pending with
    | some error => (.refuse error.refusal, catalog, records)
    | none => (.ok (), { catalog with pending := .empty }, records.apply catalog.pending)
  else
    (.refuse (.storage (.persistenceFailed
      (numeral catalog.pending.size ++ " changes pending with no open store"))), catalog, records)

/-- Record a change and try to write everything pending. -/
def record (permit : Permit) (catalog : Local) (records : Records) (change : Operation.Change) :
    Local × Records :=
  (flush permit { catalog with pending := catalog.pending.insert change.1 change.2 } records).2

def load (catalog : Local) (records : Records) : Local :=
  { catalog with
    memory := { catalog.memory with table := catalog.memory.table.restoreAll records.artifacts }
    opened := true }

/-- Open the store and load it, unless that has been done. `opening` says how an attempt to open
it ends. -/
def init (opening : Except Failure Unit) (catalog : Local) (records : Records) :
    Outcome Unit × Local :=
  match (if catalog.state = .constructed then opening else .ok ()) with
  | .error failure => (.error failure, catalog)
  | .ok () =>
    let catalog := if catalog.state = .constructed then catalog.load records else catalog
    let (answer, memory) := catalog.memory.init
    (answer, { catalog with memory })

def start (opening : Except Failure Unit) (catalog : Local) (records : Records) :
    Outcome Unit × Local :=
  let initialized := if catalog.state = .constructed then init opening catalog records
    else (.ok (), catalog)
  match initialized with
  | (.error failure, catalog) => (.error failure, catalog)
  | (.ok (), catalog) =>
    let (answer, memory) := catalog.memory.moveTo catalog.state.toReady
    (answer, { catalog with memory })

/-- Stop serving, write what is pending and let go of the store, even if the writing fails. -/
def stop (permit : Permit) (catalog : Local) (records : Records) :
    Outcome Unit × Local × Records :=
  let stopped := { catalog with memory := catalog.memory.stop.2 }
  let (answer, catalog, records) := flush permit stopped records
  (answer, { catalog with opened := false }, records)

def setDataStore (catalog : Local) (store : DataStore) : Local :=
  { catalog with memory := catalog.memory.setDataStore store }

/-- Carry out a mutation once its arguments are accepted. That the catalog is ready is made sure
of again when nobody else can change the table any more. What the mutation has changed is recorded
before it is answered. -/
def mutate (permit : Permit) (catalog : Local) (records : Records)
    (arguments : Except ValidationError Unit)
    (change : Table → Except CatalogError (α × Table × Option Operation.Change)) :
    Outcome α × Local × Records :=
  match catalog.state.ensureReady with
  | .error error => (.refuse (.lifecycle error), catalog, records)
  | .ok () =>
    match arguments with
    | .error error => (.refuse (.validation error), catalog, records)
    | .ok () =>
      match catalog.state.ensureReady with
      | .error error => (.refuse (.lifecycle error), catalog, records)
      | .ok () =>
        match change catalog.memory.table with
        | .error error => (.refuse error, catalog, records)
        | .ok (answer, table, changed) =>
          let catalog := { catalog with memory := { catalog.memory with table } }
          match changed with
          | none => (.ok answer, catalog, records)
          | some changed => (.ok answer, catalog.record permit records changed)

/-- Serve an operation: mutations are recorded, everything else is left to the memory. -/
def run (permit : Permit) (catalog : Local) (records : Records) :
    (operation : Operation) → Outcome operation.Answer × Local × Records
  | .index artifact =>
    mutate permit catalog records artifact.validate fun table =>
      match table.insert artifact with
      | .ok (stored, table) => .ok (stored, table, some (stored.uuid, some stored))
      | .error error => .error error
  | .commit uuid =>
    mutate permit catalog records (requireUuid uuid) fun table =>
      match table.commit uuid with
      | some (committed, table) => .ok (some committed, table, some (uuid, some committed))
      | none => .ok (none, table, none)
  | .delete uuid =>
    mutate permit catalog records (requireUuid uuid) fun table =>
      match table.remove uuid with
      | some (_, table) => .ok (true, table, some (uuid, none))
      | none => .ok (false, table, none)
  | .relocate uuid storageUrl =>
    mutate permit catalog records
      (do requireUuid uuid; requireNonEmpty "storage_url" storageUrl) fun table =>
      match table.setStorageUrl uuid storageUrl with
      | some (updated, table) => .ok (updated, table, some (uuid, some updated))
      | none => .error (.storage (.notFound uuid))
  | operation =>
    let (answer, memory) := catalog.memory.run operation
    (answer, { catalog with memory }, records)

def health (catalog : Local) : HealthCheck :=
  let pending := catalog.pendingWrites
  let count : Json := .ofNat catalog.memory.size
  let check :=
    if catalog.state = .ready then
      let report := if pending > 0 then
          HealthCheck.degraded component (numeral pending ++ " changes not yet persisted")
        else HealthCheck.healthy component
      report.withMetadata "artifacts" count
    else idleHealth component catalog.state
  ((check.withMetadata "pending_writes" (.ofNat pending)).withMetadata
    "path" (.ofString catalog.config.path)).withResponseTime 0

end Local

end ArchiveCatalog
