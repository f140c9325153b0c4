import ArchiveCatalog.DataStore
import ArchiveCatalog.Sql.Schema

/-! Each operation is one statement, repeated while it fails for reasons that may pass; only an
insertion whose reply was lost takes a second statement, to find out whether the row that is there
is its own. -/

namespace ArchiveCatalog

structure Sql where
  retryConfig : RetryConfig
  searchPath : Option String
  state : State
  dataStore : Option DataStore

namespace Sql

def component : String := "sql_artifact_index"

def new (config : SqlConfig) : Sql := ⟨config.retry, config.searchPath, .constructed, none⟩

/-- Move to the state that a step leads to, or stay. -/
def moveTo (catalog : Sql) (next : Except LifecycleError State) : Outcome Unit × Sql :=
  let (answer, state) := catalog.state.settle next
  (answer, { catalog with state })

def checkVersion (found : Option Int32) : Outcome Unit :=
  if found = some schemaVersion then .ok ()
  else .refuse (.lifecycle (.schemaMismatch schemaVersion found))

def check (catalog : Sql) : Program (Outcome Unit) :=
  if catalog.state = .constructed then
    (retry catalog.retryConfig "schema_version" fun _ => installedVersion).bind fun
      | .ok found => .done (checkVersion found)
      | .error failure => .done (.error failure)
  else .done (.ok ())

def init (catalog : Sql) : Program (Outcome Unit × Sql) :=
  catalog.check.bind fun
    | .ok () => .done (catalog.moveTo catalog.state.toInitialized)
    | .error failure => .done (.error failure, catalog)

def start (catalog : Sql) : Program (Outcome Unit × Sql) :=
  if catalog.state = .constructed then
    catalog.init.bind fun
      | (.ok (), catalog) => .done (catalog.moveTo catalog.state.toReady)
      | (.error failure, catalog) => .done (.error failure, catalog)
  else .done (catalog.moveTo catalog.state.toReady)

def stop (catalog : Sql) : Program (Outcome Unit × Sql) :=
  .ask .close fun _ => .done (.ok (), { catalog with state := .stopped })

def setDataStore (catalog : Sql) (store : DataStore) : Sql :=
  { catalog with dataStore := some store }

/-- Whether a stored row is the one that an insertion writes. It may have been committed since. -/
def isSameInsert (requested stored : Artifact) : Bool :=
  requested.uuid == stored.uuid && requested.ns == stored.ns && requested.auid == stored.auid &&
    requested.url == stored.url && requested.version == stored.version &&
    requested.storageUrl == stored.storageUrl && requested.contentLength == stored.contentLength &&
    requested.contentDigest == stored.contentDigest &&
    requested.collectionDate == stored.collectionDate

/-- One attempt to insert an artifact: the inserted row, or none if the identifier is taken. When
an earlier attempt may have inserted the row before its reply was lost, the row that is there is
looked at. -/
def insertion (artifact : Artifact) (number : Nat) : Attempt (Option Artifact) :=
  Attempt.connected ((Attempt.query (.insert artifact) Reply.artifact?).andThen fun
    | some stored => Attempt.ok (some stored)
    | none =>
      if number = 1 then Attempt.ok none
      else (Attempt.query (.byUuid artifact.uuid) Reply.artifact?).andThen fun existing =>
        Attempt.ok (existing.filter (isSameInsert artifact)))

def statement (config : RetryConfig) (operation : Operation) (query : Query)
    (reader : Reply → Except ConnectionError α) : Program (Outcome α) :=
  retry config operation.name fun _ => Attempt.connected (Attempt.query query reader)

/-- Sizes of an archival unit, of whose lengths the totals are known. -/
def auSize (store : Option DataStore) (ns auid : String) (totals : Int64 × Int64) :
    Outcome AuSize :=
  match DataStore.sizeIn store ns auid with
  | .ok warc => .ok ⟨totals.1, totals.2, warc⟩
  | .error error => .refuse error

def perform (config : RetryConfig) (store : Option DataStore) :
    (operation : Operation) → Program (Outcome operation.Answer)
  | .index artifact =>
    (retry config (Operation.index artifact).name (insertion artifact)).bind fun
      | .ok (some stored) => .done (.ok stored)
      | .ok none => .done (.refuse (.storage (.alreadyExists artifact.uuid)))
      | .error failure => .done (.error failure)
  | .commit uuid => statement config (.commit uuid) (.commit uuid) Reply.artifact?
  | .delete uuid =>
    statement config (.delete uuid) (.delete uuid) fun reply => .ok (decide (0 < reply.changed))
  | .relocate uuid storageUrl =>
    (statement config (.relocate uuid storageUrl) (.relocate uuid storageUrl)
      Reply.artifact?).bind fun
      | .ok (some moved) => .done (.ok moved)
      | .ok none => .done (.refuse (.storage (.notFound uuid)))
      | .error failure => .done (.error failure)
  | .find uuid => statement config (.find uuid) (.byUuid uuid) Reply.artifact?
  | .contains uuid =>
    statement config (.contains uuid) (.byUuid uuid) fun reply => reply.artifact?.map Option.isSome
  | .latest ns auid url uncommitted =>
    statement config (.latest ns auid url uncommitted) (.latest ns auid url uncommitted)
      Reply.artifact?
  | .version ns auid url number uncommitted =>
    statement config (.version ns auid url number uncommitted)
      (.version ns auid url number uncommitted) Reply.artifact?
  | .namespaces => statement config .namespaces .namespaces Reply.texts
  | .auIds ns => statement config (.auIds ns) (.auIds ns) Reply.texts
  | .listLatest ns auid uncommitted =>
    statement config (.listLatest ns auid uncommitted) (.listLatest ns auid uncommitted)
      Reply.artifacts
  | .listAll ns auid uncommitted =>
    statement config (.listAll ns auid uncommitted) (.listAll ns auid uncommitted) Reply.artifacts
  | .listUrl ns auid url uncommitted =>
    statement config (.listUrl ns auid url uncommitted) (.listUrl ns auid url uncommitted)
      Reply.artifacts
  | .searchLatest ns auid start =>
    statement config (.searchLatest ns auid start) (.searchLatest ns auid start) Reply.artifacts
  | .searchAll ns auid start =>
    statement config (.searchAll ns auid start) (.searchAll ns auid start) Reply.artifacts
  | .acrossAusByUrl ns url selection =>
    statement config (.acrossAusByUrl ns url selection) (.acrossAusByUrl ns url selection)
      Reply.artifacts
  | .acrossAusByStart ns start selection =>
    statement config (.acrossAusByStart ns start selection) (.acrossAusByStart ns start selection)
      Reply.artifacts
  | .auSize ns auid =>
    (retry config (Operation.auSize ns auid).name fun _ =>
      Attempt.connected (Attempt.query (.sizeTotals ns auid) fun reply => do
        (← reply.exactlyOne).totals)).bind fun
      | .ok totals => .done (auSize store ns auid totals)
      | .error failure => .done (.error failure)

/-- Serve an operation whose arguments have been looked at. One that is not let through asks
nothing of the database. -/
def guarded (catalog : Sql) (arguments : Except ValidationError Unit) (operation : Operation) :
    Program (Outcome operation.Answer) :=
  match catalog.state.accept arguments with
  | .error error => .done (.refuse error)
  | .ok () => perform catalog.retryConfig catalog.dataStore operation

open Operation in
/-- Serve an operation. Each looks at its own arguments. -/
def run (catalog : Sql) : (operation : Operation) → Program (Outcome operation.Answer)
  | .index artifact => catalog.guarded artifact.validate (.index artifact)
  | .commit uuid => catalog.guarded (requireUuid uuid) (.commit uuid)
  | .delete uuid => catalog.guarded (requireUuid uuid) (.delete uuid)
  | .relocate uuid storageUrl =>
    catalog.guarded (do requireUuid uuid; requireNonEmpty "storage_url" storageUrl)
      (.relocate uuid storageUrl)
  | .find uuid => catalog.guarded (requireUuid uuid) (.find uuid)
  | .contains uuid => catalog.guarded (requireUuid uuid) (.contains uuid)
  | .latest ns auid url uncommitted =>
    catalog.guarded (requireStem ns auid url) (.latest ns auid url uncommitted)
  | .version ns auid url number uncommitted =>
    catalog.guarded (requireStem ns auid url) (.version ns auid url number uncommitted)
  | .namespaces => catalog.guarded (.ok ()) .namespaces
  | .auIds ns => catalog.guarded (requireNonEmpty "namespace" ns) (.auIds ns)
  | .listLatest ns auid uncommitted =>
    catalog.guarded (requireAu ns auid) (.listLatest ns auid uncommitted)
  | .listAll ns auid uncommitted =>
    catalog.guarded (requireAu ns auid) (.listAll ns auid uncommitted)
  | .listUrl ns auid url uncommitted =>
    catalog.guarded (requireStem ns auid url) (.listUrl ns auid url uncommitted)
  | .searchLatest ns auid start =>
    catalog.guarded (requireAu ns auid) (.searchLatest ns auid start)
  | .searchAll ns auid start => catalog.guarded (requireAu ns auid) (.searchAll ns auid start)
  | .acrossAusByUrl ns url selection =>
    catalog.guarded (requireAcrossAus ns "url" url) (.acrossAusByUrl ns url selection)
  | .acrossAusByStart ns start selection =>
    catalog.guarded (requireAcrossAus ns "prefix" start) (.acrossAusByStart ns start selection)
  | .auSize ns auid => catalog.guarded (requireAu ns auid) (.auSize ns auid)

def health (catalog : Sql) : Program HealthCheck :=
  if catalog.state = .ready then
    (Attempt.connected (Attempt.query .ping Reply.exactlyOne)).bind fun probe =>
      .ask .poolSize fun size =>
        let check := match probe with
          | .ok _ => HealthCheck.healthy component
          | .error error => HealthCheck.unhealthy component error.message
        .done (((check.withMetadata "pool_size" (.ofNat size)).withMetadata
          "schema_version" (.ofInt schemaVersion.toInt)).withResponseTime 0)
  else .done (idleHealth component catalog.state)

end Sql

end ArchiveCatalog
