import ArchiveCatalog.Local
import ArchiveCatalog.Local.Directory

namespace ArchiveCatalog

/-- The files, and the catalog on one of their stores; `file` is where its store was opened. -/
structure LocalSession where
  directory : Directory
  catalog : Local
  file : Path

namespace LocalSession

def new (directory : Directory) (config : LocalConfig) : LocalSession :=
  ⟨directory, .new config, []⟩

def state (session : LocalSession) : State := session.catalog.state

def permit (session : LocalSession) : Permit :=
  session.directory.obstacles.writing session.catalog.config.bytes

def records (session : LocalSession) : Records :=
  match session.directory.node? session.file with
  | some (.store records) => records
  | _ => .empty

/-- Keep the files in step with the records after a step. -/
def settle (session : LocalSession) (step : α × Local × Records) : α × LocalSession :=
  (step.1,
    { session with
      catalog := step.2.1
      directory :=
        if session.catalog.opened then session.directory.setNode session.file (.store step.2.2)
        else session.directory })

/-- The directory of the configured path, created where it is missing. -/
def place (session : LocalSession) : Except StoreError Path × LocalSession :=
  let path := Directory.pathOf session.catalog.config.path
  let (place, directory) := session.directory.create [] path
  (place, { session with directory })

/-- Try to open the store, if the catalog still has to be initialized. The directory is created
before the size of the store is computed. -/
def opening (session : LocalSession) : Except Failure Unit × LocalSession :=
  if session.state = .constructed then
    match session.place with
    | (.error error, session) => (.error (.refused error.refusal), session)
    | (.ok place, session) =>
      match Local.mapSize session.catalog.config with
      | .error abort => (.error (.aborted abort), session)
      | .ok size =>
        match session.directory.openStore place size with
        | (.error error, directory) => (.error (.refused error.refusal), { session with directory })
        | (.ok (file, _), directory) => (.ok (), { session with directory, file })
  else (.ok (), session)

def init (session : LocalSession) : Outcome Unit × LocalSession :=
  let (opened, session) := session.opening
  let (answer, catalog) := session.catalog.init opened session.records
  (answer, { session with catalog })

def start (session : LocalSession) : Outcome Unit × LocalSession :=
  let (opened, session) := session.opening
  let (answer, catalog) := session.catalog.start opened session.records
  (answer, { session with catalog })

def stop (session : LocalSession) : Outcome Unit × LocalSession :=
  session.settle (session.catalog.stop session.permit session.records)

def flush (session : LocalSession) : Outcome Unit × LocalSession :=
  session.settle (session.catalog.flush session.permit session.records)

def run (session : LocalSession) (operation : Operation) :
    Outcome operation.Answer × LocalSession :=
  session.settle (session.catalog.run session.permit session.records operation)

def onStore (session : LocalSession) (work : Records → α × Records) :
    Except StoreError α × LocalSession :=
  match session.place with
  | (.error error, session) => (.error error, session)
  | (.ok place, session) =>
    match session.directory.openStore place session.catalog.config.bytes with
    | (.error error, directory) => (.error error, { session with directory })
    | (.ok (file, records), directory) =>
      let (answer, records) := work records
      (.ok answer, { session with directory := directory.setNode file (.store records) })

end LocalSession

end ArchiveCatalog
