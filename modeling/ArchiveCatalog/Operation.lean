import ArchiveCatalog.Artifact
import ArchiveCatalog.Lifecycle
import ArchiveCatalog.Method

namespace ArchiveCatalog

/-- Let arguments that have been looked at pass to a catalog in some state. That the catalog does
not serve is reported before any mistake in the arguments. -/
def State.accept (state : State) (arguments : Except ValidationError Unit) :
    Except CatalogError Unit :=
  match state.ensureReady with
  | .error error => .error (.lifecycle error)
  | .ok () =>
    match arguments with
    | .error error => .error (.validation error)
    | .ok () => .ok ()

/-- An operation with its arguments. A search by `start` is for URLs that start with it. -/
inductive Operation where
  | index (artifact : Artifact)
  | commit (uuid : Uuid)
  | delete (uuid : Uuid)
  | relocate (uuid : Uuid) (storageUrl : String)
  | find (uuid : Uuid)
  | contains (uuid : Uuid)
  | latest (ns auid url : String) (includeUncommitted : Bool)
  | version (ns auid url : String) (version : Int32) (includeUncommitted : Bool)
  | namespaces
  | auIds (ns : String)
  | listLatest (ns auid : String) (includeUncommitted : Bool)
  | listAll (ns auid : String) (includeUncommitted : Bool)
  | listUrl (ns auid url : String) (includeUncommitted : Bool)
  | searchLatest (ns auid start : String)
  | searchAll (ns auid start : String)
  | acrossAusByUrl (ns url : String) (selection : VersionSelection)
  | acrossAusByStart (ns start : String) (selection : VersionSelection)
  | auSize (ns auid : String)
  deriving DecidableEq

namespace Operation

/-- What an operation answers when it is not refused. -/
@[reducible] def Answer : Operation → Type
  | .index .. => Artifact
  | .commit .. => Option Artifact
  | .delete .. => Bool
  | .relocate .. => Artifact
  | .find .. => Option Artifact
  | .contains .. => Bool
  | .latest .. => Option Artifact
  | .version .. => Option Artifact
  | .namespaces => List String
  | .auIds .. => List String
  | .listLatest .. => List Artifact
  | .listAll .. => List Artifact
  | .listUrl .. => List Artifact
  | .searchLatest .. => List Artifact
  | .searchAll .. => List Artifact
  | .acrossAusByUrl .. => List Artifact
  | .acrossAusByStart .. => List Artifact
  | .auSize .. => AuSize

def method : Operation → Method
  | .index .. => .index
  | .commit .. => .commit
  | .delete .. => .delete
  | .relocate .. => .relocate
  | .find .. => .find
  | .contains .. => .find
  | .latest .. => .latest
  | .version .. => .version
  | .namespaces => .namespaces
  | .auIds .. => .auIds
  | .listLatest .. => .listLatest
  | .listAll .. => .listAll
  | .listUrl .. => .listUrl
  | .searchLatest .. => .searchLatest
  | .searchAll .. => .searchAll
  | .acrossAusByUrl .. => .acrossAusByUrl
  | .acrossAusByStart .. => .acrossAusByStart
  | .auSize .. => .auSize

def name (operation : Operation) : String := operation.method.name

def requireAu (ns auid : String) : Except ValidationError Unit := do
  requireNonEmpty "namespace" ns
  requireNonEmpty "auid" auid

def requireStem (ns auid url : String) : Except ValidationError Unit := do
  requireAu ns auid
  requireNonEmpty "url" url

/-- Refuse a search across archival units that is not limited to a namespace and by `value`. -/
def requireAcrossAus (ns field value : String) : Except ValidationError Unit := do
  requireNonEmpty "namespace" ns
  requireNonEmpty field value

/-- Accept the arguments of an operation, or report the first one that is not valid. Within one
archival unit an empty start stands for all URLs; across archival units it is refused. -/
def checkArguments : Operation → Except ValidationError Unit
  | .index artifact => artifact.validate
  | .commit uuid => requireUuid uuid
  | .delete uuid => requireUuid uuid
  | .relocate uuid storageUrl => do
    requireUuid uuid
    requireNonEmpty "storage_url" storageUrl
  | .find uuid => requireUuid uuid
  | .contains uuid => requireUuid uuid
  | .latest ns auid url _ => requireStem ns auid url
  | .version ns auid url _ _ => requireStem ns auid url
  | .namespaces => .ok ()
  | .auIds ns => requireNonEmpty "namespace" ns
  | .listLatest ns auid _ => requireAu ns auid
  | .listAll ns auid _ => requireAu ns auid
  | .listUrl ns auid url _ => requireStem ns auid url
  | .searchLatest ns auid _ => requireAu ns auid
  | .searchAll ns auid _ => requireAu ns auid
  | .acrossAusByUrl ns url _ => requireAcrossAus ns "url" url
  | .acrossAusByStart ns start _ => requireAcrossAus ns "prefix" start
  | .auSize ns auid => requireAu ns auid

abbrev Change := Uuid × Option Artifact

/-- What an operation with this answer has changed. -/
def change : (operation : Operation) → operation.Answer → Option Change
  | .index _, stored => some (stored.uuid, some stored)
  | .commit uuid, committed => committed.map fun artifact => (uuid, some artifact)
  | .delete uuid, removed => if removed then some (uuid, none) else none
  | .relocate uuid _, moved => some (uuid, some moved)
  | _, _ => none

end Operation

end ArchiveCatalog
