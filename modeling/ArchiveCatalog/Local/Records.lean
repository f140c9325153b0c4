import ArchiveCatalog.Artifact.Json
import ArchiveCatalog.Table

/-! Artifacts as stored records. A store maps byte keys to byte values, in byte order of the keys. A
key is the sixteen bytes of an identifier; whatever else a store holds is passed over. -/

namespace ArchiveCatalog

abbrev Bytes := List UInt8

/-- Why a store cannot be opened, read or written, in the words of the system below it. -/
inductive StoreError where
  | io (reason : String)
  | environment (reason : String)
  | database (reason : String)
  | transaction (reason : String)
  | serialization (reason : String)
  deriving DecidableEq

namespace StoreError

def message : StoreError → String
  | .io reason => "I/O error: " ++ reason
  | .environment reason => "Failed to open LMDB environment: " ++ reason
  | .database reason => "Failed to open database: " ++ reason
  | .transaction reason => "Transaction error: " ++ reason
  | .serialization reason => "Serialization error: " ++ reason

def notDirectory : StoreError := .io "Not a directory (os error 20)"

def occupied : StoreError := .io "File exists (os error 17)"

def foreignFile : StoreError := .environment "MDB_INVALID: File is not an LMDB file"

def storeIsDirectory : StoreError := .environment "Is a directory (os error 21)"

def full : StoreError := .transaction "MDB_MAP_FULL: Environment mapsize limit reached"

def refusal (error : StoreError) : CatalogError := .storage (.persistenceFailed error.message)

end StoreError

/-- Changes that are to be written: for each artifact its record, or none to remove it. -/
abbrev Changes := OrderedMap Uuid (Option Artifact)

namespace Artifact

def encode (artifact : Artifact) : Bytes := Text.encode artifact.toJson.chars

/-- Read a record; its key must be the identifier of the artifact in its value. -/
def decode? (key value : Bytes) : Option Artifact := do
  let uuid ← Uuid.ofBytes? key
  let artifact ← (Json.ofBytes? value).bind ofJson?
  if artifact.uuid = uuid then some artifact else none

end Artifact

abbrev Records := OrderedMap Bytes Bytes

namespace Records

def put (records : Records) (change : Uuid × Option Artifact) : Records :=
  match change.2 with
  | some artifact => records.insert change.1.bytes artifact.encode
  | none => records.erase change.1.bytes

def apply (records : Records) (changes : Changes) : Records :=
  changes.entries.foldl put records

/-- The artifacts whose records can be read, in key order. -/
def artifacts (records : Records) : List Artifact :=
  records.entries.filterMap fun entry => Artifact.decode? entry.1 entry.2

end Records

namespace Changes

def valueBytes (changes : Changes) : Nat :=
  changes.values.foldl (fun total change => total + (change.map (·.encode.length)).getD 0) 0

end Changes

/-- Add stored artifacts to a table, without those that the table refuses. -/
def Table.restoreAll (table : Table) (artifacts : List Artifact) : Table :=
  artifacts.foldl (fun table artifact => ((table.restore artifact).toOption).getD table) table

end ArchiveCatalog
