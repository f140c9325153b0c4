import ArchiveCatalog.Artifact
import ArchiveCatalog.FixedWidth
import ArchiveCatalog.Sql.Error

namespace ArchiveCatalog.Sql

inductive Cell where
  | null
  | text (value : String)
  | integer (value : Int)
  | bool (value : Bool)
  | uuid (value : Uuid)
  /-- An instant as microseconds since 2000-01-01. -/
  | instant (micros : Int)
  deriving DecidableEq

abbrev Row := List Cell

/-- The rows that a query gives, and how many it changed. -/
structure Reply where
  rows : List Row
  changed : Nat

namespace Cell

def text? : Cell → Option String
  | .text value => some value
  | _ => none

def bool? : Cell → Option Bool
  | .bool value => some value
  | _ => none

def uuid? : Cell → Option Uuid
  | .uuid value => some value
  | _ => none

def instant? : Cell → Option Instant
  | .instant micros => Instant.ofMicros2000? micros
  | _ => none

def int32? : Cell → Option Int32
  | .integer value => ArchiveCatalog.int32? value
  | _ => none

def int64? : Cell → Option Int64
  | .integer value => ArchiveCatalog.int64? value
  | _ => none

end Cell

namespace Row

/-- Read the cell of a column, counted from zero. -/
def read (row : Row) (column : Nat) (reader : Cell → Option α) : Except ConnectionError α :=
  match row[column]?.bind reader with
  | some value => .ok value
  | none => .error (.unreadableCell column)

/-- Read an artifact, column by column in the order of its fields. -/
def artifact (row : Row) : Except ConnectionError Artifact := do
  return { uuid := ← row.read 0 Cell.uuid?
           ns := ← row.read 1 Cell.text?
           auid := ← row.read 2 Cell.text?
           url := ← row.read 3 Cell.text?
           version := ← row.read 4 Cell.int32?
           committed := ← row.read 5 Cell.bool?
           storageUrl := ← row.read 6 Cell.text?
           contentLength := ← row.read 7 Cell.int64?
           contentDigest := ← row.read 8 Cell.text?
           collectionDate := ← row.read 9 Cell.instant? }

def single (row : Row) : Except ConnectionError String := row.read 0 Cell.text?

def totals (row : Row) : Except ConnectionError (Int64 × Int64) := do
  return (← row.read 0 Cell.int64?, ← row.read 1 Cell.int64?)

end Row

namespace Reply

/-- The row of a reply that has at most one. -/
def atMostOne (reply : Reply) : Except ConnectionError (Option Row) :=
  match reply.rows with
  | [] => .ok none
  | [row] => .ok (some row)
  | _ => .error .rowCount

def exactlyOne (reply : Reply) : Except ConnectionError Row :=
  match reply.rows with
  | [row] => .ok row
  | _ => .error .rowCount

def artifacts (reply : Reply) : Except ConnectionError (List Artifact) :=
  reply.rows.mapM Row.artifact

def artifact? (reply : Reply) : Except ConnectionError (Option Artifact) := do
  match ← reply.atMostOne with
  | none => return none
  | some row => return some (← row.artifact)

def texts (reply : Reply) : Except ConnectionError (List String) :=
  reply.rows.mapM Row.single

end Reply

end ArchiveCatalog.Sql
