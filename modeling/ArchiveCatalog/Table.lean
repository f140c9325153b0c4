import ArchiveCatalog.Order
import ArchiveCatalog.OrderedMap

/-! Artifacts are found by identifier. A second map, ordered by position, makes an archival unit, a
URL and a URL prefix one contiguous range each, in listing order. A third one counts artifacts, so
that namespaces and archival units are listed without a scan. -/

namespace ArchiveCatalog

/-- The place of an artifact among all: its stem and its version. -/
structure Position where
  ns : String
  auid : String
  url : String
  version : Int32
  deriving DecidableEq

namespace Position

/-- By namespace, archival unit and URL, and the highest version of a URL first. -/
def order : Position → Position → Ordering :=
  compareLex (compareOn ns) (compareLex (compareOn auid) (compareLex (compareOn url)
    fun a b => compare b.version a.version))

instance : Ord Position := ⟨order⟩

instance : Std.TransCmp fun (a b : Position) => compare b.version a.version where
  eq_swap {a b} := (Std.OrientedCmp.eq_swap :
    compare b.version a.version = (compare a.version b.version).swap)
  isLE_trans {a _ c} first second :=
    (Std.TransCmp.isLE_trans second first : (compare c.version a.version).isLE)

instance : Std.TransOrd Position :=
  inferInstanceAs (Std.TransCmp (compareLex (compareOn ns) (compareLex (compareOn auid)
    (compareLex (compareOn url) fun a b => compare b.version a.version))))

/-- The least position at or after which every position of a URL stands: the one of the highest
version. -/
def first (ns auid url : String) : Position := ⟨ns, auid, url, Int32.maxValue⟩

end Position

def Artifact.position (artifact : Artifact) : Position :=
  ⟨artifact.ns, artifact.auid, artifact.url, artifact.version⟩

abbrev AuCounts := OrderedMap String (OrderedMap String Nat)

namespace AuCounts

def increment (counts : AuCounts) (ns auid : String) : AuCounts :=
  let aus := (counts.get? ns).getD .empty
  counts.insert ns (aus.insert auid ((aus.get? auid).getD 0 + 1))

/-- Count one artifact less; an archival unit and a namespace without artifacts disappear. -/
def decrement (counts : AuCounts) (ns auid : String) : AuCounts :=
  match counts.get? ns with
  | none => counts
  | some aus =>
    let aus := match aus.get? auid with
      | none => aus
      | some count => if count - 1 = 0 then aus.erase auid else aus.insert auid (count - 1)
    if aus.isEmpty then counts.erase ns else counts.insert ns aus

end AuCounts

structure Table where
  byUuid : OrderedMap Uuid Artifact
  byPosition : OrderedMap Position Uuid
  auCounts : AuCounts

namespace Table

def empty : Table := ⟨.empty, .empty, .empty⟩

instance : Inhabited Table := ⟨empty⟩

def size (table : Table) : Nat := table.byUuid.size

def get? (table : Table) (uuid : Uuid) : Option Artifact := table.byUuid.get? uuid

def positionTaken (artifact : Artifact) (holder : Uuid) : ValidationError :=
  .constraintViolation "artifact_stem_version"
    ("version " ++ numeral artifact.version.toInt ++ " of " ++ artifact.stem.text ++
      " is already indexed as " ++ holder.text)

/-- Add an artifact as it is. A known identifier is refused before a taken position. -/
def restore (table : Table) (artifact : Artifact) : Except CatalogError Table :=
  if table.byUuid.contains artifact.uuid then
    .error (.storage (.alreadyExists artifact.uuid))
  else match table.byPosition.get? artifact.position with
    | some holder => .error (.validation (positionTaken artifact holder))
    | none => .ok
      { byUuid := table.byUuid.insert artifact.uuid artifact
        byPosition := table.byPosition.insert artifact.position artifact.uuid
        auCounts := table.auCounts.increment artifact.ns artifact.auid }

/-- Add a new artifact, which is not yet committed. -/
def insert (table : Table) (artifact : Artifact) : Except CatalogError (Artifact × Table) := do
  let stored := { artifact with committed := false }
  return (stored, ← table.restore stored)

/-- Change an artifact without moving it. -/
def update (table : Table) (uuid : Uuid) (change : Artifact → Artifact) :
    Option (Artifact × Table) :=
  (table.get? uuid).map fun artifact =>
    (change artifact, { table with byUuid := table.byUuid.insert uuid (change artifact) })

def commit (table : Table) (uuid : Uuid) : Option (Artifact × Table) :=
  table.update uuid fun artifact => { artifact with committed := true }

def setStorageUrl (table : Table) (uuid : Uuid) (storageUrl : String) : Option (Artifact × Table) :=
  table.update uuid fun artifact => { artifact with storageUrl }

def remove (table : Table) (uuid : Uuid) : Option (Artifact × Table) :=
  (table.get? uuid).map fun artifact =>
    (artifact,
      { byUuid := table.byUuid.erase uuid
        byPosition := table.byPosition.erase artifact.position
        auCounts := table.auCounts.decrement artifact.ns artifact.auid })

/-- The artifacts from a position on, as long as their positions satisfy a test. -/
def range (table : Table) (start : Position) (inside : Position → Bool) : List Artifact :=
  ((table.byPosition.entriesFrom start).takeWhile fun entry => inside entry.1).filterMap
    fun entry => table.byUuid.get? entry.2

def auRange (table : Table) (ns auid : String) : List Artifact :=
  table.range (.first ns auid "") fun place => place.ns == ns && place.auid == auid

def urlRange (table : Table) (ns auid url : String) : List Artifact :=
  table.range (.first ns auid url) fun place =>
    place.ns == ns && place.auid == auid && place.url == url

/-- Whether a text starts with another one, character by character. -/
def startsWith (text start : String) : Bool := start.toList.isPrefixOf text.toList

def startRange (table : Table) (ns auid start : String) : List Artifact :=
  table.range (.first ns auid start) fun place =>
    place.ns == ns && place.auid == auid && startsWith place.url start

def namespaceRange (table : Table) (ns : String) : List Artifact :=
  table.range (.first ns "" "") fun place => place.ns == ns

def namespaces (table : Table) : List String := table.auCounts.keys

def auIds (table : Table) (ns : String) : List String :=
  ((table.auCounts.get? ns).map (·.keys)).getD []

def latest (table : Table) (ns auid url : String) (includeUncommitted : Bool) : Option Artifact :=
  (table.urlRange ns auid url).find? (·.isVisible includeUncommitted)

def version (table : Table) (ns auid url : String) (version : Int32) (includeUncommitted : Bool) :
    Option Artifact :=
  ((table.byPosition.get? ⟨ns, auid, url, version⟩).bind table.byUuid.get?).filter
    (·.isVisible includeUncommitted)

def auAllVersions (table : Table) (ns auid : String) (includeUncommitted : Bool) : List Artifact :=
  (table.auRange ns auid).filter (·.isVisible includeUncommitted)

def auLatest (table : Table) (ns auid : String) (includeUncommitted : Bool) : List Artifact :=
  latestPerStem (table.auAllVersions ns auid includeUncommitted)

def urlAllVersions (table : Table) (ns auid url : String) (includeUncommitted : Bool) :
    List Artifact :=
  (table.urlRange ns auid url).filter (·.isVisible includeUncommitted)

def startAllVersions (table : Table) (ns auid start : String) : List Artifact :=
  (table.startRange ns auid start).filter (·.committed)

def startLatest (table : Table) (ns auid start : String) : List Artifact :=
  latestPerStem (table.startAllVersions ns auid start)

/-- The committed artifacts of all archival units whose URL satisfies a test, sorted by URL. -/
def acrossAus (table : Table) (ns : String) (wanted : String → Bool)
    (selection : VersionSelection) :
    List Artifact :=
  let found := (table.namespaceRange ns).filter fun artifact =>
    artifact.committed && wanted artifact.url
  selectVersions (sortArtifacts compareAcrossAus found) selection

/-- Lengths of the committed artifacts of an archival unit: latest versions, and all. -/
def sizeTotals (table : Table) (ns auid : String) : Except Abort (Int64 × Int64) :=
  committedSizeTotals (table.auRange ns auid)

end Table

end ArchiveCatalog
