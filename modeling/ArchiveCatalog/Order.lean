import ArchiveCatalog.Artifact
import ArchiveCatalog.FixedWidth

namespace ArchiveCatalog

/-- Within an archival unit: by URL, and the highest version of a URL first. -/
def compareWithinAu (a b : Artifact) : Ordering :=
  (compare a.url b.url).then (compare b.version a.version)

/-- Across archival units: by URL, then archival unit, and the highest version first. -/
def compareAcrossAus (a b : Artifact) : Ordering :=
  (compare a.url b.url).then ((compare a.auid b.auid).then (compare b.version a.version))

/-- Sort artifacts so that none stands after a greater one; equals keep their order. -/
def sortArtifacts (order : Artifact → Artifact → Ordering) (artifacts : List Artifact) :
    List Artifact :=
  artifacts.mergeSort fun a b => (order a b).isLE

def keepFirstOfRuns (kept : Artifact) : List Artifact → List Artifact
  | [] => []
  | next :: rest =>
    if next.sameStem kept then keepFirstOfRuns kept rest
    else next :: keepFirstOfRuns next rest

/-- The first artifact of every run of one stem. Of a list in either order it holds the latest
version of each stem. -/
def latestPerStem : List Artifact → List Artifact
  | [] => []
  | first :: rest => first :: keepFirstOfRuns first rest

def selectVersions (artifacts : List Artifact) : VersionSelection → List Artifact
  | .all => artifacts
  | .latest => latestPerStem artifacts

def addLengths (a b : Int64) : Except Abort Int64 :=
  match int64? (a.toInt + b.toInt) with
  | some sum => .ok sum
  | none => .error .additionOverflow

/-- The highest version met so far of each URL, with its length. -/
abbrev LatestLengths := List (String × Int32 × Int64)

/-- Take an artifact into account; of equal versions the earlier one counts. -/
def LatestLengths.note (latest : LatestLengths) (artifact : Artifact) : LatestLengths :=
  match latest with
  | [] => [(artifact.url, artifact.version, artifact.contentLength)]
  | (url, version, length) :: rest =>
    if url = artifact.url then
      if artifact.version > version then
        (url, artifact.version, artifact.contentLength) :: rest
      else (url, version, length) :: rest
    else (url, version, length) :: LatestLengths.note rest artifact

/-- Lengths of the committed artifacts among those of one archival unit: of the latest version
of each URL, and of all versions. -/
def committedSizeTotals (artifacts : List Artifact) : Except Abort (Int64 × Int64) := do
  let committed := artifacts.filter (·.committed)
  let all ← committed.foldlM (fun sum artifact => addLengths sum artifact.contentLength) 0
  let latest := committed.foldl LatestLengths.note []
  let latestSum ← latest.foldlM (fun sum entry => addLengths sum entry.2.2) 0
  return (latestSum, all)

end ArchiveCatalog
