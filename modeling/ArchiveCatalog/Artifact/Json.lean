import ArchiveCatalog.Artifact
import ArchiveCatalog.Instant.Printer
import ArchiveCatalog.Instant.Reader
import ArchiveCatalog.Json.Printer
import ArchiveCatalog.Json.Reader
import ArchiveCatalog.Json.Record

namespace ArchiveCatalog

def Uuid.ofJson? (value : Json) : Option Uuid := value.string?.bind Uuid.ofText?

def Instant.ofJson? (value : Json) : Option Instant := value.string?.bind Instant.ofText?

namespace Stem

def toJson (stem : Stem) : Json :=
  .record [("namespace", .ofString stem.ns), ("auid", .ofString stem.auid),
    ("url", .ofString stem.url)]

def ofJson? (value : Json) : Option Stem := do
  let [ns, auid, url] ← value.fields? ["namespace", "auid", "url"] | none
  return { ns := ← Json.required? Json.string? ns
           auid := ← Json.required? Json.string? auid
           url := ← Json.required? Json.string? url }

end Stem

namespace ArtifactIdentifier

def toJson (identifier : ArtifactIdentifier) : Json :=
  .record [("uuid", .ofString identifier.uuid.text), ("stem", identifier.stem.toJson),
    ("version", .ofInt identifier.version.toInt)]

def ofJson? (value : Json) : Option ArtifactIdentifier := do
  let [uuid, stem, version] ← value.fields? ["uuid", "stem", "version"] | none
  return { uuid := ← Json.required? Uuid.ofJson? uuid
           stem := ← Json.required? Stem.ofJson? stem
           version := ← Json.required? Json.int32? version }

end ArtifactIdentifier

namespace Artifact

def toJson (artifact : Artifact) : Json :=
  .record [("uuid", .ofString artifact.uuid.text), ("namespace", .ofString artifact.ns),
    ("auid", .ofString artifact.auid), ("url", .ofString artifact.url),
    ("version", .ofInt artifact.version.toInt), ("committed", .bool artifact.committed),
    ("storage_url", .ofString artifact.storageUrl),
    ("content_length", .ofInt artifact.contentLength.toInt),
    ("content_digest", .ofString artifact.contentDigest),
    ("collection_date", .ofString artifact.collectionDate.text)]

def ofJson? (value : Json) : Option Artifact := do
  let [uuid, ns, auid, url, version, committed, storageUrl, contentLength, contentDigest,
    collectionDate] ← value.fields? ["uuid", "namespace", "auid", "url", "version", "committed",
      "storage_url", "content_length", "content_digest", "collection_date"] | none
  return { uuid := ← Json.required? Uuid.ofJson? uuid
           ns := ← Json.required? Json.string? ns
           auid := ← Json.required? Json.string? auid
           url := ← Json.required? Json.string? url
           version := ← Json.required? Json.int32? version
           committed := ← Json.required? Json.bool? committed
           storageUrl := ← Json.required? Json.string? storageUrl
           contentLength := ← Json.required? Json.int64? contentLength
           contentDigest := ← Json.required? Json.string? contentDigest
           collectionDate := ← Json.required? Instant.ofJson? collectionDate }

end Artifact

namespace VersionSelection

def name : VersionSelection → String
  | .all => "All"
  | .latest => "Latest"

def ofName? (name : String) : Option VersionSelection :=
  if name = "All" then some .all else if name = "Latest" then some .latest else none

def toJson (selection : VersionSelection) : Json := .ofString selection.name

def ofJson? (value : Json) : Option VersionSelection := value.choice?.bind ofName?

end VersionSelection

namespace AuSize

def toJson (size : AuSize) : Json :=
  .record [("total_latest_versions", .ofInt size.totalLatestVersions.toInt),
    ("total_all_versions", .ofInt size.totalAllVersions.toInt),
    ("total_warc_size", .ofInt size.totalWarcSize.toInt)]

def ofJson? (value : Json) : Option AuSize := do
  let [latest, all, warc] ← value.fields?
    ["total_latest_versions", "total_all_versions", "total_warc_size"] | none
  return { totalLatestVersions := ← Json.required? Json.int64? latest
           totalAllVersions := ← Json.required? Json.int64? all
           totalWarcSize := ← Json.required? Json.int64? warc }

end AuSize

end ArchiveCatalog
