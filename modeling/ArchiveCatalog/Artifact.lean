import ArchiveCatalog.Error
import ArchiveCatalog.Instant.Basic
import ArchiveCatalog.Sha256
import ArchiveCatalog.Text.Utf8

namespace ArchiveCatalog

/-- A resource: its namespace, its archival unit and its URL. -/
structure Stem where
  ns : String
  auid : String
  url : String
  deriving DecidableEq, Inhabited

namespace Stem

instance : Ord Stem :=
  ⟨fun a b => (compare a.ns b.ns).then ((compare a.auid b.auid).then (compare a.url b.url))⟩

def text (stem : Stem) : String := stem.ns ++ "/" ++ stem.auid ++ "/" ++ stem.url

end Stem

/-- One version of a resource, and where its content is stored. -/
structure Artifact where
  uuid : Uuid
  ns : String
  auid : String
  url : String
  version : Int32
  /-- Whether the artifact is permanent and visible to all readers. -/
  committed : Bool
  storageUrl : String
  contentLength : Int64
  contentDigest : String
  collectionDate : Instant
  deriving DecidableEq, Inhabited

structure ArtifactIdentifier where
  uuid : Uuid
  stem : Stem
  version : Int32
  deriving DecidableEq

inductive VersionSelection where
  | all
  | latest
  deriving DecidableEq

structure AuSize where
  totalLatestVersions : Int64
  totalAllVersions : Int64
  totalWarcSize : Int64
  deriving DecidableEq

def AuSize.zero : AuSize := ⟨0, 0, 0⟩

def requireUuid (uuid : Uuid) : Except ValidationError Unit :=
  if uuid.isNil then .error (.requiredFieldMissing "uuid") else .ok ()

def requireNonEmpty (field value : String) : Except ValidationError Unit :=
  if value.isEmpty then .error (.requiredFieldMissing field) else .ok ()

def contentDigestOf (content : List UInt8) : String :=
  "SHA-256:" ++ String.ofList (Sha256.hexDigest content)

namespace Artifact

/-- An uncommitted artifact without content. -/
def make (uuid : Uuid) (ns auid url : String) (version : Int32) : Artifact :=
  ⟨uuid, ns, auid, url, version, false, "", 0, "", Instant.epoch⟩

def stem (artifact : Artifact) : Stem := ⟨artifact.ns, artifact.auid, artifact.url⟩

def identifier (artifact : Artifact) : ArtifactIdentifier :=
  ⟨artifact.uuid, artifact.stem, artifact.version⟩

def sameStem (a b : Artifact) : Bool :=
  a.ns == b.ns && a.auid == b.auid && a.url == b.url

def isVisible (artifact : Artifact) (includeUncommitted : Bool) : Bool :=
  artifact.committed || includeUncommitted

/-- Accept an artifact that can be catalogued: it is identified and located, its version is
positive and its length is not negative. The first rule that is broken is reported. -/
def validate (artifact : Artifact) : Except ValidationError Unit := do
  requireUuid artifact.uuid
  requireNonEmpty "namespace" artifact.ns
  requireNonEmpty "auid" artifact.auid
  requireNonEmpty "url" artifact.url
  if artifact.version < 1 then
    throw (.invalidValue "version"
      ("version must be positive, got " ++ numeral artifact.version.toInt))
  if artifact.contentLength < 0 then
    throw (.invalidValue "content_length"
      ("content_length must be non-negative, got " ++ numeral artifact.contentLength.toInt))

end Artifact

end ArchiveCatalog
