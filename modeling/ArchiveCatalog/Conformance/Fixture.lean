import ArchiveCatalog.Artifact
import ArchiveCatalog.Config

namespace ArchiveCatalog.Fixture

def bytes (text : String) : List UInt8 := Text.encode text.toList

/-- An uncommitted artifact whose digest and storage place are derived from its identifier. -/
def artifactOfLength (uuid : Uuid) (ns auid url : String) (version : Int32) (length : Int64) :
    Artifact :=
  { Artifact.make uuid ns auid url version with
    storageUrl := "file:///warcs/" ++ auid ++ "/" ++ uuid.text ++ ".warc"
    contentLength := length
    contentDigest := contentDigestOf (bytes (uuid.text ++ ":" ++ numeral length.toInt)) }

/-- An uncommitted artifact whose content is a short text on its stem and version. -/
def artifact (uuid : Uuid) (ns auid url : String) (version : Int32) : Artifact :=
  let body := bytes (ns ++ " " ++ auid ++ " " ++ url ++ " v" ++ numeral version.toInt)
  let length := Int64.ofNat body.length
  { artifactOfLength uuid ns auid url version length with contentDigest := contentDigestOf body }

def longUrlBase : List Char := "http://example.com/".toList

/-- The first `count` characters of the letters from `a` to `j`, repeated. -/
def letters (count : Nat) : List Char :=
  (List.range count).map fun i => Char.ofNat ('a'.toNat + i % 10)

/-- A URL of that many characters, or the base alone where it is longer. -/
def longUrl (length : Nat) : String :=
  String.ofList (longUrlBase ++ letters (length - longUrlBase.length))

def localConfig : LocalConfig := ⟨"index", 64⟩

end ArchiveCatalog.Fixture
