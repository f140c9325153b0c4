import ArchiveCatalog.Operation
import ArchiveCatalog.Sql.Pattern

namespace ArchiveCatalog.Sql

/-- The version of the schema that all queries are written for. -/
def schemaVersion : Int32 := 2

inductive Parameter where
  | uuid (value : Uuid)
  | text (value : String)
  | integer (value : Int)
  | bool (value : Bool)
  | instant (value : Instant)
  deriving DecidableEq

inductive Query where
  /-- The installed schema versions, the highest first. -/
  | schemaVersions
  /-- One row, as a sign of life. -/
  | ping
  | insert (artifact : Artifact)
  | byUuid (uuid : Uuid)
  | commit (uuid : Uuid)
  | delete (uuid : Uuid)
  | relocate (uuid : Uuid) (storageUrl : String)
  | latest (ns auid url : String) (includeUncommitted : Bool)
  | version (ns auid url : String) (version : Int32) (includeUncommitted : Bool)
  | namespaces
  | auIds (ns : String)
  | listLatest (ns auid : String) (includeUncommitted : Bool)
  | listAll (ns auid : String) (includeUncommitted : Bool)
  | listUrl (ns auid url : String) (includeUncommitted : Bool)
  | searchLatest (ns auid start : String)
  | searchAll (ns auid start : String)
  | acrossAusByUrl (ns url : String) (selection : VersionSelection)
  | acrossAusByStart (ns start : String) (selection : VersionSelection)
  | sizeTotals (ns auid : String)
  /-- Enter the schema version, unless it is there. -/
  | recordVersion
  deriving DecidableEq

namespace Query

def columns : String :=
  "uuid, namespace, auid, uri, version, committed, storage_url, " ++
    "content_length, content_digest, collection_date"

/-- Rows of one archival unit that are visible; `$3` admits uncommitted ones. -/
def visibleInAu : String :=
  " FROM artifact WHERE namespace = $1 AND auid = $2 AND (committed OR $3) "

/-- Rows of one resource. The digest of the URL is indexed, the URL itself decides. -/
def ofStem : String :=
  " FROM artifact WHERE namespace = $1 AND auid = $2 AND md5(uri) = md5($3::TEXT) AND uri = $3 "

/-- Committed rows of one archival unit by the start of their URL. The key is indexed, the URL
itself decides. -/
def startInAu : String :=
  " FROM artifact WHERE namespace = $1 AND auid = $2 AND committed " ++
    "AND left(uri, 2048) LIKE $4 ESCAPE '\\' AND uri LIKE $3 ESCAPE '\\' "

def ofUrl : String :=
  " FROM artifact WHERE namespace = $1 AND md5(uri) = md5($2::TEXT) AND uri = $2 AND committed "

def startAnywhere : String :=
  " FROM artifact WHERE namespace = $1 AND left(uri, 2048) LIKE $3 ESCAPE '\\' " ++
    "AND uri LIKE $2 ESCAPE '\\' AND committed "

/-- Choose the artifacts of all versions, or of the first of each run of equal `keys`. -/
def choose (keys : String) : VersionSelection → String
  | .all => "SELECT " ++ columns
  | .latest => "SELECT DISTINCT ON (" ++ keys ++ ") " ++ columns

def auOrder : String := "ORDER BY uri, version DESC"

def crossAuOrder : String := "ORDER BY uri, auid, version DESC"

def sizeTotalsText : String := "
SELECT
    COALESCE(SUM(content_length) FILTER (WHERE is_latest), 0)::BIGINT AS total_latest_versions,
    COALESCE(SUM(content_length), 0)::BIGINT AS total_all_versions
FROM (
    SELECT content_length,
           version = MAX(version) OVER (PARTITION BY uri) AS is_latest
    FROM artifact
    WHERE namespace = $1 AND auid = $2 AND committed
) committed_artifacts
"

def recordVersionText : String := "INSERT INTO vellum_schema_version (version)
             SELECT $1::INTEGER
             WHERE NOT EXISTS (SELECT 1 FROM vellum_schema_version WHERE version = $1::INTEGER)"

/-- The text of a query, with numbered places for its parameters. -/
def text : Query → String
  | .schemaVersions => "SELECT version FROM vellum_schema_version ORDER BY version DESC LIMIT 1"
  | .ping => "SELECT 1"
  | .insert _ =>
    "INSERT INTO artifact (" ++ columns ++
      ") VALUES ($1, $2, $3, $4, $5, FALSE, $6, $7, $8, $9) " ++
      "ON CONFLICT (uuid) DO NOTHING RETURNING " ++ columns
  | .byUuid _ => "SELECT " ++ columns ++ " FROM artifact WHERE uuid = $1"
  | .commit _ => "UPDATE artifact SET committed = TRUE WHERE uuid = $1 RETURNING " ++ columns
  | .delete _ => "DELETE FROM artifact WHERE uuid = $1"
  | .relocate .. => "UPDATE artifact SET storage_url = $2 WHERE uuid = $1 RETURNING " ++ columns
  | .latest .. =>
    "SELECT " ++ columns ++ ofStem ++ "AND (committed OR $4) ORDER BY version DESC LIMIT 1"
  | .version .. => "SELECT " ++ columns ++ ofStem ++ "AND version = $4 AND (committed OR $5)"
  | .namespaces => "SELECT DISTINCT namespace FROM artifact ORDER BY namespace"
  | .auIds _ => "SELECT DISTINCT auid FROM artifact WHERE namespace = $1 ORDER BY auid"
  | .listLatest .. => choose "uri" .latest ++ visibleInAu ++ auOrder
  | .listAll .. => choose "uri" .all ++ visibleInAu ++ auOrder
  | .listUrl .. => "SELECT " ++ columns ++ ofStem ++ "AND (committed OR $4) ORDER BY version DESC"
  | .searchLatest .. => choose "uri" .latest ++ startInAu ++ auOrder
  | .searchAll .. => choose "uri" .all ++ startInAu ++ auOrder
  | .acrossAusByUrl _ _ selection => choose "uri, auid" selection ++ ofUrl ++ crossAuOrder
  | .acrossAusByStart _ _ selection => choose "uri, auid" selection ++ startAnywhere ++ crossAuOrder
  | .sizeTotals .. => sizeTotalsText
  | .recordVersion => recordVersionText

def startParameters (start : String) : List Parameter :=
  [.text (String.ofList (Pattern.startsWith start.toList)),
    .text (String.ofList (Pattern.keyStartsWith start.toList))]

def parameters : Query → List Parameter
  | .schemaVersions => []
  | .ping => []
  | .insert artifact =>
    [.uuid artifact.uuid, .text artifact.ns, .text artifact.auid, .text artifact.url,
      .integer artifact.version.toInt, .text artifact.storageUrl,
      .integer artifact.contentLength.toInt, .text artifact.contentDigest,
      .instant artifact.collectionDate]
  | .byUuid uuid => [.uuid uuid]
  | .commit uuid => [.uuid uuid]
  | .delete uuid => [.uuid uuid]
  | .relocate uuid storageUrl => [.uuid uuid, .text storageUrl]
  | .latest ns auid url uncommitted => [.text ns, .text auid, .text url, .bool uncommitted]
  | .version ns auid url number uncommitted =>
    [.text ns, .text auid, .text url, .integer number.toInt, .bool uncommitted]
  | .namespaces => []
  | .auIds ns => [.text ns]
  | .listLatest ns auid uncommitted => [.text ns, .text auid, .bool uncommitted]
  | .listAll ns auid uncommitted => [.text ns, .text auid, .bool uncommitted]
  | .listUrl ns auid url uncommitted => [.text ns, .text auid, .text url, .bool uncommitted]
  | .searchLatest ns auid start => .text ns :: .text auid :: startParameters start
  | .searchAll ns auid start => .text ns :: .text auid :: startParameters start
  | .acrossAusByUrl ns url _ => [.text ns, .text url]
  | .acrossAusByStart ns start _ => .text ns :: startParameters start
  | .sizeTotals ns auid => [.text ns, .text auid]
  | .recordVersion => [.integer schemaVersion.toInt]

end Query

/-- A statement without parameters and without rows. -/
inductive Script where
  | startTransaction
  | commitTransaction
  | createSchema (name : String)
  | createVersionTable
  | createArtifactTable
  | dropSchema (name : String)
  deriving DecidableEq

namespace Script

def versionTableText : String := "
CREATE TABLE IF NOT EXISTS vellum_schema_version (
    version      INTEGER     NOT NULL,
    installed_at TIMESTAMPTZ NOT NULL DEFAULT now()
);
"

/-- The table of artifacts. Texts compare by their bytes, and URLs, which may be longer than an
index entry, are indexed by their digest and by their search key. -/
def artifactTableText : String := "
CREATE TABLE IF NOT EXISTS artifact (
    uuid            UUID        PRIMARY KEY,
    namespace       TEXT        COLLATE \"C\" NOT NULL,
    auid            TEXT        COLLATE \"C\" NOT NULL,
    uri             TEXT        COLLATE \"C\" NOT NULL,
    version         INTEGER     NOT NULL CHECK (version > 0),
    committed       BOOLEAN     NOT NULL DEFAULT FALSE,
    storage_url     TEXT        NOT NULL,
    content_length  BIGINT      NOT NULL CHECK (content_length >= 0),
    content_digest  TEXT        NOT NULL,
    collection_date TIMESTAMPTZ NOT NULL
);

CREATE UNIQUE INDEX IF NOT EXISTS artifact_stem_version
    ON artifact (namespace, auid, md5(uri), version);

CREATE INDEX IF NOT EXISTS artifact_namespace_uri_idx
    ON artifact (namespace, md5(uri));

CREATE INDEX IF NOT EXISTS artifact_au_uri_prefix_idx
    ON artifact (namespace, auid, left(uri, 2048));

CREATE INDEX IF NOT EXISTS artifact_namespace_uri_prefix_idx
    ON artifact (namespace, left(uri, 2048));
"

def text : Script → String
  | .startTransaction => "START TRANSACTION"
  | .commitTransaction => "COMMIT"
  | .createSchema name => "CREATE SCHEMA IF NOT EXISTS " ++ name
  | .createVersionTable => versionTableText
  | .createArtifactTable => artifactTableText
  | .dropSchema name => "DROP SCHEMA IF EXISTS " ++ name ++ " CASCADE"

end Script

end ArchiveCatalog.Sql
