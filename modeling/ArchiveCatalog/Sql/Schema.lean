import ArchiveCatalog.Sql.Program

namespace ArchiveCatalog.Sql

def undefinedTable : String := "42P01"

/-- Read the highest installed version; a row without one cannot be read at all. -/
def versionOf (reply : Reply) : Except AttemptError (Option Int32) :=
  match reply.atMostOne with
  | .error error => .error (.statement error)
  | .ok none => .ok none
  | .ok (some row) =>
    match row.read 0 Cell.int32? with
    | .ok version => .ok (some version)
    | .error _ => .error (.other (.aborted (.unreadableColumn 0)))

/-- The installed version of the schema; none where the table of versions is missing or empty. -/
def installedVersion : Attempt (Option Int32) :=
  Attempt.connected (.ask (.query .schemaVersions) fun
    | .ok reply => .done (versionOf reply)
    | .error (.refused code text constraint) =>
      if code = undefinedTable then Attempt.ok none
      else Attempt.fail (.statement (.refused code text constraint))
    | .error error => Attempt.fail (.statement error))

/-- Install the schema in one transaction, in the schema of the search path if there is one. A
transaction that fails is abandoned. -/
def install (searchPath : Option String) : Attempt Unit :=
  let creation := match searchPath with
    | some name => [Script.createSchema name]
    | none => []
  let tables := creation ++ [.createVersionTable, .createArtifactTable]
  Attempt.connected
    ((Attempt.scripts (.startTransaction :: tables)).andThen fun _ =>
      (Attempt.query .recordVersion fun _ => .ok ()).andThen fun _ =>
        Attempt.scripts [.commitTransaction])

/-- Drop the schema of the search path with everything in it; without a search path there is
nothing to drop. -/
def drop (searchPath : Option String) : Attempt Unit :=
  match searchPath with
  | none => Attempt.ok ()
  | some name => Attempt.connected (Attempt.scripts [.dropSchema name])

end ArchiveCatalog.Sql
