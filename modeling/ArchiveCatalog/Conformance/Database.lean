import ArchiveCatalog.Config.Environment
import ArchiveCatalog.Conformance.Bench

namespace ArchiveCatalog.DatabaseBench

def config (host schema : String) : SqlConfig :=
  { SqlConfig.ofEnvironment [("VELLUM_DB_HOST", host)] with
    searchPath := some schema
    retry := ⟨3, Duration.ofMillis 50⟩ }

/-- Install the schema, start a catalog, stop it, and drop the schema again. Answers whether the
catalog became ready and its state after all, or nothing if the bench cannot be set up. The
catalog closes its connections, so the schema is managed on others. -/
def visit (config : SqlConfig) (server : Sql.Server) : Option (Bool × State) × Sql.Server :=
  let (installed, admin, server) :=
    Sql.Pool.run (Sql.install config.searchPath) (Sql.Pool.new config true, server)
  match installed with
  | .error _ => (none, server)
  | .ok () =>
    let catalog := (Sql.new config).setDataStore (.sized [])
    let ((started, catalog), pool, server) :=
      Sql.Pool.run catalog.start (Sql.Pool.new config true, server)
    match started with
    | .error _ => (none, server)
    | .ok () =>
      let ready := catalog.state.isReady
      let ((_, catalog), _, server) := Sql.Pool.run catalog.stop (pool, server)
      let (_, _, server) := Sql.Pool.run (Sql.drop config.searchPath) (admin, server)
      (some (ready, catalog.state), server)

end ArchiveCatalog.DatabaseBench
