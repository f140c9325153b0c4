namespace ArchiveCatalog

inductive Method where
  | init
  | start
  | stop
  | state
  | waitReady
  | setDataStore
  | health
  | index
  | commit
  | delete
  | relocate
  | find
  | latest
  | version
  | namespaces
  | auIds
  | listLatest
  | listAll
  | listUrl
  | searchLatest
  | searchAll
  | acrossAusByUrl
  | acrossAusByStart
  | auSize
  deriving DecidableEq

namespace Method

def name : Method → String
  | .init => "init"
  | .start => "start"
  | .stop => "stop"
  | .state => "state"
  | .waitReady => "wait_ready"
  | .setDataStore => "set_data_store"
  | .health => "health_check"
  | .index => "index_artifact"
  | .commit => "commit_artifact"
  | .delete => "delete_artifact"
  | .relocate => "update_storage_url"
  | .find => "get_artifact"
  | .latest => "get_latest_artifact"
  | .version => "get_artifact_version"
  | .namespaces => "get_namespaces"
  | .auIds => "get_au_ids"
  | .listLatest => "get_artifacts"
  | .listAll => "get_artifacts_all_versions"
  | .listUrl => "get_artifact_all_versions"
  | .searchLatest => "get_artifacts_with_prefix"
  | .searchAll => "get_artifacts_with_prefix_all_versions"
  | .acrossAusByUrl => "get_artifacts_with_url_from_all_aus"
  | .acrossAusByStart => "get_artifacts_with_url_prefix_from_all_aus"
  | .auSize => "au_size"

def all : List Method :=
  [.init, .start, .stop, .state, .waitReady, .setDataStore, .health, .index, .commit,
    .delete, .relocate, .find, .latest, .version, .namespaces, .auIds, .listLatest,
    .listAll, .listUrl, .searchLatest, .searchAll, .acrossAusByUrl, .acrossAusByStart, .auSize]

def ofName? (name : String) : Option Method := all.find? (·.name == name)

end Method

end ArchiveCatalog
