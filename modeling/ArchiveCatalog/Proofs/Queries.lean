import ArchiveCatalog.Proofs.CallInvariants
import ArchiveCatalog.Proofs.LatestVersions

namespace ArchiveCatalog

/-- Whether an operation asks for artifacts of one archival unit, or what units there are. -/
def Operation.isQuery : Operation → Bool
  | .latest .. | .version .. | .namespaces | .auIds _ | .listLatest .. | .listAll .. | .listUrl ..
  | .searchLatest .. | .searchAll .. => true
  | _ => false

namespace Table

/-- A list holds exactly the wanted names, in the order of their bytes. -/
structure ListsNames (wanted : String → Prop) (names : List String) : Prop where
  complete : ∀ name, name ∈ names ↔ wanted name
  ordered : names.Pairwise fun a b => Text.encode a.toList < Text.encode b.toList

/-- A list holds exactly the highest version that a reader sees of each wanted URL of an archival
unit, in the order of the bytes of the URL. -/
structure ListsLatest (table : Table) (ns auid : String) (uncommitted : Bool)
    (wanted : String → Prop) (listed : List Artifact) : Prop where
  complete : ∀ artifact, artifact ∈ listed ↔ wanted artifact.url ∧
    IsHighest (table.Shows ns auid artifact.url uncommitted) (some artifact)
  ordered : listed.Pairwise fun a b => Text.encode a.url.toList < Text.encode b.url.toList

/-- What a table tells in answer to a query. -/
inductive Tells (table : Table) : (query : Operation) → query.Answer → Prop where
  | latest (highest : IsHighest (table.Shows ns auid url uncommitted) found) :
      Tells table (.latest ns auid url uncommitted) found
  | version (exact : ∀ artifact, found = some artifact ↔
        table.Shows ns auid url uncommitted artifact ∧ artifact.version = number) :
      Tells table (.version ns auid url number uncommitted) found
  | namespaces (lists : ListsNames (fun ns => ∃ artifact, table.Holds artifact ∧ artifact.ns = ns)
        names) :
      Tells table .namespaces names
  | auIds (lists : ListsNames
        (fun auid => ∃ artifact, table.Holds artifact ∧ artifact.ns = ns ∧ artifact.auid = auid)
        names) :
      Tells table (.auIds ns) names
  | listLatest (lists : table.ListsLatest ns auid uncommitted (fun _ => True) listed) :
      Tells table (.listLatest ns auid uncommitted) listed
  | listAll (lists : table.Lists
        (fun artifact => artifact.ns = ns ∧ artifact.auid = auid ∧ artifact.isVisible uncommitted)
        ListedBefore listed) :
      Tells table (.listAll ns auid uncommitted) listed
  | listUrl (lists : table.Lists
        (fun artifact => artifact.ns = ns ∧ artifact.auid = auid ∧ artifact.url = url ∧
          artifact.isVisible uncommitted)
        ListedBefore listed) :
      Tells table (.listUrl ns auid url uncommitted) listed
  | searchLatest (lists : table.ListsLatest ns auid false (start.toList <+: ·.toList) listed) :
      Tells table (.searchLatest ns auid start) listed
  | searchAll (lists : table.Lists
        (fun artifact => artifact.ns = ns ∧ artifact.auid = auid ∧
          start.toList <+: artifact.url.toList ∧ artifact.committed)
        ListedBefore listed) :
      Tells table (.searchAll ns auid start) listed

variable {table : Table}

private theorem Sound.listsNames_namespaces (sound : table.Sound) :
    ListsNames (fun ns => ∃ artifact, table.Holds artifact ∧ artifact.ns = ns)
      table.namespaces where
  complete ns := by
    rw [sound.mem_namespaces, exists_comm]
    simp only [Holds, exists_and_right]
  ordered := table.namespaces_ascending.imp Text.encode_toList_lt

private theorem Sound.listsNames_auIds (sound : table.Sound) (ns : String) :
    ListsNames
      (fun auid => ∃ artifact, table.Holds artifact ∧ artifact.ns = ns ∧ artifact.auid = auid)
      (table.auIds ns) where
  complete auid := by
    rw [sound.mem_auIds, exists_comm]
    simp only [Holds, exists_and_right]
  ordered := (table.auIds_ascending ns).imp Text.encode_toList_lt

private theorem Sound.listsLatest_auLatest (sound : table.Sound) (ns auid : String)
    (uncommitted : Bool) {wanted : String → Prop} {test : String → Bool}
    (decides : ∀ url, test url = true ↔ wanted url) :
    table.ListsLatest ns auid uncommitted wanted
      ((table.auLatest ns auid uncommitted).filter fun artifact => test artifact.url) where
  complete artifact := by
    rw [List.mem_filter, sound.mem_auLatest, sound.latest_eq_some_iff, decides, and_comm]
    rfl
  ordered :=
    ((sound.auLatest_ascending ns auid uncommitted).imp Text.encode_toList_lt).filter _

theorem Sound.tells (sound : table.Sound) (store : Option DataStore) {operation : Operation}
    (query : operation.isQuery = true) :
    ∃ answer, table.perform store operation = (.ok answer, table) ∧
      table.Tells operation answer := by
  cases operation with
  | latest ns auid url uncommitted =>
    exact ⟨_, rfl, .latest (sound.isHighest_latest ns auid url uncommitted)⟩
  | version ns auid url number uncommitted =>
    refine ⟨_, rfl, .version fun artifact => ?_⟩
    rw [sound.version_eq_some_iff, sound.mem_urlAllVersions]
  | namespaces => exact ⟨_, rfl, .namespaces sound.listsNames_namespaces⟩
  | auIds ns => exact ⟨_, rfl, .auIds (sound.listsNames_auIds ns)⟩
  | listLatest ns auid uncommitted =>
    have all (_ : String) : true = true ↔ True := iff_of_true rfl trivial
    have lists := sound.listsLatest_auLatest ns auid uncommitted all
    rw [List.filter_true] at lists
    exact ⟨_, rfl, .listLatest lists⟩
  | listAll ns auid uncommitted =>
    exact ⟨_, rfl, .listAll (sound.lists_auAllVersions ns auid uncommitted)⟩
  | listUrl ns auid url uncommitted =>
    exact ⟨_, rfl, .listUrl (sound.lists_urlAllVersions ns auid url uncommitted)⟩
  | searchLatest ns auid start =>
    have begins (url : String) : startsWith url start = true ↔ start.toList <+: url.toList :=
      startsWith_iff
    have lists := sound.listsLatest_auLatest ns auid false begins
    rw [← sound.startLatest_eq] at lists
    exact ⟨_, rfl, .searchLatest lists⟩
  | searchAll ns auid start =>
    exact ⟨_, rfl, .searchAll (sound.lists_startAllVersions ns auid start)⟩
  | _ => cases query

end Table

namespace Volatile

/-- A ready catalog answers what changes no table, if there is no mistake in the arguments. -/
theorem run_of_answer {catalog : Volatile} {operation : Operation} {answer : operation.Answer}
    (ready : catalog.state = .ready)
    (faultless : ∀ argument ∈ operation.arguments, argument.mistake? = none)
    (answered : catalog.table.perform catalog.dataStore operation = (.ok answer, catalog.table)) :
    catalog.run operation = (.ok answer, catalog) := by
  rw [run_of_accepted operation ready (Operation.accepted_iff.2 faultless), answered]

/-- Queries of every ready catalog that calls lead to. One without a mistake in its arguments is
answered, and the answer is what there is to tell; any other reports its first mistake. No query
changes the catalog. -/
theorem queries_told (calls : List CatalogCall) (ready : (new.after calls).state = .ready)
    {operation : Operation} (query : operation.isQuery = true) :
    let catalog := new.after calls
    (∃ mistake, Argument.firstMistake? operation.arguments = some mistake ∧
      catalog.run operation = (.refuse (.validation mistake), catalog)) ∨
    (Argument.firstMistake? operation.arguments = none ∧
      ∃ answer, catalog.run operation = (.ok answer, catalog) ∧
        catalog.table.Tells operation answer) := by
  intro catalog
  have sound : catalog.table.Sound := sound_after Table.sound_empty calls
  cases first : Argument.firstMistake? operation.arguments with
  | some mistake =>
    have refused : operation.checkArguments = .error mistake := by
      rw [operation.checkArguments_eq, first, Argument.report]
    exact .inl ⟨mistake, rfl, run_of_refused operation ready refused⟩
  | none =>
    obtain ⟨answer, told, tells⟩ := sound.tells catalog.dataStore query
    have faultless : ∀ argument ∈ operation.arguments, argument.mistake? = none :=
      List.findSome?_eq_none_iff.1 first
    exact .inr ⟨rfl, answer, run_of_answer ready faultless told, tells⟩

end Volatile

end ArchiveCatalog
