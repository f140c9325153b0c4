import ArchiveCatalog.Proofs.RangeScan

namespace ArchiveCatalog

/-- The highest version of what is wanted, or none if there is nothing. -/
def IsHighest (wanted : Artifact → Prop) : Option Artifact → Prop
  | none => ∀ artifact, ¬wanted artifact
  | some highest => wanted highest ∧ ∀ other, wanted other → other.version ≤ highest.version

namespace Table

variable {table : Table}

/-- What a reader sees of a URL. -/
structure Shows (table : Table) (ns auid url : String) (uncommitted : Bool)
    (artifact : Artifact) : Prop where
  held : table.Holds artifact
  ns : artifact.ns = ns
  auid : artifact.auid = auid
  url : artifact.url = url
  visible : artifact.isVisible uncommitted

theorem Sound.mem_urlAllVersions (sound : table.Sound) {ns auid url : String} {uncommitted : Bool}
    {artifact : Artifact} :
    artifact ∈ table.urlAllVersions ns auid url uncommitted ↔
      table.Shows ns auid url uncommitted artifact := by
  rw [(sound.lists_urlAllVersions ns auid url uncommitted).complete]
  constructor
  · rintro ⟨held, ofNs, ofAuid, ofUrl, visible⟩
    exact ⟨held, ofNs, ofAuid, ofUrl, visible⟩
  · rintro ⟨held, ofNs, ofAuid, ofUrl, visible⟩
    exact ⟨held, ofNs, ofAuid, ofUrl, visible⟩

theorem latest_eq_head? (table : Table) (ns auid url : String) (uncommitted : Bool) :
    table.latest ns auid url uncommitted =
      (table.urlAllVersions ns auid url uncommitted).head? :=
  (List.head?_filter ..).symm

theorem Sound.versions_descend (sound : table.Sound) (ns auid url : String) (uncommitted : Bool) :
    (table.urlAllVersions ns auid url uncommitted).Pairwise fun a b => b.version < a.version := by
  have lists := sound.lists_urlAllVersions ns auid url uncommitted
  refine lists.ordered.imp_of_mem fun {a b} left right order => ?_
  have same : a.url = b.url :=
    (sound.mem_urlAllVersions.1 left).url.trans (sound.mem_urlAllVersions.1 right).url.symm
  rcases order with less | ⟨-, above⟩
  · rw [same] at less
    exact absurd less (List.lt_irrefl _)
  · exact above

theorem Sound.latest_eq_some_iff (sound : table.Sound) {ns auid url : String} {uncommitted : Bool}
    {artifact : Artifact} :
    table.latest ns auid url uncommitted = some artifact ↔
      table.Shows ns auid url uncommitted artifact ∧
        ∀ other, table.Shows ns auid url uncommitted other → other.version ≤ artifact.version := by
  rw [latest_eq_head?, head?_eq_highest_iff (sound.versions_descend ns auid url uncommitted)]
  simp only [sound.mem_urlAllVersions]

theorem Sound.latest_eq_none_iff (sound : table.Sound) {ns auid url : String}
    {uncommitted : Bool} :
    table.latest ns auid url uncommitted = none ↔
      ∀ artifact, ¬table.Shows ns auid url uncommitted artifact := by
  rw [latest_eq_head?, List.head?_eq_none_iff, List.eq_nil_iff_forall_not_mem]
  simp only [sound.mem_urlAllVersions]

theorem Sound.isHighest_latest (sound : table.Sound) (ns auid url : String) (uncommitted : Bool) :
    IsHighest (table.Shows ns auid url uncommitted) (table.latest ns auid url uncommitted) := by
  cases found : table.latest ns auid url uncommitted with
  | none => exact sound.latest_eq_none_iff.1 found
  | some latest => exact sound.latest_eq_some_iff.1 found

/-- The look-up of a version by its position finds what the listing of its URL holds. -/
theorem Sound.version_eq_some_iff (sound : table.Sound) {ns auid url : String} {version : Int32}
    {uncommitted : Bool} {artifact : Artifact} :
    table.version ns auid url version uncommitted = some artifact ↔
      artifact ∈ table.urlAllVersions ns auid url uncommitted ∧ artifact.version = version := by
  rw [sound.mem_urlAllVersions, Table.version, Option.filter_eq_some_iff, Option.bind_eq_some_iff]
  constructor
  · rintro ⟨⟨uuid, held, known⟩, visible⟩
    obtain ⟨other, same, here⟩ := (sound.placed _ _).1 held
    cases known.symm.trans same
    cases here
    exact ⟨⟨⟨uuid, known⟩, rfl, rfl, rfl, visible⟩, rfl⟩
  · rintro ⟨⟨⟨uuid, known⟩, rfl, rfl, rfl, visible⟩, rfl⟩
    exact ⟨⟨uuid, sound.placed_self known, known⟩, visible⟩

/-- Selections of one archival unit are in the order across archival units, too. -/
theorem Sound.ascending_filter (sound : table.Sound) (ns auid : String) {test : Artifact → Bool}
    (within : ∀ artifact, test artifact = true → isIn ns auid artifact = true) :
    Ascending ns (table.inOrder.filter test) where
  within artifact member :=
    (isIn_eq_true_iff.1 (within artifact (List.mem_filter.1 member).2)).1
  ordered := by
    refine (sound.inOrder_ascending.filter test).imp_of_mem fun {a b} left right less => ?_
    have first := within a (List.mem_filter.1 left).2
    have second := within b (List.mem_filter.1 right).2
    have sameAuid : a.auid = b.auid :=
      (isIn_eq_true_iff.1 first).2.trans (isIn_eq_true_iff.1 second).2.symm
    rw [compareAcrossAus_eq_lt_iff]
    exact (order_of_position first second less).imp_right fun ⟨sameUrl, above⟩ =>
      ⟨sameUrl, .inr ⟨sameAuid, above⟩⟩

theorem Sound.ascending_auAllVersions (sound : table.Sound) (ns auid : String)
    (uncommitted : Bool) : Ascending ns (table.auAllVersions ns auid uncommitted) := by
  rw [sound.auAllVersions_eq]
  refine sound.ascending_filter ns auid fun artifact passes => ?_
  rw [Bool.and_eq_true] at passes
  exact passes.2

theorem Sound.auAllVersions_filter (sound : table.Sound) (ns auid url : String)
    (uncommitted : Bool) :
    ((table.auAllVersions ns auid uncommitted).filter fun artifact =>
        artifact.stem = ⟨ns, auid, url⟩) =
      table.urlAllVersions ns auid url uncommitted := by
  rw [sound.auAllVersions_eq, sound.urlAllVersions_eq, List.filter_filter]
  refine List.filter_congr fun artifact _ => ?_
  rw [Bool.eq_iff_iff]
  simp only [Bool.and_eq_true, decide_eq_true_eq, isIn_eq_true_iff, beq_iff_eq, Artifact.stem,
    Stem.mk.injEq]
  tauto

theorem filter_url_eq {ns auid : String} {artifacts : List Artifact}
    (within : ∀ artifact ∈ artifacts, artifact.ns = ns ∧ artifact.auid = auid) (url : String) :
    (artifacts.filter fun artifact => artifact.url == url) =
      artifacts.filter fun artifact => artifact.stem = ⟨ns, auid, url⟩ := by
  refine List.filter_congr fun artifact member => ?_
  obtain ⟨ofNs, ofAuid⟩ := within artifact member
  rw [Bool.eq_iff_iff]
  simp [Artifact.stem, ofNs, ofAuid]

theorem Sound.au_of_mem_auAllVersions (sound : table.Sound) {ns auid : String} {uncommitted : Bool}
    {artifact : Artifact} (member : artifact ∈ table.auAllVersions ns auid uncommitted) :
    artifact.ns = ns ∧ artifact.auid = auid := by
  obtain ⟨-, ofNs, ofAuid, -⟩ :=
    ((sound.lists_auAllVersions ns auid uncommitted).complete artifact).1 member
  exact ⟨ofNs, ofAuid⟩

theorem Sound.au_of_mem_auLatest (sound : table.Sound) {ns auid : String} {uncommitted : Bool}
    {artifact : Artifact} (member : artifact ∈ table.auLatest ns auid uncommitted) :
    artifact.ns = ns ∧ artifact.auid = auid :=
  sound.au_of_mem_auAllVersions ((latestPerStem_sublist _).subset member)

/-- What a listing of latest versions holds of a URL is its latest version, if there is one. -/
theorem Sound.auLatest_filter (sound : table.Sound) (ns auid url : String) (uncommitted : Bool) :
    ((table.auLatest ns auid uncommitted).filter fun artifact => artifact.url == url) =
      (table.latest ns auid url uncommitted).toList := by
  rw [filter_url_eq fun _ => sound.au_of_mem_auLatest, auLatest,
    (sound.ascending_auAllVersions ns auid uncommitted).filter_latestPerStem,
    sound.auAllVersions_filter, List.take_one, latest_eq_head?]

theorem Sound.mem_auLatest (sound : table.Sound) {ns auid : String} {uncommitted : Bool}
    {artifact : Artifact} :
    artifact ∈ table.auLatest ns auid uncommitted ↔
      table.latest ns auid artifact.url uncommitted = some artifact := by
  have ofUrl := sound.auLatest_filter ns auid artifact.url uncommitted
  calc artifact ∈ table.auLatest ns auid uncommitted
      ↔ artifact ∈ (table.auLatest ns auid uncommitted).filter (·.url == artifact.url) := by
        simp [List.mem_filter]
    _ ↔ table.latest ns auid artifact.url uncommitted = some artifact := by
        rw [ofUrl, Option.mem_toList]

theorem Sound.auLatest_ascending (sound : table.Sound) (ns auid : String) (uncommitted : Bool) :
    (table.auLatest ns auid uncommitted).Pairwise fun a b => a.url < b.url := by
  have stems := (sound.ascending_auAllVersions ns auid uncommitted).stems_latestPerStem
  refine stems.imp_of_mem fun {a b} left right less => ?_
  rcases compareStems_eq_lt_iff.1 less with byUrl | ⟨-, byAuid⟩
  · exact byUrl
  · have same : a.auid = b.auid :=
      (sound.au_of_mem_auLatest left).2.trans (sound.au_of_mem_auLatest right).2.symm
    rw [same] at byAuid
    exact absurd byAuid (String.lt_irrefl _)

theorem Sound.startAllVersions_filter (sound : table.Sound) (ns auid start : String) :
    table.startAllVersions ns auid start =
      (table.auAllVersions ns auid false).filter fun artifact => startsWith artifact.url start := by
  rw [sound.startAllVersions_eq, sound.auAllVersions_eq, List.filter_filter]
  refine List.filter_congr fun artifact _ => ?_
  rw [Artifact.isVisible, Bool.or_false, ← Bool.and_assoc, Bool.and_comm]

/-- The URLs that start with a text have the same latest versions in a search for it. -/
theorem Sound.startLatest_eq (sound : table.Sound) (ns auid start : String) :
    table.startLatest ns auid start =
      (table.auLatest ns auid false).filter fun artifact => startsWith artifact.url start := by
  rw [startLatest, sound.startAllVersions_filter, auLatest]
  refine (sound.ascending_auAllVersions ns auid false).latestPerStem_filter fun a b same => ?_
  have url : a.url = b.url := congrArg Stem.url same
  rw [url]

theorem Sound.holds_iff (sound : table.Sound) {artifact : Artifact} :
    table.Holds artifact ↔ table.get? artifact.uuid = some artifact := by
  constructor
  · rintro ⟨uuid, known⟩
    have own : artifact.uuid = uuid := sound.keyed uuid artifact known
    exact own ▸ known
  · exact fun known => ⟨_, known⟩

private theorem Sound.filter_inOrder_eq {other : Table} (sound : table.Sound)
    (soundOther : other.Sound)
    {test testOther : Artifact → Bool}
    (same : ∀ artifact, table.Holds artifact ∧ test artifact = true ↔
      other.Holds artifact ∧ testOther artifact = true) :
    table.inOrder.filter test = other.inOrder.filter testOther := by
  refine eq_of_mem_iff_of_ascending (compareOn Artifact.position)
    (sound.inOrder_ascending.filter test) (soundOther.inOrder_ascending.filter testOther)
    fun artifact => ?_
  rw [List.mem_filter, List.mem_filter, sound.mem_inOrder, soundOther.mem_inOrder]
  exact same artifact

/-- A new artifact is not committed, so that the committed ones stay the same. -/
theorem holds_insert_iff (table : Table) (artifact : Artifact) {other : Artifact}
    (committed : other.committed = true) :
    (table.apply (.insert artifact)).Holds other ↔ table.Holds other := by
  simp only [apply, insert_eq]
  rcases table.restore_cases artifact.uncommitted with
    ⟨holder, -, result⟩ | ⟨-, holder, -, result⟩ | ⟨unknown, -, result⟩
  · rw [result]
    rfl
  · rw [result]
    rfl
  · have fresh : artifact.uncommitted ≠ other := fun same => by
      rw [← same] at committed
      cases committed
    have known (uuid : Uuid) : (table.add artifact.uncommitted).get? uuid = some other ↔
        table.get? uuid = some other := by
      rw [get?_add]
      split
      case isTrue own =>
        subst own
        simp [fresh, unknown]
      case isFalse => rfl
    rw [result]
    exact exists_congr known

private theorem Sound.auAllVersions_insert (sound : table.Sound) (artifact : Artifact)
    (ns auid : String) :
    (table.apply (.insert artifact)).auAllVersions ns auid false =
      table.auAllVersions ns auid false := by
  have next := sound.apply (.insert artifact)
  rw [next.auAllVersions_eq, sound.auAllVersions_eq]
  refine next.filter_inOrder_eq sound fun other => and_congr_left fun passes => ?_
  have visible := ((Bool.and_eq_true _ _).mp passes).1
  have committed : other.committed = true := by simpa [Artifact.isVisible] using visible
  exact table.holds_insert_iff artifact committed

private theorem Sound.urlAllVersions_insert (sound : table.Sound) (artifact : Artifact)
    (ns auid url : String) :
    (table.apply (.insert artifact)).urlAllVersions ns auid url false =
      table.urlAllVersions ns auid url false := by
  rw [← (sound.apply _).auAllVersions_filter, ← sound.auAllVersions_filter,
    sound.auAllVersions_insert]

private theorem Sound.auLatest_insert (sound : table.Sound) (artifact : Artifact)
    (ns auid : String) :
    (table.apply (.insert artifact)).auLatest ns auid false = table.auLatest ns auid false := by
  rw [auLatest, auLatest, sound.auAllVersions_insert]

private theorem Sound.version_insert (sound : table.Sound) (artifact : Artifact)
    (ns auid url : String)
    (version : Int32) :
    (table.apply (.insert artifact)).version ns auid url version false =
      table.version ns auid url version false := by
  refine Option.ext fun other => ?_
  rw [(sound.apply _).version_eq_some_iff, sound.version_eq_some_iff,
    sound.urlAllVersions_insert]

private theorem Sound.holds_remove_iff (sound : table.Sound) {artifact other : Artifact}
    (held : table.Holds artifact) :
    (table.apply (.remove artifact.uuid)).Holds other ↔
      table.Holds other ∧ other ≠ artifact := by
  have known := sound.holds_iff.1 held
  have removed := remove_eq_some_iff.2 ⟨known, rfl⟩
  have after (uuid : Uuid) : (table.apply (.remove artifact.uuid)).get? uuid =
      if artifact.uuid = uuid then none else table.get? uuid := by
    simp only [Table.apply, removed]
    exact OrderedMap.get?_erase ..
  rw [(sound.apply _).holds_iff, sound.holds_iff, after]
  by_cases own : artifact.uuid = other.uuid
  · rw [if_pos own, ← own, known]
    simp [eq_comm]
  · have differ : other ≠ artifact := fun same => own (congrArg Artifact.uuid same.symm)
    simp [own, differ]

private theorem Sound.urlAllVersions_remove (sound : table.Sound) {artifact : Artifact}
    (held : table.Holds artifact) (ns auid url : String) (uncommitted : Bool) :
    (table.apply (.remove artifact.uuid)).urlAllVersions ns auid url uncommitted =
      (table.urlAllVersions ns auid url uncommitted).filter (· != artifact) := by
  have next := sound.apply (.remove artifact.uuid)
  rw [next.urlAllVersions_eq, sound.urlAllVersions_eq, List.filter_filter]
  refine next.filter_inOrder_eq sound fun other => ?_
  rw [sound.holds_remove_iff held, Bool.and_eq_true (other != artifact), bne_iff_ne, and_assoc]

/-- The version after the latest one takes its place when it is removed. -/
theorem Sound.latest_remove (sound : table.Sound) {ns auid url : String} {uncommitted : Bool}
    {artifact : Artifact} (latest : table.latest ns auid url uncommitted = some artifact) :
    (table.apply (.remove artifact.uuid)).latest ns auid url uncommitted =
      (table.urlAllVersions ns auid url uncommitted)[1]? := by
  have held := (sound.latest_eq_some_iff.1 latest).1.held
  rw [latest_eq_head?] at latest ⊢
  rw [sound.urlAllVersions_remove held]
  have descend := sound.versions_descend ns auid url uncommitted
  cases versions : table.urlAllVersions ns auid url uncommitted with
  | nil => simp [versions] at latest
  | cons first rest =>
    rw [versions] at latest descend
    cases latest
    have others : rest.filter (· != artifact) = rest := by
      refine List.filter_eq_self.2 fun other member => bne_iff_ne.2 ?_
      rintro rfl
      exact Int32.lt_irrefl ((List.pairwise_cons.1 descend).1 other member)
    simp [others, List.head?_eq_getElem?]

/-- Latest versions in every table that mutations reach. The latest version of a URL is the highest
one that the reader sees; listings hold it for every URL that has one, each URL once and in the
order of bytes; a search for the start of a URL selects from the listing; and a version is found
by its position exactly if the listing of its URL holds it. What is indexed and not committed
displaces nothing that is, and a latest version that is deleted gives way to the next one. -/
theorem latest_versions_agree (mutations : List Mutation) (ns auid : String) :
    let table := empty.applyAll mutations
    (∀ url uncommitted artifact, table.latest ns auid url uncommitted = some artifact ↔
      table.Shows ns auid url uncommitted artifact ∧
        ∀ other, table.Shows ns auid url uncommitted other → other.version ≤ artifact.version) ∧
    (∀ url uncommitted, table.latest ns auid url uncommitted = none ↔
      ∀ artifact, ¬table.Shows ns auid url uncommitted artifact) ∧
    (∀ uncommitted, (∀ artifact, artifact ∈ table.auLatest ns auid uncommitted ↔
        table.latest ns auid artifact.url uncommitted = some artifact) ∧
      (table.auLatest ns auid uncommitted).Pairwise fun a b =>
        Text.encode a.url.toList < Text.encode b.url.toList) ∧
    (∀ start, table.startLatest ns auid start =
      (table.auLatest ns auid false).filter fun artifact =>
        start.toList.isPrefixOf artifact.url.toList) ∧
    (∀ url version uncommitted artifact,
      table.version ns auid url version uncommitted = some artifact ↔
        artifact ∈ table.urlAllVersions ns auid url uncommitted ∧ artifact.version = version) ∧
    (∀ artifact, let next := table.apply (.insert artifact)
      next.auLatest ns auid false = table.auLatest ns auid false ∧
      ∀ url, next.latest ns auid url false = table.latest ns auid url false ∧
        ∀ version, next.version ns auid url version false =
          table.version ns auid url version false) ∧
    ∀ url uncommitted artifact, table.latest ns auid url uncommitted = some artifact →
      (table.apply (.remove artifact.uuid)).latest ns auid url uncommitted =
        (table.urlAllVersions ns auid url uncommitted)[1]? := by
  intro table
  have sound : table.Sound := sound_empty.applyAll mutations
  refine ⟨fun _ _ _ => sound.latest_eq_some_iff, fun _ _ => sound.latest_eq_none_iff,
    fun uncommitted => ⟨fun _ => sound.mem_auLatest, ?ascending⟩, sound.startLatest_eq ns auid,
    fun _ _ _ _ => sound.version_eq_some_iff,
    fun artifact => ⟨?listed, fun url => ⟨?latest, ?version⟩⟩, fun _ _ _ => sound.latest_remove⟩
  case ascending =>
    exact (sound.auLatest_ascending ns auid uncommitted).imp Text.encode_toList_lt
  case listed => exact sound.auLatest_insert artifact ns auid
  case latest => rw [latest_eq_head?, latest_eq_head?, sound.urlAllVersions_insert]
  case version => exact sound.version_insert artifact ns auid url

/-- Of two versions the higher one is deleted, and the lower one is the latest. -/
theorem latest_versions_agree_of_two_versions :
    let lower := Artifact.make (.ofNat 1) "ns" "au" "http://example.org/" 1
    let higher := Artifact.make (.ofNat 2) "ns" "au" "http://example.org/" 2
    let table := empty.applyAll [.insert lower, .insert higher]
    table.latest "ns" "au" "http://example.org/" true = some higher ∧
      (table.apply (.remove higher.uuid)).latest "ns" "au" "http://example.org/" true =
        some lower := by
  intro lower higher table
  obtain ⟨-, -, -, -, -, -, removal⟩ :=
    latest_versions_agree [.insert lower, .insert higher] "ns" "au"
  have latest : table.latest "ns" "au" "http://example.org/" true = some higher := by decide
  have second : (table.urlAllVersions "ns" "au" "http://example.org/" true)[1]? = some lower := by
    decide
  exact ⟨latest, (removal _ _ _ latest).trans second⟩

end Table

end ArchiveCatalog
