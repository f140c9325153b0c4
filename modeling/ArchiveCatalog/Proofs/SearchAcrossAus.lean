import ArchiveCatalog.Proofs.Queries
import Mathlib.Data.List.Nodup

namespace ArchiveCatalog

namespace Table

variable {table : Table}

/-- The order of searches across archival units, strictly: by the bytes of the URL, then by the
bytes of the archival unit, and the highest version first. -/
def SearchedBefore (first second : Artifact) : Prop :=
  Text.encode first.url.toList < Text.encode second.url.toList ∨ first.url = second.url ∧
    (Text.encode first.auid.toList < Text.encode second.auid.toList ∨
      first.auid = second.auid ∧ second.version < first.version)

/-- The order of stems in such searches, strictly. -/
def StemBefore (first second : Artifact) : Prop :=
  Text.encode first.url.toList < Text.encode second.url.toList ∨ first.url = second.url ∧
    Text.encode first.auid.toList < Text.encode second.auid.toList

/-- In a namespace only one artifact has a URL, an archival unit and a version. -/
theorem position_eq_of_tie {first second : Artifact} (sameNs : first.ns = second.ns)
    (tie : compareAcrossAus first second = .eq) : first.position = second.position := by
  simp only [compareAcrossAus, Ordering.then_eq_eq, Std.LawfulEqOrd.compare_eq_iff_eq] at tie
  obtain ⟨url, auid, version⟩ := tie
  simp only [Artifact.position, sameNs, auid, url, version]

private theorem Sound.acrossAus_perm (sound : table.Sound) (ns : String) (wanted : String → Bool) :
    (table.acrossAus ns wanted .all).Perm (table.inOrder.filter fun artifact =>
      (artifact.committed && wanted artifact.url) && artifact.ns == ns) := by
  rw [acrossAus, selectVersions, sound.namespaceRange_eq, List.filter_filter]
  exact perm_sortArtifacts compareAcrossAus _

theorem Sound.mem_acrossAus (sound : table.Sound) {ns : String} {wanted : String → Bool}
    {artifact : Artifact} :
    artifact ∈ table.acrossAus ns wanted .all ↔ table.Holds artifact ∧
      artifact.ns = ns ∧ wanted artifact.url = true ∧ artifact.committed = true := by
  rw [(sound.acrossAus_perm ns wanted).mem_iff, List.mem_filter, sound.mem_inOrder]
  simp only [Bool.and_eq_true, beq_iff_eq]
  tauto

theorem Sound.ascending_acrossAus (sound : table.Sound) (ns : String) (wanted : String → Bool) :
    Ascending ns (table.acrossAus ns wanted .all) where
  within artifact member := (sound.mem_acrossAus.1 member).2.1
  ordered := by
    rw [acrossAus, selectVersions, sound.namespaceRange_eq, List.filter_filter]
    refine ascending_sortArtifacts ?_
    refine (sound.inOrder_ascending.filter _).imp_of_mem fun {a b} left right less tie => ?_
    have inNs {artifact : Artifact} (member : artifact ∈ table.inOrder.filter fun artifact =>
        (artifact.committed && wanted artifact.url) && artifact.ns == ns) :
        artifact.ns = ns := by
      have passes := (List.mem_filter.1 member).2
      simp only [Bool.and_eq_true, beq_iff_eq] at passes
      exact passes.2
    rw [position_eq_of_tie ((inNs left).trans (inNs right).symm) tie] at less
    simp at less

/-- What a search finds of one stem are its committed versions, if its URL is wanted. -/
theorem Sound.acrossAus_filter (sound : table.Sound) (ns auid url : String)
    {wanted : String → Bool} (want : wanted url = true) :
    ((table.acrossAus ns wanted .all).filter fun artifact =>
        artifact.stem = ⟨ns, auid, url⟩) =
      table.urlAllVersions ns auid url false := by
  have ascending := (sound.ascending_acrossAus ns wanted).ordered.filter fun artifact =>
    artifact.stem = ⟨ns, auid, url⟩
  have versions : Ascending ns (table.urlAllVersions ns auid url false) := by
    rw [← sound.auAllVersions_filter]
    exact (sound.ascending_auAllVersions ns auid false).sublist List.filter_sublist
  refine eq_of_mem_iff_of_ascending compareAcrossAus ascending versions.ordered fun artifact => ?_
  rw [List.mem_filter, sound.mem_acrossAus, sound.mem_urlAllVersions, decide_eq_true_eq,
    Artifact.stem, Stem.mk.injEq]
  constructor
  · rintro ⟨⟨held, -, -, committed⟩, ofNs, ofAuid, ofUrl⟩
    exact ⟨held, ofNs, ofAuid, ofUrl, by simp [Artifact.isVisible, committed]⟩
  · rintro ⟨held, ofNs, ofAuid, ofUrl, visible⟩
    have committed : artifact.committed = true := by simpa [Artifact.isVisible] using visible
    exact ⟨⟨held, ofNs, ofUrl ▸ want, committed⟩, ofNs, ofAuid, ofUrl⟩

theorem Sound.mem_acrossAus_latest (sound : table.Sound) {ns : String} {wanted : String → Bool}
    {artifact : Artifact} :
    artifact ∈ table.acrossAus ns wanted .latest ↔ wanted artifact.url = true ∧
      table.latest ns artifact.auid artifact.url false = some artifact := by
  have ascending := sound.ascending_acrossAus ns wanted
  have ofStem (want : wanted artifact.url = true) (ofNs : artifact.ns = ns) :
      artifact ∈ table.acrossAus ns wanted .latest ↔
        table.latest ns artifact.auid artifact.url false = some artifact := by
    have stem : artifact.stem = ⟨ns, artifact.auid, artifact.url⟩ := by rw [Artifact.stem, ofNs]
    change artifact ∈ latestPerStem (table.acrossAus ns wanted .all) ↔ _
    rw [ascending.mem_latestPerStem, stem,
      sound.acrossAus_filter ns artifact.auid artifact.url want, ← latest_eq_head?]
  constructor
  · intro member
    have listed := sound.mem_acrossAus.1 ((latestPerStem_sublist _).subset member)
    exact ⟨listed.2.2.1, (ofStem listed.2.2.1 listed.2.1).1 member⟩
  · rintro ⟨want, found⟩
    exact (ofStem want (sound.latest_eq_some_iff.1 found).1.ns).2 found

private theorem Sound.lists_acrossAus (sound : table.Sound) (ns : String) {wanted : String → Prop}
    {test : String → Bool} (decides : ∀ url, test url = true ↔ wanted url) :
    table.Lists
      (fun artifact => artifact.ns = ns ∧ wanted artifact.url ∧ artifact.committed)
      SearchedBefore (table.acrossAus ns test .all) := by
  have ascending := (sound.ascending_acrossAus ns test).ordered
  refine ⟨fun artifact => ?_, nodup_of_ascending ascending, ascending.imp fun less => ?_⟩
  · rw [sound.mem_acrossAus, decides]
  · have order := compareAcrossAus_eq_lt_iff.1 less
    exact order.imp Text.encode_toList_lt (And.imp_right (Or.imp_left Text.encode_toList_lt))

private theorem Sound.stems_acrossAus (sound : table.Sound) (ns : String) (wanted : String → Bool) :
    (table.acrossAus ns wanted .latest).Pairwise StemBefore := by
  refine (sound.ascending_acrossAus ns wanted).stems_latestPerStem.imp fun less => ?_
  exact (compareStems_eq_lt_iff.1 less).imp Text.encode_toList_lt
    (And.imp_right Text.encode_toList_lt)

private theorem Sound.acrossAus_covers (sound : table.Sound) {ns : String} {wanted : String → Bool}
    {artifact : Artifact} (held : table.Holds artifact) (ofNs : artifact.ns = ns)
    (want : wanted artifact.url = true) (committed : artifact.committed = true) :
    ∃ latest ∈ table.acrossAus ns wanted .latest,
      latest.auid = artifact.auid ∧ latest.url = artifact.url := by
  have shown : table.Shows ns artifact.auid artifact.url false artifact :=
    ⟨held, ofNs, rfl, rfl, by simp [Artifact.isVisible, committed]⟩
  cases found : table.latest ns artifact.auid artifact.url false with
  | none => exact absurd shown (sound.latest_eq_none_iff.1 found artifact)
  | some latest =>
    obtain ⟨own, -⟩ := sound.latest_eq_some_iff.1 found
    refine ⟨latest, sound.mem_acrossAus_latest.2 ⟨?_, ?_⟩, own.auid, own.url⟩
    · rw [own.url, want]
    · rw [own.auid, own.url, found]

/-- What is found in a namespace is found in one of its archival units each, and only there. -/
theorem Sound.perm_flatMap_auIds (sound : table.Sound) {ns : String} {found : List Artifact}
    {within : String → List Artifact} (once : found.Nodup) (each : ∀ auid, (within auid).Nodup)
    (held : ∀ artifact ∈ found, table.Holds artifact ∧ artifact.ns = ns)
    (own : ∀ auid, ∀ artifact ∈ within auid, artifact.auid = auid)
    (same : ∀ artifact, artifact ∈ found ↔ artifact ∈ within artifact.auid) :
    found.Perm ((table.auIds ns).flatMap within) := by
  have apart : (table.auIds ns).Pairwise fun first second =>
      (within first).Disjoint (within second) := by
    refine (table.auIds_ascending ns).imp fun {first second} less artifact left right => ?_
    rw [← own first artifact left, ← own second artifact right] at less
    exact String.lt_irrefl _ less
  have distinct : ((table.auIds ns).flatMap within).Nodup :=
    List.nodup_flatMap.2 ⟨fun auid _ => each auid, apart⟩
  refine (List.perm_ext_iff_of_nodup once distinct).2 fun artifact => ?_
  rw [List.mem_flatMap]
  constructor
  · intro member
    obtain ⟨⟨uuid, known⟩, ofNs⟩ := held artifact member
    exact ⟨artifact.auid, sound.mem_auIds.2 ⟨uuid, artifact, known, ofNs, rfl⟩,
      (same artifact).1 member⟩
  · rintro ⟨auid, -, member⟩
    rw [same, own auid artifact member]
    exact member

private theorem Sound.acrossAus_perm_auAllVersions (sound : table.Sound) (ns : String)
    (wanted : String → Bool) :
    (table.acrossAus ns wanted .all).Perm ((table.auIds ns).flatMap fun auid =>
      (table.auAllVersions ns auid false).filter fun artifact => wanted artifact.url) := by
  refine sound.perm_flatMap_auIds (nodup_of_ascending (sound.ascending_acrossAus ns wanted).ordered)
    (fun auid => (sound.lists_auAllVersions ns auid false).once.filter _) ?held ?own ?same
  case held =>
    intro artifact member
    exact (sound.mem_acrossAus.1 member).imp_right And.left
  case own =>
    intro auid artifact member
    exact (sound.au_of_mem_auAllVersions (List.mem_of_mem_filter member)).2
  case same =>
    intro artifact
    rw [sound.mem_acrossAus, List.mem_filter,
      (sound.lists_auAllVersions ns artifact.auid false).complete]
    simp only [Artifact.isVisible, Bool.or_false]
    tauto

private theorem Sound.acrossAus_perm_auLatest (sound : table.Sound) (ns : String)
    (wanted : String → Bool) :
    (table.acrossAus ns wanted .latest).Perm ((table.auIds ns).flatMap fun auid =>
      (table.auLatest ns auid false).filter fun artifact => wanted artifact.url) := by
  have kept : (table.acrossAus ns wanted .latest).Sublist (table.acrossAus ns wanted .all) :=
    latestPerStem_sublist _
  refine sound.perm_flatMap_auIds
    ((nodup_of_ascending (sound.ascending_acrossAus ns wanted).ordered).sublist kept)
    (fun auid => ((sound.lists_auAllVersions ns auid false).once.sublist
      (latestPerStem_sublist _)).filter _) ?held ?own ?same
  case held =>
    intro artifact member
    exact (sound.mem_acrossAus.1 (kept.subset member)).imp_right And.left
  case own =>
    intro auid artifact member
    exact (sound.au_of_mem_auLatest (List.mem_of_mem_filter member)).2
  case same =>
    intro artifact
    rw [sound.mem_acrossAus_latest, List.mem_filter, sound.mem_auLatest, and_comm]

private theorem Sound.acrossAus_perm_url (sound : table.Sound) (ns url : String) :
    (table.acrossAus ns (· == url) .all).Perm ((table.auIds ns).flatMap fun auid =>
      table.urlAllVersions ns auid url false) := by
  have versions (auid : String) : table.urlAllVersions ns auid url false =
      (table.auAllVersions ns auid false).filter fun artifact => artifact.url == url := by
    rw [filter_url_eq fun _ => sound.au_of_mem_auAllVersions, sound.auAllVersions_filter]
  simp only [versions]
  exact sound.acrossAus_perm_auAllVersions ns (· == url)

private theorem Sound.acrossAus_perm_latest (sound : table.Sound) (ns url : String) :
    (table.acrossAus ns (· == url) .latest).Perm ((table.auIds ns).flatMap fun auid =>
      (table.latest ns auid url false).toList) := by
  simp only [← sound.auLatest_filter]
  exact sound.acrossAus_perm_auLatest ns (· == url)

private theorem Sound.acrossAus_perm_start (sound : table.Sound) (ns start : String) :
    (table.acrossAus ns (startsWith · start) .all).Perm ((table.auIds ns).flatMap fun auid =>
      table.startAllVersions ns auid start) := by
  simp only [sound.startAllVersions_filter]
  exact sound.acrossAus_perm_auAllVersions ns (startsWith · start)

private theorem Sound.acrossAus_perm_startLatest (sound : table.Sound) (ns start : String) :
    (table.acrossAus ns (startsWith · start) .latest).Perm ((table.auIds ns).flatMap fun auid =>
      table.startLatest ns auid start) := by
  simp only [sound.startLatest_eq]
  exact sound.acrossAus_perm_auLatest ns (startsWith · start)

end Table

namespace Volatile

/-- The latest one of each wanted URL in each archival unit of a namespace: what a look-up of it
answers, for everything that is wanted. -/
structure FindsLatest (catalog : Volatile) (ns : String) (wanted : String → Prop)
    (found : List Artifact) : Prop where
  latest : ∀ artifact, artifact ∈ found ↔ wanted artifact.url ∧
    (catalog.run (.latest ns artifact.auid artifact.url false)).1 = .ok (some artifact)
  covers : ∀ artifact, catalog.table.Holds artifact → artifact.ns = ns → wanted artifact.url →
    artifact.committed →
      ∃ latest ∈ found, latest.auid = artifact.auid ∧ latest.url = artifact.url
  ordered : found.Pairwise Table.StemBefore

/-- What a search of a namespace is to find of the wanted URLs. -/
def Finds (catalog : Volatile) (ns : String) (wanted : String → Prop) :
    VersionSelection → List Artifact → Prop
  | .all, found => catalog.table.Lists
    (fun artifact => artifact.ns = ns ∧ wanted artifact.url ∧ artifact.committed)
    Table.SearchedBefore found
  | .latest, found => catalog.FindsLatest ns wanted found

/-- A list holds what is answered of the archival units of a namespace, taken together. -/
def Collects (catalog : Volatile) (ns : String) (within : String → Outcome (List Artifact))
    (found : List Artifact) : Prop :=
  ∃ aus parts, (catalog.run (.auIds ns)).1 = .ok aus ∧
    (∀ auid ∈ aus, within auid = .ok (parts auid)) ∧ found.Perm (aus.flatMap parts)

/-- What is answered of one archival unit to a query for a URL. -/
def ofUrl (catalog : Volatile) (ns url : String) :
    VersionSelection → String → Outcome (List Artifact)
  | .all, auid => (catalog.run (.listUrl ns auid url false)).1
  | .latest, auid => (catalog.run (.latest ns auid url false)).1.map Option.toList

/-- What is answered of one archival unit to a query for the start of a URL. -/
def ofStart (catalog : Volatile) (ns start : String) :
    VersionSelection → String → Outcome (List Artifact)
  | .all, auid => (catalog.run (.searchAll ns auid start)).1
  | .latest, auid => (catalog.run (.searchLatest ns auid start)).1

section Search

variable {catalog : Volatile} {ns : String} (ready : catalog.state = .ready)
  (sound : catalog.table.Sound) (placed : catalog.live.Placed) (named : ns ≠ "")
include ready named

private theorem run_latest {auid url : String} (unit : auid ≠ "") (given : url ≠ "") :
    (catalog.run (.latest ns auid url false)).1 = .ok (catalog.table.latest ns auid url false) := by
  rw [run_of_answer ready _ rfl]
  simp [Operation.arguments, Argument.faultless_text, named, unit, given]

theorem run_auIds : (catalog.run (.auIds ns)).1 = .ok (catalog.table.auIds ns) := by
  rw [run_of_answer ready _ rfl]
  simp [Operation.arguments, Argument.faultless_text, named]

include sound placed

/-- A look-up finds what the table has of the stem of an artifact, even of a stem that is not named
in full: no artifact has such a stem. -/
theorem run_latest_iff {artifact : Artifact} (given : artifact.url ≠ "") :
    (catalog.run (.latest ns artifact.auid artifact.url false)).1 = .ok (some artifact) ↔
      catalog.table.latest ns artifact.auid artifact.url false = some artifact := by
  by_cases unit : artifact.auid = ""
  · have refused : (Operation.latest ns artifact.auid artifact.url false).checkArguments =
        .error (.requiredFieldMissing "auid") := by
      rw [Operation.checkArguments_eq]
      simp [Operation.arguments, Argument.firstMistake?, Argument.mistake?, named, unit,
        Argument.report]
    rw [run_of_refused _ ready refused]
    constructor
    · intro same
      cases same
    · intro found
      obtain ⟨⟨uuid, known⟩, -⟩ := (sound.latest_eq_some_iff.1 found).1
      exact absurd unit (placed uuid artifact known).2
  · rw [run_latest ready named unit given, Except.ok.injEq]

theorem finds {wanted : String → Prop} {test : String → Bool}
    (decides : ∀ url, test url = true ↔ wanted url) (given : ∀ url, wanted url → url ≠ "")
    (selection : VersionSelection) :
    catalog.Finds ns wanted selection (catalog.table.acrossAus ns test selection) := by
  cases selection with
  | all => exact sound.lists_acrossAus ns decides
  | latest =>
    constructor
    case latest =>
      intro artifact
      rw [sound.mem_acrossAus_latest, decides]
      apply and_congr_right
      intro want
      exact (run_latest_iff ready sound placed named (given _ want)).symm
    case covers =>
      intro artifact held ofNs want committed
      exact sound.acrossAus_covers held ofNs ((decides _).2 want) committed
    case ordered => exact sound.stems_acrossAus ns test

omit ready named in
theorem unit_of_mem_auIds {auid : String} (member : auid ∈ catalog.table.auIds ns) :
    auid ≠ "" := by
  obtain ⟨uuid, artifact, known, -, rfl⟩ := sound.mem_auIds.1 member
  exact (placed uuid artifact known).2

private theorem collects_url {url : String} (given : url ≠ "") (selection : VersionSelection) :
    catalog.Collects ns (catalog.ofUrl ns url selection)
      (catalog.table.acrossAus ns (· == url) selection) := by
  cases selection with
  | all =>
    refine ⟨_, _, run_auIds ready named, fun auid member => ?_, sound.acrossAus_perm_url ns url⟩
    have unit := unit_of_mem_auIds sound placed member
    rw [ofUrl, run_of_answer ready _ rfl]
    simp [Operation.arguments, Argument.faultless_text, named, unit, given]
  | latest =>
    refine ⟨_, _, run_auIds ready named, fun auid member => ?_, sound.acrossAus_perm_latest ns url⟩
    have unit := unit_of_mem_auIds sound placed member
    rw [ofUrl, run_latest ready named unit given]
    rfl

private theorem collects_start (start : String) (selection : VersionSelection) :
    catalog.Collects ns (catalog.ofStart ns start selection)
      (catalog.table.acrossAus ns (Table.startsWith · start) selection) := by
  have parts (auid : String) (member : auid ∈ catalog.table.auIds ns) :
      catalog.ofStart ns start .all auid = .ok (catalog.table.startAllVersions ns auid start) ∧
        catalog.ofStart ns start .latest auid = .ok (catalog.table.startLatest ns auid start) := by
    have unit := unit_of_mem_auIds sound placed member
    constructor
    · rw [ofStart, run_of_answer ready _ rfl]
      simp [Operation.arguments, Argument.faultless_text, named, unit]
    · rw [ofStart, run_of_answer ready _ rfl]
      simp [Operation.arguments, Argument.faultless_text, named, unit]
  cases selection with
  | all =>
    exact ⟨_, _, run_auIds ready named, fun auid member => (parts auid member).1,
      sound.acrossAus_perm_start ns start⟩
  | latest =>
    exact ⟨_, _, run_auIds ready named, fun auid member => (parts auid member).2,
      sound.acrossAus_perm_startLatest ns start⟩

end Search

/-- Searches across archival units in every ready catalog that calls lead to, for a URL and for the
start of one: with all versions they answer exactly the committed artifacts of the namespace that
match, and with latest versions exactly what look-ups of the matches in each archival unit answer,
each once and in the order of URL, archival unit and descending version. They answer the same
artifacts as queries of all archival units of the namespace. A search that names no namespace is
refused, and no artifact is in such a namespace. -/
theorem searches_across_aus (calls : List CatalogCall)
    (ready : (new.after calls).state = .ready) :
    let catalog := new.after calls
    (∀ ns selection, ns ≠ "" →
      (∀ url, url ≠ "" → ∃ found,
        catalog.run (.acrossAusByUrl ns url selection) = (.ok found, catalog) ∧
        catalog.Finds ns (· = url) selection found ∧
        catalog.Collects ns (catalog.ofUrl ns url selection) found) ∧
      ∀ start, start ≠ "" → ∃ found,
        catalog.run (.acrossAusByStart ns start selection) = (.ok found, catalog) ∧
        catalog.Finds ns (start.toList <+: ·.toList) selection found ∧
        catalog.Collects ns (catalog.ofStart ns start selection) found) ∧
    (∀ text selection,
      catalog.run (.acrossAusByUrl "" text selection) =
        (.refuse (.validation (.requiredFieldMissing "namespace")), catalog) ∧
      catalog.run (.acrossAusByStart "" text selection) =
        (.refuse (.validation (.requiredFieldMissing "namespace")), catalog)) ∧
    ∀ artifact, catalog.table.Holds artifact → artifact.ns ≠ "" := by
  intro catalog
  have sound : catalog.table.Sound := sound_after Table.sound_empty calls
  have placed : catalog.live.Placed := placed_after calls
  refine ⟨fun ns selection named => ⟨fun url given => ?url, fun start given => ?start⟩,
    fun text selection => ?refused, ?placed⟩
  case url =>
    refine ⟨_, run_of_answer ready ?_ rfl,
      finds ready sound placed named (fun other => beq_iff_eq) (fun other same => ?_) selection,
      collects_url ready sound placed named given selection⟩
    · simp [Operation.arguments, Argument.faultless_text, named, given]
    · rwa [same]
  case start =>
    refine ⟨_, run_of_answer ready ?_ rfl,
      finds ready sound placed named (fun other => startsWith_iff) (fun other begins => ?_)
        selection,
      collects_start ready sound placed named start selection⟩
    · simp [Operation.arguments, Argument.faultless_text, named, given]
    · rintro rfl
      exact given (String.toList_eq_nil_iff.1 (List.prefix_nil.1 begins))
  case refused =>
    exact ⟨run_of_refused _ ready rfl, run_of_refused _ ready rfl⟩
  case placed =>
    rintro artifact ⟨uuid, known⟩
    exact (placed uuid artifact known).1

/-- Of a URL with two versions in one archival unit and one in another, a search for latest versions
finds the higher of the two and the other one. -/
theorem searches_across_aus_of_two_units :
    let lower := Artifact.make (.ofNat 1) "ns" "a" "http://example.org/" 1
    let higher := Artifact.make (.ofNat 2) "ns" "a" "http://example.org/" 2
    let other := Artifact.make (.ofNat 3) "ns" "b" "http://example.org/" 1
    let catalog := new.after [.start, .operate (.index lower), .operate (.index higher),
      .operate (.index other), .operate (.commit lower.uuid), .operate (.commit higher.uuid),
      .operate (.commit other.uuid)]
    catalog.state = .ready ∧ ∃ found,
      catalog.run (.acrossAusByStart "ns" "http://" .latest) = (.ok found, catalog) ∧
      { higher with committed := true } ∈ found ∧ { other with committed := true } ∈ found ∧
      { lower with committed := true } ∉ found := by
  intro lower higher other catalog
  obtain ⟨search, -, -⟩ := searches_across_aus [.start, .operate (.index lower),
    .operate (.index higher), .operate (.index other), .operate (.commit lower.uuid),
    .operate (.commit higher.uuid), .operate (.commit other.uuid)] (by decide)
  obtain ⟨found, answered, finds, -⟩ := (search "ns" .latest (by decide)).2 "http://" (by decide)
  refine ⟨by decide, found, answered, ?_, ?_, ?_⟩
  · exact (finds.latest _).2 ⟨by decide, by decide⟩
  · exact (finds.latest _).2 ⟨by decide, by decide⟩
  · intro member
    exact absurd ((finds.latest _).1 member).2 (by decide)

end Volatile

end ArchiveCatalog
