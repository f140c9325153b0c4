import ArchiveCatalog.Proofs.ListingOrder
import ArchiveCatalog.Proofs.TextOrder

/-! What is dropped after sorting are neighbours of one stem. Artifacts of one namespace, no two of
which share a position, never tie, and there is only one way to sort them: the versions of each stem
side by side, the highest first. -/

namespace ArchiveCatalog

/-- Artifacts of one namespace, no two of which share an archival unit, a URL and a version. -/
structure Apart (ns : String) (artifacts : List Artifact) : Prop where
  within : ∀ artifact ∈ artifacts, artifact.ns = ns
  distinct : (artifacts.map fun artifact =>
    (artifact.auid, artifact.url, artifact.version)).Nodup

/-- The latest versions of some artifacts: of each stem that occurs one artifact, which is the
highest version. -/
structure HoldsLatest (artifacts : List Artifact) (before : Artifact → Artifact → Prop)
    (latest : List Artifact) : Prop where
  highest : ∀ artifact, artifact ∈ latest ↔ artifact ∈ artifacts ∧
    ∀ other ∈ artifacts, other.stem = artifact.stem → other.version ≤ artifact.version
  once : (latest.map (·.stem)).Nodup
  stems : ∀ stem, stem ∈ latest.map (·.stem) ↔ stem ∈ artifacts.map (·.stem)
  ordered : latest.Pairwise before

/-- What becomes of artifacts, in whatever order they come, that are sorted before a selection. -/
structure Selects (order : Artifact → Artifact → Ordering) (before : Artifact → Artifact → Prop)
    (artifacts : List Artifact) : Prop where
  latest : HoldsLatest artifacts before (selectVersions (sortArtifacts order artifacts) .latest)
  anyOrder : ∀ others : List Artifact, others.Perm artifacts →
    selectVersions (sortArtifacts order others) .latest =
      selectVersions (sortArtifacts order artifacts) .latest
  again : latestPerStem (selectVersions (sortArtifacts order artifacts) .latest) =
    selectVersions (sortArtifacts order artifacts) .latest
  all : (selectVersions (sortArtifacts order artifacts) .all).Perm artifacts

/-- Neighbours that are kept differ in their stems, so that nothing more is dropped. -/
theorem keepFirstOfRuns_again (kept : Artifact) (rest : List Artifact) :
    keepFirstOfRuns kept (keepFirstOfRuns kept rest) = keepFirstOfRuns kept rest := by
  induction rest generalizing kept with
  | nil => rfl
  | cons next rest ih =>
    by_cases same : next.sameStem kept = true
    · rw [keepFirstOfRuns, if_pos same]
      exact ih kept
    · rw [keepFirstOfRuns, if_neg same, keepFirstOfRuns, if_neg same, ih next]

private theorem latestPerStem_again (artifacts : List Artifact) :
    latestPerStem (latestPerStem artifacts) = latestPerStem artifacts := by
  cases artifacts with
  | nil => rfl
  | cons first rest => exact congrArg (first :: ·) (keepFirstOfRuns_again first rest)

private theorem Ascending.stem_mem_latestPerStem {ns : String} {artifacts : List Artifact}
    (ascending : Ascending ns artifacts) (stem : Stem) :
    stem ∈ (latestPerStem artifacts).map (·.stem) ↔ stem ∈ artifacts.map (·.stem) := by
  have occurs (list : List Artifact) : stem ∈ list.map (·.stem) ↔
      (list.filter fun artifact => artifact.stem = stem) ≠ [] := by
    rw [Ne, List.filter_eq_nil_iff, List.mem_map]
    simp
  rw [occurs, occurs, ascending.filter_latestPerStem]
  simp

private theorem Ascending.holdsLatest {ns : String} {artifacts : List Artifact}
    (ascending : Ascending ns artifacts) :
    HoldsLatest artifacts (fun a b => compareStems a b = .lt) (latestPerStem artifacts) where
  highest _ := ascending.mem_latestPerStem_iff_highest
  once := by
    apply List.pairwise_map.2
    apply ascending.stems_latestPerStem.imp_of_mem
    intro a b left right less same
    have sameNs : a.ns = b.ns := congrArg Stem.ns same
    rw [(compareStems_eq_iff sameNs).2 same] at less
    cases less
  stems := ascending.stem_mem_latestPerStem
  ordered := ascending.stems_latestPerStem

theorem HoldsLatest.of_perm {artifacts others latest : List Artifact}
    {before : Artifact → Artifact → Prop} (holds : HoldsLatest artifacts before latest)
    (perm : artifacts.Perm others) : HoldsLatest others before latest where
  highest artifact := by
    rw [holds.highest, perm.mem_iff]
    simp only [perm.mem_iff]
  once := holds.once
  stems stem := by rw [holds.stems, (perm.map _).mem_iff]
  ordered := holds.ordered

theorem HoldsLatest.mono {artifacts latest : List Artifact}
    {before after : Artifact → Artifact → Prop} (holds : HoldsLatest artifacts before latest)
    (implies : ∀ a ∈ latest, ∀ b ∈ latest, before a b → after a b) :
    HoldsLatest artifacts after latest where
  highest := holds.highest
  once := holds.once
  stems := holds.stems
  ordered := holds.ordered.imp_of_mem fun left right => implies _ left _ right

theorem Selects.mono {order : Artifact → Artifact → Ordering} {artifacts : List Artifact}
    {before after : Artifact → Artifact → Prop} (selects : Selects order before artifacts)
    (implies : ∀ a b, before a b → after a b) : Selects order after artifacts where
  latest := selects.latest.mono fun a _ b _ => implies a b
  anyOrder := selects.anyOrder
  again := selects.again
  all := selects.all

section Sorted

variable {ns auid : String} {artifacts others : List Artifact}

theorem Apart.of_perm (apart : Apart ns artifacts) (perm : others.Perm artifacts) :
    Apart ns others where
  within artifact member := apart.within artifact (perm.mem_iff.1 member)
  distinct := (perm.map _).nodup_iff.2 apart.distinct

theorem Apart.ascending (apart : Apart ns artifacts) :
    Ascending ns (sortArtifacts compareAcrossAus artifacts) where
  within artifact member := apart.within artifact ((perm_sortArtifacts _ _).mem_iff.1 member)
  ordered := by
    apply ascending_sortArtifacts
    apply (List.pairwise_map.1 apart.distinct).imp
    intro a b differ tie
    apply differ
    simp only [compareAcrossAus, Ordering.then_eq_eq, Std.LawfulEqOrd.compare_eq_iff_eq] at tie
    obtain ⟨url, auid, version⟩ := tie
    rw [auid, url, version]

/-- There is only one way to sort artifacts that do not tie. -/
theorem Apart.sort_perm (apart : Apart ns artifacts) (perm : others.Perm artifacts) :
    sortArtifacts compareAcrossAus others = sortArtifacts compareAcrossAus artifacts := by
  apply eq_of_mem_iff_of_ascending compareAcrossAus (apart.of_perm perm).ascending.ordered
    apart.ascending.ordered
  intro artifact
  rw [(perm_sortArtifacts _ _).mem_iff, (perm_sortArtifacts _ _).mem_iff, perm.mem_iff]

/-- Within one archival unit both orders sort the same way. -/
theorem Apart.sort_withinAu (apart : Apart ns artifacts)
    (own : ∀ artifact ∈ artifacts, artifact.auid = auid) :
    sortArtifacts compareWithinAu artifacts = sortArtifacts compareAcrossAus artifacts := by
  have listed := perm_sortArtifacts compareWithinAu artifacts
  have differ : artifacts.Pairwise fun a b => compareWithinAu a b ≠ .eq := by
    apply (List.pairwise_map.1 apart.distinct).imp_of_mem
    intro a b left right differ tie
    apply differ
    simp only [compareWithinAu, Ordering.then_eq_eq, Std.LawfulEqOrd.compare_eq_iff_eq] at tie
    obtain ⟨url, version⟩ := tie
    rw [own a left, own b right, url, version]
  have across : (sortArtifacts compareWithinAu artifacts).Pairwise
      fun a b => compareAcrossAus a b = .lt := by
    apply (ascending_sortArtifacts differ).imp_of_mem
    intro a b left right less
    have first := own a (listed.mem_iff.1 left)
    have second := own b (listed.mem_iff.1 right)
    simpa [compareAcrossAus, compareWithinAu, first, second] using less
  apply eq_of_mem_iff_of_ascending compareAcrossAus across apart.ascending.ordered
  intro artifact
  rw [listed.mem_iff, (perm_sortArtifacts _ _).mem_iff]

theorem Apart.selects (apart : Apart ns artifacts) :
    Selects compareAcrossAus (fun a b => compareStems a b = .lt) artifacts where
  latest := apart.ascending.holdsLatest.of_perm (perm_sortArtifacts _ _)
  anyOrder others perm := by rw [apart.sort_perm perm]
  again := latestPerStem_again _
  all := perm_sortArtifacts _ _

private theorem Apart.selects_withinAu (apart : Apart ns artifacts)
    (own : ∀ artifact ∈ artifacts, artifact.auid = auid) :
    Selects compareWithinAu (fun a b => a.url < b.url) artifacts where
  latest := by
    have across := apart.selects.latest
    rw [apart.sort_withinAu own]
    apply across.mono
    intro a left b right less
    have first := own a ((across.highest a).1 left).1
    have second := own b ((across.highest b).1 right).1
    rcases compareStems_eq_lt_iff.1 less with byUrl | ⟨-, byAuid⟩
    · exact byUrl
    · rw [first, second] at byAuid
      exact absurd byAuid (String.lt_irrefl _)
  anyOrder others perm := by
    have ownOthers : ∀ artifact ∈ others, artifact.auid = auid := by
      intro artifact member
      exact own artifact (perm.mem_iff.1 member)
    rw [apart.sort_withinAu own, (apart.of_perm perm).sort_withinAu ownOthers,
      apart.sort_perm perm]
  again := latestPerStem_again _
  all := perm_sortArtifacts _ _

end Sorted

/-- Artifacts of one namespace with positions of their own, in any order. Sorted for a search across
archival units, a selection of latest versions holds of each stem that occurs the highest version
and nothing else, by the bytes of the URL and then of the archival unit; it is the same from every
order of the artifacts, and a second selection changes nothing; a selection of all versions loses
none. So it is with the order within an archival unit, if all are of one. -/
theorem latest_selected {ns : String} {artifacts : List Artifact} (apart : Apart ns artifacts) :
    Selects compareAcrossAus
      (fun a b => Text.encode a.url.toList < Text.encode b.url.toList ∨
        a.url = b.url ∧ Text.encode a.auid.toList < Text.encode b.auid.toList) artifacts ∧
    ∀ auid, (∀ artifact ∈ artifacts, artifact.auid = auid) →
      Selects compareWithinAu
        (fun a b => Text.encode a.url.toList < Text.encode b.url.toList) artifacts := by
  constructor
  · apply apart.selects.mono
    intro a b less
    exact (compareStems_eq_lt_iff.1 less).imp Text.encode_toList_lt
      (And.imp_right Text.encode_toList_lt)
  · intro auid own
    apply (apart.selects_withinAu own).mono
    intro a b
    exact Text.encode_toList_lt

/-- Two versions of a URL, the lower one first, and a version of it in another archival unit. -/
theorem latest_selected_of_two_versions :
    let lower := Artifact.make (.ofNat 1) "ns" "au" "http://example.org/" 1
    let higher := Artifact.make (.ofNat 2) "ns" "au" "http://example.org/" 2
    let other := Artifact.make (.ofNat 3) "ns" "a" "http://example.org/" 1
    let across := selectVersions (sortArtifacts compareAcrossAus [lower, higher, other]) .latest
    let within := selectVersions (sortArtifacts compareWithinAu [lower, higher]) .latest
    (higher ∈ across ∧ other ∈ across ∧ lower ∉ across) ∧ higher ∈ within ∧ lower ∉ within := by
  intro lower higher other across within
  have ofTwo : Apart "ns" [lower, higher, other] := ⟨by decide, by decide⟩
  have ofOne : Apart "ns" [lower, higher] := ⟨by decide, by decide⟩
  have searched := (latest_selected ofTwo).1.latest.highest
  have listed := ((latest_selected ofOne).2 "au" (by decide)).latest.highest
  refine ⟨⟨(searched higher).2 (by decide), (searched other).2 (by decide), ?_⟩,
    (listed higher).2 (by decide), ?_⟩
  · rw [searched lower]
    decide
  · rw [listed lower]
    decide

end ArchiveCatalog
