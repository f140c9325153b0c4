import ArchiveCatalog.Proofs.TableInvariant
import Mathlib.Data.List.Basic

namespace ArchiveCatalog

instance : Std.TransCmp fun (a b : Artifact) => compare b.version a.version where
  eq_swap {a b} := (Std.OrientedCmp.eq_swap :
    compare b.version a.version = (compare a.version b.version).swap)
  isLE_trans {a _ c} first second :=
    (Std.TransCmp.isLE_trans second first : (compare c.version a.version).isLE)

instance : Std.TransCmp compareWithinAu :=
  inferInstanceAs (Std.TransCmp (compareLex (compareOn Artifact.url)
    fun a b => compare b.version a.version))

instance : Std.TransCmp compareAcrossAus :=
  inferInstanceAs (Std.TransCmp (compareLex (compareOn Artifact.url)
    (compareLex (compareOn Artifact.auid) fun a b => compare b.version a.version)))

def compareStems (a b : Artifact) : Ordering := (compare a.url b.url).then (compare a.auid b.auid)

instance : Std.TransCmp compareStems :=
  inferInstanceAs (Std.TransCmp (compareLex (compareOn Artifact.url) (compareOn Artifact.auid)))

theorem compareAcrossAus_eq (a b : Artifact) :
    compareAcrossAus a b = (compareStems a b).then (compare b.version a.version) :=
  (Ordering.then_assoc ..).symm

theorem compare_version_eq_lt_iff {first second : Int32} :
    compare first second = .lt ↔ first < second :=
  compareOfLessAndEq_eq_lt

theorem compareStems_eq_lt_iff {a b : Artifact} :
    compareStems a b = .lt ↔ a.url < b.url ∨ a.url = b.url ∧ a.auid < b.auid := by
  simp only [compareStems, Ordering.then_eq_lt, compare_eq_lt_iff,
    Std.LawfulEqOrd.compare_eq_iff_eq]

theorem compareAcrossAus_eq_lt_iff {a b : Artifact} :
    compareAcrossAus a b = .lt ↔ a.url < b.url ∨ a.url = b.url ∧
      (a.auid < b.auid ∨ a.auid = b.auid ∧ b.version < a.version) := by
  simp only [compareAcrossAus, Ordering.then_eq_lt, compare_eq_lt_iff,
    Std.LawfulEqOrd.compare_eq_iff_eq, compare_version_eq_lt_iff]

theorem compareStems_eq_iff {a b : Artifact} (sameNs : a.ns = b.ns) :
    compareStems a b = .eq ↔ a.stem = b.stem := by
  simp [compareStems, Ordering.then_eq_eq, Artifact.stem, sameNs, and_comm]

theorem sameStem_iff {a b : Artifact} : a.sameStem b = true ↔ a.stem = b.stem := by
  simp [Artifact.sameStem, Artifact.stem, and_assoc]

theorem perm_sortArtifacts (order : Artifact → Artifact → Ordering) (artifacts : List Artifact) :
    (sortArtifacts order artifacts).Perm artifacts := List.mergeSort_perm ..

section Sorting

variable {order : Artifact → Artifact → Ordering} [Std.TransCmp order]

theorem isLE_total (a b : Artifact) : ((order a b).isLE || (order b a).isLE) = true := by
  have swapped : order b a = (order a b).swap := Std.OrientedCmp.eq_swap
  rw [swapped]
  cases order a b <;> rfl

theorem sorted_sortArtifacts (artifacts : List Artifact) :
    (sortArtifacts order artifacts).Pairwise fun a b => (order a b).isLE :=
  List.pairwise_mergeSort (fun _ _ _ => Std.TransCmp.isLE_trans) isLE_total artifacts

theorem ascending_sortArtifacts {artifacts : List Artifact}
    (distinct : artifacts.Pairwise fun a b => order a b ≠ .eq) :
    (sortArtifacts order artifacts).Pairwise fun a b => order a b = .lt := by
  have apart : (sortArtifacts order artifacts).Pairwise fun a b => order a b ≠ .eq :=
    (perm_sortArtifacts order artifacts).symm.pairwise distinct fun differ tie =>
      differ (Std.OrientedCmp.eq_symm tie)
  refine ((sorted_sortArtifacts artifacts).and apart).imp ?_
  rintro a b ⟨le, differ⟩
  exact (Ordering.isLE_iff_eq_lt_or_eq_eq.1 le).resolve_right differ

theorem nodup_of_ascending {artifacts : List Artifact}
    (ascending : artifacts.Pairwise fun a b => order a b = .lt) : artifacts.Nodup :=
  ascending.imp fun {a b} less same => by
    have tie : order a b = .eq := same ▸ Std.ReflCmp.compare_self
    cases less.symm.trans tie

/-- Strictly ascending lists of the same artifacts are equal. -/
theorem eq_of_mem_iff_of_ascending (order : Artifact → Artifact → Ordering) [Std.TransCmp order]
    {first second : List Artifact} (left : first.Pairwise fun a b => order a b = .lt)
    (right : second.Pairwise fun a b => order a b = .lt)
    (same : ∀ artifact, artifact ∈ first ↔ artifact ∈ second) : first = second := by
  have perm : first.Perm second :=
    (List.perm_ext_iff_of_nodup (nodup_of_ascending left) (nodup_of_ascending right)).2 same
  refine perm.eq_of_pairwise (fun a b _ _ less greater => ?_) left right
  have loop : order a a = .lt := Std.TransCmp.lt_trans less greater
  have tie : order a a = .eq := Std.ReflCmp.compare_self
  cases loop.symm.trans tie

end Sorting

/-- Artifacts of one namespace in the order across archival units, no two of which tie. -/
structure Ascending (ns : String) (artifacts : List Artifact) : Prop where
  within : ∀ artifact ∈ artifacts, artifact.ns = ns
  ordered : artifacts.Pairwise fun a b => compareAcrossAus a b = .lt

variable {ns : String} {kept : Artifact} {artifacts rest : List Artifact}

theorem Ascending.sublist {first second : List Artifact} (ascending : Ascending ns second)
    (part : first.Sublist second) : Ascending ns first :=
  ⟨fun artifact member => ascending.within artifact (part.subset member),
    ascending.ordered.sublist part⟩

theorem Ascending.tail (ascending : Ascending ns (kept :: rest)) : Ascending ns rest :=
  ascending.sublist (List.sublist_cons_self ..)

private theorem Ascending.stem_after (ascending : Ascending ns (kept :: rest)) {later : Artifact}
    (member : later ∈ rest) (other : later.sameStem kept ≠ true) :
    compareStems kept later = .lt := by
  have less := (List.pairwise_cons.1 ascending.ordered).1 later member
  rw [compareAcrossAus_eq, Ordering.then_eq_lt] at less
  have sameNs : kept.ns = later.ns := (ascending.within kept List.mem_cons_self).trans
    (ascending.within later (List.mem_cons_of_mem _ member)).symm
  rcases less with before | ⟨tie, -⟩
  · exact before
  · exact absurd (sameStem_iff.2 ((compareStems_eq_iff sameNs).1 tie).symm) other

/-- Once another stem has followed, the kept one's stem does not come again. -/
theorem Ascending.stem_gone {next : Artifact} (ascending : Ascending ns (kept :: next :: rest))
    (other : next.sameStem kept ≠ true) {later : Artifact} (member : later ∈ rest) :
    later.stem ≠ kept.stem := by
  intro same
  have passed := ascending.stem_after List.mem_cons_self other
  have less := (List.pairwise_cons.1 ascending.tail.ordered).1 later member
  rw [compareAcrossAus_eq] at less
  have onward : (compareStems next later).isLE :=
    Ordering.isLE_left_of_isLE_then (Ordering.isLE_of_eq_lt less)
  have after : compareStems kept later = .lt := Std.TransCmp.lt_of_lt_of_isLE passed onward
  have sameNs : kept.ns = later.ns := congrArg Stem.ns same.symm
  rw [(compareStems_eq_iff sameNs).2 same.symm] at after
  cases after

private theorem keepFirstOfRuns_sublist (kept : Artifact) (rest : List Artifact) :
    (keepFirstOfRuns kept rest).Sublist rest := by
  induction rest generalizing kept with
  | nil => exact .refl _
  | cons next rest ih =>
    unfold keepFirstOfRuns
    split
    · exact (ih kept).cons next
    · exact (ih next).cons_cons next

theorem latestPerStem_sublist (artifacts : List Artifact) :
    (latestPerStem artifacts).Sublist artifacts := by
  cases artifacts with
  | nil => exact .refl _
  | cons first rest => exact (keepFirstOfRuns_sublist first rest).cons_cons first

private theorem Ascending.stems_keepFirstOfRuns (ascending : Ascending ns (kept :: rest)) :
    (kept :: keepFirstOfRuns kept rest).Pairwise fun a b => compareStems a b = .lt := by
  induction rest generalizing kept with
  | nil => simp [keepFirstOfRuns]
  | cons next rest ih =>
    unfold keepFirstOfRuns
    split
    case isTrue =>
      exact ih (ascending.sublist ((List.sublist_cons_self next rest).cons_cons kept))
    case isFalse other =>
      have after := ascending.stem_after List.mem_cons_self other
      have later := ih ascending.tail
      refine List.pairwise_cons.2 ⟨fun artifact member => ?_, later⟩
      rcases List.mem_cons.1 member with rfl | member
      · exact after
      · exact Std.TransCmp.lt_trans after ((List.pairwise_cons.1 later).1 artifact member)

theorem Ascending.stems_latestPerStem (ascending : Ascending ns artifacts) :
    (latestPerStem artifacts).Pairwise fun a b => compareStems a b = .lt := by
  cases artifacts with
  | nil => exact .nil
  | cons first rest => exact ascending.stems_keepFirstOfRuns

/-- What follows a kept artifact loses all of its stem, and all but the first of every other. -/
theorem Ascending.filter_keepFirstOfRuns (ascending : Ascending ns (kept :: rest)) (stem : Stem) :
    (keepFirstOfRuns kept rest).filter (fun artifact => artifact.stem = stem) =
      if kept.stem = stem then []
      else (rest.filter fun artifact => artifact.stem = stem).take 1 := by
  induction rest generalizing kept with
  | nil => simp [keepFirstOfRuns]
  | cons next rest ih =>
    unfold keepFirstOfRuns
    split
    case isTrue same =>
      have equal : next.stem = kept.stem := sameStem_iff.1 same
      rw [ih (ascending.sublist ((List.sublist_cons_self next rest).cons_cons kept))]
      by_cases own : kept.stem = stem <;> simp [own, equal]
    case isFalse other =>
      have differ : next.stem ≠ kept.stem := fun same => other (sameStem_iff.2 same)
      rw [List.filter_cons, ih ascending.tail]
      by_cases own : kept.stem = stem
      · have gone : rest.filter (fun artifact => artifact.stem = stem) = [] := by
          apply List.filter_eq_nil_iff.2
          intro later member
          simpa [own] using ascending.stem_gone other member
        simp [own, own ▸ differ, gone]
      · by_cases here : next.stem = stem <;> simp [own, here]

/-- Of each stem the first artifact is kept, and no other. -/
theorem Ascending.filter_latestPerStem (ascending : Ascending ns artifacts) (stem : Stem) :
    (latestPerStem artifacts).filter (fun artifact => artifact.stem = stem) =
      (artifacts.filter fun artifact => artifact.stem = stem).take 1 := by
  cases artifacts with
  | nil => rfl
  | cons first rest =>
    rw [latestPerStem, List.filter_cons, ascending.filter_keepFirstOfRuns]
    by_cases own : first.stem = stem <;> simp [own]

theorem Ascending.mem_latestPerStem (ascending : Ascending ns artifacts) {artifact : Artifact} :
    artifact ∈ latestPerStem artifacts ↔
      (artifacts.filter fun other => other.stem = artifact.stem).head? = some artifact := by
  calc artifact ∈ latestPerStem artifacts
      ↔ artifact ∈ (latestPerStem artifacts).filter fun other => other.stem = artifact.stem := by
        simp [List.mem_filter]
    _ ↔ (artifacts.filter fun other => other.stem = artifact.stem).head? = some artifact := by
        rw [ascending.filter_latestPerStem, List.take_one, Option.mem_toList]

/-- Of descending versions the first is the highest. -/
theorem head?_eq_highest_iff {artifacts : List Artifact} {artifact : Artifact}
    (descend : artifacts.Pairwise fun a b => b.version < a.version) :
    artifacts.head? = some artifact ↔
      artifact ∈ artifacts ∧ ∀ other ∈ artifacts, other.version ≤ artifact.version := by
  cases artifacts with
  | nil => simp
  | cons first rest =>
    have below := (List.pairwise_cons.1 descend).1
    constructor
    · intro found
      cases found
      refine ⟨List.mem_cons_self, fun other member => ?_⟩
      rcases List.mem_cons.1 member with rfl | later
      · exact Int32.le_refl _
      · exact Int32.le_of_lt (below other later)
    · rintro ⟨member, highest⟩
      rcases List.mem_cons.1 member with rfl | later
      · rfl
      · exact absurd (below artifact later) (Int32.not_lt.2 (highest first List.mem_cons_self))

theorem Ascending.versions_descend (ascending : Ascending ns artifacts) (stem : Stem) :
    (artifacts.filter fun artifact => artifact.stem = stem).Pairwise
      fun a b => b.version < a.version := by
  refine (ascending.ordered.filter _).imp_of_mem fun {a b} left right less => ?_
  have first : a.stem = stem := by simpa using (List.mem_filter.1 left).2
  have second : b.stem = stem := by simpa using (List.mem_filter.1 right).2
  have sameNs : a.ns = b.ns := congrArg Stem.ns (first.trans second.symm)
  have tie := (compareStems_eq_iff sameNs).2 (first.trans second.symm)
  rw [compareAcrossAus_eq, tie] at less
  exact compare_version_eq_lt_iff.1 less

/-- What is kept is the highest version of its stem. -/
theorem Ascending.mem_latestPerStem_iff_highest (ascending : Ascending ns artifacts)
    {artifact : Artifact} :
    artifact ∈ latestPerStem artifacts ↔ artifact ∈ artifacts ∧
      ∀ other ∈ artifacts, other.stem = artifact.stem → other.version ≤ artifact.version := by
  rw [ascending.mem_latestPerStem, head?_eq_highest_iff (ascending.versions_descend artifact.stem)]
  simp [List.mem_filter]

private theorem keepFirstOfRuns_of_gone (gone : ∀ later ∈ rest, later.sameStem kept ≠ true) :
    keepFirstOfRuns kept rest = latestPerStem rest := by
  cases rest with
  | nil => rfl
  | cons next rest => exact if_neg (gone next List.mem_cons_self)

/-- To keep the first of each stem and to select stems are steps that may change places. -/
theorem Ascending.keepFirstOfRuns_filter {test : Artifact → Bool}
    (byStem : ∀ a b : Artifact, a.stem = b.stem → test a = test b)
    (ascending : Ascending ns (kept :: rest)) :
    (keepFirstOfRuns kept rest).filter test =
      if test kept then keepFirstOfRuns kept (rest.filter test)
      else latestPerStem (rest.filter test) := by
  induction rest generalizing kept with
  | nil => simp [keepFirstOfRuns, latestPerStem]
  | cons next rest ih =>
    by_cases same : next.sameStem kept = true
    · have alike : test next = test kept := byStem next kept (sameStem_iff.1 same)
      have shorter := ascending.sublist ((List.sublist_cons_self next rest).cons_cons kept)
      rw [keepFirstOfRuns, if_pos same, ih shorter]
      cases wanted : test kept with
      | true => simp [alike, wanted, keepFirstOfRuns, same]
      | false => simp [alike, wanted]
    · have gone : ∀ later ∈ rest.filter test, later.sameStem kept ≠ true := fun later member =>
        fun again => ascending.stem_gone same (List.mem_of_mem_filter member) (sameStem_iff.1 again)
      rw [keepFirstOfRuns, if_neg same, List.filter_cons, ih ascending.tail]
      cases wanted : test next with
      | true => simp [wanted, keepFirstOfRuns, same, latestPerStem]
      | false => simp [wanted, keepFirstOfRuns_of_gone gone]

theorem Ascending.latestPerStem_filter {test : Artifact → Bool}
    (byStem : ∀ a b : Artifact, a.stem = b.stem → test a = test b)
    (ascending : Ascending ns artifacts) :
    latestPerStem (artifacts.filter test) = (latestPerStem artifacts).filter test := by
  cases artifacts with
  | nil => rfl
  | cons first rest =>
    rw [latestPerStem, List.filter_cons, List.filter_cons,
      ascending.keepFirstOfRuns_filter byStem]
    split
    · rfl
    · rfl

end ArchiveCatalog
