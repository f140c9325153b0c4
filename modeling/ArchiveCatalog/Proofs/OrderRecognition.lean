import ArchiveCatalog.Conformance.Expectation
import ArchiveCatalog.Proofs.ListingOrder

namespace ArchiveCatalog

/-- The outcome of a stable sort: the same artifacts, none before a smaller one, and those that tie
with one another in the order in which they were given. -/
structure SortedStably (order : Artifact → Artifact → Ordering)
    (artifacts sorted : List Artifact) : Prop where
  perm : sorted.Perm artifacts
  ordered : sorted.Pairwise fun a b => order a b ≠ .gt
  ties : ∀ artifact, (sorted.filter fun other => order artifact other = .eq) =
    artifacts.filter fun other => order artifact other = .eq

/-- A test that passes exactly what an order lets stand: no artifact is greater than any later one,
which is to say that a stable sort changes nothing. -/
structure Recognises (order : Artifact → Artifact → Ordering)
    (test : List Artifact → Bool) : Prop where
  pairwise : ∀ artifacts, test artifacts = true ↔ artifacts.Pairwise fun a b => order a b ≠ .gt
  unchanged : ∀ artifacts, test artifacts = true ↔ sortArtifacts order artifacts = artifacts
  sorts : ∀ artifacts sorted, SortedStably order artifacts sorted ↔
    sorted = sortArtifacts order artifacts
  passes : ∀ artifacts, test (sortArtifacts order artifacts) = true

section Order

variable (order : Artifact → Artifact → Ordering) [Std.TransCmp order]

/-- Neighbours in order put all pairs in order. -/
theorem ordered_iff_pairwise (artifacts : List Artifact) :
    Expectation.ordered order artifacts = true ↔ artifacts.Pairwise fun a b => order a b ≠ .gt := by
  induction artifacts with
  | nil => simp [Expectation.ordered]
  | cons first rest ih =>
    cases rest with
    | nil => simp [Expectation.ordered]
    | cons second rest =>
      rw [Expectation.ordered, Bool.and_eq_true, ih, bne_iff_ne, List.pairwise_cons (a := first)]
      constructor
      · intro ⟨neighbours, later⟩
        refine ⟨?_, later⟩
        intro other member
        rcases List.mem_cons.1 member with rfl | member
        · exact neighbours
        · have onward := (List.pairwise_cons.1 later).1 other member
          have through : (order first other).isLE := Std.TransCmp.isLE_trans
            (Ordering.ne_gt_iff_isLE.1 neighbours) (Ordering.ne_gt_iff_isLE.1 onward)
          exact Ordering.ne_gt_iff_isLE.2 through
      · intro ⟨first, later⟩
        exact ⟨first second List.mem_cons_self, later⟩

theorem sorted_ne_gt (artifacts : List Artifact) :
    (sortArtifacts order artifacts).Pairwise fun a b => order a b ≠ .gt := by
  apply (sorted_sortArtifacts artifacts).imp
  intro a b le
  exact Ordering.ne_gt_iff_isLE.2 le

/-- Sorting leaves a list alone exactly if it is in order. -/
theorem sortArtifacts_eq_self_iff (artifacts : List Artifact) :
    sortArtifacts order artifacts = artifacts ↔
      artifacts.Pairwise fun a b => order a b ≠ .gt := by
  constructor
  · intro same
    rw [← same]
    exact sorted_ne_gt order artifacts
  · intro ordered
    apply List.mergeSort_of_pairwise
    apply ordered.imp
    intro a b le
    exact Ordering.ne_gt_iff_isLE.1 le

private theorem pairwise_ties (artifact : Artifact) (artifacts : List Artifact) :
    (artifacts.filter fun other => order artifact other = .eq).Pairwise
      fun a b => (order a b).isLE = true := by
  apply List.pairwise_of_forall_mem_list
  intro a left b right
  have before : order artifact a = .eq := by simpa using (List.mem_filter.1 left).2
  have after : order artifact b = .eq := by simpa using (List.mem_filter.1 right).2
  have tie : order a b = .eq := Std.TransCmp.eq_trans (Std.OrientedCmp.eq_symm before) after
  rw [tie]
  rfl

private theorem sortedStably_sortArtifacts (artifacts : List Artifact) :
    SortedStably order artifacts (sortArtifacts order artifacts) where
  perm := perm_sortArtifacts order artifacts
  ordered := sorted_ne_gt order artifacts
  ties artifact := by
    -- the ties stand in order, so that the sort keeps them as they stand
    have kept : (artifacts.filter fun other => order artifact other = .eq).Sublist
        (sortArtifacts order artifacts) :=
      List.sublist_mergeSort (fun _ _ _ => Std.TransCmp.isLE_trans) isLE_total
        (pairwise_ties order artifact artifacts) List.filter_sublist
    have part := kept.filter fun other => order artifact other = .eq
    rw [List.filter_filter] at part
    simp only [Bool.and_self] at part
    have perm := (perm_sortArtifacts order artifacts).filter
      fun other => order artifact other = .eq
    exact (part.eq_of_length perm.length_eq.symm).symm

variable {order}

/-- The first artifacts of two orderings of the same artifacts tie. -/
theorem heads_tie {first second : Artifact} {rest others : List Artifact}
    (perm : (first :: rest).Perm (second :: others))
    (left : (first :: rest).Pairwise fun a b => order a b ≠ .gt)
    (right : (second :: others).Pairwise fun a b => order a b ≠ .gt) :
    order first second = .eq := by
  rcases List.mem_cons.1 (perm.mem_iff.2 List.mem_cons_self) with rfl | later
  · exact Std.ReflCmp.compare_self
  · rcases List.mem_cons.1 (perm.mem_iff.1 List.mem_cons_self) with rfl | after
    · exact Std.ReflCmp.compare_self
    · have notAbove := (List.pairwise_cons.1 left).1 second later
      have notBelow := (List.pairwise_cons.1 right).1 first after
      have swapped : order second first = (order first second).swap := Std.OrientedCmp.eq_swap
      rw [swapped] at notBelow
      cases outcome : order first second with
      | lt => simp [outcome] at notBelow
      | eq => rfl
      | gt => exact absurd outcome notAbove

/-- Orderings of the same artifacts are equal if artifacts that tie come in the same order. -/
theorem eq_of_ties {first second : List Artifact} (perm : first.Perm second)
    (left : first.Pairwise fun a b => order a b ≠ .gt)
    (right : second.Pairwise fun a b => order a b ≠ .gt)
    (ties : ∀ artifact, (first.filter fun other => order artifact other = .eq) =
      second.filter fun other => order artifact other = .eq) :
    first = second := by
  induction first generalizing second with
  | nil => exact perm.nil_eq
  | cons first rest ih =>
    cases second with
    | nil => exact perm.eq_nil
    | cons second others =>
      -- the first ones tie, and each is the first among those that tie with it
      have same : first = second := by
        have alike := ties first
        have own : order first first = .eq := Std.ReflCmp.compare_self
        rw [List.filter_cons, List.filter_cons] at alike
        simp only [own, heads_tie perm left right, decide_true, if_true] at alike
        exact (List.cons.inj alike).1
      subst same
      congr 1
      apply ih perm.cons_inv (List.pairwise_cons.1 left).2 (List.pairwise_cons.1 right).2
      intro artifact
      have alike := ties artifact
      rw [List.filter_cons, List.filter_cons] at alike
      split at alike
      · exact (List.cons.inj alike).2
      · exact alike

private theorem sortedStably_iff {artifacts sorted : List Artifact} :
    SortedStably order artifacts sorted ↔ sorted = sortArtifacts order artifacts := by
  have own := sortedStably_sortArtifacts order artifacts
  constructor
  · intro stable
    apply eq_of_ties (stable.perm.trans own.perm.symm) stable.ordered own.ordered
    intro artifact
    exact (stable.ties artifact).trans (own.ties artifact).symm
  · intro same
    exact same ▸ own

variable (order)

private theorem recognises_ordered : Recognises order (Expectation.ordered order) where
  pairwise := ordered_iff_pairwise order
  unchanged artifacts := by rw [ordered_iff_pairwise, sortArtifacts_eq_self_iff]
  sorts artifacts sorted := sortedStably_iff
  passes artifacts := by
    rw [ordered_iff_pairwise]
    exact sorted_ne_gt order artifacts

end Order

/-- The tests of both orders, on artifacts of any namespaces and archival units, which may tie. A
test passes exactly if no artifact is greater than any later one, and exactly if a stable sort
changes nothing; it passes whatever has been sorted. -/
theorem order_tests_exact :
    Recognises compareWithinAu Expectation.withinAuOrder ∧
      Recognises compareAcrossAus Expectation.acrossAusOrder :=
  ⟨recognises_ordered compareWithinAu, recognises_ordered compareAcrossAus⟩

end ArchiveCatalog
