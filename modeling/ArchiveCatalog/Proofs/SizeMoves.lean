import ArchiveCatalog.Proofs.SizeTotals

namespace ArchiveCatalog

section Lists

variable {artifact : Artifact} {others : List Artifact}

private theorem totalLength_cons (artifact : Artifact) (others : List Artifact) :
    totalLength (artifact :: others) = artifact.contentLength.toInt + totalLength others := by
  rw [totalLength, List.map_cons, List.sum_cons]
  rfl

private theorem totalLength_append (first second : List Artifact) :
    totalLength (first ++ second) = totalLength first + totalLength second := by
  rw [totalLength, List.map_append, List.sum_append]
  rfl

private theorem latestOf_perm {first second : List Artifact} (perm : first.Perm second) :
    (latestOf first).Perm (latestOf second) := by
  have same : latestOf first = first.filter fun artifact =>
      ∀ other ∈ second, other.url = artifact.url → other.version ≤ artifact.version := by
    apply List.filter_congr
    intro artifact _
    simp only [perm.mem_iff]
  rw [same]
  exact perm.filter _

private theorem latestOf_cons_of_lower {higher : Artifact} (member : higher ∈ others)
    (sameUrl : higher.url = artifact.url) (above : artifact.version < higher.version) :
    latestOf (artifact :: others) = latestOf others := by
  have lower : ¬∀ other ∈ artifact :: others,
      other.url = artifact.url → other.version ≤ artifact.version := by
    intro highest
    exact Int32.not_le.2 above (highest higher (List.mem_cons_of_mem _ member) sameUrl)
  rw [latestOf, List.filter_cons, if_neg (by simpa only [decide_eq_true_eq] using lower)]
  apply List.filter_congr
  intro other _
  rw [decide_eq_decide, List.forall_mem_cons]
  constructor
  · exact And.right
  · intro highest
    refine ⟨fun ofUrl => ?_, highest⟩
    have reached := highest higher member (sameUrl.trans ofUrl)
    exact Int32.le_trans (Int32.le_of_lt above) reached

/-- Above all other versions of its URL an artifact takes the place of the highest of them. -/
theorem latestOf_cons_of_highest
    (highest : ∀ other ∈ others, other.url = artifact.url → other.version < artifact.version) :
    latestOf (artifact :: others) =
      artifact :: (latestOf others).filter fun other => !(other.url == artifact.url) := by
  have top : ∀ other ∈ artifact :: others,
      other.url = artifact.url → other.version ≤ artifact.version := by
    intro other member ofUrl
    rcases List.mem_cons.1 member with rfl | member
    · exact Int32.le_refl _
    · exact Int32.le_of_lt (highest other member ofUrl)
  rw [latestOf, List.filter_cons, if_pos (decide_eq_true top), latestOf, List.filter_filter]
  congr 1
  apply List.filter_congr
  intro other member
  rw [Bool.eq_iff_iff, Bool.and_eq_true, decide_eq_true_eq, decide_eq_true_eq,
    List.forall_mem_cons, Bool.not_eq_true', beq_eq_false_iff_ne]
  apply and_congr_left
  intro _
  constructor
  · intro under ofUrl
    exact Int32.not_le.2 (highest other member ofUrl) (under ofUrl.symm)
  · intro differ ofUrl
    exact absurd ofUrl.symm differ

private theorem totalLength_latestOf_cons
    (highest : ∀ other ∈ others, other.url = artifact.url → other.version < artifact.version) :
    totalLength (latestOf (artifact :: others)) +
        totalLength ((latestOf others).filter fun other => other.url == artifact.url) =
      artifact.contentLength.toInt + totalLength (latestOf others) := by
  have parts := totalLength_perm
    (List.filter_append_perm (fun other => other.url == artifact.url) (latestOf others))
  rw [totalLength_append] at parts
  rw [latestOf_cons_of_highest highest, totalLength_cons, ← parts]
  omega

end Lists

namespace Table

/-- The committed lengths of an archival unit add up to a number that fits. -/
def Fits (table : Table) (ns auid : String) : Prop :=
  totalLength (table.auAllVersions ns auid false) ≤ Int64.maxValue.toInt

instance (table : Table) (ns auid : String) : Decidable (table.Fits ns auid) :=
  inferInstanceAs (Decidable (_ ≤ _))

/-- From one table to another the totals of an archival unit can be added up, and move by these
numbers. -/
def TotalsMove (before after : Table) (ns auid : String) (latest all : Int) : Prop :=
  ∃ latestBefore allBefore latestAfter allAfter : Int64,
    before.sizeTotals ns auid = .ok (latestBefore, allBefore) ∧
      after.sizeTotals ns auid = .ok (latestAfter, allAfter) ∧
      latestAfter.toInt = latestBefore.toInt + latest ∧ allAfter.toInt = allBefore.toInt + all

theorem TotalsMove.reverse {before after : Table} {ns auid : String} {latest all : Int}
    (move : TotalsMove before after ns auid latest all) :
    TotalsMove after before ns auid (-latest) (-all) := by
  obtain ⟨latestBefore, allBefore, latestAfter, allAfter, summed, again, latestMove, allMove⟩ :=
    move
  exact ⟨latestAfter, allAfter, latestBefore, allBefore, again, summed, by omega, by omega⟩

/-- A sound table without negative lengths. -/
structure Measured (table : Table) : Prop where
  sound : table.Sound
  natural : Live.Natural table.get?

section Listed

variable {table : Table} {ns auid : String}

theorem Measured.exists_totals (measured : table.Measured) (fits : table.Fits ns auid) :
    ∃ latest all : Int64, table.sizeTotals ns auid = .ok (latest, all) ∧
      latest.toInt = totalLength (latestOf (table.auAllVersions ns auid false)) ∧
      all.toInt = totalLength (table.auAllVersions ns auid false) := by
  obtain ⟨latest, all, totals, allExact, latestExact, -⟩ :=
    measured.sound.sizeTotals_exact measured.natural ns auid fits
  rw [totalLength_perm (measured.sound.auLatest_perm ns auid false)] at latestExact
  exact ⟨latest, all, totals, latestExact, allExact⟩

theorem Sound.mem_committed (sound : table.Sound) {artifact : Artifact} :
    artifact ∈ table.auAllVersions ns auid false ↔ table.get? artifact.uuid = some artifact ∧
      artifact.ns = ns ∧ artifact.auid = auid ∧ artifact.committed = true := by
  rw [(sound.lists_auAllVersions ns auid false).complete, sound.holds_iff, Artifact.isVisible,
    Bool.or_false]

theorem Sound.shows_iff (sound : table.Sound) {url : String} {artifact : Artifact} :
    table.Shows ns auid url false artifact ↔
      artifact ∈ table.auAllVersions ns auid false ∧ artifact.url = url := by
  rw [(sound.lists_auAllVersions ns auid false).complete]
  constructor
  · intro ⟨held, ofNs, ofAuid, ofUrl, visible⟩
    exact ⟨⟨held, ofNs, ofAuid, visible⟩, ofUrl⟩
  · intro ⟨⟨held, ofNs, ofAuid, visible⟩, ofUrl⟩
    exact ⟨held, ofNs, ofAuid, ofUrl, visible⟩

/-- What counts of a URL for the total of latest versions is its highest version. -/
theorem Sound.totalLength_latestOf_url (sound : table.Sound) (ns auid url : String) :
    totalLength ((latestOf (table.auAllVersions ns auid false)).filter fun other =>
        other.url == url) =
      totalLength (table.latest ns auid url false).toList := by
  rw [← sound.auLatest_filter]
  exact (totalLength_perm ((sound.auLatest_perm ns auid false).filter _)).symm

end Listed

/-- One table lists one more committed artifact in its archival unit than another one does. -/
structure Gains (small large : Table) (artifact : Artifact) : Prop where
  fresh : artifact ∉ small.auAllVersions artifact.ns artifact.auid false
  listed : ∀ other, other ∈ large.auAllVersions artifact.ns artifact.auid false ↔
    other = artifact ∨ other ∈ small.auAllVersions artifact.ns artifact.auid false

/-- A committed artifact in the place of nothing, or of what is not committed, is one more. -/
theorem Sound.gains {small large : Table} {artifact : Artifact} (left : small.Sound)
    (right : large.Sound) (gained : large.get? artifact.uuid = some artifact)
    (committed : artifact.committed = true)
    (lacked : ∀ other, small.get? artifact.uuid = some other → other.committed = false)
    (others : ∀ uuid, artifact.uuid ≠ uuid → large.get? uuid = small.get? uuid) :
    Gains small large artifact where
  fresh member := by
    obtain ⟨held, -⟩ := left.mem_committed.1 member
    cases committed.symm.trans (lacked artifact held)
  listed other := by
    rw [right.mem_committed, left.mem_committed]
    by_cases own : artifact.uuid = other.uuid
    · rw [← own, gained]
      constructor
      · intro ⟨same, _⟩
        exact .inl (Option.some.inj same).symm
      · intro place
        rcases place with rfl | ⟨held, -, -, counted⟩
        · exact ⟨rfl, rfl, rfl, committed⟩
        · cases counted.symm.trans (lacked other held)
    · rw [others _ own, or_iff_right]
      intro same
      exact own (congrArg Artifact.uuid same.symm)

section Gains

variable {small large : Table} {artifact : Artifact} (gains : Gains small large artifact)
  (left : small.Measured) (right : large.Measured)
include gains left right

theorem Gains.perm : (large.auAllVersions artifact.ns artifact.auid false).Perm
    (artifact :: small.auAllVersions artifact.ns artifact.auid false) := by
  have once := (left.sound.lists_auAllVersions artifact.ns artifact.auid false).once
  have onceMore := (right.sound.lists_auAllVersions artifact.ns artifact.auid false).once
  apply (List.perm_ext_iff_of_nodup onceMore (List.nodup_cons.2 ⟨gains.fresh, once⟩)).2
  intro other
  rw [gains.listed, List.mem_cons]

theorem Gains.shows_iff {url : String} {other : Artifact} :
    small.Shows artifact.ns artifact.auid url false other ↔
      large.Shows artifact.ns artifact.auid url false other ∧ other ≠ artifact := by
  rw [left.sound.shows_iff, right.sound.shows_iff, gains.listed]
  constructor
  · intro ⟨member, ofUrl⟩
    refine ⟨⟨.inr member, ofUrl⟩, ?_⟩
    rintro rfl
    exact gains.fresh member
  · intro ⟨⟨place, ofUrl⟩, differ⟩
    rcases place with same | member
    · exact absurd same differ
    · exact ⟨member, ofUrl⟩

variable (fits : large.Fits artifact.ns artifact.auid)
include fits

/-- The artifact counts for the total of all versions, and what it does to that of latest versions
can be told from the listings. -/
theorem Gains.totalsMove {latest : Int}
    (sum : totalLength
        (latestOf (artifact :: small.auAllVersions artifact.ns artifact.auid false)) =
      totalLength (latestOf (small.auAllVersions artifact.ns artifact.auid false)) + latest) :
    TotalsMove small large artifact.ns artifact.auid latest artifact.contentLength.toInt := by
  have perm := gains.perm left right
  have total := totalLength_perm perm
  rw [totalLength_cons] at total
  have added := right.sound.natural_listed right.natural artifact.ns artifact.auid artifact
    ((gains.listed artifact).2 (.inl rfl))
  rw [Int64.le_iff_toInt_le, Int64.toInt_zero] at added
  have less : small.Fits artifact.ns artifact.auid := by
    rw [Fits] at fits ⊢
    omega
  obtain ⟨latestBefore, allBefore, summed, latestExact, allExact⟩ := left.exists_totals less
  obtain ⟨latestAfter, allAfter, again, latestExactAfter, allExactAfter⟩ :=
    right.exists_totals fits
  rw [totalLength_perm (latestOf_perm perm)] at latestExactAfter
  exact ⟨latestBefore, allBefore, latestAfter, allAfter, summed, again, by omega, by omega⟩

theorem Gains.totalsMove_of_lower {higher : Artifact}
    (shown : small.Shows artifact.ns artifact.auid artifact.url false higher)
    (above : artifact.version < higher.version) :
    TotalsMove small large artifact.ns artifact.auid 0 artifact.contentLength.toInt := by
  obtain ⟨member, sameUrl⟩ := left.sound.shows_iff.1 shown
  apply gains.totalsMove left right fits
  rw [latestOf_cons_of_lower member sameUrl above, Int.add_zero]

/-- Otherwise it takes the place of the highest version that was there. -/
theorem Gains.totalsMove_of_highest
    (highest : ∀ other, small.Shows artifact.ns artifact.auid artifact.url false other →
      other.version ≤ artifact.version) :
    ∃ former, IsHighest (small.Shows artifact.ns artifact.auid artifact.url false) former ∧
      TotalsMove small large artifact.ns artifact.auid
        (artifact.contentLength.toInt - totalLength former.toList)
        artifact.contentLength.toInt := by
  refine ⟨_, left.sound.isHighest_latest _ _ _ _, gains.totalsMove left right fits ?_⟩
  have distinct := ((gains.perm left right).map _).nodup_iff.1
    (right.sound.versions_distinct artifact.ns artifact.auid false)
  rw [List.map_cons, List.nodup_cons] at distinct
  have top : ∀ other ∈ small.auAllVersions artifact.ns artifact.auid false,
      other.url = artifact.url → other.version < artifact.version := by
    intro other member sameUrl
    have under := highest other (left.sound.shows_iff.2 ⟨member, sameUrl⟩)
    refine Int32.lt_of_le_of_ne under fun sameVersion => distinct.1 ?_
    exact List.mem_map.2 ⟨other, member, Prod.ext sameUrl sameVersion⟩
  have sum := totalLength_latestOf_cons top
  rw [left.sound.totalLength_latestOf_url] at sum
  omega

end Gains

end Table

end ArchiveCatalog
