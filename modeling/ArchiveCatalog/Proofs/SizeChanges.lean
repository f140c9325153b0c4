import ArchiveCatalog.Proofs.SizeMoves

namespace ArchiveCatalog

namespace Table

section Changed

variable {table next : Table} (sound : table.Sound) (nextSound : next.Sound)
include sound nextSound

/-- A change among what does not count in an archival unit leaves its committed artifacts as they
are. -/
theorem Sound.auAllVersions_of_set {ns auid : String} {uuid : Uuid} {record : Option Artifact}
    (after : next.get? = Live.set table.get? uuid record)
    (apart : ∀ artifact, table.get? uuid = some artifact ∨ record = some artifact →
      ¬(artifact.ns = ns ∧ artifact.auid = auid ∧ artifact.committed = true)) :
    next.auAllVersions ns auid false = table.auAllVersions ns auid false := by
  apply eq_of_mem_iff_of_ascending compareAcrossAus
    (nextSound.ascending_auAllVersions ns auid false).ordered
    (sound.ascending_auAllVersions ns auid false).ordered
  intro other
  rw [nextSound.mem_committed, sound.mem_committed, after, Live.set]
  apply and_congr_left
  intro counts
  by_cases own : uuid = other.uuid
  · rw [if_pos own, ← own]
    constructor
    · exact fun same => absurd counts (apart other (.inr same))
    · exact fun same => absurd counts (apart other (.inl same))
  · rw [if_neg own]

/-- An artifact that is changed in place is found where it stood. -/
theorem Sound.inOrder_of_set {artifact changed : Artifact}
    (known : table.get? artifact.uuid = some artifact)
    (after : next.get? = Live.set table.get? artifact.uuid (some changed))
    (sameUuid : changed.uuid = artifact.uuid)
    (samePosition : changed.position = artifact.position) :
    next.inOrder = table.inOrder.map fun other => if other = artifact then changed else other := by
  have places (other : Artifact) :
      (if other = artifact then changed else other).position = other.position := by
    split
    case isTrue same => rw [same, samePosition]
    case isFalse => rfl
  -- positions decide the order, and no position has changed
  apply eq_of_mem_iff_of_ascending (compareOn Artifact.position) nextSound.inOrder_ascending
  · apply List.pairwise_map.2
    simp only [compareOn, places]
    exact sound.inOrder_ascending
  · intro other
    rw [nextSound.mem_inOrder, nextSound.holds_iff, after, Live.set, List.mem_map]
    simp only [sound.mem_inOrder, sound.holds_iff]
    by_cases own : artifact.uuid = other.uuid
    · rw [if_pos own]
      constructor
      · intro same
        exact ⟨artifact, known, (if_pos rfl).trans (Option.some.inj same)⟩
      · rintro ⟨source, held, rfl⟩
        split at own
        case isTrue same => rw [if_pos same]
        case isFalse differ =>
          rw [← own, known] at held
          exact absurd (Option.some.inj held).symm differ
    · rw [if_neg own]
      constructor
      · intro held
        refine ⟨other, held, if_neg ?_⟩
        rintro rfl
        exact own rfl
      · rintro ⟨source, held, rfl⟩
        split at own
        case isTrue => exact absurd sameUuid.symm own
        case isFalse differ => rwa [if_neg differ]

end Changed

/-- Whether an operation changes what counts in an archival unit: it commits an artifact that is
not committed yet, or it deletes a committed one. -/
def Recounts (table : Table) (ns auid : String) : Operation → Prop
  | .commit uuid => ∃ artifact, table.get? uuid = some artifact ∧ artifact.ns = ns ∧
      artifact.auid = auid ∧ artifact.committed = false
  | .delete uuid => ∃ artifact, table.get? uuid = some artifact ∧ artifact.ns = ns ∧
      artifact.auid = auid ∧ artifact.committed = true
  | _ => False

theorem sizeTotals_of_committed {table next : Table} {ns auid : String}
    (same : next.auAllVersions ns auid false = table.auAllVersions ns auid false) :
    next.sizeTotals ns auid = table.sizeTotals ns auid := by
  rw [sizeTotals, sizeTotals, committedSizeTotals, committedSizeTotals, auRange_committed,
    auRange_committed, same]

end Table

private theorem filter_map_change {change : Artifact → Artifact} {test : Artifact → Bool}
    (unnoticed : ∀ artifact, test (change artifact) = test artifact) (artifacts : List Artifact) :
    (artifacts.map change).filter test = (artifacts.filter test).map change := by
  rw [List.filter_map]
  exact congrArg (List.map change) (List.filter_congr fun artifact _ => unnoticed artifact)

private theorem LatestLengths.note_of_noted {first second : Artifact}
    (same : first.noted = second.noted)
    (latest : LatestLengths) : latest.note first = latest.note second := by
  obtain ⟨url, rest⟩ := Prod.mk.inj same
  obtain ⟨version, length⟩ := Prod.mk.inj rest
  induction latest with
  | nil => simp only [note, url, version, length]
  | cons entry rest ih => simp only [note, url, version, length, ih]

/-- What does not bear on lengths and versions does not bear on the totals. -/
theorem committedSizeTotals_map {change : Artifact → Artifact}
    (committed : ∀ artifact, (change artifact).committed = artifact.committed)
    (noted : ∀ artifact, (change artifact).noted = artifact.noted) (artifacts : List Artifact) :
    committedSizeTotals (artifacts.map change) = committedSizeTotals artifacts := by
  have length (artifact : Artifact) : (change artifact).contentLength = artifact.contentLength :=
    congrArg (fun note => note.2.2) (noted artifact)
  have note (latest : LatestLengths) (artifact : Artifact) :
      latest.note (change artifact) = latest.note artifact :=
    LatestLengths.note_of_noted (noted artifact) latest
  simp only [committedSizeTotals, filter_map_change committed, List.foldlM_map, List.foldl_map,
    length, note]

namespace Table

variable {table next : Table} {ns auid : String}

private theorem Sound.sizeTotals_of_set (sound : table.Sound) (nextSound : next.Sound)
    {artifact changed : Artifact} (known : table.get? artifact.uuid = some artifact)
    (after : next.get? = Live.set table.get? artifact.uuid (some changed))
    (sameUuid : changed.uuid = artifact.uuid) (samePosition : changed.position = artifact.position)
    (sameCommitted : changed.committed = artifact.committed)
    (sameLength : changed.contentLength = artifact.contentLength) :
    next.sizeTotals ns auid = table.sizeTotals ns auid := by
  have moved := sound.inOrder_of_set nextSound known after sameUuid samePosition
  have within (other : Artifact) :
      isIn ns auid (if other = artifact then changed else other) = isIn ns auid other := by
    split
    case isTrue same => rw [same, isIn_of_position samePosition]
    case isFalse => rfl
  rw [sizeTotals, sizeTotals, nextSound.auRange_eq, sound.auRange_eq, moved,
    filter_map_change within]
  apply committedSizeTotals_map
  · intro other
    split
    case isTrue same => rw [same, sameCommitted]
    case isFalse => rfl
  · intro other
    split
    case isTrue same =>
      have url : changed.url = artifact.url := congrArg Position.url samePosition
      have version : changed.version = artifact.version := congrArg Position.version samePosition
      rw [same, Artifact.noted, Artifact.noted, url, version, sameLength]
    case isFalse => rfl

/-- By the rules of live artifacts only a first commit and the deletion of what is committed can
change the totals, and only those of their archival unit. -/
theorem Sound.sizeTotals_step (sound : table.Sound) (nextSound : next.Sound)
    {operation : Operation} {answer : Outcome operation.Answer}
    (step : Live.Step table.get? operation answer next.get?)
    (spared : ¬table.Recounts ns auid operation) :
    next.sizeTotals ns auid = table.sizeTotals ns auid := by
  have unchanged (after : next.get? = table.get?) :
      next.sizeTotals ns auid = table.sizeTotals ns auid := by
    rw [Sound.ext nextSound sound (congrFun after)]
  generalize after : next.get? = live at step
  cases step with
  | index valid unknown free =>
    apply sizeTotals_of_committed (sound.auAllVersions_of_set nextSound after _)
    rintro artifact (known | added) ⟨-, -, committed⟩
    · cases unknown.symm.trans known
    · cases added
      cases committed
  | @commit uuid artifact named known =>
    cases sound.keyed _ _ known
    cases counted : artifact.committed with
    | true => exact sound.sizeTotals_of_set nextSound known after rfl rfl counted.symm rfl
    | false =>
      apply sizeTotals_of_committed (sound.auAllVersions_of_set nextSound after _)
      rintro other (same | committed) ⟨ofNs, ofAuid, -⟩
      · cases known.symm.trans same
        exact spared ⟨artifact, known, ofNs, ofAuid, counted⟩
      · cases committed
        exact spared ⟨artifact, known, ofNs, ofAuid, counted⟩
  | delete named known =>
    apply sizeTotals_of_committed (sound.auAllVersions_of_set nextSound after _)
    rintro artifact (same | none) ⟨ofNs, ofAuid, committed⟩
    · exact spared ⟨artifact, same, ofNs, ofAuid, committed⟩
    · cases none
  | relocate named given known =>
    cases sound.keyed _ _ known
    exact sound.sizeTotals_of_set nextSound known after rfl rfl rfl rfl
  | _ => exact unchanged after

/-- What the deletion of an artifact does to the totals of its archival unit. -/
structure DeletionMoves (before after : Table) (artifact : Artifact) : Prop where
  uncommitted : artifact.committed = false →
    TotalsMove before after artifact.ns artifact.auid 0 0
  lower : artifact.committed = true →
    ¬IsHighest (before.Shows artifact.ns artifact.auid artifact.url false) (some artifact) →
      TotalsMove before after artifact.ns artifact.auid 0 (-artifact.contentLength.toInt)
  highest : IsHighest (before.Shows artifact.ns artifact.auid artifact.url false) (some artifact) →
    ∃ next, IsHighest (fun other =>
        before.Shows artifact.ns artifact.auid artifact.url false other ∧ other ≠ artifact) next ∧
      TotalsMove before after artifact.ns artifact.auid
        (totalLength next.toList - artifact.contentLength.toInt) (-artifact.contentLength.toInt)

/-- What the commit of an artifact that was not committed does to the totals of its archival
unit. -/
structure CommitMoves (before after : Table) (artifact : Artifact) : Prop where
  lower : (∃ higher, before.Shows artifact.ns artifact.auid artifact.url false higher ∧
      artifact.version < higher.version) →
    TotalsMove before after artifact.ns artifact.auid 0 artifact.contentLength.toInt
  highest : (¬∃ higher, before.Shows artifact.ns artifact.auid artifact.url false higher ∧
      artifact.version < higher.version) →
    ∃ former, IsHighest (before.Shows artifact.ns artifact.auid artifact.url false) former ∧
      TotalsMove before after artifact.ns artifact.auid
        (artifact.contentLength.toInt - totalLength former.toList) artifact.contentLength.toInt

private theorem Measured.totalsMove_of_same (measured : table.Measured) (fits : table.Fits ns auid)
    (same : next.sizeTotals ns auid = table.sizeTotals ns auid) :
    TotalsMove table next ns auid 0 0 := by
  obtain ⟨latest, all, totals, -⟩ := measured.exists_totals fits
  exact ⟨latest, all, latest, all, totals, same.trans totals, by omega, by omega⟩

section Moves

variable {artifact : Artifact} (measured : table.Measured) (nextMeasured : next.Measured)
  (known : table.get? artifact.uuid = some artifact)
include measured nextMeasured known

private theorem Measured.commitMoves (pending : artifact.committed = false)
    (after : next.get? =
      Live.set table.get? artifact.uuid (some { artifact with committed := true }))
    (fits : next.Fits artifact.ns artifact.auid) : CommitMoves table next artifact := by
  have gains : Gains table next { artifact with committed := true } := by
    apply measured.sound.gains nextMeasured.sound
    case gained => rw [after, Live.set, if_pos rfl]
    case committed => rfl
    case lacked =>
      intro other held
      cases known.symm.trans held
      exact pending
    case others =>
      intro uuid differ
      rw [after, Live.set, if_neg differ]
  constructor
  case lower =>
    rintro ⟨higher, shown, above⟩
    exact gains.totalsMove_of_lower measured nextMeasured fits shown above
  case highest =>
    intro none
    apply gains.totalsMove_of_highest measured nextMeasured fits
    intro other shown
    exact Int32.not_lt.1 fun above => none ⟨other, shown, above⟩

private theorem Measured.gains_of_delete (committed : artifact.committed = true)
    (after : next.get? = Live.set table.get? artifact.uuid none) : Gains next table artifact := by
  apply nextMeasured.sound.gains measured.sound known committed
  · intro other held
    rw [after, Live.set, if_pos rfl] at held
    cases held
  · intro uuid differ
    rw [after, Live.set, if_neg differ]

private theorem Measured.deletionMoves (after : next.get? = Live.set table.get? artifact.uuid none)
    (fits : table.Fits artifact.ns artifact.auid) : DeletionMoves table next artifact := by
  constructor
  case uncommitted =>
    intro pending
    apply measured.totalsMove_of_same fits
    apply sizeTotals_of_committed (measured.sound.auAllVersions_of_set nextMeasured.sound after _)
    rintro other (same | none) ⟨-, -, committed⟩
    · cases known.symm.trans same
      cases pending.symm.trans committed
    · cases none
  case lower =>
    intro committed overtaken
    have gains := measured.gains_of_delete nextMeasured known committed after
    have shown : table.Shows artifact.ns artifact.auid artifact.url false artifact :=
      measured.sound.shows_iff.2 ⟨measured.sound.mem_committed.2 ⟨known, rfl, rfl, committed⟩, rfl⟩
    obtain ⟨higher, above⟩ : ∃ higher,
        table.Shows artifact.ns artifact.auid artifact.url false higher ∧
          artifact.version < higher.version := by
      by_contra none
      refine overtaken ⟨shown, fun other present => ?_⟩
      exact Int32.not_lt.1 fun above => none ⟨other, present, above⟩
    have apart : higher ≠ artifact := by
      rintro rfl
      exact Int32.lt_irrefl above.2
    have remains := (gains.shows_iff nextMeasured measured).2 ⟨above.1, apart⟩
    exact (gains.totalsMove_of_lower nextMeasured measured fits remains above.2).reverse
  case highest =>
    rintro ⟨shown, top⟩
    have gains := measured.gains_of_delete nextMeasured known
      (measured.sound.mem_committed.1 (measured.sound.shows_iff.1 shown).1).2.2.2 after
    obtain ⟨former, isHighest, move⟩ :=
      gains.totalsMove_of_highest nextMeasured measured fits fun other remains =>
        top other ((gains.shows_iff nextMeasured measured).1 remains).1
    have left : next.Shows artifact.ns artifact.auid artifact.url false = fun other =>
        table.Shows artifact.ns artifact.auid artifact.url false other ∧ other ≠ artifact :=
      funext fun other => propext (gains.shows_iff nextMeasured measured)
    rw [left] at isHighest
    refine ⟨former, isHighest, ?_⟩
    rw [← Int.neg_sub]
    exact move.reverse

end Moves

end Table

namespace Live

variable {live next : Live} {uuid : Uuid} {artifact : Artifact}

/-- The nil identifier stands for no live artifact. -/
def Named (live : Live) : Prop := live .nil = .none

theorem Named.step {operation : Operation} {answer : Outcome operation.Answer}
    (named : live.Named) (step : live.Step operation answer next) : next.Named := by
  have others {uuid : Uuid} (other : uuid ≠ .nil) (record : Option Artifact) :
      (live.set uuid record).Named := (if_neg other).trans named
  cases step with
  | index valid =>
    apply others
    intro nil
    rw [Artifact.validate, nil] at valid
    cases valid
  | commit other => exact others other _
  | relocate other => exact others other _
  | delete other => exact others other _
  | _ => exact named

private theorem Step.after_commit {answer : Outcome (Option Artifact)} (named : uuid ≠ .nil)
    (known : live uuid = some artifact) (step : live.Step (.commit uuid) answer next) :
    next = live.set uuid (some { artifact with committed := true }) := by
  cases step with
  | commitNil => exact absurd rfl named
  | commitUnknown _ unknown => cases known.symm.trans unknown
  | commit _ same =>
    cases known.symm.trans same
    rfl
  | listing reads => cases reads

private theorem Step.after_delete {answer : Outcome Bool} (named : uuid ≠ .nil)
    (known : live uuid = some artifact) (step : live.Step (.delete uuid) answer next) :
    next = live.set uuid .none := by
  cases step with
  | deleteNil => exact absurd rfl named
  | deleteUnknown _ unknown => cases known.symm.trans unknown
  | delete => rfl
  | listing reads => cases reads

end Live

namespace Volatile

variable {catalog : Volatile}

private theorem measured_run (measured : catalog.table.Measured) (operation : Operation) :
    (catalog.run operation).2.table.Measured :=
  ⟨sound_run measured.sound operation, natural_run measured.sound measured.natural operation⟩

private theorem run_of_failure {operation : Operation} {failure : Failure}
    (failed : (catalog.run operation).1 = .error failure) :
    (catalog.run operation).2 = catalog := by
  rcases catalog.run_cases operation with ⟨-, answer, change, succeeded, -⟩ | ⟨same, -⟩
  · cases succeeded.symm.trans failed
  · exact same

end Volatile

open Volatile in
/-- Size totals in every ready catalog that calls lead to. A deletion of a live artifact moves the
totals of its archival unit exactly as it should, if they fit before it, and so does the commit of
one that is not committed, if they fit after it. Whatever fails or does neither of the two in an
archival unit leaves the totals of that archival unit as they are, even totals that do not fit. -/
theorem size_changes_exact (calls : List CatalogCall) (ready : (new.after calls).state = .ready) :
    let catalog := new.after calls
    (∀ artifact, catalog.table.Holds artifact →
      catalog.table.Fits artifact.ns artifact.auid →
        Table.DeletionMoves catalog.table (catalog.run (.delete artifact.uuid)).2.table artifact) ∧
    (∀ artifact, catalog.table.Holds artifact → artifact.committed = false →
      (catalog.run (.commit artifact.uuid)).2.table.Fits artifact.ns artifact.auid →
        Table.CommitMoves catalog.table (catalog.run (.commit artifact.uuid)).2.table artifact) ∧
    ∀ (operation : Operation) (ns auid : String),
      ((∃ failure, (catalog.run operation).1 = .error failure) ∨
        ¬catalog.table.Recounts ns auid operation) →
      (catalog.run operation).2.table.sizeTotals ns auid = catalog.table.sizeTotals ns auid := by
  intro catalog
  have sound : catalog.table.Sound := sound_after Table.sound_empty calls
  have natural : catalog.live.Natural :=
    natural_after Table.sound_empty (fun _ _ known => by cases known) calls
  have unnamed : new.live.Named := rfl
  have named : catalog.live.Named := keeps_after Live.Named.step Table.sound_empty unnamed calls
  have measured : catalog.table.Measured := ⟨sound, natural⟩
  have identified {artifact : Artifact}
      (known : catalog.table.get? artifact.uuid = some artifact) : artifact.uuid ≠ .nil := by
    intro nil
    rw [nil] at known
    cases known.symm.trans named
  refine ⟨?deletion, ?commit, ?others⟩
  case deletion =>
    intro artifact held fits
    have known := sound.holds_iff.1 held
    have step := run_step ready sound (.delete artifact.uuid)
    have after := step.after_delete (identified known) known
    exact measured.deletionMoves (measured_run measured _) known after fits
  case commit =>
    intro artifact held pending fits
    have known := sound.holds_iff.1 held
    have step := run_step ready sound (.commit artifact.uuid)
    have after := step.after_commit (identified known) known
    exact measured.commitMoves (measured_run measured _) known pending after fits
  case others =>
    intro operation ns auid spared
    rcases spared with ⟨failure, failed⟩ | spared
    · rw [run_of_failure failed]
    · have step := run_step ready sound operation
      exact sound.sizeTotals_step (sound_run sound operation) step spared

open Volatile in
/-- Of three versions the lowest is deleted, and the highest is committed and indexed again. -/
theorem size_changes_exact_of_three_versions :
    let made := Artifact.make (.ofNat 1) "ns" "au" "http://example.org/" 1
    let first := { made with contentLength := 100 }
    let second := { made with uuid := .ofNat 2, version := 2, contentLength := 300 }
    let third := { made with uuid := .ofNat 3, version := 3, contentLength := 999 }
    let calls : List CatalogCall := [.start, .operate (.index first), .operate (.index second),
      .operate (.index third), .operate (.commit first.uuid), .operate (.commit second.uuid)]
    let shows := (new.after calls).table.Shows "ns" "au" "http://example.org/" false
    (new.after calls).state = .ready ∧
      (new.after calls).table.TotalsMove ((new.after calls).run (.delete first.uuid)).2.table
        "ns" "au" 0 (-100) ∧
      (∃ former, IsHighest shows former ∧
        (new.after calls).table.TotalsMove ((new.after calls).run (.commit third.uuid)).2.table
          "ns" "au" (999 - totalLength former.toList) 999) ∧
      ((new.after calls).run (.index third)).2.table.sizeTotals "ns" "au" =
        (new.after calls).table.sizeTotals "ns" "au" := by
  intro made first second third calls shows
  have ready : (new.after calls).state = .ready := by decide
  obtain ⟨deletion, commit, others⟩ := size_changes_exact calls ready
  let live (artifact : Artifact) : Artifact := { artifact with committed := true }
  have shown : shows (live second) := ⟨⟨second.uuid, by decide⟩, rfl, rfl, rfl, rfl⟩
  refine ⟨ready, ?_, ?_, ?_⟩
  · have held : (new.after calls).table.Holds (live first) := ⟨first.uuid, by decide⟩
    have fits : (new.after calls).table.Fits "ns" "au" := by decide
    have overtaken : ¬IsHighest shows (some (live first)) := by
      intro ⟨_, top⟩
      exact absurd (top (live second) shown) (by decide)
    have length : (live first).contentLength.toInt = 100 := by decide
    have sameUuid : (live first).uuid = first.uuid := rfl
    have move := (deletion (live first) held fits).lower rfl overtaken
    rw [length, sameUuid] at move
    exact move
  · have held : (new.after calls).table.Holds third := ⟨third.uuid, by decide⟩
    have fits : ((new.after calls).run (.commit third.uuid)).2.table.Fits third.ns third.auid := by
      decide
    have length : third.contentLength.toInt = 999 := by decide
    have sound : (new.after calls).table.Sound := sound_after Table.sound_empty calls
    have below : ∀ other ∈ (new.after calls).table.urlAllVersions "ns" "au" "http://example.org/"
        false, ¬third.version < other.version := by decide
    have highest : ¬∃ higher, shows higher ∧ third.version < higher.version := by
      intro ⟨higher, present, above⟩
      exact below higher (sound.mem_urlAllVersions.2 present) above
    have move := (commit third held rfl fits).highest highest
    rw [length] at move
    exact move
  · exact others (.index third) "ns" "au" (.inr id)

end ArchiveCatalog
