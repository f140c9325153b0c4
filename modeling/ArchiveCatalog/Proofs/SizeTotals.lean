import ArchiveCatalog.Proofs.CallInvariants
import ArchiveCatalog.Proofs.LatestVersions
import Mathlib.Algebra.Order.BigOperators.Group.List
import Mathlib.Algebra.Ring.Int.Defs
import Mathlib.Data.List.Nodup

namespace ArchiveCatalog

def totalLength (artifacts : List Artifact) : Int :=
  (artifacts.map (·.contentLength.toInt)).sum

/-- The artifacts that have the highest version of their URL. -/
def latestOf (artifacts : List Artifact) : List Artifact :=
  artifacts.filter fun artifact =>
    ∀ other ∈ artifacts, other.url = artifact.url → other.version ≤ artifact.version

theorem mem_latestOf {artifacts : List Artifact} {artifact : Artifact} :
    artifact ∈ latestOf artifacts ↔ artifact ∈ artifacts ∧
      ∀ other ∈ artifacts, other.url = artifact.url → other.version ≤ artifact.version := by
  rw [latestOf, List.mem_filter, decide_eq_true_eq]

theorem toInt_ofInt {total : Int} (natural : 0 ≤ total) (fits : total ≤ Int64.maxValue.toInt) :
    (Int64.ofInt total).toInt = total := by
  rw [Int64.toInt_maxValue] at fits
  exact Int64.toInt_ofInt_of_le (by omega) (by omega)

theorem addLengths_of_fits {first second : Int64} (left : 0 ≤ first.toInt)
    (right : 0 ≤ second.toInt) (fits : first.toInt + second.toInt ≤ Int64.maxValue.toInt) :
    addLengths first second = .ok (Int64.ofInt (first.toInt + second.toInt)) := by
  have inRange : Int64.minValue.toInt ≤ first.toInt + second.toInt := by
    rw [Int64.toInt_minValue]
    omega
  rw [addLengths, int64?, if_pos ⟨inRange, fits⟩]

/-- Lengths that are not negative are added up exactly, if their sum fits. -/
theorem foldlM_addLengths {length : α → Int64} {entries : List α} (start : Int64)
    (natural : ∀ entry ∈ entries, 0 ≤ (length entry).toInt) (begun : 0 ≤ start.toInt)
    (fits : start.toInt + (entries.map fun entry => (length entry).toInt).sum ≤
      Int64.maxValue.toInt) :
    entries.foldlM (fun sum entry => addLengths sum (length entry)) start =
      .ok (Int64.ofInt (start.toInt + (entries.map fun entry => (length entry).toInt).sum)) := by
  induction entries generalizing start with
  | nil => simp [pure, Except.pure]
  | cons entry rest ih =>
    have here := natural entry List.mem_cons_self
    have later : ∀ entry ∈ rest, 0 ≤ (length entry).toInt := fun other member =>
      natural other (List.mem_cons_of_mem _ member)
    have restNatural : 0 ≤ (rest.map fun entry => (length entry).toInt).sum :=
      List.sum_nonneg (List.forall_mem_map.2 later)
    rw [List.map_cons, List.sum_cons] at fits ⊢
    -- the rest adds nothing negative, so that the sum up to here fits if the whole sum does
    have added := addLengths_of_fits begun here (by omega)
    have exact : (Int64.ofInt (start.toInt + (length entry).toInt)).toInt =
        start.toInt + (length entry).toInt := toInt_ofInt (by omega) (by omega)
    have next := ih (Int64.ofInt (start.toInt + (length entry).toInt)) later
      (by omega) (by omega)
    rw [List.foldlM_cons, added]
    simp only [bind, Except.bind]
    rw [next, exact, Int.add_assoc]

theorem sum_lengths {artifacts : List Artifact}
    (natural : ∀ artifact ∈ artifacts, 0 ≤ artifact.contentLength.toInt)
    (fits : totalLength artifacts ≤ Int64.maxValue.toInt) :
    artifacts.foldlM (fun sum artifact => addLengths sum artifact.contentLength) 0 =
      .ok (Int64.ofInt (totalLength artifacts)) := by
  have added := foldlM_addLengths 0 natural (by simp) (by rwa [Int64.toInt_zero, Int.zero_add])
  rwa [Int64.toInt_zero, Int.zero_add] at added

theorem totalLength_perm {first second : List Artifact} (perm : first.Perm second) :
    totalLength first = totalLength second :=
  (perm.map _).sum_eq

private theorem totalLength_nonneg {artifacts : List Artifact}
    (natural : ∀ artifact ∈ artifacts, 0 ≤ artifact.contentLength.toInt) :
    0 ≤ totalLength artifacts :=
  List.sum_nonneg (List.forall_mem_map.2 natural)

private theorem totalLength_latestOf_le {artifacts : List Artifact}
    (natural : ∀ artifact ∈ artifacts, 0 ≤ artifact.contentLength.toInt) :
    totalLength (latestOf artifacts) ≤ totalLength artifacts :=
  (List.filter_sublist.map _).sum_le_sum (List.forall_mem_map.2 natural)

/-- What is noted of an artifact while it is the highest version of its URL. -/
def Artifact.noted (artifact : Artifact) : String × Int32 × Int64 :=
  (artifact.url, artifact.version, artifact.contentLength)

namespace LatestLengths

variable {latest : LatestLengths} {artifact : Artifact}

theorem mem_note {entry : String × Int32 × Int64} (member : entry ∈ latest.note artifact) :
    entry = artifact.noted ∨ entry ∈ latest := by
  induction latest with
  | nil => simpa [note, Artifact.noted] using member
  | cons first rest ih =>
    obtain ⟨url, version, length⟩ := first
    unfold note at member
    split at member
    case isTrue same =>
      split at member
      · rcases List.mem_cons.1 member with rfl | member
        · exact .inl (by simp [Artifact.noted, same])
        · exact .inr (List.mem_cons_of_mem _ member)
      · exact .inr member
    case isFalse =>
      rcases List.mem_cons.1 member with rfl | member
      · exact .inr List.mem_cons_self
      · exact (ih member).imp_right (List.mem_cons_of_mem _)

private theorem urls_note (latest : LatestLengths) (artifact : Artifact) :
    (latest.note artifact).map (·.1) = if artifact.url ∈ latest.map (·.1) then latest.map (·.1)
      else latest.map (·.1) ++ [artifact.url] := by
  induction latest with
  | nil => simp [note]
  | cons first rest ih =>
    obtain ⟨url, version, length⟩ := first
    unfold note
    by_cases same : url = artifact.url
    · rw [if_pos same]
      split <;> simp [same]
    · have other : artifact.url ≠ url := Ne.symm same
      rw [if_neg same, List.map_cons, ih]
      simp only [List.map_cons, List.mem_cons, other, false_or]
      split <;> rfl

/-- A note is replaced only by one of a higher version. -/
theorem note_raises {entry : String × Int32 × Int64} (member : entry ∈ latest) :
    ∃ later ∈ latest.note artifact, later.1 = entry.1 ∧ entry.2.1 ≤ later.2.1 := by
  induction latest with
  | nil => cases member
  | cons first rest ih =>
    obtain ⟨url, version, length⟩ := first
    unfold note
    split
    case isTrue same =>
      split
      case isTrue higher =>
        rcases List.mem_cons.1 member with rfl | member
        · exact ⟨_, List.mem_cons_self, rfl, Int32.le_of_lt higher⟩
        · exact ⟨entry, List.mem_cons_of_mem _ member, rfl, Int32.le_refl _⟩
      case isFalse => exact ⟨entry, member, rfl, Int32.le_refl _⟩
    case isFalse =>
      rcases List.mem_cons.1 member with rfl | member
      · exact ⟨_, List.mem_cons_self, rfl, Int32.le_refl _⟩
      · obtain ⟨later, kept, above⟩ := ih member
        exact ⟨later, List.mem_cons_of_mem _ kept, above⟩

private theorem note_covers (latest : LatestLengths) (artifact : Artifact) :
    ∃ entry ∈ latest.note artifact, entry.1 = artifact.url ∧ artifact.version ≤ entry.2.1 := by
  induction latest with
  | nil => exact ⟨_, List.mem_cons_self, rfl, Int32.le_refl _⟩
  | cons first rest ih =>
    obtain ⟨url, version, length⟩ := first
    unfold note
    split
    case isTrue same =>
      split
      case isTrue => exact ⟨_, List.mem_cons_self, same, Int32.le_refl _⟩
      case isFalse lower => exact ⟨_, List.mem_cons_self, same, Int32.not_lt.1 lower⟩
    case isFalse =>
      obtain ⟨entry, kept, covers⟩ := ih
      exact ⟨entry, List.mem_cons_of_mem _ kept, covers⟩

end LatestLengths

/-- The notes on artifacts that have been seen: one of each URL, taken from one of its artifacts,
and of no lower version than any of them. -/
structure Notes (seen : List Artifact) (latest : LatestLengths) : Prop where
  once : (latest.map (·.1)).Nodup
  drawn : ∀ entry ∈ latest, ∃ artifact ∈ seen, artifact.noted = entry
  covers : ∀ artifact ∈ seen, ∃ entry ∈ latest,
    entry.1 = artifact.url ∧ artifact.version ≤ entry.2.1

theorem Notes.note {seen : List Artifact} {latest : LatestLengths} (notes : Notes seen latest)
    (artifact : Artifact) : Notes (seen ++ [artifact]) (latest.note artifact) where
  once := by
    rw [LatestLengths.urls_note]
    split
    case isTrue => exact notes.once
    case isFalse fresh => exact List.nodup_append_comm.1 (List.nodup_cons.2 ⟨fresh, notes.once⟩)
  drawn entry member := by
    rcases LatestLengths.mem_note member with rfl | old
    · exact ⟨artifact, by simp, rfl⟩
    · obtain ⟨source, here, same⟩ := notes.drawn entry old
      exact ⟨source, List.mem_append_left _ here, same⟩
  covers other member := by
    rcases List.mem_append.1 member with old | new
    · obtain ⟨entry, held, sameUrl, above⟩ := notes.covers other old
      obtain ⟨later, kept, sameNote, raised⟩ := LatestLengths.note_raises held
      exact ⟨later, kept, sameNote.trans sameUrl, Int32.le_trans above raised⟩
    · cases List.mem_singleton.1 new
      exact latest.note_covers artifact

theorem Notes.foldl {seen : List Artifact} {latest : LatestLengths} (notes : Notes seen latest)
    (artifacts : List Artifact) :
    Notes (seen ++ artifacts) (artifacts.foldl LatestLengths.note latest) := by
  induction artifacts generalizing seen latest with
  | nil => simpa using notes
  | cons artifact rest ih => simpa using ih (notes.note artifact)

/-- The notes on artifacts of which no two share a URL and a version are those of the latest
versions. -/
theorem Notes.perm {seen : List Artifact} {latest : LatestLengths} (notes : Notes seen latest)
    (distinct : (seen.map fun artifact => (artifact.url, artifact.version)).Nodup) :
    latest.Perm ((latestOf seen).map (·.noted)) := by
  have same {first second : Artifact} (left : first ∈ seen) (right : second ∈ seen)
      (url : first.url = second.url) (version : first.version = second.version) :
      first = second :=
    List.inj_on_of_nodup_map distinct left right (Prod.ext url version)
  have notedOnce : ((latestOf seen).map (·.noted)).Nodup := by
    refine .of_map (fun entry => (entry.1, entry.2.1)) ?_
    rw [List.map_map]
    exact distinct.sublist (List.filter_sublist.map _)
  refine (List.perm_ext_iff_of_nodup notes.once.of_map notedOnce).2 fun entry => ?_
  rw [List.mem_map]
  constructor
  · intro held
    obtain ⟨artifact, member, rfl⟩ := notes.drawn entry held
    refine ⟨artifact, mem_latestOf.2 ⟨member, fun other present sameUrl => ?_⟩, rfl⟩
    obtain ⟨note, kept, ofUrl, above⟩ := notes.covers other present
    -- one note of each URL, so that this one covers the other artifact
    have own : note = artifact.noted :=
      List.inj_on_of_nodup_map notes.once kept held (ofUrl.trans sameUrl)
    rw [own] at above
    exact above
  · rintro ⟨artifact, latest, rfl⟩
    obtain ⟨member, highest⟩ := mem_latestOf.1 latest
    obtain ⟨note, kept, ofUrl, above⟩ := notes.covers artifact member
    obtain ⟨source, present, rfl⟩ := notes.drawn note kept
    have version := Int32.le_antisymm (highest source present ofUrl) above
    exact same present member ofUrl version ▸ kept

theorem Notes.of_perm {seen other : List Artifact} {latest : LatestLengths}
    (notes : Notes seen latest) (perm : seen.Perm other) : Notes other latest where
  once := notes.once
  drawn entry held := by
    obtain ⟨artifact, member, same⟩ := notes.drawn entry held
    exact ⟨artifact, perm.mem_iff.1 member, same⟩
  covers artifact member := notes.covers artifact (perm.mem_iff.2 member)

section Totals

variable {committed artifacts : List Artifact}

/-- The lengths of latest versions are added up exactly, in whatever order the notes are taken. -/
theorem sum_notes {notes : LatestLengths}
    (natural : ∀ artifact ∈ committed, 0 ≤ artifact.contentLength.toInt)
    (distinct : (committed.map fun artifact => (artifact.url, artifact.version)).Nodup)
    (fits : totalLength committed ≤ Int64.maxValue.toInt)
    (perm : (artifacts.filter (·.committed)).Perm committed)
    (order : notes.Perm ((artifacts.filter (·.committed)).foldl LatestLengths.note [])) :
    notes.foldlM (fun sum entry => addLengths sum entry.2.2) 0 =
      .ok (Int64.ofInt (totalLength (latestOf committed))) := by
  have nothing : Notes [] [] := ⟨.nil, by simp, by simp⟩
  have noted : notes.Perm ((latestOf committed).map (·.noted)) :=
    order.trans (((nothing.foldl _).of_perm perm).perm distinct)
  have sum : (notes.map fun entry => entry.2.2.toInt).sum = totalLength (latestOf committed) := by
    rw [(noted.map _).sum_eq, List.map_map]
    rfl
  have below := totalLength_latestOf_le natural
  rw [foldlM_addLengths 0 ?natural (by simp) (by simp [sum]; omega), sum]
  · simp
  case natural =>
    intro entry member
    obtain ⟨artifact, latest, rfl⟩ := List.mem_map.1 (noted.mem_iff.1 member)
    exact natural artifact (mem_latestOf.1 latest).1

private theorem committedSizeTotals_eq
    (natural : ∀ artifact ∈ committed, 0 ≤ artifact.contentLength.toInt)
    (distinct : (committed.map fun artifact => (artifact.url, artifact.version)).Nodup)
    (fits : totalLength committed ≤ Int64.maxValue.toInt)
    (perm : (artifacts.filter (·.committed)).Perm committed) :
    committedSizeTotals artifacts = .ok (Int64.ofInt (totalLength (latestOf committed)),
      Int64.ofInt (totalLength committed)) := by
  have total : totalLength (artifacts.filter (·.committed)) = totalLength committed :=
    totalLength_perm perm
  have all : (artifacts.filter (·.committed)).foldlM
      (fun sum artifact => addLengths sum artifact.contentLength) 0 =
        .ok (Int64.ofInt (totalLength committed)) := by
    rw [← total] at fits ⊢
    exact sum_lengths (fun artifact member => natural artifact (perm.mem_iff.1 member)) fits
  have latest := sum_notes natural distinct fits perm (.refl _)
  rw [committedSizeTotals, all]
  simp only [bind, Except.bind, latest]
  rfl

/-- The exact totals of committed artifacts: those of latest versions and of all versions, whatever
stands between the artifacts and is not committed, in whatever order they come and the notes on
them are taken. -/
structure ExactTotals (committed : List Artifact) (latest all : Int64) : Prop where
  all_eq : all.toInt = totalLength committed
  latest_eq : latest.toInt = totalLength (latestOf committed)
  natural : 0 ≤ latest
  latest_le : latest ≤ all
  computed : ∀ artifacts, (artifacts.filter (·.committed)).Perm committed →
    committedSizeTotals artifacts = .ok (latest, all)
  anyOrder : ∀ (artifacts : List Artifact) (notes : LatestLengths),
    (artifacts.filter (·.committed)).Perm committed →
    notes.Perm ((artifacts.filter (·.committed)).foldl LatestLengths.note []) →
      notes.foldlM (fun sum entry => addLengths sum entry.2.2) 0 = .ok latest

private theorem exists_exactTotals (natural : ∀ artifact ∈ committed, 0 ≤ artifact.contentLength)
    (distinct : (committed.map fun artifact => (artifact.url, artifact.version)).Nodup)
    (fits : totalLength committed ≤ Int64.maxValue.toInt) :
    ∃ latest all, ExactTotals committed latest all := by
  have lengths : ∀ artifact ∈ committed, 0 ≤ artifact.contentLength.toInt :=
    fun artifact member => Int64.le_iff_toInt_le.1 (natural artifact member)
  have below := totalLength_latestOf_le lengths
  have latestNatural : 0 ≤ totalLength (latestOf committed) :=
    totalLength_nonneg fun artifact member => lengths artifact (mem_latestOf.1 member).1
  have allExact := toInt_ofInt (latestNatural.trans below) fits
  have latestExact := toInt_ofInt latestNatural (below.trans fits)
  refine ⟨_, _, allExact, latestExact, ?natural, ?latest_le,
    fun _ => committedSizeTotals_eq lengths distinct fits,
    fun _ _ => sum_notes lengths distinct fits⟩
  case natural =>
    rw [Int64.le_iff_toInt_le, latestExact]
    exact latestNatural
  case latest_le =>
    rw [Int64.le_iff_toInt_le, latestExact, allExact]
    exact below

end Totals

namespace Live

/-- No live artifact has a negative length. -/
def Natural (live : Live) : Prop :=
  ∀ uuid artifact, live uuid = some artifact → 0 ≤ artifact.contentLength

theorem Natural.step {live next : Live} {operation : Operation}
    {answer : Outcome operation.Answer} (natural : live.Natural)
    (step : live.Step operation answer next) : next.Natural := by
  refine All.step natural (fun artifact valid => ?_) (fun _ => id) (fun _ _ => id) step
  obtain ⟨-, -, -, -, -, length⟩ := Artifact.accepted_iff.1 valid
  exact Int64.le_iff_toInt_le.2 length

end Live

namespace Volatile

theorem natural_run {catalog : Volatile} (sound : catalog.table.Sound)
    (natural : catalog.live.Natural) (operation : Operation) :
    (catalog.run operation).2.live.Natural :=
  keeps_run Live.Natural.step sound natural operation

theorem natural_after {catalog : Volatile} (sound : catalog.table.Sound)
    (natural : catalog.live.Natural) (calls : List CatalogCall) :
    (catalog.after calls).live.Natural :=
  keeps_after Live.Natural.step sound natural calls

end Volatile

namespace Table

variable {table : Table}

theorem Sound.versions_distinct (sound : table.Sound) (ns auid : String) (uncommitted : Bool) :
    ((table.auAllVersions ns auid uncommitted).map fun artifact =>
      (artifact.url, artifact.version)).Nodup := by
  refine List.pairwise_map.2 ?_
  refine (sound.lists_auAllVersions ns auid uncommitted).ordered.imp fun {a b} before same => ?_
  obtain ⟨url, version⟩ := Prod.mk.inj same
  rcases before with less | ⟨-, above⟩
  · rw [url] at less
    exact List.lt_irrefl _ less
  · rw [version] at above
    exact Int32.lt_irrefl above

/-- Listings of latest versions hold the highest version of each URL that is listed. -/
theorem Sound.auLatest_perm (sound : table.Sound) (ns auid : String) (uncommitted : Bool) :
    (table.auLatest ns auid uncommitted).Perm
      (latestOf (table.auAllVersions ns auid uncommitted)) := by
  have once := (sound.lists_auAllVersions ns auid uncommitted).once
  have kept : (table.auLatest ns auid uncommitted).Nodup := once.sublist (latestPerStem_sublist _)
  have highest : (latestOf (table.auAllVersions ns auid uncommitted)).Nodup := once.filter _
  refine (List.perm_ext_iff_of_nodup kept highest).2 fun artifact => ?_
  have listed (other : Artifact) : other ∈ table.auAllVersions ns auid uncommitted ∧
      other.url = artifact.url ↔ table.Shows ns auid artifact.url uncommitted other := by
    rw [(sound.lists_auAllVersions ns auid uncommitted).complete]
    constructor
    · rintro ⟨⟨held, ofNs, ofAuid, visible⟩, ofUrl⟩
      exact ⟨held, ofNs, ofAuid, ofUrl, visible⟩
    · rintro ⟨held, ofNs, ofAuid, ofUrl, visible⟩
      exact ⟨⟨held, ofNs, ofAuid, visible⟩, ofUrl⟩
  rw [sound.mem_auLatest, sound.latest_eq_some_iff, mem_latestOf]
  simp only [← listed, and_true, and_imp]

theorem auRange_committed (table : Table) (ns auid : String) :
    (table.auRange ns auid).filter (·.committed) = table.auAllVersions ns auid false := by
  simp [auAllVersions, Artifact.isVisible]

theorem Sound.natural_listed (sound : table.Sound) (natural : Live.Natural table.get?)
    (ns auid : String) :
    ∀ artifact ∈ table.auAllVersions ns auid false, 0 ≤ artifact.contentLength := by
  intro artifact member
  obtain ⟨⟨uuid, known⟩, -⟩ :=
    ((sound.lists_auAllVersions ns auid false).complete artifact).1 member
  exact natural uuid artifact known

theorem Sound.sizeTotals_exact (sound : table.Sound) (natural : Live.Natural table.get?)
    (ns auid : String)
    (fits : totalLength (table.auAllVersions ns auid false) ≤ Int64.maxValue.toInt) :
    ∃ latest all : Int64, table.sizeTotals ns auid = .ok (latest, all) ∧
      all.toInt = totalLength (table.auAllVersions ns auid false) ∧
      latest.toInt = totalLength (table.auLatest ns auid false) ∧ 0 ≤ latest ∧ latest ≤ all := by
  obtain ⟨latest, all, totals⟩ := exists_exactTotals (sound.natural_listed natural ns auid)
    (sound.versions_distinct ns auid false) fits
  have computed := totals.computed _ (.of_eq (table.auRange_committed ns auid))
  refine ⟨latest, all, computed, totals.all_eq, ?_, totals.natural, totals.latest_le⟩
  rw [totals.latest_eq, totalLength_perm (sound.auLatest_perm ns auid false)]

end Table

open Volatile in
/-- Sizes of archival units in every catalog that calls lead to: if the exact sum of all committed
lengths fits, the totals are the exact sums over the listings of committed artifacts, of all
versions and of latest versions. For any committed artifacts with lengths that are not negative,
and no two with the same URL and version, the totals depend neither on their order nor on what
stands between them and is not committed. -/
theorem size_totals_exact :
    (∀ (calls : List CatalogCall) (ns auid : String),
      let table := (new.after calls).table
      let listed := table.auAllVersions ns auid false
      totalLength listed ≤ Int64.maxValue.toInt →
        ∃ latest all : Int64, table.sizeTotals ns auid = .ok (latest, all) ∧
          all.toInt = totalLength listed ∧
          latest.toInt = totalLength (table.auLatest ns auid false) ∧ 0 ≤ latest ∧ latest ≤ all ∧
          (listed = [] → latest = 0 ∧ all = 0)) ∧
    ∀ committed : List Artifact, (∀ artifact ∈ committed, 0 ≤ artifact.contentLength) →
      (committed.map fun artifact => (artifact.url, artifact.version)).Nodup →
      totalLength committed ≤ Int64.maxValue.toInt →
        ∃ latest all, ExactTotals committed latest all := by
  refine ⟨?_, fun committed => exists_exactTotals⟩
  intro calls ns auid table listed fits
  have sound : table.Sound := sound_after Table.sound_empty calls
  have natural : Live.Natural table.get? :=
    natural_after Table.sound_empty (fun _ _ known => by cases known) calls
  obtain ⟨latest, all, totals, allExact, latestExact, least, below⟩ :=
    sound.sizeTotals_exact natural ns auid fits
  refine ⟨latest, all, totals, allExact, latestExact, least, below, fun nothing => ?_⟩
  change table.auAllVersions ns auid false = [] at nothing
  rw [nothing] at allExact
  rw [Table.auLatest, nothing] at latestExact
  exact ⟨Int64.toInt_inj.1 latestExact, Int64.toInt_inj.1 allExact⟩

open Volatile in
/-- Two versions of a URL are committed and a third one is not, which counts for neither total. -/
theorem size_totals_exact_of_three_versions :
    let made := Artifact.make (.ofNat 1) "ns" "au" "http://example.org/" 1
    let first := { made with contentLength := 100 }
    let second := { made with uuid := .ofNat 2, version := 2, contentLength := 300 }
    let third := { made with uuid := .ofNat 3, version := 3, contentLength := 999 }
    let catalog := new.after [.start, .operate (.index first), .operate (.index second),
      .operate (.index third), .operate (.commit first.uuid), .operate (.commit second.uuid)]
    (∃ latest all : Int64, catalog.table.sizeTotals "ns" "au" = .ok (latest, all) ∧
      all.toInt = 400 ∧ latest.toInt = 300) ∧
    ∃ latest all, ExactTotals [first, second] latest all := by
  intro made first second third catalog
  obtain ⟨ofTable, ofList⟩ := size_totals_exact
  constructor
  · obtain ⟨latest, all, totals, allExact, latestExact, -⟩ :=
      ofTable [.start, .operate (.index first), .operate (.index second),
        .operate (.index third), .operate (.commit first.uuid), .operate (.commit second.uuid)]
        "ns" "au" (by decide)
    have sum : totalLength (catalog.table.auAllVersions "ns" "au" false) = 400 := by decide
    have sumOfLatest : totalLength (catalog.table.auLatest "ns" "au" false) = 300 := by decide
    exact ⟨latest, all, totals, allExact.trans sum, latestExact.trans sumOfLatest⟩
  · exact ofList [first, second] (by decide) (by decide) (by decide)

end ArchiveCatalog
