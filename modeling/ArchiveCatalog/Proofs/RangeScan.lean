import ArchiveCatalog.Proofs.ListingOrder
import ArchiveCatalog.Proofs.TableReachability
import ArchiveCatalog.Proofs.TextOrder

/-! A scan misses nothing because the wanted positions are one stretch of the order, and none of
them stands before the place where it begins. -/

namespace ArchiveCatalog

/-- Keys that a scan from `start` finds without a gap: none of them stands before `start`, and from
there on no other key stands before one of them. -/
structure Stretch {α : Type u} [Ord α] (start : α) (inside : α → Bool) : Prop where
  least : ∀ key, inside key = true → compare key start ≠ .lt
  unbroken : ∀ first second, compare first start ≠ .lt → compare first second = .lt →
    inside second = true → inside first = true

namespace OrderedMap

private theorem takeWhile_eq_filter {test : α → Bool} {values : List α}
    (falling : values.Pairwise fun first second => test second = true → test first = true) :
    values.takeWhile test = values.filter test := by
  induction values with
  | nil => rfl
  | cons first rest ih =>
    obtain ⟨before, tail⟩ := List.pairwise_cons.1 falling
    cases holds : test first with
    | true => simp [holds, ih tail]
    | false =>
      have none : rest.filter test = [] := by
        apply List.filter_eq_nil_iff.2
        intro second member holdsLater
        simp [before second member holdsLater] at holds
      simp [holds, none]

variable {α : Type u} {β : Type v} [Ord α] [Std.TransOrd α]

private theorem not_before_of_mem_dropWhile {start : α} {entries : List (α × β)} {entry : α × β}
    (ascending : entries.Pairwise fun x y => compare x.1 y.1 = .lt)
    (member : entry ∈ entries.dropWhile fun entry => compare entry.1 start == .lt) :
    compare entry.1 start ≠ .lt := by
  induction entries with
  | nil => simp at member
  | cons first rest ih =>
    obtain ⟨later, tail⟩ := List.pairwise_cons.1 ascending
    by_cases before : compare first.1 start = .lt
    · exact ih tail (by simpa [List.dropWhile_cons, before] using member)
    · have kept : entry ∈ first :: rest := by simpa [List.dropWhile_cons, before] using member
      rcases List.mem_cons.1 kept with rfl | member
      · exact before
      · exact fun less => before (Std.TransCmp.lt_trans (later entry member) less)

/-- A scan of a stretch finds all its entries. -/
theorem scan_eq_filter {start : α} {inside : α → Bool} (stretch : Stretch start inside)
    (map : OrderedMap α β) :
    ((map.entriesFrom start).takeWhile fun entry => inside entry.1) =
      map.entries.filter fun entry => inside entry.1 := by
  -- what is skipped before the start is not wanted, and after a gap nothing wanted follows
  have nothingBefore : ((map.entries.takeWhile fun entry => compare entry.1 start == .lt).filter
      fun entry => inside entry.1) = [] := by
    apply List.filter_eq_nil_iff.2
    intro entry member within
    have before : compare entry.1 start = .lt := by
      simpa using List.all_eq_true.1 List.all_takeWhile entry member
    exact stretch.least entry.1 within before
  have falling : (map.entriesFrom start).Pairwise fun first second =>
      inside second.1 = true → inside first.1 = true := by
    have ascending : (map.entriesFrom start).Pairwise fun x y => compare x.1 y.1 = .lt :=
      map.ascending.sublist (List.dropWhile_sublist _)
    refine ascending.imp_of_mem fun {first second} member _ less within => ?_
    exact stretch.unbroken first.1 second.1
      (not_before_of_mem_dropWhile map.ascending member) less within
  have parts : (map.entries.takeWhile fun entry => compare entry.1 start == .lt) ++
      map.entriesFrom start = map.entries := List.takeWhile_append_dropWhile
  calc ((map.entriesFrom start).takeWhile fun entry => inside entry.1)
      = (map.entriesFrom start).filter fun entry => inside entry.1 := takeWhile_eq_filter falling
    _ = ((map.entries.takeWhile fun entry => compare entry.1 start == .lt) ++
          map.entriesFrom start).filter fun entry => inside entry.1 := by
        rw [List.filter_append, nothingBefore, List.nil_append]
    _ = map.entries.filter fun entry => inside entry.1 := by rw [parts]

end OrderedMap

theorem startsWith_iff {text start : String} :
    Table.startsWith text start = true ↔ start.toList <+: text.toList :=
  List.isPrefixOf_iff_prefix

namespace Position

theorem compare_eq_lt_iff {first second : Position} :
    compare first second = .lt ↔ first.ns < second.ns ∨ first.ns = second.ns ∧
      (first.auid < second.auid ∨ first.auid = second.auid ∧
        (first.url < second.url ∨ first.url = second.url ∧ second.version < first.version)) := by
  change Position.order first second = .lt ↔ _
  simp only [Position.order, compareLex, compareOn, Ordering.then_eq_lt,
    ArchiveCatalog.compare_eq_lt_iff, Std.LawfulEqOrd.compare_eq_iff_eq,
    compare_version_eq_lt_iff]

theorem not_before_first {place : Position} {auid url : String} (above : auid ≤ place.auid)
    (within : auid = place.auid → url ≤ place.url) :
    compare place (Position.first place.ns auid url) ≠ .lt := by
  rw [Ne, compare_eq_lt_iff]
  rintro (less | ⟨-, less | ⟨same, less | ⟨-, less⟩⟩⟩)
  · exact String.lt_irrefl _ less
  · exact above less
  · exact within same.symm less
  · exact absurd (Int32.le_maxValue place.version) (Int32.not_le.2 less)

private theorem ns_of_between {first second : Position} {ns auid url : String}
    (reached : compare first (Position.first ns auid url) ≠ .lt)
    (before : compare first second = .lt)
    (own : second.ns = ns) : first.ns = ns := by
  rw [Ne, compare_eq_lt_iff] at reached
  rcases compare_eq_lt_iff.1 before with less | ⟨same, -⟩
  · exact absurd (.inl (own ▸ less)) reached
  · exact same.trans own

/-- What stands between the first position of a URL and a position of its archival unit belongs to
the unit, and its URL stands between the two. -/
theorem url_of_between {first second : Position} {ns auid url : String}
    (reached : compare first (Position.first ns auid url) ≠ .lt)
    (before : compare first second = .lt)
    (ownNs : second.ns = ns) (ownAuid : second.auid = auid) :
    first.ns = ns ∧ first.auid = auid ∧ url ≤ first.url ∧ first.url ≤ second.url := by
  have inNs := ns_of_between reached before ownNs
  rw [Ne, compare_eq_lt_iff] at reached
  rcases compare_eq_lt_iff.1 before with less | ⟨-, less | ⟨sameAuid, order⟩⟩
  · exact absurd (inNs.trans ownNs.symm ▸ less) (String.lt_irrefl _)
  · exact absurd (.inr ⟨inNs, .inl (ownAuid ▸ less)⟩) reached
  · have inAuid : first.auid = auid := sameAuid.trans ownAuid
    refine ⟨inNs, inAuid, ?_, ?_⟩
    · exact fun less => reached (.inr ⟨inNs, .inr ⟨inAuid, .inl less⟩⟩)
    · rcases order with less | ⟨same, -⟩
      · exact String.not_lt.1 (String.lt_asymm less)
      · exact same ▸ String.le_refl _

private theorem stretch_au (ns auid : String) :
    Stretch (Position.first ns auid "") fun place => place.ns == ns && place.auid == auid where
  least place within := by
    simp only [Bool.and_eq_true, beq_iff_eq] at within
    obtain ⟨rfl, rfl⟩ := within
    exact not_before_first (String.le_refl _) fun _ => Text.empty_le _
  unbroken first second reached before within := by
    simp only [Bool.and_eq_true, beq_iff_eq] at within ⊢
    obtain ⟨inNs, inAuid, -⟩ := url_of_between reached before within.1 within.2
    exact ⟨inNs, inAuid⟩

private theorem stretch_url (ns auid url : String) :
    Stretch (Position.first ns auid url) fun place =>
      place.ns == ns && place.auid == auid && place.url == url where
  least place within := by
    simp only [Bool.and_eq_true, beq_iff_eq] at within
    obtain ⟨⟨rfl, rfl⟩, rfl⟩ := within
    exact not_before_first (String.le_refl _) fun _ => String.le_refl _
  unbroken first second reached before within := by
    simp only [Bool.and_eq_true, beq_iff_eq] at within ⊢
    obtain ⟨inNs, inAuid, above, below⟩ := url_of_between reached before within.1.1 within.1.2
    exact ⟨⟨inNs, inAuid⟩, String.le_antisymm (within.2 ▸ below) above⟩

private theorem stretch_start (ns auid start : String) :
    Stretch (Position.first ns auid start) fun place =>
      place.ns == ns && place.auid == auid && Table.startsWith place.url start where
  least place within := by
    simp only [Bool.and_eq_true, beq_iff_eq, startsWith_iff] at within
    obtain ⟨⟨rfl, rfl⟩, begins⟩ := within
    exact not_before_first (String.le_refl _) fun _ => Text.le_of_prefix begins
  unbroken first second reached before within := by
    simp only [Bool.and_eq_true, beq_iff_eq, startsWith_iff] at within ⊢
    obtain ⟨inNs, inAuid, above, below⟩ := url_of_between reached before within.1.1 within.1.2
    exact ⟨⟨inNs, inAuid⟩, Text.prefix_of_between (fun less => above (String.lt_iff.2 less))
      (fun less => below (String.lt_iff.2 less)) within.2⟩

private theorem stretch_ns (ns : String) :
    Stretch (Position.first ns "" "") fun place => place.ns == ns where
  least place within := by
    rw [beq_iff_eq] at within
    subst within
    exact not_before_first (Text.empty_le _) fun _ => Text.empty_le _
  unbroken first second reached before within := by
    rw [beq_iff_eq] at within ⊢
    exact ns_of_between reached before within

end Position

namespace Table

def Holds (table : Table) (artifact : Artifact) : Prop :=
  ∃ uuid, table.get? uuid = some artifact

def inOrder (table : Table) : List Artifact :=
  table.byPosition.entries.filterMap fun entry => table.byUuid.get? entry.2

variable {table : Table}

private theorem Sound.artifact_at (sound : table.Sound) {entry : Position × Uuid}
    (member : entry ∈ table.byPosition.entries) :
    ∃ artifact, table.byUuid.get? entry.2 = some artifact ∧ artifact.position = entry.1 :=
  (sound.placed _ _).1 (OrderedMap.get?_eq_some_iff.2 member)

theorem Sound.mem_inOrder (sound : table.Sound) {artifact : Artifact} :
    artifact ∈ table.inOrder ↔ table.Holds artifact := by
  constructor
  · intro member
    obtain ⟨entry, -, known⟩ := List.mem_filterMap.1 member
    exact ⟨entry.2, known⟩
  · rintro ⟨uuid, known⟩
    have held := OrderedMap.get?_eq_some_iff.1 (sound.placed_self known)
    exact List.mem_filterMap.2 ⟨_, held, known⟩

theorem Sound.inOrder_ascending (sound : table.Sound) :
    table.inOrder.Pairwise fun first second => compare first.position second.position = .lt := by
  have places : table.inOrder.map (·.position) = table.byPosition.entries.map (·.1) :=
    sound.artifacts_at fun _ => OrderedMap.get?_eq_some_iff.2
  have ascending := table.byPosition.keys_ascending
  rw [OrderedMap.keys, ← places] at ascending
  exact List.pairwise_map.1 ascending

/-- A scan of a stretch of positions is a filter of the whole table. -/
theorem Sound.range_eq_filter (sound : table.Sound) {start : Position} {inside : Position → Bool}
    (stretch : Stretch start inside) :
    table.range start inside = table.inOrder.filter fun artifact => inside artifact.position := by
  rw [range, OrderedMap.scan_eq_filter stretch, inOrder, List.filterMap_filter,
    List.filter_filterMap]
  apply List.filterMap_congr
  intro entry member
  obtain ⟨artifact, known, here⟩ := sound.artifact_at member
  simp only [known, Option.filter_some, here]

theorem Sound.auRange_eq (sound : table.Sound) (ns auid : String) :
    table.auRange ns auid = table.inOrder.filter (isIn ns auid) :=
  sound.range_eq_filter (Position.stretch_au ns auid)

private theorem Sound.urlRange_eq (sound : table.Sound) (ns auid url : String) :
    table.urlRange ns auid url =
      table.inOrder.filter fun artifact => isIn ns auid artifact && artifact.url == url :=
  sound.range_eq_filter (Position.stretch_url ns auid url)

private theorem Sound.startRange_eq (sound : table.Sound) (ns auid start : String) :
    table.startRange ns auid start =
      table.inOrder.filter fun artifact =>
        isIn ns auid artifact && startsWith artifact.url start :=
  sound.range_eq_filter (Position.stretch_start ns auid start)

theorem Sound.namespaceRange_eq (sound : table.Sound) (ns : String) :
    table.namespaceRange ns = table.inOrder.filter fun artifact => artifact.ns == ns :=
  sound.range_eq_filter (Position.stretch_ns ns)

private theorem Sound.inOrder_nodup (sound : table.Sound) : table.inOrder.Nodup :=
  sound.inOrder_ascending.imp fun less same => by simp [same] at less

/-- The order of listings of an archival unit, strictly: by the bytes of the URL, and the highest
version of a URL first. -/
def ListedBefore (first second : Artifact) : Prop :=
  Text.encode first.url.toList < Text.encode second.url.toList ∨
    first.url = second.url ∧ second.version < first.version

/-- A list holds exactly the artifacts of a table that are wanted, each once and in order. -/
structure Lists (table : Table) (wanted : Artifact → Prop) (before : Artifact → Artifact → Prop)
    (listed : List Artifact) : Prop where
  complete : ∀ artifact, artifact ∈ listed ↔ table.Holds artifact ∧ wanted artifact
  once : listed.Nodup
  ordered : listed.Pairwise before

theorem order_of_position {first second : Artifact} {ns auid : String}
    (left : isIn ns auid first = true) (right : isIn ns auid second = true)
    (less : compare first.position second.position = .lt) :
    first.url < second.url ∨ first.url = second.url ∧ second.version < first.version := by
  obtain ⟨rfl, rfl⟩ := isIn_eq_true_iff.1 left
  obtain ⟨sameNs, sameAuid⟩ := isIn_eq_true_iff.1 right
  rcases Position.compare_eq_lt_iff.1 less with byNs | ⟨-, byAuid | ⟨-, order⟩⟩
  · have loop : first.ns < second.ns := byNs
    rw [sameNs] at loop
    exact absurd loop (String.lt_irrefl _)
  · have loop : first.auid < second.auid := byAuid
    rw [sameAuid] at loop
    exact absurd loop (String.lt_irrefl _)
  · exact order

theorem Sound.lists_filter (sound : table.Sound) (ns auid : String) {test : Artifact → Bool}
    (within : ∀ artifact, test artifact = true → isIn ns auid artifact = true) :
    table.Lists (test · = true) ListedBefore (table.inOrder.filter test) where
  complete artifact := by rw [List.mem_filter, sound.mem_inOrder]
  once := sound.inOrder_nodup.filter _
  ordered := by
    refine (sound.inOrder_ascending.filter test).imp_of_mem fun left right less => ?_
    have order := order_of_position (within _ (List.mem_filter.1 left).2)
      (within _ (List.mem_filter.1 right).2) less
    exact order.imp_left Text.encode_toList_lt

theorem Lists.of_iff {wanted other : Artifact → Prop} {before : Artifact → Artifact → Prop}
    {listed : List Artifact} (lists : table.Lists wanted before listed)
    (same : ∀ artifact, wanted artifact ↔ other artifact) : table.Lists other before listed :=
  ⟨fun artifact => (lists.complete artifact).trans (and_congr_right' (same artifact)),
    lists.once, lists.ordered⟩

theorem Sound.auAllVersions_eq (sound : table.Sound) (ns auid : String) (uncommitted : Bool) :
    table.auAllVersions ns auid uncommitted =
      table.inOrder.filter fun artifact =>
        artifact.isVisible uncommitted && isIn ns auid artifact := by
  rw [auAllVersions, sound.auRange_eq, List.filter_filter]

theorem Sound.urlAllVersions_eq (sound : table.Sound) (ns auid url : String) (uncommitted : Bool) :
    table.urlAllVersions ns auid url uncommitted =
      table.inOrder.filter fun artifact => artifact.isVisible uncommitted &&
        (isIn ns auid artifact && artifact.url == url) := by
  rw [urlAllVersions, sound.urlRange_eq, List.filter_filter]

theorem Sound.startAllVersions_eq (sound : table.Sound) (ns auid start : String) :
    table.startAllVersions ns auid start =
      table.inOrder.filter fun artifact => artifact.committed &&
        (isIn ns auid artifact && startsWith artifact.url start) := by
  rw [startAllVersions, sound.startRange_eq, List.filter_filter]

theorem Sound.lists_auAllVersions (sound : table.Sound) (ns auid : String) (uncommitted : Bool) :
    table.Lists
      (fun artifact => artifact.ns = ns ∧ artifact.auid = auid ∧ artifact.isVisible uncommitted)
      ListedBefore (table.auAllVersions ns auid uncommitted) := by
  rw [sound.auAllVersions_eq]
  refine (sound.lists_filter ns auid fun artifact passes => ?_).of_iff fun artifact => ?_
  · rw [Bool.and_eq_true] at passes
    exact passes.2
  · simp only [Bool.and_eq_true, isIn_eq_true_iff]
    tauto

theorem Sound.lists_urlAllVersions (sound : table.Sound) (ns auid url : String)
    (uncommitted : Bool) :
    table.Lists
      (fun artifact => artifact.ns = ns ∧ artifact.auid = auid ∧ artifact.url = url ∧
        artifact.isVisible uncommitted)
      ListedBefore (table.urlAllVersions ns auid url uncommitted) := by
  rw [sound.urlAllVersions_eq]
  refine (sound.lists_filter ns auid fun artifact passes => ?_).of_iff fun artifact => ?_
  · simp only [Bool.and_eq_true] at passes
    exact passes.2.1
  · simp only [Bool.and_eq_true, isIn_eq_true_iff, beq_iff_eq]
    tauto

theorem Sound.lists_startAllVersions (sound : table.Sound) (ns auid start : String) :
    table.Lists
      (fun artifact => artifact.ns = ns ∧ artifact.auid = auid ∧
        start.toList <+: artifact.url.toList ∧ artifact.committed)
      ListedBefore (table.startAllVersions ns auid start) := by
  rw [sound.startAllVersions_eq]
  refine (sound.lists_filter ns auid fun artifact passes => ?_).of_iff fun artifact => ?_
  · simp only [Bool.and_eq_true] at passes
    exact passes.2.1
  · simp only [Bool.and_eq_true, isIn_eq_true_iff, startsWith_iff]
    tauto

/-- Listings of every table that mutations reach are exact: all versions in an archival unit, all
versions of a URL, and all committed versions of the URLs that start with a text. Names that extend
the wanted one or stand next to it in the order bring nothing in, and no version is cut off. -/
theorem listings_exact (mutations : List Mutation) (ns auid : String) :
    let table := empty.applyAll mutations
    (∀ uncommitted, table.Lists
      (fun artifact => artifact.ns = ns ∧ artifact.auid = auid ∧ artifact.isVisible uncommitted)
      ListedBefore (table.auAllVersions ns auid uncommitted)) ∧
    (∀ url uncommitted, table.Lists
      (fun artifact => artifact.ns = ns ∧ artifact.auid = auid ∧ artifact.url = url ∧
        artifact.isVisible uncommitted)
      ListedBefore (table.urlAllVersions ns auid url uncommitted)) ∧
    (∀ start, table.Lists
      (fun artifact => artifact.ns = ns ∧ artifact.auid = auid ∧
        start.toList <+: artifact.url.toList ∧ artifact.committed)
      ListedBefore (table.startAllVersions ns auid start)) ∧
    table.startAllVersions ns auid "" = table.auAllVersions ns auid false := by
  intro table
  have sound : table.Sound := sound_empty.applyAll mutations
  refine ⟨sound.lists_auAllVersions ns auid, sound.lists_urlAllVersions ns auid,
    sound.lists_startAllVersions ns auid, ?_⟩
  -- every text starts with the empty one
  rw [sound.startAllVersions_eq, sound.auAllVersions_eq]
  simp [startsWith, Artifact.isVisible]

end Table

end ArchiveCatalog
