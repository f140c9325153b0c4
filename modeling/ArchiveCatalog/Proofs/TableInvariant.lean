import ArchiveCatalog.Proofs.MapLookup
import ArchiveCatalog.Table

namespace ArchiveCatalog

instance : Std.LawfulEqOrd Position where
  eq_of_compare {first second} same := by
    have parts : Position.order first second = .eq := same
    simp only [Position.order, compareLex, compareOn, Ordering.then_eq_eq,
      Std.LawfulEqOrd.compare_eq_iff_eq] at parts
    obtain ⟨ns, auid, url, version⟩ := parts
    cases first; cases second; cases ns; cases auid; cases url; cases version; rfl

theorem compare_eq_lt_iff {first second : String} : compare first second = .lt ↔ first < second :=
  compareOfLessAndEq_eq_lt

namespace AuCounts

def number? (counts : AuCounts) (ns auid : String) : Option Nat :=
  (counts.get? ns).bind (·.get? auid)

private theorem number?_increment (counts : AuCounts) (ns auid otherNs otherAuid : String) :
    (counts.increment ns auid).number? otherNs otherAuid =
      if ns = otherNs ∧ auid = otherAuid then some ((counts.number? ns auid).getD 0 + 1)
      else counts.number? otherNs otherAuid := by
  unfold number? increment
  rw [OrderedMap.get?_insert]
  by_cases here : ns = otherNs
  · subst here
    cases found : counts.get? ns with
    | none => by_cases same : auid = otherAuid <;> simp [OrderedMap.get?_insert, same]
    | some aus => by_cases same : auid = otherAuid <;> simp [OrderedMap.get?_insert, same]
  · simp [here]

/-- The counts within a namespace after an archival unit has lost an artifact. -/
def lower (aus : OrderedMap String Nat) (auid : String) : OrderedMap String Nat :=
  match aus.get? auid with
  | none => aus
  | some count => if count - 1 = 0 then aus.erase auid else aus.insert auid (count - 1)

private theorem get?_lower {aus : OrderedMap String Nat} {auid : String} {count : Nat}
    (found : aus.get? auid = some (count + 1)) (other : String) :
    (lower aus auid).get? other =
      if auid = other then (if count = 0 then none else some count) else aus.get? other := by
  simp only [lower, found, Nat.add_sub_cancel]
  by_cases last : count = 0
  · simp [last, OrderedMap.get?_erase]
  · simp [last, OrderedMap.get?_insert]

private theorem get?_decrement {counts : AuCounts} {ns : String} {aus : OrderedMap String Nat}
    (found : counts.get? ns = some aus) (auid other : String) :
    (counts.decrement ns auid).get? other =
      if ns = other then (if (lower aus auid).isEmpty then none else some (lower aus auid))
      else counts.get? other := by
  have same : counts.decrement ns auid =
      if (lower aus auid).isEmpty then counts.erase ns else counts.insert ns (lower aus auid) := by
    simp only [decrement, found]
    rfl
  rw [same]
  by_cases last : (lower aus auid).isEmpty
  · simp [last, OrderedMap.get?_erase]
  · simp [last, OrderedMap.get?_insert]

private theorem number?_decrement {counts : AuCounts} {ns auid : String} {count : Nat}
    (found : counts.number? ns auid = some (count + 1)) (otherNs otherAuid : String) :
    (counts.decrement ns auid).number? otherNs otherAuid =
      if ns = otherNs ∧ auid = otherAuid then (if count = 0 then none else some count)
      else counts.number? otherNs otherAuid := by
  obtain ⟨aus, there, inner⟩ := Option.bind_eq_some_iff.1 found
  unfold number?
  rw [get?_decrement there]
  by_cases here : ns = otherNs
  · subst here
    have within := get?_lower inner otherAuid
    simp only [true_and, ↓reduceIte, there, Option.bind_some]
    rw [← within]
    split
    case isTrue none => simp [OrderedMap.isEmpty_eq_true_iff.1 none]
    case isFalse => rfl
  · simp [here]

private theorem increment_positive {counts : AuCounts}
    (positive : ∀ ns auid, counts.number? ns auid ≠ some 0) (ns auid otherNs otherAuid : String) :
    (counts.increment ns auid).number? otherNs otherAuid ≠ some 0 := by
  rw [number?_increment]
  split
  case isTrue => simp
  case isFalse => exact positive otherNs otherAuid

private theorem increment_inhabited {counts : AuCounts}
    (inhabited : ∀ ns, counts.get? ns ≠ some .empty)
    (ns auid otherNs : String) : (counts.increment ns auid).get? otherNs ≠ some .empty := by
  unfold increment
  rw [OrderedMap.get?_insert]
  split
  case isTrue =>
    intro vacant
    have none := congrArg (·.get? auid) (Option.some.inj vacant)
    simp at none
  case isFalse => exact inhabited otherNs

/-- A count that falls to zero is dropped, and so is a namespace that loses its last count. -/
theorem decrement_positive {counts : AuCounts} {ns auid : String} {count : Nat}
    (positive : ∀ ns auid, counts.number? ns auid ≠ some 0)
    (found : counts.number? ns auid = some (count + 1)) (otherNs otherAuid : String) :
    (counts.decrement ns auid).number? otherNs otherAuid ≠ some 0 := by
  rw [number?_decrement found]
  split
  case isTrue => split <;> simp_all
  case isFalse => exact positive otherNs otherAuid

private theorem decrement_inhabited {counts : AuCounts} {ns auid : String} {count : Nat}
    (inhabited : ∀ ns, counts.get? ns ≠ some .empty)
    (found : counts.number? ns auid = some (count + 1)) (otherNs : String) :
    (counts.decrement ns auid).get? otherNs ≠ some .empty := by
  obtain ⟨aus, there, -⟩ := Option.bind_eq_some_iff.1 found
  rw [get?_decrement there]
  split
  case isTrue =>
    split
    case isTrue => simp
    case isFalse left =>
      intro vacant
      exact left (OrderedMap.isEmpty_eq_true_iff.2 (Option.some.inj vacant))
  case isFalse => exact inhabited otherNs

end AuCounts

namespace Table

def isIn (ns auid : String) (artifact : Artifact) : Bool :=
  artifact.ns == ns && artifact.auid == auid

/-- The number of artifacts of an archival unit, committed or not. -/
def population (table : Table) (ns auid : String) : Nat :=
  table.byUuid.values.countP (isIn ns auid)

/-- What ties the maps of a table together. -/
structure Sound (table : Table) : Prop where
  keyed : ∀ uuid artifact, table.byUuid.get? uuid = some artifact → artifact.uuid = uuid
  placed : ∀ place uuid, table.byPosition.get? place = some uuid ↔
    ∃ artifact, table.byUuid.get? uuid = some artifact ∧ artifact.position = place
  counted : ∀ ns auid, (table.auCounts.number? ns auid).getD 0 = table.population ns auid
  positive : ∀ ns auid, table.auCounts.number? ns auid ≠ some 0
  inhabited : ∀ ns, table.auCounts.get? ns ≠ some .empty

theorem Sound.number? {table : Table} (sound : table.Sound) (ns auid : String) :
    table.auCounts.number? ns auid =
      if table.population ns auid = 0 then none else some (table.population ns auid) := by
  have counted := sound.counted ns auid
  cases found : table.auCounts.number? ns auid with
  | none => simp [found] at counted; simp [← counted]
  | some count =>
    have positive : count ≠ 0 := fun zero => sound.positive ns auid (zero ▸ found)
    simp [found] at counted
    simp [← counted, positive]

theorem Sound.placed_self {table : Table} {artifact : Artifact} {uuid : Uuid} (sound : table.Sound)
    (known : table.get? uuid = some artifact) :
    table.byPosition.get? artifact.position = some uuid :=
  (sound.placed _ _).2 ⟨artifact, known, rfl⟩

/-- No two artifacts share a position. -/
theorem Sound.position_unique {table : Table} {first second : Artifact} {left right : Uuid}
    (sound : table.Sound) (known : table.get? left = some first)
    (other : table.get? right = some second) (same : first.position = second.position) :
    left = right := by
  have found := sound.placed_self known
  rw [same, sound.placed_self other] at found
  exact (Option.some.inj found).symm

theorem sound_empty : empty.Sound where
  keyed := by simp [empty]
  placed := by simp [empty]
  counted _ _ := rfl
  positive := by simp [empty, AuCounts.number?]
  inhabited := by simp [empty]

def add (table : Table) (artifact : Artifact) : Table where
  byUuid := table.byUuid.insert artifact.uuid artifact
  byPosition := table.byPosition.insert artifact.position artifact.uuid
  auCounts := table.auCounts.increment artifact.ns artifact.auid

/-- The three ways in which an addition ends. -/
theorem restore_cases (table : Table) (artifact : Artifact) :
    (∃ holder, table.get? artifact.uuid = some holder ∧
      table.restore artifact = .error (.storage (.alreadyExists artifact.uuid))) ∨
    (table.get? artifact.uuid = none ∧ ∃ holder,
      table.byPosition.get? artifact.position = some holder ∧
      table.restore artifact = .error (.validation (positionTaken artifact holder))) ∨
    (table.get? artifact.uuid = none ∧ table.byPosition.get? artifact.position = none ∧
      table.restore artifact = .ok (table.add artifact)) := by
  unfold restore get?
  cases known : table.byUuid.get? artifact.uuid with
  | some holder => exact .inl ⟨holder, rfl, by simp [OrderedMap.contains, known]⟩
  | none =>
    cases taken : table.byPosition.get? artifact.position with
    | some holder => exact .inr (.inl ⟨rfl, holder, rfl, by simp [OrderedMap.contains, known]⟩)
    | none => exact .inr (.inr ⟨rfl, rfl, by simp [OrderedMap.contains, known, add]⟩)

theorem restore_eq_ok_iff {table next : Table} {artifact : Artifact} :
    table.restore artifact = .ok next ↔ table.get? artifact.uuid = none ∧
      table.byPosition.get? artifact.position = none ∧ next = table.add artifact := by
  rcases table.restore_cases artifact with
    ⟨holder, known, result⟩ | ⟨unknown, holder, taken, result⟩ | ⟨unknown, free, result⟩
  · simp [known, result]
  · simp [taken, result]
  · simp [unknown, free, result, eq_comm]

theorem get?_add (table : Table) (artifact : Artifact) (uuid : Uuid) :
    (table.add artifact).get? uuid =
      if artifact.uuid = uuid then some artifact else table.get? uuid :=
  OrderedMap.get?_insert ..

private theorem population_add {table : Table} {artifact : Artifact}
    (unknown : table.get? artifact.uuid = none) (ns auid : String) :
    (table.add artifact).population ns auid =
      table.population ns auid + if isIn ns auid artifact then 1 else 0 :=
  OrderedMap.countP_insert_of_absent _ _ unknown

theorem isIn_eq_true_iff {ns auid : String} {artifact : Artifact} :
    isIn ns auid artifact = true ↔ artifact.ns = ns ∧ artifact.auid = auid := by
  simp [isIn]

private theorem Sound.placed_add {table : Table} {artifact : Artifact} (sound : table.Sound)
    (unknown : table.get? artifact.uuid = none)
    (free : table.byPosition.get? artifact.position = none) (place : Position) (uuid : Uuid) :
    (table.add artifact).byPosition.get? place = some uuid ↔
      ∃ found, (table.add artifact).get? uuid = some found ∧ found.position = place := by
  change (table.byPosition.insert _ _).get? place = some uuid ↔ _
  rw [OrderedMap.get?_insert]
  simp only [get?_add]
  by_cases own : artifact.uuid = uuid
  · subst own
    by_cases here : artifact.position = place
    · simp [here]
    · have elsewhere : table.byPosition.get? place ≠ some artifact.uuid := by
        intro held
        obtain ⟨found, known, -⟩ := (sound.placed _ _).1 held
        simp [get?, known] at unknown
      simp [here, elsewhere]
  · by_cases here : artifact.position = place
    · subst here
      have nowhere : ∀ found, table.get? uuid = some found →
          found.position ≠ artifact.position := by
        intro found known same
        rw [(sound.placed _ _).2 ⟨found, known, same⟩] at free
        simp at free
      simp only [↓reduceIte, own, Option.some.injEq, false_iff, not_exists, not_and]
      exact nowhere
    · rw [if_neg here, sound.placed]
      simp [own, get?]

theorem Sound.add {table : Table} {artifact : Artifact} (sound : table.Sound)
    (unknown : table.get? artifact.uuid = none)
    (free : table.byPosition.get? artifact.position = none) : (table.add artifact).Sound where
  keyed uuid found known := by
    have known : (table.add artifact).get? uuid = some found := known
    rw [get?_add] at known
    split at known
    case isTrue same => exact Option.some.inj known ▸ same
    case isFalse => exact sound.keyed uuid found known
  placed := sound.placed_add unknown free
  counted ns auid := by
    change ((table.auCounts.increment artifact.ns artifact.auid).number? ns auid).getD 0 = _
    rw [AuCounts.number?_increment, population_add unknown, ← sound.counted]
    by_cases here : artifact.ns = ns ∧ artifact.auid = auid
    · obtain ⟨rfl, rfl⟩ := here
      simp [isIn]
    · simp [here, isIn_eq_true_iff]
  positive := AuCounts.increment_positive sound.positive artifact.ns artifact.auid
  inhabited := AuCounts.increment_inhabited sound.inhabited artifact.ns artifact.auid

/-- A change that leaves an artifact where it is. -/
structure KeepsPlace (change : Artifact → Artifact) : Prop where
  uuid : ∀ artifact, (change artifact).uuid = artifact.uuid
  position : ∀ artifact, (change artifact).position = artifact.position

theorem get?_update {table next : Table} {uuid : Uuid} {change : Artifact → Artifact}
    {changed : Artifact} (updated : table.update uuid change = some (changed, next)) :
    ∃ artifact, table.get? uuid = some artifact ∧ changed = change artifact ∧
      next = { table with byUuid := table.byUuid.insert uuid changed } := by
  obtain ⟨artifact, known, result⟩ := Option.map_eq_some_iff.1 updated
  cases result
  exact ⟨artifact, known, rfl, rfl⟩

theorem isIn_of_position {first second : Artifact} (same : first.position = second.position)
    (ns auid : String) : isIn ns auid first = isIn ns auid second := by
  have ns := congrArg Position.ns same
  have auid := congrArg Position.auid same
  simp only [Artifact.position] at ns auid
  simp [isIn, ns, auid]

theorem Sound.update {table next : Table} {uuid : Uuid} {change : Artifact → Artifact}
    {changed : Artifact} (sound : table.Sound) (keeps : KeepsPlace change)
    (updated : table.update uuid change = some (changed, next)) : next.Sound := by
  obtain ⟨artifact, known, rfl, rfl⟩ := get?_update updated
  have known : table.byUuid.get? uuid = some artifact := known
  refine ⟨?keyed, ?placed, ?counted, sound.positive, sound.inhabited⟩
  case keyed =>
    intro other found present
    rw [OrderedMap.get?_insert] at present
    split at present
    case isTrue same =>
      subst same
      rw [← Option.some.inj present, keeps.uuid]
      exact sound.keyed _ _ known
    case isFalse => exact sound.keyed other found present
  case placed =>
    intro place other
    rw [sound.placed]
    simp only [OrderedMap.get?_insert]
    by_cases same : uuid = other
    · subst same
      simp [known, keeps.position]
    · simp [same]
  case counted =>
    intro ns auid
    change _ = (table.byUuid.insert uuid (change artifact)).values.countP (isIn ns auid)
    rw [OrderedMap.countP_insert_of_present _ _ known
      (isIn_of_position (keeps.position artifact) ns auid)]
    exact sound.counted ns auid

theorem keepsPlace_commit : KeepsPlace fun artifact => { artifact with committed := true } :=
  ⟨fun _ => rfl, fun _ => rfl⟩

theorem keepsPlace_storageUrl (storageUrl : String) :
    KeepsPlace fun artifact => { artifact with storageUrl } :=
  ⟨fun _ => rfl, fun _ => rfl⟩

theorem remove_eq_some_iff {table next : Table} {uuid : Uuid} {artifact : Artifact} :
    table.remove uuid = some (artifact, next) ↔ table.get? uuid = some artifact ∧
      next = ⟨table.byUuid.erase uuid, table.byPosition.erase artifact.position,
        table.auCounts.decrement artifact.ns artifact.auid⟩ := by
  unfold remove
  cases table.get? uuid with
  | none => simp
  | some found =>
    simp only [Option.map_some, Option.some.injEq, Prod.mk.injEq]
    constructor
    · rintro ⟨rfl, rfl⟩
      exact ⟨rfl, rfl⟩
    · rintro ⟨rfl, rfl⟩
      exact ⟨rfl, rfl⟩

/-- A live artifact has been counted, so that its removal has a count to lower. -/
theorem Sound.number?_of_known {table : Table} {uuid : Uuid} {artifact : Artifact}
    (sound : table.Sound) (known : table.get? uuid = some artifact) :
    table.auCounts.number? artifact.ns artifact.auid =
      some ((table.byUuid.erase uuid).values.countP (isIn artifact.ns artifact.auid) + 1) := by
  have all := OrderedMap.countP_erase_of_present (isIn artifact.ns artifact.auid) known
  have here : isIn artifact.ns artifact.auid artifact = true := by simp [isIn]
  rw [here, if_pos rfl] at all
  rw [sound.number?, population, all]
  simp

private theorem Sound.placed_erase {table : Table} {uuid : Uuid} {artifact : Artifact}
    (sound : table.Sound) (known : table.byUuid.get? uuid = some artifact) (place : Position)
    (other : Uuid) :
    (table.byPosition.erase artifact.position).get? place = some other ↔
      ∃ found, (table.byUuid.erase uuid).get? other = some found ∧ found.position = place := by
  simp only [OrderedMap.get?_erase]
  by_cases same : uuid = other
  · subst same
    have elsewhere : artifact.position ≠ place → table.byPosition.get? place ≠ some uuid := by
      intro differs held
      obtain ⟨found, present, here⟩ := (sound.placed _ _).1 held
      exact differs (Option.some.inj (known.symm.trans present) ▸ here)
    by_cases here : artifact.position = place
    · simp [here]
    · simpa [here] using elsewhere here
  · by_cases here : artifact.position = place
    · subst here
      have alone : ∀ found, table.byUuid.get? other = some found →
          found.position ≠ artifact.position := fun found present equal =>
        same (sound.position_unique known present equal.symm)
      simpa [same] using alone
    · simpa [same, here] using sound.placed place other

private theorem Sound.counted_erase {table : Table} {uuid : Uuid} {artifact : Artifact}
    (sound : table.Sound) (known : table.byUuid.get? uuid = some artifact) (ns auid : String) :
    ((table.auCounts.decrement artifact.ns artifact.auid).number? ns auid).getD 0 =
      (table.byUuid.erase uuid).values.countP (isIn ns auid) := by
  rw [AuCounts.number?_decrement (sound.number?_of_known known)]
  by_cases here : artifact.ns = ns ∧ artifact.auid = auid
  · obtain ⟨rfl, rfl⟩ := here
    by_cases last :
        (table.byUuid.erase uuid).values.countP (isIn artifact.ns artifact.auid) = 0
    · simp [last]
    · simp [last]
  · have others := OrderedMap.countP_erase_of_present (isIn ns auid) known
    simp only [isIn_eq_true_iff, here, if_false, Nat.add_zero] at others
    rw [if_neg here, sound.counted, population, others]

theorem Sound.remove {table next : Table} {uuid : Uuid} {artifact : Artifact}
    (sound : table.Sound) (removed : table.remove uuid = some (artifact, next)) : next.Sound := by
  obtain ⟨known, rfl⟩ := remove_eq_some_iff.1 removed
  have number := sound.number?_of_known known
  refine ⟨?keyed, sound.placed_erase known, sound.counted_erase known,
    AuCounts.decrement_positive sound.positive number,
    AuCounts.decrement_inhabited sound.inhabited number⟩
  case keyed =>
    intro other found present
    rw [OrderedMap.get?_erase] at present
    split at present
    case isTrue => cases present
    case isFalse => exact sound.keyed other found present

end Table

end ArchiveCatalog
