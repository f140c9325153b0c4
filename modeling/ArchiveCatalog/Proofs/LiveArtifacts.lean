import ArchiveCatalog.Proofs.TableReachability
import ArchiveCatalog.Volatile

namespace ArchiveCatalog

abbrev Live := Uuid → Option Artifact

/-- Whether an operation names artifacts by identifier, or as a whole to be indexed. -/
def Operation.byIdentifier : Operation → Bool
  | .index _ | .commit _ | .delete _ | .relocate _ _ | .find _ | .contains _ => true
  | _ => false

abbrev Reply := (operation : Operation) × Outcome operation.Answer

namespace Live

def none : Live := fun _ => .none

/-- The live artifacts once an identifier stands for this record, or for none. -/
def set (live : Live) (uuid : Uuid) (record : Option Artifact) : Live :=
  fun other => if uuid = other then record else live other

/-- No live artifact has this position. -/
def Free (live : Live) (position : Position) : Prop :=
  ∀ holder artifact, live holder = some artifact → artifact.position ≠ position

def missing (field : String) : Outcome α := .refuse (.validation (.requiredFieldMissing field))

/-- The rules: what an operation answers, and which artifacts are live after it. Listings answer
from more than a map by identifier shows; of them the rules only say that they change nothing. -/
inductive Step (live : Live) :
    (operation : Operation) → Outcome operation.Answer → Live → Prop where
  | indexInvalid (broken : artifact.validate = .error error) :
      Step live (.index artifact) (.refuse (.validation error)) live
  | indexKnown (valid : artifact.validate = .ok ()) (known : live artifact.uuid = some holder) :
      Step live (.index artifact) (.refuse (.storage (.alreadyExists artifact.uuid))) live
  | indexTaken (valid : artifact.validate = .ok ()) (unknown : live artifact.uuid = .none)
      (taken : live holder = some other) (same : other.position = artifact.position) :
      Step live (.index artifact)
        (.refuse (.validation (Table.positionTaken artifact holder))) live
  | index (valid : artifact.validate = .ok ()) (unknown : live artifact.uuid = .none)
      (free : live.Free artifact.position) :
      Step live (.index artifact) (.ok artifact.uncommitted)
        (live.set artifact.uuid (some artifact.uncommitted))
  | commitNil : Step live (.commit .nil) (missing "uuid") live
  | commitUnknown (named : uuid ≠ .nil) (unknown : live uuid = .none) :
      Step live (.commit uuid) (.ok .none) live
  | commit (named : uuid ≠ .nil) (known : live uuid = some artifact) :
      Step live (.commit uuid) (.ok (some { artifact with committed := true }))
        (live.set uuid (some { artifact with committed := true }))
  | deleteNil : Step live (.delete .nil) (missing "uuid") live
  | deleteUnknown (named : uuid ≠ .nil) (unknown : live uuid = .none) :
      Step live (.delete uuid) (.ok false) live
  | delete (named : uuid ≠ .nil) (known : live uuid = some artifact) :
      Step live (.delete uuid) (.ok true) (live.set uuid .none)
  | relocateNil : Step live (.relocate .nil storageUrl) (missing "uuid") live
  | relocateNowhere (named : uuid ≠ .nil) :
      Step live (.relocate uuid "") (missing "storage_url") live
  | relocateUnknown (named : uuid ≠ .nil) (given : storageUrl ≠ "") (unknown : live uuid = .none) :
      Step live (.relocate uuid storageUrl) (.refuse (.storage (.notFound uuid))) live
  | relocate (named : uuid ≠ .nil) (given : storageUrl ≠ "") (known : live uuid = some artifact) :
      Step live (.relocate uuid storageUrl) (.ok { artifact with storageUrl })
        (live.set uuid (some { artifact with storageUrl }))
  | findNil : Step live (.find .nil) (missing "uuid") live
  | find (named : uuid ≠ .nil) : Step live (.find uuid) (.ok (live uuid)) live
  | containsNil : Step live (.contains .nil) (missing "uuid") live
  | contains (named : uuid ≠ .nil) : Step live (.contains uuid) (.ok (live uuid).isSome) live
  | listing (reads : operation.byIdentifier = false) : Step live operation answer live

/-- The replies of a run by the rules, from some live artifacts to others. -/
inductive Run : Live → List Reply → Live → Prop where
  | done : Run live [] live
  | next (step : live.Step operation answer middle) (rest : Run middle replies last) :
      Run live (⟨operation, answer⟩ :: replies) last

end Live

private theorem Uuid.isNil_iff {uuid : Uuid} : uuid.isNil = true ↔ uuid = .nil := by
  constructor
  · intro nil
    have zero : uuid.value = 0 := BitVec.eq_of_toNat_eq (by simpa [isNil] using nil)
    cases uuid; cases zero; rfl
  · rintro rfl
    rfl

theorem requireUuid_cases (uuid : Uuid) :
    (uuid = .nil ∧ requireUuid uuid = .error (.requiredFieldMissing "uuid")) ∨
      (uuid ≠ .nil ∧ requireUuid uuid = .ok ()) := by
  by_cases nil : uuid = .nil
  · exact .inl ⟨nil, if_pos (Uuid.isNil_iff.2 nil)⟩
  · exact .inr ⟨nil, if_neg fun isNil => nil (Uuid.isNil_iff.1 isNil)⟩

theorem requireNonEmpty_cases (field value : String) :
    (value = "" ∧ requireNonEmpty field value = .error (.requiredFieldMissing field)) ∨
      (value ≠ "" ∧ requireNonEmpty field value = .ok ()) := by
  by_cases empty : value = ""
  · exact .inl ⟨empty, if_pos (String.isEmpty_iff.2 empty)⟩
  · exact .inr ⟨empty, if_neg fun isEmpty => empty (String.isEmpty_iff.1 isEmpty)⟩

namespace Volatile

def live (catalog : Volatile) : Live := catalog.table.get?

/-- A catalog that has been started and holds no artifacts yet. -/
def started (store : Option DataStore) : Volatile := { new.start.2 with dataStore := store }

def serve (catalog : Volatile) : List Operation → List Reply × Volatile
  | [] => ([], catalog)
  | operation :: rest =>
    let (answer, next) := catalog.run operation
    let (replies, last) := next.serve rest
    (⟨operation, answer⟩ :: replies, last)

/-- The guard of every operation is the check of its arguments. -/
theorem run_eq (catalog : Volatile) (operation : Operation) :
    catalog.run operation = catalog.guarded operation.checkArguments operation := by
  cases operation <;> rfl

theorem run_of_refused {catalog : Volatile} (operation : Operation) {error : ValidationError}
    (ready : catalog.state = .ready) (refused : operation.checkArguments = .error error) :
    catalog.run operation = (.refuse (.validation error), catalog) := by
  simp [run_eq, guarded, State.accept, State.ensureReady, ready, refused]

theorem run_of_accepted {catalog : Volatile} (operation : Operation)
    (ready : catalog.state = .ready) (accepted : operation.checkArguments = .ok ()) :
    catalog.run operation = ((catalog.table.perform catalog.dataStore operation).1,
      { catalog with table := (catalog.table.perform catalog.dataStore operation).2 }) := by
  simp [run_eq, guarded, State.accept, State.ensureReady, ready, accepted]

theorem run_state (catalog : Volatile) (operation : Operation) :
    (catalog.run operation).2.state = catalog.state := by
  rw [run_eq, guarded]
  split <;> rfl

end Volatile

/-- The mutation that an accepted operation comes down to, if it is one. -/
def Operation.mutation? : Operation → Option Mutation
  | .index artifact => some (.insert artifact)
  | .commit uuid => some (.commit uuid)
  | .delete uuid => some (.remove uuid)
  | .relocate uuid storageUrl => some (.setStorageUrl uuid storageUrl)
  | _ => none

namespace Table

private theorem perform_table (table : Table) (store : Option DataStore) (operation : Operation) :
    (table.perform store operation).2 = (operation.mutation?.map table.apply).getD table := by
  cases operation with
  | index artifact =>
    simp only [perform, Operation.mutation?, Option.map_some, Option.getD_some, apply]
    cases table.insert artifact <;> rfl
  | commit uuid =>
    simp only [perform, Operation.mutation?, Option.map_some, Option.getD_some, apply]
    cases table.commit uuid <;> rfl
  | delete uuid =>
    simp only [perform, Operation.mutation?, Option.map_some, Option.getD_some, apply]
    cases table.remove uuid <;> rfl
  | relocate uuid storageUrl =>
    simp only [perform, Operation.mutation?, Option.map_some, Option.getD_some, apply]
    cases table.setStorageUrl uuid storageUrl <;> rfl
  | _ => rfl

theorem Sound.perform {table : Table} (sound : table.Sound) (store : Option DataStore)
    (operation : Operation) : (table.perform store operation).2.Sound := by
  rw [perform_table]
  cases operation.mutation? with
  | none => exact sound
  | some mutation => exact sound.apply mutation

theorem update_eq (table : Table) (uuid : Uuid) (change : Artifact → Artifact) :
    table.update uuid change = (table.get? uuid).map fun artifact =>
      (change artifact, { table with byUuid := table.byUuid.insert uuid (change artifact) }) := rfl

theorem get?_set (table : Table) (uuid : Uuid) (artifact : Artifact) :
    (fun other => (table.byUuid.insert uuid artifact).get? other) =
      Live.set table.get? uuid (some artifact) :=
  funext fun _ => OrderedMap.get?_insert ..

theorem get?_drop (table : Table) (uuid : Uuid) :
    (fun other => (table.byUuid.erase uuid).get? other) = Live.set table.get? uuid none :=
  funext fun _ => OrderedMap.get?_erase ..

/-- In a sound table no position is taken exactly if the live artifacts leave it free. -/
theorem Sound.free_iff {table : Table} (sound : table.Sound) {position : Position} :
    table.byPosition.get? position = none ↔ Live.Free table.get? position := by
  constructor
  · intro nowhere holder artifact known here
    have held := sound.placed_self known
    rw [here, nowhere] at held
    cases held
  · intro free
    cases held : table.byPosition.get? position with
    | none => rfl
    | some holder =>
      obtain ⟨artifact, known, here⟩ := (sound.placed _ _).1 held
      exact absurd here (free holder artifact known)

private theorem Sound.index_step {table : Table} {artifact : Artifact} (sound : table.Sound)
    (store : Option DataStore) (valid : artifact.validate = .ok ()) :
    Live.Step table.get? (.index artifact) (table.perform store (.index artifact)).1
      (table.perform store (.index artifact)).2.get? := by
  simp only [Table.perform, insert_eq]
  rcases table.restore_cases artifact.uncommitted with
    ⟨holder, known, result⟩ | ⟨unknown, holder, held, result⟩ | ⟨unknown, free, result⟩
  · rw [result]
    exact .indexKnown valid known
  · obtain ⟨other, taken, same⟩ := (sound.placed _ _).1 held
    rw [result]
    exact .indexTaken valid unknown taken same
  · have next : (table.add artifact.uncommitted).get? =
        Live.set table.get? artifact.uuid (some artifact.uncommitted) := get?_set ..
    rw [result]
    simp only [Except.map, next]
    exact .index valid unknown (sound.free_iff.1 free)

theorem update_step (table : Table) (uuid : Uuid) (change : Artifact → Artifact) :
    (table.get? uuid = none ∧ table.update uuid change = none) ∨
      ∃ artifact next, table.get? uuid = some artifact ∧
        table.update uuid change = some (change artifact, next) ∧
        next.get? = Live.set table.get? uuid (some (change artifact)) := by
  unfold update
  cases known : table.get? uuid with
  | none => exact .inl ⟨rfl, rfl⟩
  | some artifact => exact .inr ⟨artifact, _, rfl, rfl, get?_set ..⟩

private theorem commit_step (table : Table) (store : Option DataStore) {uuid : Uuid}
    (named : uuid ≠ .nil) :
    Live.Step table.get? (.commit uuid) (table.perform store (.commit uuid)).1
      (table.perform store (.commit uuid)).2.get? := by
  simp only [perform, commit]
  rcases table.update_step uuid fun artifact => { artifact with committed := true } with
    ⟨unknown, result⟩ | ⟨artifact, next, known, result, after⟩
  · rw [result]
    exact .commitUnknown named unknown
  · simp only [result, after]
    exact .commit named known

private theorem relocate_step (table : Table) (store : Option DataStore) {uuid : Uuid}
    {storageUrl : String} (named : uuid ≠ .nil) (given : storageUrl ≠ "") :
    Live.Step table.get? (.relocate uuid storageUrl)
      (table.perform store (.relocate uuid storageUrl)).1
      (table.perform store (.relocate uuid storageUrl)).2.get? := by
  simp only [perform, setStorageUrl]
  rcases table.update_step uuid fun artifact => { artifact with storageUrl } with
    ⟨unknown, result⟩ | ⟨artifact, next, known, result, after⟩
  · rw [result]
    exact .relocateUnknown named given unknown
  · simp only [result, after]
    exact .relocate named given known

private theorem delete_step (table : Table) (store : Option DataStore) {uuid : Uuid}
    (named : uuid ≠ .nil) :
    Live.Step table.get? (.delete uuid) (table.perform store (.delete uuid)).1
      (table.perform store (.delete uuid)).2.get? := by
  simp only [perform, remove]
  cases known : table.get? uuid with
  | none => exact .deleteUnknown named known
  | some artifact =>
    have after : Table.get? ⟨table.byUuid.erase uuid, table.byPosition.erase artifact.position,
        table.auCounts.decrement artifact.ns artifact.auid⟩ = Live.set table.get? uuid none :=
      get?_drop table uuid
    simp only [Option.map_some, after]
    exact .delete named known

end Table

namespace Volatile

private theorem run_live_of_reads {catalog : Volatile} {operation : Operation}
    (reads : operation.mutation? = none) : (catalog.run operation).2.live = catalog.live := by
  rw [run_eq, guarded]
  cases catalog.state.accept operation.checkArguments with
  | error error => rfl
  | ok _ => simp [live, Table.perform_table, reads]

/-- A ready catalog with a sound table keeps to the rules in every operation. -/
theorem run_step {catalog : Volatile} (ready : catalog.state = .ready)
    (sound : catalog.table.Sound) (operation : Operation) :
    catalog.live.Step operation (catalog.run operation).1 (catalog.run operation).2.live := by
  cases operation with
  | index artifact =>
    cases valid : artifact.validate with
    | error error =>
      rw [run_of_refused (.index artifact) ready valid]
      exact .indexInvalid valid
    | ok =>
      rw [run_of_accepted (.index artifact) ready valid]
      exact sound.index_step catalog.dataStore valid
  | commit uuid =>
    rcases requireUuid_cases uuid with ⟨rfl, refused⟩ | ⟨named, accepted⟩
    · rw [run_of_refused (.commit .nil) ready refused]
      exact .commitNil
    · rw [run_of_accepted (.commit uuid) ready accepted]
      exact catalog.table.commit_step catalog.dataStore named
  | delete uuid =>
    rcases requireUuid_cases uuid with ⟨rfl, refused⟩ | ⟨named, accepted⟩
    · rw [run_of_refused (.delete .nil) ready refused]
      exact .deleteNil
    · rw [run_of_accepted (.delete uuid) ready accepted]
      exact catalog.table.delete_step catalog.dataStore named
  | relocate uuid storageUrl =>
    rcases requireUuid_cases uuid with ⟨rfl, refused⟩ | ⟨named, identified⟩
    · have refused : (Operation.relocate .nil storageUrl).checkArguments =
          .error (.requiredFieldMissing "uuid") := rfl
      rw [run_of_refused _ ready refused]
      exact .relocateNil
    · rcases requireNonEmpty_cases "storage_url" storageUrl with ⟨rfl, empty⟩ | ⟨given, located⟩
      · have refused : (Operation.relocate uuid "").checkArguments =
            .error (.requiredFieldMissing "storage_url") := by
          simp only [Operation.checkArguments, identified]
          exact empty
        rw [run_of_refused _ ready refused]
        exact .relocateNowhere named
      · have accepted : (Operation.relocate uuid storageUrl).checkArguments = .ok () := by
          simp only [Operation.checkArguments, identified]
          exact located
        rw [run_of_accepted _ ready accepted]
        exact catalog.table.relocate_step catalog.dataStore named given
  | find uuid =>
    rcases requireUuid_cases uuid with ⟨rfl, refused⟩ | ⟨named, accepted⟩
    · rw [run_of_refused (.find .nil) ready refused]
      exact .findNil
    · rw [run_of_accepted (.find uuid) ready accepted]
      exact .find named
  | contains uuid =>
    rcases requireUuid_cases uuid with ⟨rfl, refused⟩ | ⟨named, accepted⟩
    · rw [run_of_refused (.contains .nil) ready refused]
      exact .containsNil
    · rw [run_of_accepted (.contains uuid) ready accepted]
      exact .contains named
  | _ =>
    rw [run_live_of_reads rfl]
    exact .listing rfl

theorem sound_run {catalog : Volatile} (sound : catalog.table.Sound) (operation : Operation) :
    (catalog.run operation).2.table.Sound := by
  rw [run_eq, guarded]
  cases catalog.state.accept operation.checkArguments with
  | error error => exact sound
  | ok _ => exact sound.perform catalog.dataStore operation

end Volatile

end ArchiveCatalog
