import ArchiveCatalog.Proofs.TableInvariant

namespace ArchiveCatalog

inductive Mutation where
  | insert (artifact : Artifact)
  | restore (artifact : Artifact)
  | commit (uuid : Uuid)
  | setStorageUrl (uuid : Uuid) (storageUrl : String)
  | remove (uuid : Uuid)

def Artifact.uncommitted (artifact : Artifact) : Artifact := { artifact with committed := false }

namespace Table

/-- Carry out a mutation. One that fails leaves the table as it is. -/
def apply (table : Table) : Mutation → Table
  | .insert artifact => ((table.insert artifact).toOption.map (·.2)).getD table
  | .restore artifact => (table.restore artifact).toOption.getD table
  | .commit uuid => ((table.commit uuid).map (·.2)).getD table
  | .setStorageUrl uuid storageUrl => ((table.setStorageUrl uuid storageUrl).map (·.2)).getD table
  | .remove uuid => ((table.remove uuid).map (·.2)).getD table

def applyAll (table : Table) (mutations : List Mutation) : Table := mutations.foldl apply table

theorem insert_eq (table : Table) (artifact : Artifact) :
    table.insert artifact =
      (table.restore artifact.uncommitted).map fun next => (artifact.uncommitted, next) := by
  change (table.restore artifact.uncommitted >>= fun next =>
    Except.ok (artifact.uncommitted, next)) = _
  cases table.restore artifact.uncommitted <;> rfl

theorem Sound.restore {table : Table} (sound : table.Sound) (artifact : Artifact) :
    ((table.restore artifact).toOption.getD table).Sound := by
  rcases table.restore_cases artifact with
    ⟨holder, -, result⟩ | ⟨-, holder, -, result⟩ | ⟨unknown, free, result⟩
  · simpa [result, Except.toOption] using sound
  · simpa [result, Except.toOption] using sound
  · simpa [result, Except.toOption] using sound.add unknown free

/-- Every mutation keeps a table sound, whether it succeeds or not. -/
theorem Sound.apply {table : Table} (sound : table.Sound) (mutation : Mutation) :
    (table.apply mutation).Sound := by
  cases mutation with
  | insert artifact =>
    have kept := sound.restore artifact.uncommitted
    simp only [Table.apply, insert_eq]
    cases result : table.restore artifact.uncommitted with
    | error error => simpa [Except.map, Except.toOption] using sound
    | ok next => simpa [Except.map, Except.toOption, result] using kept
  | restore artifact => exact sound.restore artifact
  | commit uuid =>
    simp only [Table.apply]
    cases result : table.commit uuid with
    | none => exact sound
    | some changed => exact sound.update keepsPlace_commit result
  | setStorageUrl uuid storageUrl =>
    simp only [Table.apply]
    cases result : table.setStorageUrl uuid storageUrl with
    | none => exact sound
    | some changed => exact sound.update (keepsPlace_storageUrl storageUrl) result
  | remove uuid =>
    simp only [Table.apply]
    cases result : table.remove uuid with
    | none => exact sound
    | some removed => exact sound.remove result

theorem Sound.applyAll {table : Table} (sound : table.Sound) (mutations : List Mutation) :
    (table.applyAll mutations).Sound := by
  induction mutations generalizing table with
  | nil => exact sound
  | cons mutation rest ih => exact ih (sound.apply mutation)

private theorem population_pos_iff {table : Table} {ns auid : String} :
    0 < table.population ns auid ↔ ∃ uuid artifact,
      table.get? uuid = some artifact ∧ artifact.ns = ns ∧ artifact.auid = auid := by
  unfold population get?
  rw [List.countP_pos_iff]
  constructor
  · rintro ⟨artifact, member, here⟩
    obtain ⟨entry, present, rfl⟩ := List.mem_map.1 member
    exact ⟨entry.1, entry.2, OrderedMap.get?_eq_some_iff.2 present, isIn_eq_true_iff.1 here⟩
  · rintro ⟨uuid, artifact, known, here⟩
    exact ⟨artifact, List.mem_map.2 ⟨_, OrderedMap.get?_eq_some_iff.1 known, rfl⟩,
      isIn_eq_true_iff.2 here⟩

theorem Sound.number?_eq_some_iff {table : Table} (sound : table.Sound) {ns auid : String} :
    (∃ count, table.auCounts.number? ns auid = some count) ↔ ∃ uuid artifact,
      table.get? uuid = some artifact ∧ artifact.ns = ns ∧ artifact.auid = auid := by
  rw [← population_pos_iff, sound.number?]
  by_cases vacant : table.population ns auid = 0
  · simp [vacant]
  · simp [vacant, Nat.pos_of_ne_zero]

theorem exists_of_ne_empty {aus : OrderedMap String Nat} (inhabited : aus ≠ .empty) :
    ∃ auid count, aus.get? auid = some count := by
  cases entries : aus.entries with
  | nil => exact absurd (OrderedMap.ext_entries entries) inhabited
  | cons entry rest =>
    exact ⟨entry.1, entry.2, OrderedMap.get?_eq_some_iff.2 (entries ▸ List.mem_cons_self)⟩

theorem Sound.mem_namespaces {table : Table} (sound : table.Sound) {ns : String} :
    ns ∈ table.namespaces ↔ ∃ uuid artifact,
      table.get? uuid = some artifact ∧ artifact.ns = ns := by
  rw [namespaces, OrderedMap.mem_keys]
  constructor
  · rintro ⟨aus, there⟩
    obtain ⟨auid, count, inner⟩ :=
      exists_of_ne_empty fun vacant => sound.inhabited ns (vacant ▸ there)
    have number : table.auCounts.number? ns auid = some count := by
      rw [AuCounts.number?, there, Option.bind_some, inner]
    obtain ⟨uuid, artifact, known, here, -⟩ := sound.number?_eq_some_iff.1 ⟨count, number⟩
    exact ⟨uuid, artifact, known, here⟩
  · rintro ⟨uuid, artifact, known, here⟩
    obtain ⟨count, number⟩ := sound.number?_eq_some_iff.2 ⟨uuid, artifact, known, here, rfl⟩
    obtain ⟨aus, there, -⟩ := Option.bind_eq_some_iff.1 number
    exact ⟨aus, there⟩

theorem Sound.mem_auIds {table : Table} (sound : table.Sound) {ns auid : String} :
    auid ∈ table.auIds ns ↔ ∃ uuid artifact,
      table.get? uuid = some artifact ∧ artifact.ns = ns ∧ artifact.auid = auid := by
  rw [← sound.number?_eq_some_iff, auIds, AuCounts.number?]
  cases table.auCounts.get? ns with
  | none => simp
  | some aus => simp [OrderedMap.mem_keys]

theorem namespaces_ascending (table : Table) : table.namespaces.Pairwise (· < ·) :=
  (OrderedMap.keys_ascending _).imp compare_eq_lt_iff.1

theorem auIds_ascending (table : Table) (ns : String) : (table.auIds ns).Pairwise (· < ·) := by
  unfold auIds
  cases table.auCounts.get? ns with
  | none => exact .nil
  | some aus => exact (OrderedMap.keys_ascending aus).imp compare_eq_lt_iff.1

/-- The artifacts at some of a sound table's positions: none is missing. -/
theorem Sound.artifacts_at {table : Table} (sound : table.Sound) {entries : List (Position × Uuid)}
    (held : ∀ entry ∈ entries, table.byPosition.get? entry.1 = some entry.2) :
    (entries.filterMap fun entry => table.byUuid.get? entry.2).map (·.position) =
      entries.map (·.1) := by
  induction entries with
  | nil => rfl
  | cons entry rest ih =>
    obtain ⟨artifact, known, here⟩ := (sound.placed _ _).1 (held entry List.mem_cons_self)
    have later := ih fun other member => held other (List.mem_cons_of_mem entry member)
    simp only [List.filterMap_cons, known, List.map_cons, later, here]

/-- Sound tables of the same artifacts are equal, whatever mutations led to them. -/
theorem Sound.ext {first second : Table} (left : first.Sound) (right : second.Sound)
    (same : ∀ uuid, first.get? uuid = second.get? uuid) : first = second := by
  have artifacts : first.byUuid = second.byUuid := OrderedMap.ext same
  have positions : first.byPosition = second.byPosition := by
    refine OrderedMap.ext fun place => Option.ext fun uuid => ?_
    rw [left.placed, right.placed, artifacts]
  have numbers : ∀ ns auid, first.auCounts.number? ns auid = second.auCounts.number? ns auid := by
    intro ns auid
    rw [left.number?, right.number?, population, population, artifacts]
  -- the numbers do not tell an empty namespace from a missing one; sound tables have no empty one
  have counts : first.auCounts = second.auCounts := by
    refine OrderedMap.ext fun ns => ?_
    have inner := numbers ns
    simp only [AuCounts.number?] at inner
    cases here : first.auCounts.get? ns with
    | none =>
      cases there : second.auCounts.get? ns with
      | none => rfl
      | some aus =>
        obtain ⟨auid, count, found⟩ :=
          exists_of_ne_empty fun vacant => right.inhabited ns (vacant ▸ there)
        have missing := inner auid
        simp [here, there, found] at missing
    | some aus =>
      cases there : second.auCounts.get? ns with
      | none =>
        obtain ⟨auid, count, found⟩ :=
          exists_of_ne_empty fun vacant => left.inhabited ns (vacant ▸ here)
        have missing := inner auid
        simp [here, there, found] at missing
      | some others =>
        refine congrArg some (OrderedMap.ext fun auid => ?_)
        simpa [here, there] using inner auid
  cases first; cases second
  simp_all

end Table

end ArchiveCatalog
