import ArchiveCatalog.Proofs.Recovery
import Mathlib.Tactic.Tauto

/-! A store that a catalog did not write. Records that are unreadable or clash are passed over and
left where they are, so that a change which is written behind them can be refused for their sake
when the store is opened again. -/

namespace ArchiveCatalog

namespace Records

theorem uuid_of_decode? {key value : Bytes} {artifact : Artifact}
    (read : Artifact.decode? key value = some artifact) : artifact.uuid.bytes = key := by
  obtain ⟨uuid, identified, rest⟩ := Option.bind_eq_some_iff.1 read
  obtain ⟨found, -, checked⟩ := Option.bind_eq_some_iff.1 rest
  split at checked
  case isFalse => cases checked
  case isTrue same =>
    cases checked
    rw [same]
    exact Uuid.bytes_of_ofBytes? identified

theorem mem_artifacts {records : Records} {artifact : Artifact} :
    artifact ∈ records.artifacts ↔ records.artifact? artifact.uuid = some artifact := by
  rw [artifacts, List.mem_filterMap, artifact?, Option.bind_eq_some_iff]
  constructor
  · rintro ⟨⟨key, value⟩, member, read⟩
    simp only at read
    have own := uuid_of_decode? read
    subst own
    exact ⟨value, OrderedMap.get?_eq_some_iff.2 member, read⟩
  · rintro ⟨value, stored, read⟩
    refine ⟨(artifact.uuid.bytes, value), OrderedMap.get?_eq_some_iff.1 stored, ?_⟩
    simp only [read]

private theorem artifacts_distinct (records : Records) :
    (records.artifacts.map (·.uuid)).Nodup := by
  refine List.pairwise_map.2 (List.pairwise_filterMap.2 ?_)
  refine (List.pairwise_map.1 records.keys_nodup).imp ?_
  intro first second different left leftRead right rightRead same
  exact different ((uuid_of_decode? leftRead).symm.trans
    ((congrArg Uuid.bytes same).trans (uuid_of_decode? rightRead)))

/-- A change stands under the identifier of what it writes. -/
def Keyed (change : Operation.Change) : Prop :=
  ∀ artifact, change.2 = some artifact → artifact.uuid = change.1

private theorem artifact?_put (records : Records) {change : Operation.Change}
    (keyed : Keyed change) :
    (records.put change).artifact? = records.artifact?.set change.1 change.2 := by
  obtain ⟨uuid, record⟩ := change
  refine funext fun other => ?_
  rw [artifact?, get?_put, Live.set]
  by_cases same : uuid = other
  · subst same
    rw [if_pos rfl, if_pos rfl]
    cases record with
    | none => rfl
    | some artifact =>
      have own : artifact.uuid = uuid := keyed artifact rfl
      subst own
      rw [Option.map_some, Option.bind_some, artifact.decode?_encode]
  · rw [if_neg fun bytes => same (Uuid.bytes_injective bytes), if_neg same, artifact?]

private theorem artifact?_foldl_put (records : Records) {changes : List Operation.Change}
    (keyed : ∀ change ∈ changes, Keyed change) :
    (changes.foldl put records).artifact? = records.artifact?.overlay changes := by
  induction changes generalizing records with
  | nil => rfl
  | cons change rest ih =>
    rw [List.foldl_cons, ih _ fun other member => keyed other (List.mem_cons_of_mem change member),
      artifact?_put records (keyed change List.mem_cons_self)]
    rfl

/-- To write changes is to lay them over what the records stood for. -/
theorem artifact?_apply (records : Records) {pending : Changes}
    (keyed : ∀ uuid artifact, pending.get? uuid = some (some artifact) → artifact.uuid = uuid)
    (uuid : Uuid) :
    (records.apply pending).artifact? uuid =
      (pending.get? uuid).getD (records.artifact? uuid) := by
  have each : ∀ change ∈ pending.entries, Keyed change := by
    rintro ⟨key, record⟩ member artifact rfl
    exact keyed key artifact (OrderedMap.get?_eq_some_iff.2 member)
  rw [apply, artifact?_foldl_put records each]
  exact Live.overlay_pending records.artifact? (.refl _) uuid

end Records

namespace Table

/-- A table to which artifacts were added as far as it took them. One that it refused stands at
the position of another. -/
structure Filled (part : Table) (artifacts : List Artifact) (whole : Table) : Prop where
  sound : whole.Sound
  kept : ∀ uuid artifact, part.get? uuid = some artifact → whole.get? uuid = some artifact
  origin : ∀ uuid artifact, whole.get? uuid = some artifact →
    part.get? uuid = some artifact ∨ artifact ∈ artifacts ∧ artifact.uuid = uuid
  placed : ∀ artifact ∈ artifacts, whole.get? artifact.uuid = some artifact ∨
    whole.get? artifact.uuid = none ∧ ∃ other, whole.get? other.uuid = some other ∧
      other.position = artifact.position

section Filled

variable {part whole : Table} {artifact : Artifact} {rest : List Artifact}

theorem Filled.refuse (filled : Filled part rest whole) (sound : part.Sound)
    (lacking : part.get? artifact.uuid = none)
    (differs : ∀ other ∈ rest, artifact.uuid ≠ other.uuid) {holder : Uuid}
    (taken : part.byPosition.get? artifact.position = some holder) :
    Filled part (artifact :: rest) whole := by
  refine ⟨filled.sound, filled.kept, fun uuid other held => ?_, fun other member => ?_⟩
  · exact (filled.origin uuid other held).imp_right fun ⟨later, own⟩ =>
      ⟨List.mem_cons_of_mem artifact later, own⟩
  · rcases List.mem_cons.1 member with rfl | later
    case inr => exact filled.placed other later
    have absent : whole.get? other.uuid = none := by
      cases held : whole.get? other.uuid with
      | none => rfl
      | some found =>
        rcases filled.origin _ _ held with before | ⟨later, own⟩
        · rw [lacking] at before
          cases before
        · exact absurd own.symm (differs found later)
    obtain ⟨occupant, there, position⟩ := (sound.placed _ _).1 taken
    have own : occupant.uuid = holder := sound.keyed _ _ there
    subst own
    exact .inr ⟨absent, occupant, filled.kept _ _ there, position⟩

theorem Filled.add (filled : Filled (part.add artifact) rest whole)
    (lacking : part.get? artifact.uuid = none) : Filled part (artifact :: rest) whole := by
  refine ⟨filled.sound, fun uuid other held => ?_, fun uuid other held => ?_,
    fun other member => ?_⟩
  · exact filled.kept uuid other (get?_add_of_held lacking held)
  · rcases filled.origin uuid other held with before | ⟨later, own⟩
    · rw [get?_add] at before
      split at before
      case isTrue same =>
        cases before
        exact .inr ⟨List.mem_cons_self, same⟩
      case isFalse => exact .inl before
    · exact .inr ⟨List.mem_cons_of_mem artifact later, own⟩
  · rcases List.mem_cons.1 member with rfl | later
    · exact .inl (filled.kept _ _ ((get?_add ..).trans (if_pos rfl)))
    · exact filled.placed other later

/-- Artifacts with identifiers of their own are added one after the other. -/
theorem Sound.filled {artifacts : List Artifact} (sound : part.Sound)
    (distinct : (artifacts.map (·.uuid)).Nodup)
    (fresh : ∀ artifact ∈ artifacts, part.get? artifact.uuid = none) :
    Filled part artifacts (part.restoreAll artifacts) := by
  induction artifacts generalizing part with
  | nil => exact ⟨sound, fun _ _ held => held, fun _ _ held => .inl held, by simp⟩
  | cons artifact rest ih =>
    simp only [List.map_cons, List.nodup_cons] at distinct
    obtain ⟨apart, distinct⟩ := distinct
    have lacking := fresh artifact List.mem_cons_self
    have later : ∀ other ∈ rest, part.get? other.uuid = none :=
      fun other member => fresh other (List.mem_cons_of_mem artifact member)
    have differs : ∀ other ∈ rest, artifact.uuid ≠ other.uuid :=
      fun other member same => apart (same ▸ List.mem_map_of_mem member)
    rw [restoreAll, List.foldl_cons]
    rcases part.restore_cases artifact with
      ⟨holder, known, -⟩ | ⟨-, holder, taken, result⟩ | ⟨-, free, result⟩
    · rw [lacking] at known
      cases known
    · rw [result]
      exact (ih sound distinct later).refuse sound lacking differs taken
    · rw [result]
      refine (ih (sound.add lacking free) distinct fun other member => ?_).add lacking
      rw [get?_add, if_neg (differs other member)]
      exact later other member

end Filled

theorem filled_of_records (records : Records) :
    Filled .empty records.artifacts (Table.empty.restoreAll records.artifacts) :=
  sound_empty.filled records.artifacts_distinct fun _ _ => rfl

/-- What is loaded for an identifier is what its record stands for. -/
theorem artifact?_of_loaded {records : Records} {uuid : Uuid} {artifact : Artifact}
    (held : (Table.empty.restoreAll records.artifacts).get? uuid = some artifact) :
    records.artifact? uuid = some artifact := by
  rcases (filled_of_records records).origin uuid artifact held with before | ⟨member, rfl⟩
  · cases before
  · exact Records.mem_artifacts.1 member

end Table

namespace Local

/-- The change that an operation makes to the memory, and that is recorded. -/
def change? (catalog : Local) (operation : Operation) : Option Operation.Change :=
  match (catalog.memory.run operation).1 with
  | .error _ => none
  | .ok answer => operation.change answer

private theorem noted_eq (catalog : Local) (operation : Operation) :
    catalog.noted operation = (catalog.change? operation).map fun change =>
      { catalog with
        memory := (catalog.memory.run operation).2
        pending := catalog.pending.insert change.1 change.2 } := by
  unfold noted change?
  cases (catalog.memory.run operation).1 <;> rfl

private theorem live_of_change? {catalog : Local} {operation : Operation}
    {change : Operation.Change}
    (changes : catalog.change? operation = some change) :
    (catalog.memory.run operation).2.live = catalog.memory.live.set change.1 change.2 := by
  unfold change? at changes
  rcases catalog.memory.run_cases operation with
    ⟨-, answer, other, answered, made, after⟩ | ⟨-, unchanged⟩
  · rw [answered] at changes
    cases made.symm.trans changes
    exact after
  · split at changes
    case h_1 => cases changes
    case h_2 answer answered =>
      rw [unchanged answer answered] at changes
      cases changes

end Local

namespace Site

/-- The identifier at which a call changes the memory. -/
def target? (site : Site) : LocalCall → Option Uuid
  | .operate operation _ => (site.catalog.change? operation).map Prod.fst
  | _ => none

def targets (site : Site) : List LocalCall → List Uuid
  | [] => []
  | call :: rest => (site.target? call).toList ++ (site.step call).targets rest

/-- What has been changed is in memory as the pending changes over the stored artifacts say; all
else is, in memory and in the store, as it was when the store was opened. -/
structure Tracks (disk : Records) (start : Table) (changed : Uuid → Prop) (site : Site) :
    Prop where
  sound : site.table.Sound
  keyed : ∀ uuid artifact, site.catalog.pending.get? uuid = some (some artifact) →
    artifact.uuid = uuid
  begun : site.catalog.state ≠ .constructed
  changes : ∀ uuid, changed uuid → site.table.get? uuid =
    (site.catalog.pending.get? uuid).getD (site.records.artifact? uuid)
  rest : ∀ uuid, ¬ changed uuid → site.catalog.pending.get? uuid = none ∧
    site.records.artifact? uuid = disk.artifact? uuid ∧ site.table.get? uuid = start.get? uuid

section Tracks

variable {disk : Records} {start : Table} {changed : Uuid → Prop} {site next : Site}

theorem Loaded.tracks (loaded : Loaded disk site) :
    Tracks disk site.table (fun _ => False) site := by
  obtain ⟨-, table, settled, stored, begun⟩ := loaded
  refine ⟨table ▸ (Table.filled_of_records disk).sound, ?_, begun, fun _ => False.elim, ?_⟩
  · rw [settled]
    intro uuid artifact pending
    cases pending
  · rw [settled, stored]
    exact fun _ _ => ⟨rfl, rfl, rfl⟩

theorem Tracks.of_same (tracks : Tracks disk start changed site)
    (records : next.records = site.records) (table : next.table = site.table)
    (pending : next.catalog.pending = site.catalog.pending)
    (begun : next.catalog.state ≠ .constructed) : Tracks disk start changed next where
  sound := table ▸ tracks.sound
  keyed := pending ▸ tracks.keyed
  begun := begun
  changes := by rw [table, pending, records]; exact tracks.changes
  rest := by rw [table, pending, records]; exact tracks.rest

theorem Tracks.of_iff {other : Uuid → Prop} (tracks : Tracks disk start changed site)
    (same : ∀ uuid, changed uuid ↔ other uuid) : Tracks disk start other site := by
  rwa [← funext fun uuid => propext (same uuid)]

theorem Tracks.flush {catalog : Local} {records : Records}
    (tracks : Tracks disk start changed ⟨catalog, records⟩) (permit : Permit) :
    Tracks disk start changed
      ⟨(catalog.flush permit records).2.1, (catalog.flush permit records).2.2⟩ := by
  rcases catalog.flush_cases permit records with ⟨-, result⟩ | ⟨-, error, result⟩ | result
  · rw [result]
    exact tracks
  · rw [result]
    exact tracks
  · have written := records.artifact?_apply tracks.keyed
    rw [result]
    refine ⟨tracks.sound, fun _ _ pending => (by cases pending), tracks.begun,
      fun uuid known => ?_, fun uuid unknown => ?_⟩
    · rw [written]
      exact tracks.changes uuid known
    · obtain ⟨nothing, stored, table⟩ := tracks.rest uuid unknown
      have pending : catalog.pending.get? uuid = none := nothing
      refine ⟨rfl, ?_, table⟩
      rw [written, pending]
      exact stored

/-- What an operation changes becomes pending. -/
theorem Tracks.operate (tracks : Tracks disk start changed site) {operation : Operation}
    {change : Operation.Change} (changes : site.catalog.change? operation = some change) :
    Tracks disk start (fun uuid => uuid = change.1 ∨ changed uuid)
      ⟨{ site.catalog with
          memory := (site.catalog.memory.run operation).2
          pending := site.catalog.pending.insert change.1 change.2 }, site.records⟩ := by
  have live := Local.live_of_change? changes
  have sound := Volatile.sound_run tracks.sound operation
  have table (uuid : Uuid) : (site.catalog.memory.run operation).2.table.get? uuid =
      if change.1 = uuid then change.2 else site.table.get? uuid := congrFun live uuid
  refine ⟨sound, fun uuid artifact => ?_, ?_, fun uuid known => ?_, fun uuid unknown => ?_⟩
  · simp only [OrderedMap.get?_insert]
    split
    case isTrue same =>
      intro record
      exact sound.keyed uuid artifact
        ((table uuid).trans ((if_pos same).trans (Option.some.inj record)))
    case isFalse => exact tracks.keyed uuid artifact
  · exact fun same => tracks.begun ((Volatile.run_state ..).symm.trans same)
  · simp only [Site.table, table, OrderedMap.get?_insert]
    split
    case isTrue => rfl
    case isFalse different =>
      exact tracks.changes uuid (known.resolve_left fun same => different same.symm)
  · obtain ⟨other, still⟩ := not_or.1 unknown
    obtain ⟨nothing, stored, before⟩ := tracks.rest uuid still
    have different : change.1 ≠ uuid := fun same => other same.symm
    simp only [Site.table, table, OrderedMap.get?_insert, if_neg different]
    exact ⟨nothing, stored, before⟩

theorem Tracks.step (tracks : Tracks disk start changed site) (call : LocalCall) :
    Tracks disk start (fun uuid => uuid ∈ site.target? call ∨ changed uuid) (site.step call) := by
  have begun := begun_step tracks.begun call
  have idle : ∀ uuid, changed uuid ↔ uuid ∈ (none : Option Uuid) ∨ changed uuid := by simp
  cases call with
  | init opening =>
    have result := Local.init_of_begun tracks.begun opening site.records
    simp only [Site.step, result] at begun ⊢
    exact (tracks.of_iff idle).of_same rfl rfl rfl begun
  | start opening =>
    have result := Local.start_of_begun tracks.begun opening site.records
    simp only [Site.step, result] at begun ⊢
    exact (tracks.of_iff idle).of_same rfl rfl rfl begun
  | setDataStore store => exact (tracks.of_iff idle).of_same rfl rfl rfl begun
  | flush permit => exact (tracks.of_iff idle).flush permit
  | stop permit =>
    have stopped : Tracks disk start changed
        ⟨{ site.catalog with memory := site.catalog.memory.stop.2 }, site.records⟩ :=
      tracks.of_same rfl rfl rfl State.noConfusion
    exact ((stopped.of_iff idle).flush permit).of_same rfl rfl rfl begun
  | operate operation permit =>
    simp only [Site.step, Local.run_eq, Local.noted_eq, target?]
    cases changes : site.catalog.change? operation with
    | none => exact tracks.of_iff idle
    | some change => exact ((tracks.operate changes).of_iff (by simp [eq_comm])).flush permit

theorem Tracks.run (tracks : Tracks disk start changed site) (calls : List LocalCall) :
    Tracks disk start (fun uuid => uuid ∈ site.targets calls ∨ changed uuid)
      (site.run calls) := by
  induction calls generalizing site changed with
  | nil => exact tracks.of_iff (by simp [targets])
  | cons call rest ih =>
    refine (ih (tracks.step call)).of_iff fun uuid => ?_
    rw [targets, List.mem_append, Option.mem_toList]
    tauto

end Tracks

/-- On a store with any records: once a catalog is stopped and has written everything, the store
holds each artifact that it has changed as it was in memory. The next catalog finds it again,
unless an older artifact stands at its position, whose record could be read before but was passed
over. -/
theorem changes_found_again {disk : Records} {begun : Site} (opened : Begun disk begun)
    (later : List LocalCall) {permit : Permit}
    (stopped : ((begun.run later).catalog.stop permit (begun.run later).records).1 = .ok ())
    {next : Site} (again : Begun ((begun.run later).step (.stop permit)).records next)
    {uuid : Uuid} (changed : uuid ∈ begun.targets later) :
    let ended := begun.run later
    (ended.step (.stop permit)).records.artifact? uuid = ended.table.get? uuid ∧
    (next.table.get? uuid = ended.table.get? uuid ∨
      ∃ artifact older, ended.table.get? uuid = some artifact ∧ next.table.get? uuid = none ∧
        older.position = artifact.position ∧ next.table.get? older.uuid = some older ∧
        disk.artifact? older.uuid = some older ∧ begun.table.get? older.uuid = none) := by
  intro ended
  have loaded := opened.loaded
  have tracks := (loaded.tracks.run later).step (.stop permit)
  have settled : (ended.step (.stop permit)).catalog.pending = .empty :=
    OrderedMap.size_eq_zero_iff.1 ((Local.stop_eq_ok_iff permit _ _).1 stopped)
  have table : (ended.step (.stop permit)).table = ended.table := ended.table_stop permit
  have known (other : Uuid) (target : other ∈ begun.targets later) :
      (ended.step (.stop permit)).records.artifact? other = ended.table.get? other := by
    have overlaid := tracks.changes other (.inr (.inl target))
    rw [settled] at overlaid
    exact (overlaid.symm.trans (congrArg (Table.get? · other) table))
  refine ⟨known uuid changed, ?_⟩
  have filled := Table.filled_of_records (ended.step (.stop permit)).records
  rw [← again.loaded.table] at filled
  cases held : ended.table.get? uuid with
  | none =>
    -- Whatever is loaded was stored.
    left
    cases found : next.table.get? uuid with
    | none => rfl
    | some artifact =>
      rcases filled.origin uuid artifact found with before | ⟨member, rfl⟩
      · cases before
      · have stored := Records.mem_artifacts.1 member
        rw [known artifact.uuid changed, held] at stored
        cases stored
  | some artifact =>
    have sound : ended.table.Sound := table ▸ tracks.sound
    have own : artifact.uuid = uuid := sound.keyed uuid artifact held
    subst own
    have stored : artifact ∈ (ended.step (.stop permit)).records.artifacts :=
      Records.mem_artifacts.2 ((known artifact.uuid changed).trans held)
    rcases filled.placed artifact stored with found | ⟨absent, older, there, position⟩
    · exact .inl found
    · -- In memory the position is the artifact's own, so the older one cannot have been there.
      have foreign : ended.table.get? older.uuid ≠ some older := by
        intro present
        have same := sound.position_unique present held position
        rw [← same, there] at absent
        cases absent
      have read : (ended.step (.stop permit)).records.artifact? older.uuid = some older :=
        Table.artifact?_of_loaded (again.loaded.table ▸ there)
      have untouched : older.uuid ∉ begun.targets later :=
        fun target => foreign ((known older.uuid target).symm.trans read)
      obtain ⟨-, same, before⟩ := tracks.rest older.uuid (by simp [target?, untouched])
      have onDisk : disk.artifact? older.uuid = some older := same.symm.trans read
      refine .inr ⟨artifact, older, rfl, absent, position, there, onDisk, ?_⟩
      cases loadedAs : begun.table.get? older.uuid with
      | none => rfl
      | some other =>
        have also := Table.artifact?_of_loaded (loaded.table ▸ loadedAs)
        cases onDisk.symm.trans also
        have present : ended.table.get? older.uuid = begun.table.get? older.uuid := by
          rw [← before, table]
        exact absurd (present.trans loadedAs) foreign

/-- An artifact that is indexed on a store with an unreadable record is found again. -/
theorem changes_found_again_of_unreadable :
    let disk : Records := OrderedMap.empty.insert [1] [2]
    let begun := (fresh (.ofPath "store") disk).step (.start (.ok ()))
    let artifact := Artifact.make (.ofNat 1) "ns" "au" "http://example.org/" 1
    let ended := begun.run [.operate (.index artifact) fun _ => none]
    let next := (fresh (.ofPath "store") (ended.step (.stop fun _ => none)).records).step
      (.start (.ok ()))
    next.table.get? artifact.uuid = ended.table.get? artifact.uuid := by
  intro disk begun artifact ended next
  have opened : Begun disk begun := ⟨.ofPath "store", [], .start (.ok ()), rfl, rfl, rfl⟩
  have stopped : (ended.catalog.stop (fun _ => none) ended.records).1 = .ok () := rfl
  have again : Begun (ended.step (.stop fun _ => none)).records next :=
    ⟨.ofPath "store", [], .start (.ok ()), rfl, rfl, rfl⟩
  have changed : artifact.uuid ∈ begun.targets [.operate (.index artifact) fun _ => none] := by
    decide
  have unreadable : disk.artifacts = [] := by decide
  rcases (changes_found_again opened _ stopped again changed).2 with
    same | ⟨_, older, _, _, _, _, read, _⟩
  · exact same
  · have member := Records.mem_artifacts.2 read
    rw [unreadable] at member
    cases member

/-- Of two records for one position the second is passed over when a store is opened. An artifact
that takes the position once the first is deleted is lost to it when the store is opened again. -/
theorem change_lost_behind_leftover :
    let first := Artifact.make (.ofNat 1) "ns" "au" "http://example.org/" 1
    let second := Artifact.make (.ofNat 2) "ns" "au" "http://example.org/" 1
    let third := Artifact.make (.ofNat 3) "ns" "au" "http://example.org/" 1
    let disk := [(first.uuid, some first), (second.uuid, some second)].foldl Records.put .empty
    let begun := (fresh (.ofPath "store") disk).step (.start (.ok ()))
    let ended := begun.run [.operate (.delete first.uuid) fun _ => none,
      .operate (.index third) fun _ => none]
    let next := (fresh (.ofPath "store") (ended.step (.stop fun _ => none)).records).step
      (.start (.ok ()))
    (ended.catalog.pendingWrites = 0 ∧
        (ended.step (.stop fun _ => none)).catalog.pendingWrites = 0) ∧
      ended.table.get? third.uuid = some third ∧ next.table.get? third.uuid = none := by
  decide +kernel

end Site

end ArchiveCatalog
