import ArchiveCatalog.Proofs.LiveArtifacts
import ArchiveCatalog.Proofs.RecordCodec

namespace ArchiveCatalog

namespace Live

/-- Changes laid over a map one after the other: a record is written, or removed where there is
none. -/
def overlay (live : Live) (changes : List Operation.Change) : Live :=
  changes.foldl (fun live change => live.set change.1 change.2) live

theorem set_self (live : Live) (uuid : Uuid) (record : Option Artifact) :
    live.set uuid record uuid = record := if_pos rfl

theorem set_other (live : Live) {uuid other : Uuid} (record : Option Artifact)
    (different : uuid ≠ other) : live.set uuid record other = live other := if_neg different

theorem overlay_of_unchanged {live : Live} {uuid : Uuid} {changes : List Operation.Change}
    (unchanged : ∀ change ∈ changes, change.1 ≠ uuid) : live.overlay changes uuid = live uuid := by
  induction changes generalizing live with
  | nil => rfl
  | cons change rest ih =>
    have later := fun other member => unchanged other (List.mem_cons_of_mem change member)
    have here := unchanged change List.mem_cons_self
    exact (ih later).trans (live.set_other change.2 here)

private theorem overlay_of_changed {live : Live} {changes : List Operation.Change}
    {change : Operation.Change} (distinct : (changes.map (·.1)).Nodup)
    (member : change ∈ changes) : live.overlay changes change.1 = change.2 := by
  induction changes generalizing live with
  | nil => cases member
  | cons first rest ih =>
    simp only [List.map_cons, List.nodup_cons] at distinct
    obtain ⟨fresh, distinct⟩ := distinct
    rcases List.mem_cons.1 member with rfl | later
    · have unchanged : ∀ other ∈ rest, other.1 ≠ change.1 := by
        intro other present same
        exact fresh (same ▸ List.mem_map_of_mem present)
      exact (overlay_of_unchanged unchanged).trans (live.set_self change.1 change.2)
    · exact ih distinct later

/-- Pending changes may be laid over a map in any order. -/
theorem overlay_pending (live : Live) {pending : Changes} {order : List Operation.Change}
    (perm : order.Perm pending.entries) (uuid : Uuid) :
    live.overlay order uuid = (pending.get? uuid).getD (live uuid) := by
  have distinct : (order.map (·.1)).Nodup :=
    (perm.map Prod.fst).nodup_iff.2 pending.keys_nodup
  cases found : pending.get? uuid with
  | none =>
    refine overlay_of_unchanged fun change member => ?_
    exact OrderedMap.get?_eq_none_iff.1 found change (perm.mem_iff.1 member)
  | some record =>
    have member : (uuid, record) ∈ order := perm.mem_iff.2 (OrderedMap.get?_eq_some_iff.1 found)
    exact overlay_of_changed distinct member

end Live

namespace Records

/-- A store holds the record of each artifact of a map, and nothing else. -/
def Encodes (records : Records) (live : Live) : Prop :=
  ∀ key value, records.get? key = some value ↔
    ∃ uuid artifact, live uuid = some artifact ∧ uuid.bytes = key ∧ artifact.encode = value

theorem Encodes.unique {first second : Records} {live : Live} (left : first.Encodes live)
    (right : second.Encodes live) : first = second := by
  refine OrderedMap.ext fun key => Option.ext fun value => ?_
  rw [left key value, right key value]

private theorem encodes_empty : Encodes .empty Live.none := by
  intro key value
  simp [Live.none]

theorem get?_put (records : Records) (change : Operation.Change) (key : Bytes) :
    (records.put change).get? key =
      if change.1.bytes = key then change.2.map Artifact.encode else records.get? key := by
  obtain ⟨uuid, record⟩ := change
  cases record with
  | none => exact OrderedMap.get?_erase records uuid.bytes key
  | some artifact => exact OrderedMap.get?_insert records uuid.bytes key artifact.encode

theorem Encodes.put {records : Records} {live : Live} (encodes : records.Encodes live)
    (change : Operation.Change) :
    (records.put change).Encodes (live.set change.1 change.2) := by
  obtain ⟨uuid, record⟩ := change
  intro key value
  rw [get?_put]
  split
  case isTrue here =>
    constructor
    · intro written
      obtain ⟨artifact, rfl, encoded⟩ := Option.map_eq_some_iff.1 written
      exact ⟨uuid, artifact, live.set_self uuid _, here, encoded⟩
    · rintro ⟨other, artifact, known, there, encoded⟩
      have same : uuid = other := Uuid.bytes_injective (here.trans there.symm)
      subst same
      rw [live.set_self] at known
      exact Option.map_eq_some_iff.2 ⟨artifact, known, encoded⟩
  case isFalse elsewhere =>
    rw [encodes key value]
    constructor
    · rintro ⟨other, artifact, known, there, encoded⟩
      have different : uuid ≠ other := fun same => elsewhere (same ▸ there)
      exact ⟨other, artifact, (live.set_other record different).trans known, there, encoded⟩
    · rintro ⟨other, artifact, known, there, encoded⟩
      have different : uuid ≠ other := fun same => elsewhere (same ▸ there)
      exact ⟨other, artifact, (live.set_other record different).symm.trans known, there, encoded⟩

private theorem Encodes.putAll {records : Records} {live : Live} (encodes : records.Encodes live)
    (changes : List Operation.Change) :
    (changes.foldl Records.put records).Encodes (live.overlay changes) := by
  induction changes generalizing records live with
  | nil => exact encodes
  | cons change rest ih => exact ih (encodes.put change)

/-- The artifact that the record of an identifier stands for. -/
def artifact? (records : Records) : Live := fun uuid =>
  (records.get? uuid.bytes).bind (Artifact.decode? uuid.bytes)

private theorem Encodes.artifact?_eq {records : Records} {live : Live}
    (encodes : records.Encodes live)
    (keyed : ∀ uuid artifact, live uuid = some artifact → artifact.uuid = uuid) :
    records.artifact? = live := by
  refine funext fun uuid => ?_
  cases known : live uuid with
  | some artifact =>
    have stored : records.get? uuid.bytes = some artifact.encode :=
      (encodes _ _).2 ⟨uuid, artifact, known, rfl, rfl⟩
    have read := artifact.decode?_encode
    rw [keyed uuid artifact known] at read
    rw [artifact?, stored, Option.bind_some, read]
  | none =>
    cases stored : records.get? uuid.bytes with
    | none => rw [artifact?, stored, Option.bind_none]
    | some value =>
      obtain ⟨other, artifact, held, same, -⟩ := (encodes _ _).1 stored
      rw [Uuid.bytes_injective same, known] at held
      cases held

end Records

namespace Table

def encoded (table : Table) : Records :=
  (table.byUuid.entries.map fun entry => (entry.1, some entry.2)).foldl Records.put .empty

theorem encodes_encoded (table : Table) : table.encoded.Encodes table.get? := by
  have all : Live.none.overlay (table.byUuid.entries.map fun entry => (entry.1, some entry.2)) =
      table.get? := by
    refine funext fun uuid => ?_
    cases known : table.get? uuid with
    | some artifact =>
      have distinct : ((table.byUuid.entries.map fun entry => (entry.1, some entry.2)).map
          (·.1)).Nodup := by
        rw [List.map_map]
        exact table.byUuid.keys_nodup
      have member : (uuid, some artifact) ∈
          table.byUuid.entries.map fun entry => (entry.1, some entry.2) :=
        List.mem_map.2 ⟨(uuid, artifact), OrderedMap.get?_eq_some_iff.1 known, rfl⟩
      exact Live.overlay_of_changed distinct member
    | none =>
      refine Live.overlay_of_unchanged fun change member => ?_
      obtain ⟨entry, present, rfl⟩ := List.mem_map.1 member
      exact OrderedMap.get?_eq_none_iff.1 known entry present
  have written := Records.encodes_empty.putAll
    (table.byUuid.entries.map fun entry => (entry.1, some entry.2))
  rwa [all] at written

theorem Sound.artifact?_encoded {table : Table} (sound : table.Sound) :
    table.encoded.artifact? = table.get? :=
  table.encodes_encoded.artifact?_eq sound.keyed

/-- Pending changes that lead from one table to another, written in any order, lead from the
records of the one to the records of the other. -/
theorem putAll_encoded {base table : Table} {pending : Changes} {order : List Operation.Change}
    (perm : order.Perm pending.entries)
    (overlaid : ∀ uuid, table.get? uuid = (pending.get? uuid).getD (base.get? uuid)) :
    order.foldl Records.put base.encoded = table.encoded := by
  have same : Live.overlay base.get? order = table.get? :=
    funext fun uuid => (Live.overlay_pending base.get? perm uuid).trans (overlaid uuid).symm
  have written := base.encodes_encoded.putAll order
  rw [same] at written
  exact written.unique table.encodes_encoded

private theorem Sound.decode_entry {table : Table} (sound : table.Sound) {entry : Bytes × Bytes}
    (member : entry ∈ table.encoded.entries) :
    ∃ artifact, Artifact.decode? entry.1 entry.2 = some artifact ∧
      artifact.uuid.bytes = entry.1 ∧ table.get? artifact.uuid = some artifact := by
  have stored : table.encoded.get? entry.1 = some entry.2 := OrderedMap.get?_eq_some_iff.2 member
  obtain ⟨uuid, artifact, known, key, encoded⟩ := (table.encodes_encoded _ _).1 stored
  have own : artifact.uuid = uuid := sound.keyed uuid artifact known
  subst own
  refine ⟨artifact, ?_, key, known⟩
  rw [← key, ← encoded]
  exact artifact.decode?_encode

private theorem artifacts_keys {entries : List (Bytes × Bytes)}
    (read : ∀ entry ∈ entries, ∃ artifact, Artifact.decode? entry.1 entry.2 = some artifact ∧
      artifact.uuid.bytes = entry.1) :
    (entries.filterMap fun entry => Artifact.decode? entry.1 entry.2).map (·.uuid.bytes) =
      entries.map (·.1) := by
  induction entries with
  | nil => rfl
  | cons entry rest ih =>
    obtain ⟨artifact, decoded, key⟩ := read entry List.mem_cons_self
    have later := ih fun other member => read other (List.mem_cons_of_mem entry member)
    rw [List.filterMap_cons, decoded, List.map_cons, List.map_cons, later, key]

theorem Sound.encoded_keys {table : Table} (sound : table.Sound) :
    table.encoded.artifacts.map (·.uuid.bytes) = table.encoded.keys := by
  refine artifacts_keys fun entry member => ?_
  obtain ⟨artifact, decoded, key, -⟩ := sound.decode_entry member
  exact ⟨artifact, decoded, key⟩

theorem Sound.mem_artifacts {table : Table} (sound : table.Sound) {artifact : Artifact} :
    artifact ∈ table.encoded.artifacts ↔ table.get? artifact.uuid = some artifact := by
  constructor
  · intro member
    obtain ⟨entry, present, decoded⟩ := List.mem_filterMap.1 member
    obtain ⟨other, read, -, known⟩ := sound.decode_entry present
    rw [decoded] at read
    cases read
    exact known
  · intro known
    have stored : table.encoded.get? artifact.uuid.bytes = some artifact.encode :=
      (table.encodes_encoded _ _).2 ⟨_, artifact, known, rfl, rfl⟩
    have present : (artifact.uuid.bytes, artifact.encode) ∈ table.encoded.entries :=
      OrderedMap.get?_eq_some_iff.1 stored
    have read := artifact.decode?_encode
    rw [Records.artifacts, List.mem_filterMap]
    refine ⟨_, present, ?_⟩
    simp only [read]

/-- A sound table whose artifacts are all in another one. -/
structure Part (table part : Table) : Prop where
  sound : part.Sound
  within : ∀ uuid artifact, part.get? uuid = some artifact → table.get? uuid = some artifact

theorem get?_add_of_held {part : Table} {artifact other : Artifact} {uuid : Uuid}
    (fresh : part.get? artifact.uuid = none) (held : part.get? uuid = some other) :
    (part.add artifact).get? uuid = some other := by
  have different : artifact.uuid ≠ uuid := by
    intro same
    rw [← same, fresh] at held
    cases held
  rw [get?_add, if_neg different, held]

/-- An artifact of a sound table is added to a part of it that lacks it: its position is free,
since the table has no other artifact there. -/
theorem Part.restore {table part : Table} {artifact : Artifact} (inside : Part table part)
    (sound : table.Sound) (known : table.get? artifact.uuid = some artifact)
    (fresh : part.get? artifact.uuid = none) :
    part.restore artifact = .ok (part.add artifact) ∧ Part table (part.add artifact) := by
  have free : part.byPosition.get? artifact.position = none := by
    rw [inside.sound.free_iff]
    intro holder other held here
    have same := sound.position_unique (inside.within holder other held) known here
    rw [same, fresh] at held
    cases held
  refine ⟨restore_eq_ok_iff.2 ⟨fresh, free, rfl⟩, inside.sound.add fresh free, ?_⟩
  intro uuid other held
  rw [get?_add] at held
  split at held
  case isTrue same =>
    cases held
    rw [← same]
    exact known
  case isFalse => exact inside.within uuid other held

private theorem Part.restore_list {table part : Table} {artifacts : List Artifact}
    (inside : Part table part) (sound : table.Sound)
    (known : ∀ artifact ∈ artifacts, table.get? artifact.uuid = some artifact)
    (distinct : (artifacts.map (·.uuid)).Nodup)
    (fresh : ∀ artifact ∈ artifacts, part.get? artifact.uuid = none) :
    ∃ whole, artifacts.foldlM Table.restore part = .ok whole ∧
      part.restoreAll artifacts = whole ∧ Part table whole ∧
      (∀ uuid artifact, part.get? uuid = some artifact → whole.get? uuid = some artifact) ∧
      ∀ artifact ∈ artifacts, whole.get? artifact.uuid = some artifact := by
  induction artifacts generalizing part with
  | nil => exact ⟨part, rfl, rfl, inside, fun _ _ held => held, by simp⟩
  | cons artifact rest ih =>
    simp only [List.map_cons, List.nodup_cons] at distinct
    obtain ⟨apart, distinct⟩ := distinct
    have lacking := fresh artifact List.mem_cons_self
    -- the first artifact is added, which leaves the others as new to the table as they were
    obtain ⟨added, more⟩ := inside.restore sound (known artifact List.mem_cons_self) lacking
    have freshRest : ∀ other ∈ rest, (part.add artifact).get? other.uuid = none := by
      intro other member
      have different : artifact.uuid ≠ other.uuid := by
        intro same
        exact apart (same ▸ List.mem_map_of_mem member)
      rw [get?_add, if_neg different]
      exact fresh other (List.mem_cons_of_mem artifact member)
    obtain ⟨whole, loaded, restored, last, grown, present⟩ :=
      ih more (fun other member => known other (List.mem_cons_of_mem artifact member)) distinct
        freshRest
    refine ⟨whole, ?_, ?_, last,
      fun uuid other held => grown uuid other (get?_add_of_held lacking held),
      fun other member => ?_⟩
    · rw [List.foldlM_cons, added]
      exact loaded
    · rw [← restored, restoreAll, List.foldl_cons, added]
      rfl
    · rcases List.mem_cons.1 member with rfl | later
      · exact grown other.uuid other ((get?_add ..).trans (if_pos rfl))
      · exact present other later

/-- A table is loaded from the records of its artifacts, and no record is refused. -/
theorem Sound.load_encoded {table : Table} (sound : table.Sound) :
    table.encoded.artifacts.foldlM Table.restore .empty = .ok table ∧
      Table.empty.restoreAll table.encoded.artifacts = table := by
  have distinct : (table.encoded.artifacts.map (·.uuid)).Nodup := by
    have keys := table.encoded.keys_nodup
    rw [← sound.encoded_keys] at keys
    exact List.pairwise_map.2 ((List.pairwise_map.1 keys).imp fun differ same =>
      differ (congrArg Uuid.bytes same))
  have nothing : Part table .empty := ⟨sound_empty, fun _ _ held => by cases held⟩
  obtain ⟨whole, loaded, restored, last, -, present⟩ :=
    nothing.restore_list sound (fun _ => sound.mem_artifacts.1) distinct fun _ _ => rfl
  have same : whole = table := by
    refine last.sound.ext sound fun uuid => Option.ext fun artifact => ?_
    constructor
    · exact last.within uuid artifact
    · intro known
      have own := sound.keyed uuid artifact known
      subst own
      exact present artifact (sound.mem_artifacts.2 known)
  rw [same] at loaded restored
  exact ⟨loaded, restored⟩

end Table

end ArchiveCatalog
