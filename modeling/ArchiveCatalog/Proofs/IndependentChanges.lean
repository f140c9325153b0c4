import ArchiveCatalog.Proofs.SameAnswers

namespace ArchiveCatalog

/-- The artifact that a change is about; operations that change nothing are about none. -/
def Operation.target? : Operation → Option Uuid
  | .index artifact => some artifact.uuid
  | .commit uuid => some uuid
  | .delete uuid => some uuid
  | .relocate uuid _ => some uuid
  | _ => none

namespace Live

/-- Whether a change lets a position be: it puts no artifact there and takes none away. -/
def Spares (live : Live) (position : Position) : Operation → Prop
  | .index artifact => artifact.position ≠ position
  | .delete uuid => ∀ artifact, live uuid = some artifact → artifact.position ≠ position
  | _ => True

/-- Changes of different artifacts, each of which spares the position at which the other one
indexes its artifact, if it does. -/
structure Independent (live : Live) (first second : Operation) : Prop where
  targets : ∃ one other, first.target? = some one ∧ second.target? = some other ∧ one ≠ other
  second_spares : ∀ artifact, first = .index artifact → live.Spares artifact.position second
  first_spares : ∀ artifact, second = .index artifact → live.Spares artifact.position first

theorem Independent.symm {live : Live} {first second : Operation}
    (independent : live.Independent first second) : live.Independent second first where
  targets := by
    obtain ⟨one, other, own, others, differ⟩ := independent.targets
    exact ⟨other, one, others, own, differ.symm⟩
  second_spares := independent.first_spares
  first_spares := independent.second_spares

end Live

namespace Table

/-- Two tables look the same to a change. -/
structure Alike (operation : Operation) (first second : Table) : Prop where
  known : ∀ uuid, operation.target? = some uuid → first.get? uuid = second.get? uuid
  held : ∀ artifact, operation = .index artifact →
    first.byPosition.get? artifact.position = second.byPosition.get? artifact.position

private theorem restore_alike {first second : Table} (artifact : Artifact)
    (known : first.get? artifact.uuid = second.get? artifact.uuid)
    (held : first.byPosition.get? artifact.position = second.byPosition.get? artifact.position) :
    (first.restore artifact = .ok (first.add artifact) ∧
      second.restore artifact = .ok (second.add artifact)) ∨
    ∃ error, first.restore artifact = .error error ∧ second.restore artifact = .error error := by
  rcases first.restore_cases artifact with
    ⟨holder, present, result⟩ | ⟨absent, holder, taken, result⟩ | ⟨absent, free, result⟩
  · have refused : second.restore artifact = .error (.storage (.alreadyExists artifact.uuid)) := by
      rw [known] at present
      rcases second.restore_cases artifact with ⟨-, -, same⟩ | ⟨absent, -⟩ | ⟨absent, -⟩
      · exact same
      · simp [absent] at present
      · simp [absent] at present
    exact .inr ⟨_, result, refused⟩
  · have refused : second.restore artifact =
        .error (.validation (positionTaken artifact holder)) := by
      rw [known] at absent
      rw [held] at taken
      rcases second.restore_cases artifact with
        ⟨other, present, -⟩ | ⟨-, other, there, same⟩ | ⟨-, free, -⟩
      · simp [absent] at present
      · rw [taken] at there
        exact Option.some.inj there ▸ same
      · simp [taken] at free
    exact .inr ⟨_, result, refused⟩
  · have added := restore_eq_ok_iff.2 ⟨known ▸ absent, held ▸ free, rfl⟩
    exact .inl ⟨result, added⟩

/-- Where two tables look the same to a change, it answers the same and leaves its artifact the
same. -/
theorem Alike.perform {operation : Operation} {first second : Table} {target : Uuid}
    (alike : Alike operation first second) (store : Option DataStore)
    (own : operation.target? = some target) :
    (first.perform store operation).1 = (second.perform store operation).1 ∧
      (first.perform store operation).2.get? target =
        (second.perform store operation).2.get? target := by
  have known := alike.known target own
  -- one case for each change: all that it looks at is the same in both tables
  cases operation with
  | index artifact =>
    cases own
    simp only [Table.perform, insert_eq]
    rcases restore_alike artifact.uncommitted known (alike.held artifact rfl) with
      ⟨added, also⟩ | ⟨error, refused, also⟩
    · rw [added, also]
      have there (table : Table) :
          (table.add artifact.uncommitted).get? artifact.uuid = some artifact.uncommitted := by
        rw [get?_add]
        exact if_pos rfl
      exact ⟨rfl, (there first).trans (there second).symm⟩
    · rw [refused, also]
      exact ⟨rfl, known⟩
  | commit uuid =>
    cases own
    simp only [Table.perform, commit, update_eq, ← known]
    cases found : first.get? target with
    | none => exact ⟨rfl, known⟩
    | some artifact => simp [get?]
  | delete uuid =>
    cases own
    simp only [Table.perform, remove, ← known]
    cases found : first.get? target with
    | none => exact ⟨rfl, known⟩
    | some artifact => simp [get?]
  | relocate uuid storageUrl =>
    cases own
    simp only [Table.perform, setStorageUrl, update_eq, ← known]
    cases found : first.get? target with
    | none => exact ⟨rfl, known⟩
    | some artifact => simp [get?]
  | _ => cases own

private theorem target?_of_change {operation : Operation} {answer : operation.Answer}
    {change : Operation.Change} {table : Table} {store : Option DataStore}
    (answered : (table.perform store operation).1 = .ok answer)
    (changed : operation.change answer = some change) : operation.target? = some change.1 := by
  cases operation with
  | index artifact =>
    simp only [Table.perform, insert_eq] at answered
    rcases table.restore_cases artifact.uncommitted with
      ⟨holder, -, result⟩ | ⟨-, holder, -, result⟩ | ⟨-, -, result⟩
    · rw [result] at answered
      cases answered
    · rw [result] at answered
      cases answered
    · rw [result] at answered
      cases answered
      cases changed
      rfl
  | commit uuid =>
    obtain ⟨committed, -, rfl⟩ := Option.map_eq_some_iff.1 changed
    rfl
  | delete uuid =>
    obtain ⟨-, same⟩ := Option.ite_none_right_eq_some.1 changed
    cases same
    rfl
  | relocate uuid storageUrl =>
    cases changed
    rfl
  | _ => cases changed

/-- A change of one artifact leaves every other artifact as it is. -/
theorem get?_perform_of_ne {operation : Operation} {target uuid : Uuid} (table : Table)
    (store : Option DataStore) (own : operation.target? = some target) (other : target ≠ uuid) :
    (table.perform store operation).2.get? uuid = table.get? uuid := by
  rcases table.perform_cases store operation with
    ⟨answer, change, answered, changed, after⟩ | ⟨same, -⟩
  · have about : target = change.1 :=
      Option.some.inj (own.symm.trans (target?_of_change answered changed))
    rw [after, Live.set, if_neg (about ▸ other)]
  · rw [same]

/-- A change that spares a position leaves it to whoever stands there. -/
theorem byPosition_perform {operation : Operation} {position : Position} {table : Table}
    (store : Option DataStore) (spares : Live.Spares table.get? position operation) :
    (table.perform store operation).2.byPosition.get? position =
      table.byPosition.get? position := by
  cases operation with
  | index artifact =>
    have elsewhere : artifact.position ≠ position := spares
    simp only [Table.perform, insert_eq]
    rcases table.restore_cases artifact.uncommitted with
      ⟨holder, -, result⟩ | ⟨-, holder, -, result⟩ | ⟨-, -, result⟩
    · rw [result]
      rfl
    · rw [result]
      rfl
    · rw [result]
      exact (OrderedMap.get?_insert ..).trans (if_neg elsewhere)
  | commit uuid =>
    simp only [Table.perform, commit, update_eq]
    cases table.get? uuid <;> rfl
  | delete uuid =>
    simp only [Table.perform, remove]
    cases known : table.get? uuid with
    | none => rfl
    | some artifact => exact (OrderedMap.get?_erase ..).trans (if_neg (spares artifact known))
  | relocate uuid storageUrl =>
    simp only [Table.perform, setStorageUrl, update_eq]
    cases table.get? uuid <;> rfl
  | _ => rfl

/-- A change looks the same to another one that is independent of it, before and after it. -/
theorem alike_perform {first second : Operation} {table : Table}
    (independent : Live.Independent table.get? first second) (store : Option DataStore) :
    Alike first (table.perform store second).2 table where
  known uuid own := by
    obtain ⟨one, other, ownFirst, ownSecond, differ⟩ := independent.targets
    have same : one = uuid := Option.some.inj (ownFirst.symm.trans own)
    exact get?_perform_of_ne table store ownSecond (same ▸ differ.symm)
  held artifact indexes := byPosition_perform store (independent.second_spares artifact indexes)

/-- In a sound table independent changes answer the same in either order and lead to the same
table. -/
theorem Sound.perform_comm {first second : Operation} {table : Table} (sound : table.Sound)
    (independent : Live.Independent table.get? first second) (store : Option DataStore) :
    ((table.perform store first).2.perform store second).1 = (table.perform store second).1 ∧
      ((table.perform store second).2.perform store first).1 = (table.perform store first).1 ∧
      ((table.perform store first).2.perform store second).2 =
        ((table.perform store second).2.perform store first).2 := by
  obtain ⟨one, other, ownFirst, ownSecond, differ⟩ := independent.targets
  have again := (alike_perform independent store).perform store ownFirst
  have after := (alike_perform independent.symm store).perform store ownSecond
  have left := (sound.perform store first).perform store second
  have right := (sound.perform store second).perform store first
  -- sound tables are known by their artifacts, which only the two changes can tell apart
  refine ⟨after.1, again.1, left.ext right fun uuid => ?_⟩
  by_cases isFirst : one = uuid
  · subst isFirst
    rw [get?_perform_of_ne _ store ownSecond differ.symm, again.2]
  · rw [get?_perform_of_ne _ store ownFirst isFirst]
    by_cases isSecond : other = uuid
    · subst isSecond
      exact after.2
    · rw [get?_perform_of_ne _ store ownSecond isSecond,
        get?_perform_of_ne _ store ownFirst isFirst,
        get?_perform_of_ne _ store ownSecond isSecond]

end Table

namespace Volatile

/-- Independent changes commute in a catalog in any state: one that is refused does nothing in
either order. -/
theorem run_comm {catalog : Volatile} {first second : Operation} (sound : catalog.table.Sound)
    (independent : catalog.live.Independent first second) :
    ((catalog.run first).2.run second).1 = (catalog.run second).1 ∧
      ((catalog.run second).2.run first).1 = (catalog.run first).1 ∧
      ((catalog.run first).2.run second).2 = ((catalog.run second).2.run first).2 := by
  have commute := sound.perform_comm independent catalog.dataStore
  simp only [run_eq, guarded]
  cases refused : catalog.state.accept first.checkArguments with
  | error error => cases catalog.state.accept second.checkArguments <;> simp [refused]
  | ok =>
    cases catalog.state.accept second.checkArguments with
    | error error => simp [refused]
    | ok =>
      obtain ⟨after, again, same⟩ := commute
      simp only [refused]
      exact ⟨after, again, by rw [same]⟩

def after (catalog : Volatile) (calls : List CatalogCall) : Volatile :=
  calls.foldl (fun catalog call => (catalog.answer call).2) catalog

theorem sound_answer {catalog : Volatile} (sound : catalog.table.Sound) (call : CatalogCall) :
    (catalog.answer call).2.table.Sound := by
  cases call with
  | start =>
    simp only [answer, start]
    split <;> exact sound
  | operate operation => exact sound_run sound operation
  | _ => exact sound

theorem sound_after {catalog : Volatile} (sound : catalog.table.Sound)
    (calls : List CatalogCall) : (catalog.after calls).table.Sound := by
  induction calls generalizing catalog with
  | nil => exact sound
  | cons call later ih => exact ih (sound_answer sound call)

private theorem serve_perm {catalog : Volatile} {artifacts others : List Artifact}
    (sound : catalog.table.Sound) (perm : artifacts.Perm others)
    (identifiers : (artifacts.map (·.uuid)).Nodup)
    (positions : (artifacts.map (·.position)).Nodup) :
    (catalog.serve (artifacts.map .index)).1.Perm (catalog.serve (others.map .index)).1 ∧
      (catalog.serve (artifacts.map .index)).2 = (catalog.serve (others.map .index)).2 := by
  induction perm generalizing catalog with
  | nil => exact ⟨.refl _, rfl⟩
  | cons first perm ih =>
    simp only [List.map_cons, List.nodup_cons] at identifiers positions
    obtain ⟨replies, same⟩ := ih (sound_run sound (.index first)) identifiers.2 positions.2
    exact ⟨replies.cons _, same⟩
  | swap first second rest =>
    simp only [List.map_cons, List.nodup_cons, List.mem_cons, not_or] at identifiers positions
    have independent : catalog.live.Independent (.index second) (.index first) := by
      refine ⟨⟨_, _, rfl, rfl, identifiers.1.1⟩, ?_, ?_⟩
      · rintro _ ⟨⟩
        exact Ne.symm positions.1.1
      · rintro _ ⟨⟩
        exact positions.1.1
    obtain ⟨after, again, same⟩ := run_comm sound independent
    simp only [List.map_cons, serve, after, again, same]
    exact ⟨.swap .., trivial⟩
  | trans earlier _ ih later =>
    obtain ⟨replies, same⟩ := ih sound identifiers positions
    obtain ⟨others, last⟩ := later sound ((earlier.map _).nodup_iff.1 identifiers)
      ((earlier.map _).nodup_iff.1 positions)
    exact ⟨replies.trans others, same.trans last⟩

/-- In every state that calls lead a catalog to, started or not, two independent changes get the
same answers in either order and lead to the same catalog, so that no query can tell the orders
apart. Hence artifacts with identifiers and positions of their own may be indexed in any order,
with the same answers and the same catalog in the end. -/
theorem independent_changes_commute (calls : List CatalogCall) :
    let catalog := new.after calls
    (∀ first second, catalog.live.Independent first second →
      ((catalog.run first).2.run second).1 = (catalog.run second).1 ∧
        ((catalog.run second).2.run first).1 = (catalog.run first).1 ∧
        ((catalog.run first).2.run second).2 = ((catalog.run second).2.run first).2) ∧
    ∀ artifacts others : List Artifact, artifacts.Perm others →
      (artifacts.map (·.uuid)).Nodup → (artifacts.map (·.position)).Nodup →
        (catalog.serve (artifacts.map .index)).1.Perm (catalog.serve (others.map .index)).1 ∧
          (catalog.serve (artifacts.map .index)).2 = (catalog.serve (others.map .index)).2 := by
  intro catalog
  have sound : catalog.table.Sound := sound_after Table.sound_empty calls
  constructor
  · intro first second independent
    exact run_comm sound independent
  · intro artifacts others perm identifiers positions
    exact serve_perm sound perm identifiers positions

/-- An artifact is deleted and another one is indexed elsewhere, or two more are indexed, in either
order. -/
theorem independent_changes_commute_of_delete :
    let held := Artifact.make (.ofNat 1) "ns" "au" "http://example.org/" 1
    let next := Artifact.make (.ofNat 2) "ns" "au" "http://example.org/" 2
    let last := Artifact.make (.ofNat 3) "ns" "au" "http://example.org/" 3
    let catalog := new.after [.start, .operate (.index held)]
    catalog.live.Independent (.delete held.uuid) (.index next) ∧
      ((catalog.run (.delete held.uuid)).2.run (.index next)).2 =
        ((catalog.run (.index next)).2.run (.delete held.uuid)).2 ∧
      (catalog.serve [.index next, .index last]).2 =
        (catalog.serve [.index last, .index next]).2 := by
  intro held next last catalog
  obtain ⟨commute, permute⟩ :=
    independent_changes_commute [.start, .operate (.index held)]
  have known : catalog.live held.uuid = some held := by decide
  have independent : catalog.live.Independent (.delete held.uuid) (.index next) := by
    refine ⟨⟨_, _, rfl, rfl, by decide⟩, ?_, ?_⟩
    · rintro _ ⟨⟩
    · rintro _ ⟨⟩ artifact present
      cases known.symm.trans present
      decide
  exact ⟨independent, (commute _ _ independent).2.2,
    (permute [next, last] [last, next] (.swap ..) (by decide) (by decide)).2⟩

end Volatile

end ArchiveCatalog
