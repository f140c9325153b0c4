import ArchiveCatalog.Local
import ArchiveCatalog.Proofs.StoredRecords

namespace ArchiveCatalog

theorem Table.perform_cases (table : Table) (store : Option DataStore) (operation : Operation) :
    (∃ answer change, (table.perform store operation).1 = .ok answer ∧
      operation.change answer = some change ∧
      (table.perform store operation).2.get? = Live.set table.get? change.1 change.2) ∨
    ((table.perform store operation).2 = table ∧
      ∀ answer, (table.perform store operation).1 = .ok answer →
        operation.change answer = none) := by
  cases operation with
  | index artifact =>
    simp only [perform, insert_eq]
    rcases table.restore_cases artifact.uncommitted with
      ⟨holder, known, result⟩ | ⟨unknown, holder, held, result⟩ | ⟨unknown, free, result⟩
    · rw [result]
      exact .inr ⟨rfl, fun answer same => by cases same⟩
    · rw [result]
      exact .inr ⟨rfl, fun answer same => by cases same⟩
    · rw [result]
      exact .inl ⟨artifact.uncommitted, _, rfl, rfl, get?_set ..⟩
  | commit uuid =>
    simp only [perform, commit]
    rcases table.update_step uuid fun artifact => { artifact with committed := true } with
      ⟨unknown, result⟩ | ⟨artifact, next, known, result, after⟩
    · rw [result]
      exact .inr ⟨rfl, fun answer same => by cases same; rfl⟩
    · simp only [result]
      exact .inl ⟨_, _, rfl, rfl, after⟩
  | delete uuid =>
    simp only [perform, remove]
    cases known : table.get? uuid with
    | none => exact .inr ⟨rfl, fun answer same => by cases same; rfl⟩
    | some artifact => exact .inl ⟨_, _, rfl, rfl, get?_drop table uuid⟩
  | relocate uuid storageUrl =>
    simp only [perform, setStorageUrl]
    rcases table.update_step uuid fun artifact => { artifact with storageUrl } with
      ⟨unknown, result⟩ | ⟨artifact, next, known, result, after⟩
    · rw [result]
      exact .inr ⟨rfl, fun answer same => by cases same⟩
    · simp only [result]
      exact .inl ⟨_, _, rfl, rfl, after⟩
  | _ => exact .inr ⟨rfl, fun answer _ => rfl⟩

theorem Volatile.run_of_unready {catalog : Volatile} (operation : Operation)
    (unready : catalog.state ≠ .ready) :
    catalog.run operation =
      (.refuse (.lifecycle (.notReady catalog.state.name)), catalog) := by
  simp [run_eq, guarded, State.accept, State.ensureReady, unready]

theorem Volatile.run_cases (catalog : Volatile) (operation : Operation) :
    (catalog.state = .ready ∧ ∃ answer change, (catalog.run operation).1 = .ok answer ∧
      operation.change answer = some change ∧
      (catalog.run operation).2.live = catalog.live.set change.1 change.2) ∨
    ((catalog.run operation).2 = catalog ∧
      ∀ answer, (catalog.run operation).1 = .ok answer → operation.change answer = none) := by
  by_cases ready : catalog.state = .ready
  · cases accepted : operation.checkArguments with
    | error error =>
      rw [run_of_refused operation ready accepted]
      exact .inr ⟨rfl, fun answer same => by cases same⟩
    | ok =>
      rw [run_of_accepted operation ready accepted]
      rcases catalog.table.perform_cases catalog.dataStore operation with changed | ⟨same, kept⟩
      · exact .inl ⟨ready, changed⟩
      · exact .inr ⟨by rw [same], kept⟩
  · rw [run_of_unready operation ready]
    exact .inr ⟨rfl, fun answer same => by cases same⟩

namespace Local

/-- Have an operation served by the memory, and record what it has changed. -/
def delegate (permit : Permit) (catalog : Local) (records : Records) (operation : Operation) :
    Outcome operation.Answer × Local × Records :=
  let served := { catalog with memory := (catalog.memory.run operation).2 }
  match (catalog.memory.run operation).1 with
  | .error failure => (.error failure, served, records)
  | .ok answer =>
    match operation.change answer with
    | none => (.ok answer, served, records)
    | some change => (.ok answer, served.record permit records change)

/-- A change of the table is the one that an operation in memory makes. -/
def Performs (operation : Operation)
    (change : Table → Except CatalogError (operation.Answer × Table × Option Operation.Change)) :
    Prop :=
  ∀ table store, match change table with
    | .error error => table.perform store operation = (.refuse error, table)
    | .ok (answer, next, changed) =>
      table.perform store operation = (.ok answer, next) ∧ operation.change answer = changed

/-- To guard a mutation, change the table and record the change is to have the memory do it. -/
theorem mutate_eq_delegate (permit : Permit) (catalog : Local) (records : Records)
    (operation : Operation)
    {change : Table → Except CatalogError (operation.Answer × Table × Option Operation.Change)}
    (performs : Performs operation change) :
    catalog.mutate permit records operation.checkArguments change =
      catalog.delegate permit records operation := by
  -- both refuse for the same reasons; what is let through changes the table alike
  by_cases ready : catalog.state = .ready
  case neg =>
    simp only [mutate, delegate, State.ensureReady, if_neg ready,
      Volatile.run_of_unready operation ready]
    rfl
  case pos =>
    cases accepted : operation.checkArguments with
    | error error =>
      simp only [mutate, delegate, State.ensureReady, if_pos ready,
        Volatile.run_of_refused operation ready accepted]
      rfl
    | ok =>
      have agrees := performs catalog.memory.table catalog.memory.dataStore
      simp only [mutate, delegate, State.ensureReady, if_pos ready,
        Volatile.run_of_accepted operation ready accepted]
      cases changes : change catalog.memory.table with
      | error error =>
        rw [changes] at agrees
        simp only [agrees]
        rfl
      | ok result =>
        obtain ⟨answer, next, changed⟩ := result
        rw [changes] at agrees
        cases changed <;> simp only [agrees.1, agrees.2]

theorem run_eq_delegate (permit : Permit) (catalog : Local) (records : Records)
    (operation : Operation) :
    catalog.run permit records operation = catalog.delegate permit records operation := by
  unfold run
  cases operation with
  | index artifact =>
    refine mutate_eq_delegate permit catalog records (.index artifact) fun table store => ?_
    simp only [Table.perform]
    cases table.insert artifact with
    | error error => rfl
    | ok result => exact ⟨rfl, rfl⟩
  | commit uuid =>
    refine mutate_eq_delegate permit catalog records (.commit uuid) fun table store => ?_
    simp only [Table.perform]
    cases table.commit uuid <;> exact ⟨rfl, rfl⟩
  | delete uuid =>
    refine mutate_eq_delegate permit catalog records (.delete uuid) fun table store => ?_
    simp only [Table.perform]
    cases table.remove uuid <;> exact ⟨rfl, rfl⟩
  | relocate uuid storageUrl =>
    refine mutate_eq_delegate permit catalog records (.relocate uuid storageUrl)
      fun table store => ?_
    simp only [Table.perform]
    cases table.setStorageUrl uuid storageUrl with
    | none => rfl
    | some result => exact ⟨rfl, rfl⟩
  | _ =>
    simp only [delegate]
    cases (catalog.memory.run _).1 <;> rfl

/-- A catalog that has served an operation and noted what is to be written, if there is
something. -/
def noted (catalog : Local) (operation : Operation) : Option Local :=
  match (catalog.memory.run operation).1 with
  | .error _ => none
  | .ok answer =>
    (operation.change answer).map fun change =>
      { catalog with
        memory := (catalog.memory.run operation).2
        pending := catalog.pending.insert change.1 change.2 }

/-- To serve an operation is to note what it changes and to flush. -/
theorem run_eq (permit : Permit) (catalog : Local) (records : Records) (operation : Operation) :
    (catalog.run permit records operation).2 =
      match catalog.noted operation with
      | none => (catalog, records)
      | some noted => (noted.flush permit records).2 := by
  rw [run_eq_delegate]
  rcases catalog.memory.run_cases operation with
    ⟨-, answer, change, answered, changes, -⟩ | ⟨same, unchanged⟩
  · simp only [delegate, noted, answered, changes, Option.map_some, record]
  · cases answered : (catalog.memory.run operation).1 with
    | error failure => simp only [delegate, noted, answered, same]
    | ok answer =>
      simp only [delegate, noted, answered, unchanged answer answered, Option.map_none, same]

theorem noted_cases {catalog next : Local} {operation : Operation}
    (noted : catalog.noted operation = some next) :
    ∃ uuid record, catalog.state = .ready ∧ next.state = .ready ∧
      next.memory.live = catalog.memory.live.set uuid record ∧
      next.pending = catalog.pending.insert uuid record ∧ next.opened = catalog.opened ∧
      (catalog.memory.table.Sound → next.memory.table.Sound) := by
  unfold Local.noted at noted
  rcases catalog.memory.run_cases operation with
    ⟨ready, answer, change, answered, changes, after⟩ | ⟨-, unchanged⟩
  · simp only [answered, changes, Option.map_some, Option.some.injEq] at noted
    subst noted
    exact ⟨change.1, change.2, ready, (Volatile.run_state ..).trans ready, after, rfl, rfl,
      fun sound => Volatile.sound_run sound operation⟩
  · split at noted
    case h_1 => cases noted
    case h_2 answer answered =>
      rw [unchanged answer answered] at noted
      cases noted

theorem flush_cases (permit : Permit) (catalog : Local) (records : Records) :
    (catalog.pending = .empty ∧ catalog.flush permit records = (.ok (), catalog, records)) ∨
    (catalog.pending ≠ .empty ∧
      ∃ error, catalog.flush permit records = (.refuse error, catalog, records)) ∨
    catalog.flush permit records =
      (.ok (), { catalog with pending := .empty }, records.apply catalog.pending) := by
  unfold flush
  split
  case isTrue none => exact .inl ⟨OrderedMap.isEmpty_eq_true_iff.1 none, rfl⟩
  case isFalse some =>
    have pending : catalog.pending ≠ .empty :=
      fun none => some (OrderedMap.isEmpty_eq_true_iff.2 none)
    split
    case isFalse => exact .inr (.inl ⟨pending, _, rfl⟩)
    case isTrue =>
      cases permit catalog.pending with
      | some error => exact .inr (.inl ⟨pending, _, rfl⟩)
      | none => exact .inr (.inr rfl)

theorem flush_memory (permit : Permit) (catalog : Local) (records : Records) :
    (catalog.flush permit records).2.1.memory = catalog.memory := by
  rcases catalog.flush_cases permit records with ⟨-, result⟩ | ⟨-, error, result⟩ | result <;>
    rw [result]

theorem flush_opened (permit : Permit) (catalog : Local) (records : Records) :
    (catalog.flush permit records).2.1.opened = catalog.opened := by
  rcases catalog.flush_cases permit records with ⟨-, result⟩ | ⟨-, error, result⟩ | result <;>
    rw [result]

/-- Whether its change can be written or not, an operation is answered as by the memory, and does
to the memory what it does there. -/
theorem run_memory (permit : Permit) (catalog : Local) (records : Records)
    (operation : Operation) :
    (catalog.run permit records operation).1 = (catalog.memory.run operation).1 ∧
      (catalog.run permit records operation).2.1.memory = (catalog.memory.run operation).2 := by
  rw [run_eq_delegate, delegate]
  cases (catalog.memory.run operation).1 with
  | error failure => exact ⟨rfl, rfl⟩
  | ok answer =>
    simp only
    cases operation.change answer with
    | none => exact ⟨rfl, rfl⟩
    | some change => exact ⟨rfl, flush_memory permit _ records⟩

end Local

end ArchiveCatalog
