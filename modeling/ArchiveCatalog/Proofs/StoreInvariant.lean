import ArchiveCatalog.Proofs.PendingChanges

namespace ArchiveCatalog

theorem State.toInitialized_begun {state : State} (begun : state ≠ .constructed) :
    (state.settle state.toInitialized).2 = state := by
  cases state with
  | constructed => exact absurd rfl begun
  | _ => rfl

theorem State.toReady_begun {state : State} (begun : state ≠ .constructed) :
    (state.settle state.toReady).2 = state ∨
      state = .initialized ∧ (state.settle state.toReady).2 = .ready := by
  cases state with
  | constructed => exact absurd rfl begun
  | initialized => exact .inr ⟨rfl, rfl⟩
  | _ => exact .inl rfl

theorem State.toInitialized_ne {state : State} (begun : state ≠ .constructed) :
    (state.settle state.toInitialized).2 ≠ .constructed := by
  rw [toInitialized_begun begun]
  exact begun

theorem State.toReady_ne {state : State} (begun : state ≠ .constructed) :
    (state.settle state.toReady).2 ≠ .constructed := by
  rcases toReady_begun begun with same | ⟨-, ready⟩
  · rw [same]
    exact begun
  · rw [ready]
    exact State.noConfusion

namespace Local

/-- To initialize or to start a catalog again opens no store and loads nothing. -/
theorem init_of_begun {catalog : Local} (begun : catalog.state ≠ .constructed)
    (opening : Except Failure Unit) (records : Records) :
    (catalog.init opening records).2 = { catalog with memory := catalog.memory.init.2 } := by
  simp only [init, if_neg begun]

theorem start_of_begun {catalog : Local} (begun : catalog.state ≠ .constructed)
    (opening : Except Failure Unit) (records : Records) :
    (catalog.start opening records).2 =
      { catalog with memory := (catalog.memory.moveTo catalog.state.toReady).2 } := by
  simp only [start, if_neg begun]

end Local

/-- Calls on a local catalog. How the store is opened and which transactions succeed is part of
the call. -/
inductive LocalCall where
  | init (opening : Except Failure Unit)
  | start (opening : Except Failure Unit)
  | stop (permit : Permit)
  | flush (permit : Permit)
  | setDataStore (store : DataStore)
  | operate (operation : Operation) (permit : Permit)

/-- A local catalog with the records of its store. -/
structure Site where
  catalog : Local
  records : Records

namespace Site

/-- A catalog that is new, on a store that need not be. -/
def fresh (config : LocalConfig) (records : Records) : Site := ⟨.new config, records⟩

def table (site : Site) : Table := site.catalog.memory.table

def step (site : Site) : LocalCall → Site
  | .init opening => ⟨(site.catalog.init opening site.records).2, site.records⟩
  | .start opening => ⟨(site.catalog.start opening site.records).2, site.records⟩
  | .stop permit =>
    let (catalog, records) := (site.catalog.stop permit site.records).2
    ⟨catalog, records⟩
  | .flush permit =>
    let (catalog, records) := (site.catalog.flush permit site.records).2
    ⟨catalog, records⟩
  | .setDataStore store => ⟨site.catalog.setDataStore store, site.records⟩
  | .operate operation permit =>
    let (catalog, records) := (site.catalog.run permit site.records operation).2
    ⟨catalog, records⟩

def run (site : Site) (calls : List LocalCall) : Site := calls.foldl step site

/-- Whether a call flushes, and the flush succeeds. An operation that changes nothing does not
flush. -/
def flushes (site : Site) : LocalCall → Bool
  | .stop permit => (site.catalog.stop permit site.records).1.isOk
  | .flush permit => (site.catalog.flush permit site.records).1.isOk
  | .operate operation permit =>
    match site.catalog.noted operation with
    | none => false
    | some noted => (noted.flush permit site.records).1.isOk
  | _ => false

/-- The table after the last flush of a run that succeeded, or `base` if none did. -/
def lastFlushed (site : Site) (base : Table) : List LocalCall → Table
  | [] => base
  | call :: rest =>
    (site.step call).lastFlushed (if site.flushes call then (site.step call).table else base) rest

/-- The store holds the records of a table, and the pending changes lead from that table to the
one in memory. -/
structure Backed (base : Table) (site : Site) : Prop where
  based : base.Sound
  sound : site.table.Sound
  stored : site.records = base.encoded
  overlaid : ∀ uuid, site.table.get? uuid =
    (site.catalog.pending.get? uuid).getD (base.get? uuid)
  begun : site.catalog.state ≠ .constructed

section Backed

variable {base : Table} {site next : Site}

theorem Backed.of_same (backed : Backed base site) (records : next.records = site.records)
    (table : next.table = site.table) (pending : next.catalog.pending = site.catalog.pending)
    (begun : next.catalog.state ≠ .constructed) : Backed base next where
  based := backed.based
  sound := table ▸ backed.sound
  stored := records.trans backed.stored
  overlaid := by rw [table, pending]; exact backed.overlaid
  begun := begun

theorem Backed.table_eq (backed : Backed base site) (settled : site.catalog.pending = .empty) :
    site.table = base := by
  refine backed.sound.ext backed.based fun uuid => ?_
  rw [backed.overlaid uuid, settled]
  rfl

/-- A flush that succeeds leaves the table in memory as the one whose records are stored, and
nothing pending; one that fails changes nothing. -/
theorem Backed.flush {catalog : Local} {records : Records}
    (backed : Backed base ⟨catalog, records⟩) (permit : Permit) :
    ((catalog.flush permit records).1.isOk = false ∧
      Backed base ⟨(catalog.flush permit records).2.1, (catalog.flush permit records).2.2⟩) ∨
    ((catalog.flush permit records).1.isOk = true ∧
      (catalog.flush permit records).2.1.pending = .empty ∧
      Backed (catalog.flush permit records).2.1.memory.table
        ⟨(catalog.flush permit records).2.1, (catalog.flush permit records).2.2⟩) := by
  -- nothing is pending, or the transaction fails, or it writes all of the changes
  rcases catalog.flush_cases permit records with
    ⟨settled, result⟩ | ⟨-, error, result⟩ | result
  · have same : catalog.memory.table = base := backed.table_eq settled
    rw [result, same]
    exact .inr ⟨rfl, settled, backed⟩
  · rw [result]
    exact .inl ⟨rfl, backed⟩
  · have written : records.apply catalog.pending = catalog.memory.table.encoded := by
      have stored : records = base.encoded := backed.stored
      rw [Records.apply, stored]
      exact Table.putAll_encoded (.refl _) backed.overlaid
    rw [result]
    exact .inr ⟨rfl, rfl, backed.sound, backed.sound, written, fun _ => rfl, backed.begun⟩

theorem Backed.noted {operation : Operation} {noted : Local} (backed : Backed base site)
    (changed : site.catalog.noted operation = some noted) : Backed base ⟨noted, site.records⟩ := by
  obtain ⟨uuid, record, -, ready, after, pending, -, kept⟩ := Local.noted_cases changed
  refine ⟨backed.based, kept backed.sound, backed.stored, fun other => ?_, ?_⟩
  · have live : noted.memory.table.get? other = site.catalog.memory.live.set uuid record other :=
      congrFun after other
    simp only [Site.table, live, pending, OrderedMap.get?_insert, Live.set]
    split
    case isTrue => rfl
    case isFalse => exact backed.overlaid other
  · rw [ready]
    decide

/-- Every call keeps the store and the pending changes in step with the memory. -/
theorem Backed.step_cases (backed : Backed base site) (call : LocalCall) :
    (site.flushes call = false ∧ Backed base (site.step call)) ∨
    (site.flushes call = true ∧ (site.step call).catalog.pending = .empty ∧
      Backed (site.step call).table (site.step call)) := by
  cases call with
  | init opening =>
    have result := Local.init_of_begun backed.begun opening site.records
    refine .inl ⟨rfl, ?_⟩
    simp only [Site.step, result]
    exact backed.of_same rfl rfl rfl (State.toInitialized_ne backed.begun)
  | start opening =>
    have result := Local.start_of_begun backed.begun opening site.records
    refine .inl ⟨rfl, ?_⟩
    simp only [Site.step, result]
    exact backed.of_same rfl rfl rfl (State.toReady_ne backed.begun)
  | setDataStore store => exact .inl ⟨rfl, backed.of_same rfl rfl rfl backed.begun⟩
  | flush permit => exact backed.flush permit
  | stop permit =>
    have stopped : Backed base ⟨{ site.catalog with memory := site.catalog.memory.stop.2 },
        site.records⟩ := backed.of_same rfl rfl rfl State.noConfusion
    -- To let go of the store changes nothing that the invariant speaks of.
    rcases stopped.flush permit with ⟨fails, kept⟩ | ⟨succeeds, settled, kept⟩
    · exact .inl ⟨fails, kept.of_same rfl rfl rfl kept.begun⟩
    · exact .inr ⟨succeeds, settled, kept.of_same rfl rfl rfl kept.begun⟩
  | operate operation permit =>
    simp only [Site.flushes, Site.step, Local.run_eq]
    cases changed : site.catalog.noted operation with
    | none => exact .inl ⟨rfl, backed⟩
    | some noted => exact (backed.noted changed).flush permit

/-- After any calls the store holds the table of the last flush that succeeded. -/
theorem Backed.run (backed : Backed base site) (calls : List LocalCall) :
    Backed (site.lastFlushed base calls) (site.run calls) := by
  induction calls generalizing site base with
  | nil => exact backed
  | cons call rest ih =>
    simp only [Site.run, List.foldl_cons, Site.lastFlushed]
    rcases backed.step_cases call with ⟨fails, kept⟩ | ⟨succeeds, -, kept⟩
    · simp only [fails]
      exact ih kept
    · simp only [succeeds]
      exact ih kept

end Backed

end Site

end ArchiveCatalog
