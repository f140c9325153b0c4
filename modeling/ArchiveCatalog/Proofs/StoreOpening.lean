import ArchiveCatalog.Proofs.StoreInvariant

namespace ArchiveCatalog

namespace Local

private theorem flush_of_settled {catalog : Local} (settled : catalog.pending = .empty)
    (permit : Permit)
    (records : Records) : catalog.flush permit records = (.ok (), catalog, records) :=
  if_pos (OrderedMap.isEmpty_eq_true_iff.2 settled)

/-- A catalog that has loaded the records of its store and moved to some state. -/
def loaded (catalog : Local) (records : Records) (state : State) : Local :=
  { catalog with
    memory := { catalog.memory with
      table := catalog.memory.table.restoreAll records.artifacts
      state }
    opened := true }

section Constructed
variable {catalog : Local} (waiting : catalog.state = .constructed) (records : Records)
include waiting

theorem init_of_failure (failure : Failure) :
    catalog.init (.error failure) records = (.error failure, catalog) := by
  simp only [init, if_pos waiting]

theorem start_of_failure (failure : Failure) :
    catalog.start (.error failure) records = (.error failure, catalog) := by
  simp only [start, if_pos waiting, init_of_failure waiting]

theorem init_of_success :
    catalog.init (.ok ()) records = (.ok (), catalog.loaded records .initialized) := by
  obtain ⟨config, ⟨table, state, store⟩, opened, pending⟩ := catalog
  cases waiting
  rfl

theorem start_of_success :
    catalog.start (.ok ()) records = (.ok (), catalog.loaded records .ready) := by
  obtain ⟨config, ⟨table, state, store⟩, opened, pending⟩ := catalog
  cases waiting
  rfl

/-- To initialize a new catalog fails and changes nothing, or loads what its store holds. -/
theorem init_of_constructed (opening : Except Failure Unit) :
    (∃ failure, catalog.init opening records = (.error failure, catalog)) ∨
      catalog.init opening records = (.ok (), catalog.loaded records .initialized) := by
  cases opening with
  | error failure => exact .inl ⟨failure, init_of_failure waiting records failure⟩
  | ok => exact .inr (init_of_success waiting records)

theorem start_of_constructed (opening : Except Failure Unit) :
    (∃ failure, catalog.start opening records = (.error failure, catalog)) ∨
      catalog.start opening records = (.ok (), catalog.loaded records .ready) := by
  cases opening with
  | error failure => exact .inl ⟨failure, start_of_failure waiting records failure⟩
  | ok => exact .inr (start_of_success waiting records)

end Constructed

theorem init_of_stopped {catalog : Local} (stopped : catalog.state = .stopped)
    (opening : Except Failure Unit) (records : Records) :
    catalog.init opening records = (.refuse (.lifecycle .stopped), catalog) := by
  obtain ⟨config, ⟨table, state, store⟩, opened, pending⟩ := catalog
  cases stopped
  rfl

theorem start_of_stopped {catalog : Local} (stopped : catalog.state = .stopped)
    (opening : Except Failure Unit) (records : Records) :
    catalog.start opening records = (.refuse (.lifecycle .stopped), catalog) := by
  obtain ⟨config, ⟨table, state, store⟩, opened, pending⟩ := catalog
  cases stopped
  rfl

end Local

namespace Site

/-- A catalog whose store has not been opened, or that was stopped before it was. -/
structure Idle (records : Records) (site : Site) : Prop where
  closed : site.catalog.opened = false
  empty : site.table = .empty
  settled : site.catalog.pending = .empty
  stored : site.records = records
  waiting : site.catalog.state = .constructed ∨ site.catalog.state = .stopped

/-- A catalog that has just taken over the records of its store. -/
structure Loaded (records : Records) (site : Site) : Prop where
  opened : site.catalog.opened = true
  table : site.table = Table.empty.restoreAll records.artifacts
  settled : site.catalog.pending = .empty
  stored : site.records = records
  begun : site.catalog.state ≠ .constructed

section Idle

variable {records : Records} {site : Site}

theorem Idle.fresh (config : LocalConfig) (records : Records) :
    Idle records (fresh config records) :=
  ⟨rfl, rfl, rfl, rfl, .inl rfl⟩

theorem Idle.loaded (idle : Idle records site) {state : State} (begun : state ≠ .constructed) :
    Loaded records ⟨site.catalog.loaded site.records state, site.records⟩ := by
  obtain ⟨closed, empty, settled, stored, waiting⟩ := idle
  refine ⟨rfl, ?_, settled, stored, begun⟩
  have table : site.catalog.memory.table = .empty := empty
  simp only [Site.table, Local.loaded, table, stored]

/-- A call that is to open the store leaves a catalog as it is, or loads the records. -/
private theorem Idle.of_opening (idle : Idle records site) {state : State}
    (begun : state ≠ .constructed) {result : Outcome Unit × Local}
    (opened : site.catalog.state = .constructed →
      (∃ failure, result = (.error failure, site.catalog)) ∨
        result = (.ok (), site.catalog.loaded site.records state))
    (refused : site.catalog.state = .stopped →
      result = (.refuse (.lifecycle .stopped), site.catalog)) :
    Idle records ⟨result.2, site.records⟩ ∨ Loaded records ⟨result.2, site.records⟩ := by
  rcases idle.waiting with constructed | stopped
  · rcases opened constructed with ⟨failure, rfl⟩ | rfl
    · exact .inl idle
    · exact .inr (idle.loaded begun)
  · rw [refused stopped]
    exact .inl idle

/-- Until its store is opened, a catalog stays as it is, whatever is called. -/
theorem Idle.step (idle : Idle records site) (call : LocalCall) :
    Idle records (site.step call) ∨ Loaded records (site.step call) := by
  obtain ⟨closed, empty, settled, stored, waiting⟩ := id idle
  cases call with
  | init opening =>
    exact idle.of_opening State.noConfusion
      (fun constructed => Local.init_of_constructed constructed site.records opening)
      (fun stopped => Local.init_of_stopped stopped opening site.records)
  | start opening =>
    exact idle.of_opening State.noConfusion
      (fun constructed => Local.start_of_constructed constructed site.records opening)
      (fun stopped => Local.start_of_stopped stopped opening site.records)
  | stop permit =>
    -- nothing was changed yet, so that the last flush has nothing to write
    have nothing : ({ site.catalog with memory := site.catalog.memory.stop.2 } : Local).pending =
        .empty := settled
    have flushed := Local.flush_of_settled nothing permit site.records
    simp only [Site.step, Local.stop, flushed]
    exact .inl ⟨rfl, empty, settled, stored, .inr rfl⟩
  | flush permit =>
    simp only [Site.step, Local.flush_of_settled settled]
    exact .inl idle
  | setDataStore store => exact .inl ⟨closed, empty, settled, stored, waiting⟩
  | operate operation permit =>
    have unready : site.catalog.state ≠ .ready := by
      rcases waiting with constructed | stopped
      · rw [constructed]; decide
      · rw [stopped]; decide
    simp only [Site.step, Local.run_eq]
    cases changed : site.catalog.noted operation with
    | none => exact .inl idle
    | some noted =>
      obtain ⟨_, _, ready, -⟩ := Local.noted_cases changed
      exact absurd ready unready

theorem Loaded.backed {base : Table} (sound : base.Sound) (loaded : Loaded base.encoded site) :
    site.table = base ∧ Backed base site := by
  obtain ⟨-, table, settled, stored, begun⟩ := loaded
  have same : site.table = base := table.trans sound.load_encoded.2
  refine ⟨same, sound, same ▸ sound, stored, fun uuid => ?_, begun⟩
  rw [same, settled]
  rfl

/-- A catalog that was new on the records of a sound table is idle or backed after any calls. -/
theorem run_idle_or_backed {base : Table} (sound : base.Sound) (calls : List LocalCall)
    (known : Idle base.encoded site ∨ ∃ mark, Backed mark site) :
    Idle base.encoded (site.run calls) ∨ ∃ mark, Backed mark (site.run calls) := by
  induction calls generalizing site with
  | nil => exact known
  | cons call rest ih =>
    refine ih ?_
    rcases known with idle | ⟨mark, backed⟩
    · rcases idle.step call with still | loaded
      · exact .inl still
      · exact .inr ⟨base, (loaded.backed sound).2⟩
    · rcases backed.step_cases call with ⟨-, kept⟩ | ⟨-, -, kept⟩
      · exact .inr ⟨mark, kept⟩
      · exact .inr ⟨_, kept⟩

theorem step_closed (begun : site.catalog.state ≠ .constructed)
    (closed : site.catalog.opened = false) (call : LocalCall) :
    (site.step call).catalog.opened = false := by
  cases call with
  | init opening =>
    simp only [Site.step, Local.init_of_begun begun]
    exact closed
  | start opening =>
    simp only [Site.step, Local.start_of_begun begun]
    exact closed
  | stop permit => rfl
  | flush permit => exact (Local.flush_opened permit site.catalog site.records).trans closed
  | setDataStore store => exact closed
  | operate operation permit =>
    simp only [Site.step, Local.run_eq]
    cases changed : site.catalog.noted operation with
    | none => exact closed
    | some noted =>
      obtain ⟨_, _, -, -, -, -, same, -⟩ := Local.noted_cases changed
      exact (Local.flush_opened permit noted site.records).trans (same.trans closed)

theorem begun_step (begun : site.catalog.state ≠ .constructed) (call : LocalCall) :
    (site.step call).catalog.state ≠ .constructed := by
  cases call with
  | init opening =>
    simp only [Site.step, Local.init_of_begun begun]
    exact State.toInitialized_ne begun
  | start opening =>
    simp only [Site.step, Local.start_of_begun begun]
    exact State.toReady_ne begun
  | stop permit =>
    have memory := Local.flush_memory permit
      { site.catalog with memory := site.catalog.memory.stop.2 } site.records
    exact fun same => State.noConfusion ((congrArg Volatile.state memory).symm.trans same)
  | flush permit =>
    have memory := site.catalog.flush_memory permit site.records
    exact fun same => begun ((congrArg Volatile.state memory).symm.trans same)
  | setDataStore store => exact begun
  | operate operation permit =>
    have memory := (site.catalog.run_memory permit site.records operation).2
    have state := (congrArg Volatile.state memory).trans (Volatile.run_state ..)
    exact fun same => begun (state.symm.trans same)

theorem run_idle_or_begun (calls : List LocalCall)
    (known : Idle records site ∨ site.catalog.state ≠ .constructed) :
    Idle records (site.run calls) ∨ (site.run calls).catalog.state ≠ .constructed := by
  induction calls generalizing site with
  | nil => exact known
  | cons call rest ih =>
    refine ih ?_
    rcases known with idle | begun
    · exact (idle.step call).imp_right Loaded.begun
    · exact .inr (begun_step begun call)

end Idle

/-- The catalog right after the call that opened its store, which held these records. -/
def Begun (records : Records) (site : Site) : Prop :=
  ∃ config early call, ((fresh config records).run early).catalog.opened = false ∧
    ((fresh config records).run early).step call = site ∧ site.catalog.opened = true

/-- The records that catalogs can leave in a store which was empty at first: one catalog after
the other, each dropped after any calls. -/
inductive Written : Records → Prop where
  | nothing : Written .empty
  | later {records : Records} (written : Written records) (config : LocalConfig)
      (calls : List LocalCall) :
      Written ((fresh config records).run calls).records

/-- The call that opens a store loads the records that it holds, whatever they are. -/
theorem Begun.loaded {records : Records} {site : Site} (begun : Begun records site) :
    Loaded records site := by
  obtain ⟨config, early, call, closed, rfl, opened⟩ := begun
  rcases run_idle_or_begun early (.inl (.fresh config records)) with idle | begun
  · rcases idle.step call with still | loaded
    · rw [still.closed] at opened
      cases opened
    · exact loaded
  · rw [step_closed begun closed call] at opened
    cases opened

theorem Written.exists_table {records : Records} (written : Written records) :
    ∃ base : Table, base.Sound ∧ records = base.encoded := by
  induction written with
  | nothing => exact ⟨.empty, Table.sound_empty, rfl⟩
  | later _ config calls ih =>
    obtain ⟨base, sound, rfl⟩ := ih
    rcases run_idle_or_backed sound calls (.inl (.fresh config base.encoded)) with
      idle | ⟨mark, backed⟩
    · exact ⟨base, sound, idle.stored⟩
    · exact ⟨mark, backed.based, backed.stored⟩

end Site

end ArchiveCatalog
