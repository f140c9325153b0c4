import ArchiveCatalog.Local.Session
import ArchiveCatalog.Proofs.StoreOpening

namespace ArchiveCatalog

section Messages
open Text

theorem head?_append {title : String} {first : Char} (starts : title.toList.head? = some first)
    (reason : String) : (title ++ reason).toList.head? = some first := by
  rw [String.toList_append, List.head?_append, starts, Option.some_or]

private theorem StoreError.head?_message (error : StoreError) :
    ∃ first, error.message.toList.head? = some first ∧ isDecimal first = false := by
  cases error with
  | io reason => exact ⟨'I', head?_append (by decide) reason, by decide⟩
  | environment reason => exact ⟨'F', head?_append (by decide) reason, by decide⟩
  | database reason => exact ⟨'F', head?_append (by decide) reason, by decide⟩
  | transaction reason => exact ⟨'T', head?_append (by decide) reason, by decide⟩
  | serialization reason => exact ⟨'S', head?_append (by decide) reason, by decide⟩

private theorem head?_numeral (n : Nat) :
    ∃ first, (numeral n).toList.head? = some first ∧ isDecimal first = true := by
  obtain ⟨digits, same, writes⟩ := exists_decimal n
  obtain ⟨digit, rest, rfl⟩ := List.exists_cons_of_ne_nil writes.ne_nil
  have text : (numeral n).toList = digitText (digit :: rest) :=
    (String.toList_ofList ..).trans same
  refine ⟨Nat.digitChar digit, ?_, isDecimal_digitChar (writes.small digit List.mem_cons_self)⟩
  rw [text]
  rfl

end Messages

namespace Local

/-- The refusal of a flush that finds changes but no store. -/
def noStore (pending : Nat) : CatalogError :=
  .storage (.persistenceFailed (numeral pending ++ " changes pending with no open store"))

/-- Changes are pending, and no store is open. -/
structure Stranded (catalog : Local) : Prop where
  closed : catalog.opened = false
  unsettled : catalog.pending ≠ .empty

/-- The lack of a store is reported with a number first, and an error of one is not. -/
theorem refusal_ne_noStore (error : StoreError) (pending : Nat) :
    error.refusal ≠ noStore pending := by
  intro same
  simp only [StoreError.refusal, noStore, CatalogError.storage.injEq,
    StorageError.persistenceFailed.injEq] at same
  obtain ⟨letter, starts, notDigit⟩ := error.head?_message
  obtain ⟨digit, counts, isDigit⟩ := head?_numeral pending
  rw [same, head?_append counts] at starts
  obtain rfl := Option.some.inj starts
  cases isDigit.symm.trans notDigit

theorem stranded_of_flush {catalog : Local} {permit : Permit} {records : Records} {pending : Nat}
    (refused : (catalog.flush permit records).1 = .refuse (noStore pending)) :
    catalog.Stranded := by
  unfold flush at refused
  split at refused
  case isTrue => cases refused
  case isFalse unsettled =>
    split at refused
    case isTrue =>
      split at refused
      case h_1 error _ =>
        simp only [Outcome.refuse, Except.error.injEq, Failure.refused.injEq] at refused
        exact absurd refused (refusal_ne_noStore error pending)
      case h_2 => cases refused
    case isFalse closed =>
      have pending : catalog.pending ≠ .empty :=
        fun settled => unsettled (OrderedMap.isEmpty_eq_true_iff.2 settled)
      exact ⟨by simpa using closed, pending⟩

theorem Stranded.flush {catalog : Local} (stranded : catalog.Stranded) (permit : Permit)
    (records : Records) :
    catalog.flush permit records = (.refuse (noStore catalog.pending.size), catalog, records) := by
  have unsettled : ¬catalog.pending.isEmpty = true :=
    fun settled => stranded.unsettled (OrderedMap.isEmpty_eq_true_iff.1 settled)
  simp only [Local.flush, if_neg unsettled, stranded.closed, Bool.false_eq_true, if_false, noStore]

/-- Only a flush that fails leaves something pending, and changes nothing. -/
theorem unsettled_flush {catalog : Local} {permit : Permit} {records : Records}
    (unsettled : (catalog.flush permit records).2.1.pending ≠ .empty) :
    ∃ error, catalog.flush permit records = (.refuse error, catalog, records) := by
  rcases catalog.flush_cases permit records with ⟨settled, result⟩ | ⟨-, error, result⟩ | result
  · rw [result] at unsettled
    exact absurd settled unsettled
  · exact ⟨error, result⟩
  · rw [result] at unsettled
    exact absurd rfl unsettled

theorem flush_catalog (permit : Permit) (catalog : Local) (records others : Records) :
    (catalog.flush permit records).2.1 = (catalog.flush permit others).2.1 := by
  unfold flush
  split
  case isTrue => rfl
  case isFalse =>
    split
    case isFalse => rfl
    case isTrue => cases permit catalog.pending <;> rfl

/-- The store is held open by an initialized and a ready catalog, and by no other one. -/
def Held (catalog : Local) : Prop :=
  catalog.opened = true ↔ catalog.state = .initialized ∨ catalog.state = .ready

section Held
variable {catalog next : Local}

theorem Held.closed (held : catalog.Held) (waiting : catalog.state = .constructed) :
    catalog.opened = false := by
  apply Bool.eq_false_iff.2
  intro opened
  rcases held.1 opened with initialized | ready
  · cases waiting.symm.trans initialized
  · cases waiting.symm.trans ready

private theorem held_of_closed (closed : catalog.opened = false)
    (notInitialized : catalog.state ≠ .initialized) (notReady : catalog.state ≠ .ready) :
    catalog.Held := by
  simp [Held, closed, notInitialized, notReady]

theorem Held.of_same (held : catalog.Held) (opened : next.opened = catalog.opened)
    (state : next.state = catalog.state) : next.Held := by
  unfold Held
  rw [opened, state]
  exact held

theorem Held.init (held : catalog.Held) (opening : Except Failure Unit) (records : Records) :
    (catalog.init opening records).2.Held := by
  by_cases waiting : catalog.state = .constructed
  · rcases init_of_constructed waiting records opening with ⟨failure, result⟩ | result
    · rw [result]
      exact held
    · rw [result]
      exact ⟨fun _ => .inl rfl, fun _ => rfl⟩
  · rw [init_of_begun waiting]
    exact held.of_same rfl (State.toInitialized_begun waiting)

theorem Held.start (held : catalog.Held) (opening : Except Failure Unit) (records : Records) :
    (catalog.start opening records).2.Held := by
  by_cases waiting : catalog.state = .constructed
  · rcases start_of_constructed waiting records opening with ⟨failure, result⟩ | result
    · rw [result]
      exact held
    · rw [result]
      exact ⟨fun _ => .inr rfl, fun _ => rfl⟩
  · rw [start_of_begun waiting]
    rcases State.toReady_begun waiting with same | ⟨initialized, ready⟩
    · exact held.of_same rfl same
    · exact ⟨fun _ => .inr ready, fun _ => held.2 (.inl initialized)⟩

theorem Held.flush (held : catalog.Held) (permit : Permit) (records : Records) :
    (catalog.flush permit records).2.1.Held :=
  held.of_same (flush_opened permit catalog records)
    (congrArg Volatile.state (flush_memory permit catalog records))

private theorem held_stop (catalog : Local) (permit : Permit) (records : Records) :
    (catalog.stop permit records).2.1.Held := by
  let stopped : Local := { catalog with memory := catalog.memory.stop.2 }
  have state : (catalog.stop permit records).2.1.state = .stopped :=
    congrArg Volatile.state (flush_memory permit stopped records)
  exact held_of_closed rfl (by simp [state]) (by simp [state])

theorem Held.noted {operation : Operation} (held : catalog.Held)
    (noted : catalog.noted operation = some next) : next.Held := by
  obtain ⟨_, _, ready, still, -, -, opened, -⟩ := noted_cases noted
  exact held.of_same opened (still.trans ready.symm)

end Held

def inState (catalog : Local) (state : State) : Local :=
  { catalog with memory := { catalog.memory with state } }

end Local

namespace LocalSession

section Stopped
variable {session : LocalSession} (stopped : session.state = .stopped)
include stopped

private theorem opening_of_stopped : session.opening = (.ok (), session) := by
  simp [opening, stopped]

theorem init_of_stopped : session.init = (.refuse (.lifecycle .stopped), session) := by
  simp only [init, opening_of_stopped stopped, Local.init_of_stopped stopped]

theorem start_of_stopped : session.start = (.refuse (.lifecycle .stopped), session) := by
  simp only [start, opening_of_stopped stopped, Local.start_of_stopped stopped]

end Stopped

end LocalSession

namespace Site

def opens (site : Site) (call : LocalCall) : Bool :=
  !site.catalog.opened && (site.step call).catalog.opened

/-- How often calls open the store. -/
def openings (site : Site) : List LocalCall → Nat
  | [] => 0
  | call :: rest => (site.opens call).toNat + (site.step call).openings rest

/-- How the flush of a call ends, if it flushes at all. -/
def flushed? (site : Site) : LocalCall → Option (Outcome Unit)
  | .stop permit => some (site.catalog.stop permit site.records).1
  | .flush permit => some (site.catalog.flush permit site.records).1
  | .operate operation permit =>
    (site.catalog.noted operation).map fun noted => (noted.flush permit site.records).1
  | _ => none

/-- Among calls there is a stop whose flush fails. -/
def StopFails (site : Site) (calls : List LocalCall) : Prop :=
  ∃ before permit after error, calls = before ++ .stop permit :: after ∧
    (site.run before).flushed? (.stop permit) = some (.refuse error)

variable {records : Records} {site : Site}

private theorem held_step (held : site.catalog.Held) (call : LocalCall) :
    (site.step call).catalog.Held := by
  cases call with
  | init opening => exact held.init opening site.records
  | start opening => exact held.start opening site.records
  | stop permit => exact site.catalog.held_stop permit site.records
  | flush permit => exact held.flush permit site.records
  | setDataStore store => exact held
  | operate operation permit =>
    simp only [Site.step, Local.run_eq]
    cases changed : site.catalog.noted operation with
    | none => exact held
    | some noted => exact (held.noted changed).flush permit site.records

private theorem held_run (held : site.catalog.Held) (calls : List LocalCall) :
    (site.run calls).catalog.Held := by
  induction calls generalizing site with
  | nil => exact held
  | cons call rest ih => exact ih (held_step held call)

private theorem held_fresh (config : LocalConfig) (records : Records) :
    (fresh config records).catalog.Held :=
  Local.held_of_closed rfl State.noConfusion State.noConfusion

theorem opens_eq_true_iff {call : LocalCall} :
    site.opens call = true ↔
      site.catalog.opened = false ∧ (site.step call).catalog.opened = true := by
  simp [opens]

/-- Once a catalog has been initialized or stopped, no call opens its store. -/
theorem opens_of_begun (begun : site.catalog.state ≠ .constructed) (call : LocalCall) :
    site.opens call = false := by
  cases opened : site.catalog.opened with
  | true => simp [opens, opened]
  | false => simp [opens, step_closed begun opened call]

private theorem openings_of_begun (begun : site.catalog.state ≠ .constructed)
    (calls : List LocalCall) :
    site.openings calls = 0 := by
  induction calls generalizing site with
  | nil => rfl
  | cons call rest ih =>
    rw [openings, opens_of_begun begun call, ih (begun_step begun call)]
    rfl

private theorem Idle.openings_le (idle : Idle records site) (calls : List LocalCall) :
    site.openings calls ≤ 1 := by
  induction calls generalizing site with
  | nil => exact Nat.zero_le 1
  | cons call rest ih =>
    rw [openings]
    rcases idle.step call with still | loaded
    · have unopened : site.opens call = false := by
        simp [opens, still.closed]
      rw [unopened, Bool.toNat_false, Nat.zero_add]
      exact ih still
    · rw [openings_of_begun loaded.begun rest]
      exact Bool.toNat_le _

private theorem table_of_opens {config : LocalConfig} {calls : List LocalCall} {call : LocalCall}
    (opens : ((fresh config records).run calls).opens call = true) :
    (((fresh config records).run calls).step call).table =
      Table.empty.restoreAll records.artifacts := by
  obtain ⟨closed, opened⟩ := opens_eq_true_iff.1 opens
  have begun : Begun records (((fresh config records).run calls).step call) :=
    ⟨config, calls, call, closed, rfl, opened⟩
  exact begun.loaded.table

/-- To initialize or to start a catalog moves it to some state and, the first time, loads what its
store holds. -/
theorem lifecycle_cases {call : LocalCall}
    (lifecycle : ∃ opening, call = .init opening ∨ call = .start opening) :
    (∃ state, site.step call = ⟨site.catalog.inState state, site.records⟩) ∨
      site.catalog.state = .constructed ∧
        ∃ state, site.step call = ⟨site.catalog.loaded site.records state, site.records⟩ := by
  obtain ⟨opening, rfl | rfl⟩ := lifecycle
  · by_cases waiting : site.catalog.state = .constructed
    · rcases Local.init_of_constructed waiting site.records opening with ⟨failure, result⟩ | result
      · exact .inl ⟨site.catalog.state, by rw [Site.step, result]; rfl⟩
      · exact .inr ⟨waiting, _, by rw [Site.step, result]⟩
    · exact .inl ⟨_, by rw [Site.step, Local.init_of_begun waiting]; rfl⟩
  · by_cases waiting : site.catalog.state = .constructed
    · rcases Local.start_of_constructed waiting site.records opening with ⟨failure, result⟩ | result
      · exact .inl ⟨site.catalog.state, by rw [Site.step, result]; rfl⟩
      · exact .inr ⟨waiting, _, by rw [Site.step, result]⟩
    · exact .inl ⟨_, by rw [Site.step, Local.start_of_begun waiting]; rfl⟩

private theorem table_of_unopened (held : site.catalog.Held) {call : LocalCall}
    (lifecycle : ∃ opening, call = .init opening ∨ call = .start opening)
    (unopened : site.opens call = false) : (site.step call).table = site.table := by
  rcases lifecycle_cases lifecycle with ⟨state, after⟩ | ⟨waiting, state, after⟩
  · rw [after]
    rfl
  · simp [opens, after, Local.loaded, held.closed waiting] at unopened

theorem opens_of_success (held : site.catalog.Held)
    (waiting : site.catalog.state = .constructed) :
    site.opens (.init (.ok ())) = true ∧ site.opens (.start (.ok ())) = true := by
  constructor
  · rw [opens_eq_true_iff, step, Local.init_of_success waiting]
    exact ⟨held.closed waiting, rfl⟩
  · rw [opens_eq_true_iff, step, Local.start_of_success waiting]
    exact ⟨held.closed waiting, rfl⟩

private theorem step_of_unopened (held : site.catalog.Held) {call : LocalCall}
    (unopened : site.opens call = false) (others : Records) :
    (Site.step ⟨site.catalog, others⟩ call).catalog = (site.step call).catalog := by
  cases call with
  | init opening =>
    by_cases waiting : site.catalog.state = .constructed
    · cases opening with
      | error failure => simp only [Site.step, Local.init_of_failure waiting]
      | ok => cases unopened.symm.trans (opens_of_success held waiting).1
    · simp only [Site.step, Local.init_of_begun waiting]
  | start opening =>
    by_cases waiting : site.catalog.state = .constructed
    · cases opening with
      | error failure => simp only [Site.step, Local.start_of_failure waiting]
      | ok => cases unopened.symm.trans (opens_of_success held waiting).2
    · simp only [Site.step, Local.start_of_begun waiting]
  | stop permit =>
    let stopping : Local := { site.catalog with memory := site.catalog.memory.stop.2 }
    have same := stopping.flush_catalog permit others site.records
    exact congrArg (fun catalog : Local => { catalog with opened := false }) same
  | flush permit => exact site.catalog.flush_catalog permit others site.records
  | setDataStore store => rfl
  | operate operation permit =>
    simp only [Site.step, Local.run_eq]
    cases site.catalog.noted operation with
    | none => rfl
    | some noted => exact noted.flush_catalog permit others site.records

/-- Changes are left without a store only where they were before, or by a stop that fails to write
them. -/
theorem stranded_step (held : site.catalog.Held) {call : LocalCall}
    (stranded : (site.step call).catalog.Stranded) :
    site.catalog.Stranded ∨
      ∃ permit error, call = .stop permit ∧ site.flushed? call = some (.refuse error) := by
  have left_by_lifecycle (lifecycle : ∃ opening, call = .init opening ∨ call = .start opening) :
      site.catalog.Stranded := by
    rcases lifecycle_cases lifecycle with ⟨state, after⟩ | ⟨-, state, after⟩
    · rw [after] at stranded
      exact ⟨stranded.closed, stranded.unsettled⟩
    · rw [after] at stranded
      cases stranded.closed
  cases call with
  | init opening => exact .inl (left_by_lifecycle ⟨opening, .inl rfl⟩)
  | start opening => exact .inl (left_by_lifecycle ⟨opening, .inr rfl⟩)
  | setDataStore store => exact .inl ⟨stranded.closed, stranded.unsettled⟩
  | stop permit =>
    let stopped : Local := { site.catalog with memory := site.catalog.memory.stop.2 }
    have unsettled : (stopped.flush permit site.records).2.1.pending ≠ .empty :=
      stranded.unsettled
    obtain ⟨error, refused⟩ := Local.unsettled_flush unsettled
    exact .inr ⟨permit, error, rfl, congrArg some (congrArg Prod.fst refused)⟩
  | flush permit =>
    obtain ⟨error, refused⟩ := Local.unsettled_flush stranded.unsettled
    rw [Site.step, refused] at stranded
    exact .inl stranded
  | operate operation permit =>
    rw [Site.step, Local.run_eq] at stranded
    cases changed : site.catalog.noted operation with
    | none =>
      rw [changed] at stranded
      exact .inl stranded
    | some noted =>
      rw [changed] at stranded
      obtain ⟨_, _, ready, -, -, -, same, -⟩ := Local.noted_cases changed
      have closed : (noted.flush permit site.records).2.1.opened = false := stranded.closed
      rw [Local.flush_opened, same, held.2 (.inr ready)] at closed
      cases closed

private theorem stopFails_of_stranded (held : site.catalog.Held) (calls : List LocalCall)
    (stranded : (site.run calls).catalog.Stranded) :
    site.catalog.Stranded ∨ site.StopFails calls := by
  induction calls generalizing site with
  | nil => exact .inl stranded
  | cons call rest ih =>
    rcases ih (held_step held call) stranded with early | ⟨before, permit, after, error, rfl, fails⟩
    · rcases stranded_step held early with earlier | ⟨permit, error, rfl, fails⟩
      · exact .inl earlier
      · exact .inr ⟨[], permit, rest, error, rfl, fails⟩
    · exact .inr ⟨call :: before, permit, after, error, rfl, fails⟩

/-- A flush that finds changes but no store is that of a stop, or a flush of its own, never that of
an operation. -/
theorem flushed_noStore_iff (held : site.catalog.Held) (call : LocalCall) :
    (∃ pending, site.flushed? call = some (.refuse (Local.noStore pending))) ↔
      site.catalog.Stranded ∧ ∃ permit, call = .stop permit ∨ call = .flush permit := by
  constructor
  · rintro ⟨pending, refused⟩
    cases call with
    | init opening => cases refused
    | start opening => cases refused
    | setDataStore store => cases refused
    | stop permit =>
      obtain ⟨closed, unsettled⟩ := Local.stranded_of_flush (Option.some.inj refused)
      exact ⟨⟨closed, unsettled⟩, permit, .inl rfl⟩
    | flush permit => exact ⟨Local.stranded_of_flush (Option.some.inj refused), permit, .inr rfl⟩
    | operate operation permit =>
      obtain ⟨noted, changed, refused⟩ := Option.map_eq_some_iff.1 refused
      obtain ⟨_, _, ready, -, -, -, same, -⟩ := Local.noted_cases changed
      have closed : site.catalog.opened = false := same ▸ (Local.stranded_of_flush refused).closed
      rw [held.2 (.inr ready)] at closed
      cases closed
  · rintro ⟨stranded, permit, rfl | rfl⟩
    · let stopping : Local := { site.catalog with memory := site.catalog.memory.stop.2 }
      have left : stopping.Stranded := ⟨stranded.closed, stranded.unsettled⟩
      exact ⟨_, congrArg some (congrArg Prod.fst (left.flush permit site.records))⟩
    · exact ⟨_, congrArg some (congrArg Prod.fst (stranded.flush permit site.records))⟩

private theorem step_of_stopped (stopped : site.catalog.state = .stopped) (call : LocalCall) :
    (site.step call).catalog.state = .stopped ∧ (site.step call).table = site.table := by
  cases call with
  | init opening =>
    rw [Site.step, Local.init_of_stopped stopped]
    exact ⟨stopped, rfl⟩
  | start opening =>
    rw [Site.step, Local.start_of_stopped stopped]
    exact ⟨stopped, rfl⟩
  | setDataStore store => exact ⟨stopped, rfl⟩
  | stop permit =>
    let stopping : Local := { site.catalog with memory := site.catalog.memory.stop.2 }
    have memory : (stopping.flush permit site.records).2.1.memory = stopping.memory :=
      stopping.flush_memory permit site.records
    exact ⟨(congrArg Volatile.state memory :), (congrArg Volatile.table memory :)⟩
  | flush permit =>
    have memory := site.catalog.flush_memory permit site.records
    exact ⟨(congrArg Volatile.state memory).trans stopped, congrArg Volatile.table memory⟩
  | operate operation permit =>
    have unready : site.catalog.memory.state ≠ .ready := by
      intro ready
      cases stopped.symm.trans ready
    have memory := (site.catalog.run_memory permit site.records operation).2
    rw [Volatile.run_of_unready operation unready] at memory
    exact ⟨(congrArg Volatile.state memory).trans stopped, congrArg Volatile.table memory⟩

private theorem run_of_stopped (stopped : site.catalog.state = .stopped) (calls : List LocalCall) :
    (site.run calls).catalog.state = .stopped ∧ (site.run calls).table = site.table := by
  induction calls generalizing site with
  | nil => exact ⟨stopped, rfl⟩
  | cons call rest ih =>
    obtain ⟨still, same⟩ := step_of_stopped stopped call
    obtain ⟨last, kept⟩ := ih still
    exact ⟨last, kept.trans same⟩

private theorem idle_of_constructed {config : LocalConfig} {calls : List LocalCall}
    (waiting : ((fresh config records).run calls).catalog.state = .constructed) :
    Idle records ((fresh config records).run calls) := by
  rcases run_idle_or_begun calls (.inl (.fresh config records)) with idle | begun
  · exact idle
  · exact absurd waiting begun

/-- Whatever is called on a new catalog, and whatever fails, its store is open exactly while it is
initialized or ready. Until then there is nothing in memory and nothing pending, and an attempt to
open the store that fails changes nothing. The store is opened once at most; the call that opens it
loads its records, and no other one reads them. A flush finds changes without a store only if it is
a stop or a flush of its own, after a stop whose flush failed. Once the catalog is stopped, its
table stays, and it refuses to be initialized or started without a look at its directory. -/
theorem store_session (config : LocalConfig) (records : Records) (calls : List LocalCall) :
    let start := fresh config records
    let site := start.run calls
    (site.catalog.opened = true ↔
      site.catalog.state = .initialized ∨ site.catalog.state = .ready) ∧
    (site.catalog.state = .constructed → site.table = .empty ∧ site.catalog.pending = .empty ∧
      (∀ failure,
        site.catalog.init (.error failure) site.records = (.error failure, site.catalog) ∧
        site.catalog.start (.error failure) site.records = (.error failure, site.catalog)) ∧
      site.opens (.init (.ok ())) = true ∧ site.opens (.start (.ok ())) = true) ∧
    start.openings calls ≤ 1 ∧
    (∀ call, site.opens call = true →
      (site.step call).table = Table.empty.restoreAll records.artifacts) ∧
    (∀ call, site.opens call = false →
      ((∃ opening, call = .init opening ∨ call = .start opening) →
        (site.step call).table = site.table) ∧
      ∀ others, (Site.step ⟨site.catalog, others⟩ call).catalog = (site.step call).catalog) ∧
    (∀ call, (∃ pending, site.flushed? call = some (.refuse (Local.noStore pending))) ↔
      site.catalog.Stranded ∧ ∃ permit, call = .stop permit ∨ call = .flush permit) ∧
    (site.catalog.Stranded → start.StopFails calls) ∧
    (site.catalog.state = .stopped → ∀ later,
      let last := site.run later
      last.table = site.table ∧ ∀ opening,
        last.catalog.init opening last.records = (.refuse (.lifecycle .stopped), last.catalog) ∧
        last.catalog.start opening last.records =
          (.refuse (.lifecycle .stopped), last.catalog)) ∧
    ∀ session : LocalSession, session.state = .stopped →
      session.init = (.refuse (.lifecycle .stopped), session) ∧
        session.start = (.refuse (.lifecycle .stopped), session) := by
  intro start site
  -- the store is held as long as the state says so, which each part draws on
  have held : site.catalog.Held := held_run (held_fresh config records) calls
  refine ⟨held, ?_, ?_, ?_, ?_, flushed_noStore_iff held, ?_, ?_, ?_⟩
  · intro waiting
    have idle : Idle records site := idle_of_constructed waiting
    refine ⟨idle.empty, idle.settled, ?_, opens_of_success held waiting⟩
    intro failure
    exact ⟨Local.init_of_failure waiting site.records failure,
      Local.start_of_failure waiting site.records failure⟩
  · exact (Idle.fresh config records).openings_le calls
  · intro call opens
    exact table_of_opens opens
  · intro call unopened
    exact ⟨fun lifecycle => table_of_unopened held lifecycle unopened,
      step_of_unopened held unopened⟩
  · intro stranded
    rcases stopFails_of_stranded (held_fresh config records) calls stranded with early | fails
    · exact absurd rfl early.unsettled
    · exact fails
  · intro stopped later last
    obtain ⟨still, same⟩ := run_of_stopped stopped later
    exact ⟨same, fun opening => ⟨Local.init_of_stopped still opening last.records,
      Local.start_of_stopped still opening last.records⟩⟩
  · intro session stopped
    exact ⟨LocalSession.init_of_stopped stopped, LocalSession.start_of_stopped stopped⟩

/-- A catalog that cannot write an artifact before it is stopped is left with it. -/
theorem store_session_of_full :
    let artifact := Artifact.make (.ofNat 1) "ns" "au" "http://example.org/" 1
    let full : Permit := fun _ => some .full
    let calls := [.start (.ok ()), .operate (.index artifact) full, .stop full]
    let start := fresh (.ofPath "store") .empty
    let site := start.run calls
    site.catalog.opened = false ∧ start.openings calls ≤ 1 ∧ start.StopFails calls ∧
      (∃ pending, site.flushed? (.flush full) = some (.refuse (Local.noStore pending))) ∧
      (site.step (.flush full)).table = site.table := by
  intro artifact full calls start site
  obtain ⟨-, -, once, -, -, refuses, fails, stays, -⟩ :=
    store_session (.ofPath "store") .empty calls
  have one : site.catalog.pendingWrites = 1 := by decide
  have stranded : site.catalog.Stranded :=
    ⟨rfl, fun settled => Nat.one_ne_zero (one.symm.trans (congrArg OrderedMap.size settled))⟩
  exact ⟨rfl, once, fails stranded, (refuses _).2 ⟨stranded, full, .inr rfl⟩,
    (stays rfl [.flush full]).1⟩

end Site

end ArchiveCatalog
