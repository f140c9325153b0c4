import ArchiveCatalog.Proofs.TableReachability
import ArchiveCatalog.Sql

/-! Programs on a database that carries out each statement at once. A request may fail before it is
carried out, or after, when only its reply is lost, and others may change the rows between two
requests. What a program is sure to end with, within a budget of failures, is followed request by
request. -/

namespace ArchiveCatalog.Sql

/-- No failure in a result may pass. -/
def Lasting (passes : ε → Bool) (result : Except ε α) : Prop :=
  ∀ error, result = .error error → passes error = false

theorem Lasting.ok (passes : ε → Bool) (value : α) : Lasting passes (.ok value) := by
  rintro error ⟨⟩

theorem Lasting.error {passes : ε → Bool} {error : ε} (lasting : passes error = false) :
    Lasting passes (.error error : Except ε α) := by
  rintro other ⟨⟩
  exact lasting

abbrev Rows := OrderedMap Uuid Artifact

/-- What is left open of a database. -/
structure Database where
  /-- The cells that it sends for an artifact. -/
  row : Artifact → Row
  /-- What it makes of a query that only reads, and not by identifier: a reply, or a refusal, which
  it gives again as long as the rows stay as they are. -/
  read : Rows → Query → Except ConnectionError Reply
  lasting : ∀ rows query, Lasting ConnectionError.isTransient (read rows query)

namespace Database

/-- The row of an artifact is sent as it was stored: nothing of it is lost on the way. -/
def Keeps (database : Database) (artifact : Artifact) : Prop :=
  (database.row artifact).artifact = .ok artifact

/-- A reply that holds the row of an artifact, if there is one. -/
def reply (database : Database) (found : Option Artifact) : Reply :=
  ⟨(found.map database.row).toList, found.toList.length⟩

/-- Change an artifact, and answer it as it is then. -/
def update (database : Database) (rows : Rows) (uuid : Uuid) (change : Artifact → Artifact) :
    Except ConnectionError Reply × Rows :=
  match rows.get? uuid with
  | none => (.ok (database.reply none), rows)
  | some artifact => (.ok (database.reply (some (change artifact))),
      rows.insert uuid (change artifact))

/-- What a database says when a second artifact is to have a position. -/
def positionTaken : ConnectionError :=
  .refused AttemptError.uniqueViolation
    "duplicate key value violates unique constraint \"artifact_stem_version\""
    (some "artifact_stem_version")

/-- The artifact that an insertion leaves in a row. It is inserted only if its identifier is new,
and then only at a position of its own. -/
def insert (database : Database) (rows : Rows) (artifact : Artifact) :
    Except ConnectionError Reply × Rows :=
  if rows.contains artifact.uuid then (.ok (database.reply none), rows)
  else if rows.values.any (·.position == artifact.position) then (.error positionTaken, rows)
  else (.ok (database.reply (some artifact.uncommitted)),
    rows.insert artifact.uuid artifact.uncommitted)

/-- Carry out a query at once: its reply, and the rows after it. -/
def execute (database : Database) (rows : Rows) : Query → Except ConnectionError Reply × Rows
  | .insert artifact => database.insert rows artifact
  | .byUuid uuid => (.ok (database.reply (rows.get? uuid)), rows)
  | .commit uuid => database.update rows uuid fun artifact => { artifact with committed := true }
  | .relocate uuid storageUrl =>
    database.update rows uuid fun artifact => { artifact with storageUrl }
  | .delete uuid => (.ok ⟨[], (rows.get? uuid).toList.length⟩, rows.erase uuid)
  | query => (database.read rows query, rows)

/-- A database that sends every field of an artifact, its instant in whole microseconds. -/
def exact : Database where
  row artifact := [.uuid artifact.uuid, .text artifact.ns, .text artifact.auid, .text artifact.url,
    .integer artifact.version.toInt, .bool artifact.committed, .text artifact.storageUrl,
    .integer artifact.contentLength.toInt, .text artifact.contentDigest,
    .instant artifact.collectionDate.micros2000]
  read _ _ := .ok ⟨[], 0⟩
  lasting _ _ := .ok _ _

end Database

/-- A failure that may pass: how it shows on a connection, and how while there is none. -/
structure Fault where
  onConnection : ConnectionError
  inPool : PoolError
  passing : onConnection.isTransient = true ∧ inPool.isTransient = true

/-- The connection ends, or none is opened in time. -/
def Fault.lost : Fault := ⟨.closed, .timeout, rfl, rfl⟩

/-- What becomes of a request. -/
inductive Delivery where
  | answered
  /-- It fails before it is carried out. -/
  | undelivered (fault : Fault)
  /-- It is carried out, and its reply is lost. -/
  | unanswered (fault : Fault)

namespace Delivery

def fault? : Delivery → Option Fault
  | .answered => none
  | .undelivered fault => some fault
  | .unanswered fault => some fault

def losesReply : Delivery → Bool
  | .unanswered _ => true
  | _ => false

def failures (delivery : Delivery) : Nat := delivery.fault?.toList.length

end Delivery

namespace Database

def after (database : Database) (rows : Rows) (query : Query) : Delivery → Rows
  | .undelivered _ => rows
  | _ => (database.execute rows query).2

/-- The response to a request, and the rows after it. Letting time pass, and whatever does not
reach the database, cannot fail. -/
def deliver (database : Database) (rows : Rows) (delivery : Delivery) :
    (request : Request) → request.Response × Rows
  | .acquire => (match delivery.fault? with
    | none => .ok ()
    | some fault => .error fault.inPool, rows)
  | .query query => (match delivery.fault? with
    | none => (database.execute rows query).1
    | some fault => .error fault.onConnection, database.after rows query delivery)
  | .script _ => (match delivery.fault? with
    | none => .ok ()
    | some fault => .error fault.onConnection, rows)
  | .pause _ => ((), rows)
  | .close => ((), rows)
  | .poolSize => (0, rows)

end Database

namespace Attempt

def reading (reader : Reply → Except ConnectionError α)
    (response : Except ConnectionError Reply) : Except AttemptError α :=
  (response.bind reader).mapError .statement

theorem query_eq (query : Query) (reader : Reply → Except ConnectionError α) :
    Attempt.query query reader =
      .ask (.query query) fun response => .done (reading reader response) := by
  refine congrArg (Program.ask (.query query)) (funext fun response => ?_)
  cases response with
  | error error => rfl
  | ok reply =>
    simp only [reading, Except.bind]
    cases reader reply <;> rfl

def report (operation : String) (result : Except AttemptError α) : Outcome α :=
  result.mapError (·.toFailure operation)

theorem conclude_lasting {operation : String}
    {onTransient : AttemptError → Program (Outcome α)} {result : Except AttemptError α}
    (lasting : Lasting AttemptError.isTransient result) :
    conclude operation onTransient result = .done (report operation result) := by
  cases result with
  | ok value => rfl
  | error error =>
    rw [conclude, lasting error rfl]
    rfl

end Attempt

/-- Under what circumstances a program runs. -/
structure Circumstances where
  database : Database
  /-- What others may do to the rows between two requests. -/
  others : Rows → Rows → Prop
  /-- What the program may do to the rows with a request. -/
  own : Rows → Rows → Prop
  /-- What may become of a request. -/
  occurs : Delivery → Prop

/-- With at most so many failures from some rows on, a program ends with a value, failures that
are left and rows that satisfy `post`, and does nothing to the rows that it may not do. -/
def Sure (setting : Circumstances) (post : α → Nat → Rows → Prop) :
    Program α → Nat → Rows → Prop
  | .done value, budget, rows => post value budget rows
  | .ask request next, budget, rows =>
    ∀ seen delivery, setting.others rows seen → setting.occurs delivery →
      delivery.failures ≤ budget →
      setting.own seen (setting.database.deliver seen delivery request).2 ∧
        Sure setting post (next (setting.database.deliver seen delivery request).1)
          (budget - delivery.failures) (setting.database.deliver seen delivery request).2

namespace Sure

variable {setting : Circumstances} {budget : Nat} {rows : Rows}

theorem mono {post weaker : α → Nat → Rows → Prop} {program : Program α}
    (sure : Sure setting post program budget rows)
    (weaken : ∀ value left last, post value left last → weaker value left last) :
    Sure setting weaker program budget rows := by
  induction program generalizing budget rows with
  | done value => exact weaken value budget rows sure
  | ask request next ih =>
    intro seen delivery others occurs within
    obtain ⟨own, rest⟩ := sure seen delivery others occurs within
    exact ⟨own, ih _ rest⟩

theorem bind {post : β → Nat → Rows → Prop} {program : Program α} {next : α → Program β}
    (sure : Sure setting (fun value left last => Sure setting post (next value) left last)
      program budget rows) :
    Sure setting post (program.bind next) budget rows := by
  induction program generalizing budget rows with
  | done value => exact sure
  | ask request rest ih =>
    intro seen delivery others occurs within
    obtain ⟨own, later⟩ := sure seen delivery others occurs within
    exact ⟨own, ih _ later⟩

/-- A delivery takes place, or one of the failures that are left is used up. -/
theorem delivery_cases (delivery : Delivery) (within : delivery.failures ≤ budget) :
    (delivery = .answered ∧ budget - delivery.failures = budget) ∨
      ∃ fault, delivery.fault? = some fault ∧ budget - delivery.failures < budget := by
  cases delivery with
  | answered => exact .inl ⟨rfl, rfl⟩
  | undelivered fault =>
    have one : 1 ≤ budget := within
    exact .inr ⟨fault, rfl, Nat.sub_lt one Nat.one_pos⟩
  | unanswered fault =>
    have one : 1 ≤ budget := within
    exact .inr ⟨fault, rfl, Nat.sub_lt one Nat.one_pos⟩

theorem connected {post : Except AttemptError α → Nat → Rows → Prop} {work : Attempt α}
    (idle : ∀ seen, setting.own seen seen)
    (sure : ∀ seen, setting.others rows seen → Sure setting post work budget seen)
    (failed : ∀ seen (fault : Fault) left, setting.others rows seen → left < budget →
      post (.error (.pool fault.inPool)) left seen) :
    Sure setting post (Attempt.connected work) budget rows := by
  intro seen delivery others occurs within
  refine ⟨idle seen, ?_⟩
  rcases delivery_cases delivery within with ⟨rfl, same⟩ | ⟨fault, faulty, less⟩
  · exact sure seen others
  · simp only [Database.deliver, faulty]
    exact failed seen fault _ others less

theorem query {post : Except AttemptError α → Nat → Rows → Prop} {query : Query}
    {reader : Reply → Except ConnectionError α}
    (own : ∀ seen, setting.others rows seen →
      setting.own seen seen ∧ setting.own seen (setting.database.execute seen query).2)
    (answered : ∀ seen, setting.others rows seen →
      post (Attempt.reading reader (setting.database.execute seen query).1) budget
        (setting.database.execute seen query).2)
    (failed : ∀ seen delivery fault left, setting.others rows seen → setting.occurs delivery →
      delivery.fault? = some fault → left < budget →
      post (.error (.statement fault.onConnection)) left
        (setting.database.after seen query delivery)) :
    Sure setting post (Attempt.query query reader) budget rows := by
  rw [Attempt.query_eq]
  intro seen delivery others occurs within
  have kept : setting.own seen (setting.database.after seen query delivery) := by
    cases delivery with
    | undelivered fault => exact (own seen others).1
    | answered => exact (own seen others).2
    | unanswered fault => exact (own seen others).2
  refine ⟨kept, ?_⟩
  rcases delivery_cases delivery within with ⟨rfl, same⟩ | ⟨fault, faulty, less⟩
  · exact answered seen others
  · simp only [Database.deliver, faulty]
    exact failed seen delivery fault _ others occurs faulty less

/-- How an attempt ends within a budget: for good, or with a failure that may pass, that is used
up, and after which another attempt has what it needs. -/
def Settles (post : Except AttemptError α → Rows → Prop) (needs : Rows → Prop) (budget : Nat)
    (result : Except AttemptError α) (left : Nat) (last : Rows) : Prop :=
  (Lasting AttemptError.isTransient result ∧ post result last) ∨
    ∃ error, result = .error error ∧ error.isTransient = true ∧ left < budget ∧ needs last

/-- With no more failures than retries a repeated attempt ends for good, if each attempt ends so or
uses up a failure and leaves what the next attempt needs. -/
theorem retryFrom_settles (post : Except AttemptError α → Rows → Prop)
    (needs : Nat → Rows → Prop) {attempt : Nat → Attempt α} (operation : String)
    (delay : Duration) (idle : ∀ seen, setting.own seen seen)
    (stable : ∀ number before seen, setting.others before seen → needs number before →
      needs number seen)
    (each : ∀ number budget rows, needs number rows →
      Sure setting (Settles post (needs (number + 1)) budget) (attempt number) budget rows)
    {retries number : Nat} (enough : budget ≤ retries) (ready : needs number rows) :
    Sure setting
      (fun outcome _ last => ∃ result, outcome = Attempt.report operation result ∧ post result last)
      (Sql.retryFrom operation delay attempt number retries) budget rows := by
  -- an attempt that does not settle uses up a failure, of which there are no more than retries
  induction retries generalizing number budget rows with
  | zero =>
    refine Sure.bind ((each number budget rows ready).mono ?_)
    rintro result left last (⟨lasting, ended⟩ | ⟨error, -, -, less, -⟩)
    · rw [Attempt.conclude_lasting lasting]
      exact ⟨result, rfl, ended⟩
    · exact absurd less (by omega)
  | succ retries ih =>
    refine Sure.bind ((each number budget rows ready).mono ?_)
    rintro result left last (⟨lasting, ended⟩ | ⟨error, rfl, passing, less, needed⟩)
    · rw [Attempt.conclude_lasting lasting]
      exact ⟨result, rfl, ended⟩
    · simp only [conclude, if_pos passing]
      intro seen delivery others occurs within
      exact ⟨idle seen, ih (by omega) (stable _ _ _ others needed)⟩

/-- How an attempt ends within a budget that cannot fail for good: with a value, or with a failure
that may pass, that is used up, and after which another attempt has what it needs. -/
def Ends (post : α → Rows → Prop) (needs : Rows → Prop) (budget : Nat) :
    Except AttemptError α → Nat → Rows → Prop
  | .ok value, _, last => post value last
  | .error error, left, last => error.isTransient = true ∧ left < budget ∧ needs last

private theorem Ends.settles {post : α → Rows → Prop} {needs : Rows → Prop}
    {result : Except AttemptError α} {left : Nat} {last : Rows}
    (ends : Ends post needs budget result left last) :
    Settles (fun result last => ∃ value, result = .ok value ∧ post value last) needs budget
      result left last := by
  cases result with
  | ok value => exact .inl ⟨.ok _ value, value, rfl, ends⟩
  | error error => exact .inr ⟨error, rfl, ends⟩

/-- With no more failures than retries a repeated attempt ends with a value, if each attempt ends
with one or uses up a failure and leaves what the next attempt needs. -/
theorem retryFrom (post : α → Rows → Prop) (needs : Nat → Rows → Prop) {attempt : Nat → Attempt α}
    (operation : String) (delay : Duration) (idle : ∀ seen, setting.own seen seen)
    (stable : ∀ number before seen, setting.others before seen → needs number before →
      needs number seen)
    (each : ∀ number budget rows, needs number rows →
      Sure setting (Ends post (needs (number + 1)) budget) (attempt number) budget rows)
    {retries number : Nat} (enough : budget ≤ retries) (ready : needs number rows) :
    Sure setting (fun outcome _ last => ∃ value, outcome = .ok value ∧ post value last)
      (Sql.retryFrom operation delay attempt number retries) budget rows := by
  refine (retryFrom_settles _ needs operation delay idle stable
    (fun number budget rows needed =>
      (each number budget rows needed).mono fun _ _ _ ends => ends.settles)
    enough ready).mono ?_
  rintro _ left last ⟨_, rfl, value, rfl, ended⟩
  exact ⟨value, rfl, ended⟩

end Sure

/-- Circumstances in which nobody else changes the rows. -/
def Circumstances.alone (database : Database) (occurs : Delivery → Prop) : Circumstances where
  database
  others := Eq
  own _ _ := True
  occurs

/-- One query on a connection, when nobody else changes the rows: it is answered, or it fails for a
reason that passes, before it is carried out or after. -/
theorem Sure.sole_query {database : Database} {occurs : Delivery → Prop} {budget : Nat}
    {rows : Rows} {post : Except AttemptError α → Nat → Rows → Prop} {query : Query}
    {reader : Reply → Except ConnectionError α}
    (answered : post (Attempt.reading reader (database.execute rows query).1) budget
      (database.execute rows query).2)
    (undelivered : ∀ error left, AttemptError.isTransient error = true → left < budget →
      post (.error error) left rows)
    (unanswered : ∀ error left fault, occurs (.unanswered fault) →
      AttemptError.isTransient error = true → left < budget →
      post (.error error) left (database.execute rows query).2) :
    Sure (.alone database occurs) post (Attempt.connected (Attempt.query query reader)) budget
      rows := by
  refine Sure.connected (fun _ => trivial) ?work ?unconnected
  case unconnected =>
    rintro _ fault left rfl less
    exact undelivered _ left fault.passing.2 less
  case work =>
    rintro _ rfl
    refine Sure.query (fun _ _ => ⟨trivial, trivial⟩) ?answered ?failed
    case answered =>
      rintro _ rfl
      exact answered
    case failed =>
      rintro _ delivery fault left rfl occurs faulty less
      cases delivery with
      | answered => cases faulty
      | undelivered => exact undelivered _ left fault.passing.1 less
      | unanswered => exact unanswered _ left _ occurs fault.passing.1 less

/-- Answer a request as the next delivery of a schedule says; after its end all are answered. -/
def Database.serve (database : Database) (state : List Delivery × Rows) (request : Request) :
    request.Response × List Delivery × Rows :=
  let (response, rows) := database.deliver state.2 (state.1.headD .answered) request
  (response, state.1.tail, rows)

def failures : List Delivery → Nat
  | [] => 0
  | delivery :: later => delivery.failures + failures later

/-- A program that runs alone, on a schedule within its budget, ends as it is sure to. -/
theorem Sure.run {database : Database} {occurs : Delivery → Prop} {post : α → Nat → Rows → Prop}
    {program : Program α} {budget : Nat} {rows : Rows} {schedule : List Delivery}
    (sure : Sure (.alone database occurs) post program budget rows) (answers : occurs .answered)
    (occur : ∀ delivery ∈ schedule, occurs delivery) (within : failures schedule ≤ budget) :
    ∃ left, post (program.run database.serve (schedule, rows)).1 left
      (program.run database.serve (schedule, rows)).2.2 := by
  induction program generalizing budget rows schedule with
  | done value => exact ⟨budget, sure⟩
  | ask request next ih =>
    cases schedule with
    | nil =>
      have rest := (sure rows .answered rfl answers (Nat.zero_le _)).2
      exact ih _ rest (by simp) (Nat.zero_le _)
    | cons delivery later =>
      rw [failures] at within
      have rest := (sure rows delivery rfl (occur _ List.mem_cons_self) (by omega)).2
      have left : failures later ≤ budget - delivery.failures := Nat.le_sub_of_add_le' within
      exact ih _ rest (fun other member => occur other (List.mem_cons_of_mem _ member)) left

/-- What a program that runs alone on a schedule ends with, and the rows that it leaves. -/
def Database.ending (database : Database) (schedule : List Delivery) (rows : Rows)
    (program : Program α) : α × Rows :=
  let (value, _, last) := program.run database.serve (schedule, rows)
  (value, last)

theorem Program.run_bind (answer : σ → (request : Request) → request.Response × σ) (state : σ)
    (program : Program α) (next : α → Program β) :
    (program.bind next).run answer state =
      (next (program.run answer state).1).run answer (program.run answer state).2 := by
  induction program generalizing state with
  | done value => rfl
  | ask request rest ih => exact ih _ _

/-- What follows a program goes on with its value, and with the schedule and rows it leaves. -/
theorem Database.ending_bind {database : Database} {schedule later : List Delivery}
    {rows last : Rows} {program : Program α} {value : α}
    (ran : program.run database.serve (schedule, rows) = (value, later, last))
    (next : α → Program β) :
    database.ending schedule rows (program.bind next) =
      database.ending later last (next value) := by
  rw [ending, Program.run_bind, ran]
  rfl

theorem Database.ending_map {database : Database} {schedule : List Delivery} {rows last : Rows}
    {program : Program α} {value : α} {result : β} {next : α → Program β}
    (ended : database.ending schedule rows program = (value, last))
    (done : next value = .done result) :
    database.ending schedule rows (program.bind next) = (result, last) := by
  obtain ⟨later, ran⟩ : ∃ later,
      program.run database.serve (schedule, rows) = (value, later, last) := by
    cases ended
    exact ⟨_, rfl⟩
  rw [ending_bind ran, done]
  rfl

theorem run_eq (catalog : Sql) (operation : Operation) :
    catalog.run operation = catalog.guarded operation.checkArguments operation := by
  cases operation <;> rfl

theorem run_of_unready {catalog : Sql} (unready : catalog.state ≠ .ready) (operation : Operation) :
    catalog.run operation =
      .done (.refuse (.lifecycle (.notReady catalog.state.name))) := by
  simp [run_eq, guarded, State.accept, State.ensureReady, unready]

theorem run_of_refused {catalog : Sql} (operation : Operation) {error : ValidationError}
    (ready : catalog.state = .ready) (refused : operation.checkArguments = .error error) :
    catalog.run operation = .done (.refuse (.validation error)) := by
  simp [run_eq, guarded, State.accept, State.ensureReady, ready, refused]

theorem run_of_accepted {catalog : Sql} (operation : Operation) (ready : catalog.state = .ready)
    (accepted : operation.checkArguments = .ok ()) :
    catalog.run operation = perform catalog.retryConfig catalog.dataStore operation := by
  simp [run_eq, guarded, State.accept, State.ensureReady, ready, accepted]

end ArchiveCatalog.Sql
