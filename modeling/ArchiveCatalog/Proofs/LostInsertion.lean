import ArchiveCatalog.Proofs.Reindexing

/-! A database keeps instants in whole microseconds. The repetition of an insertion compares the
row, read back without the part below, with an artifact that still has it. Others may commit the
artifact at any time, which makes no difference. -/

namespace ArchiveCatalog

namespace Instant

/-- Whole microseconds, and no leap second. -/
def Whole (instant : Instant) : Prop := instant.nano < 1000000000 ∧ instant.nano % 1000 = 0

instance (instant : Instant) : Decidable instant.Whole := inferInstanceAs (Decidable (_ ∧ _))

private theorem whole_of_ofMicros2000? {micros : Int} {instant : Instant}
    (read : ofMicros2000? micros = some instant) : instant.Whole := by
  simp only [ofMicros2000?, of?] at read
  split at read
  · cases read
    constructor <;> dsimp only <;> omega
  · cases read

private theorem ofMicros2000?_micros2000 {instant : Instant} (whole : instant.Whole) :
    ofMicros2000? instant.micros2000 = some instant := by
  obtain ⟨below, divisible⟩ := whole
  have early : instant.secondOfDay < 86400 := instant.sound.2.1
  have exact :
      ((instant.day - 10957) * 86400 + instant.secondOfDay) * 1000000000 + instant.nano =
        (((instant.day - 10957) * 86400 + instant.secondOfDay) * 1000000 +
          (instant.nano / 1000 : Nat)) * 1000 := by omega
  have micros : instant.micros2000 =
      ((instant.day - 10957) * 86400 + instant.secondOfDay) * 1000000 +
        (instant.nano / 1000 : Nat) := by
    rw [micros2000, exact, Int.mul_tdiv_cancel _ (by decide)]
  have seconds : instant.micros2000 / 1000000 =
      (instant.day - 10957) * 86400 + instant.secondOfDay := by omega
  have rest : (instant.micros2000 % 1000000).toNat * 1000 = instant.nano := by omega
  have day : ((instant.day - 10957) * 86400 + instant.secondOfDay) / 86400 + 10957 =
      instant.day := by omega
  have second : (((instant.day - 10957) * 86400 + instant.secondOfDay) % 86400).toNat =
      instant.secondOfDay := by omega
  simp only [ofMicros2000?, seconds, rest, day, second]
  exact of?_self instant

/-- Exactly the whole microseconds outside of leap seconds come back as they were. -/
theorem ofMicros2000?_micros2000_iff (instant : Instant) :
    ofMicros2000? instant.micros2000 = some instant ↔ instant.Whole :=
  ⟨whole_of_ofMicros2000?, ofMicros2000?_micros2000⟩

end Instant

namespace Sql

/-- Apart from the commit, an insertion differs from the row that it writes in the date alone. -/
theorem isSameInsert_dated (artifact : Artifact) (committed : Bool) (date : Instant) :
    isSameInsert artifact { artifact with committed, collectionDate := date } =
      (artifact.collectionDate == date) := by
  simp [isSameInsert]

/-- What comes to pass with a request: whether others commit the artifact just before it, and what
becomes of the request. -/
structure Occasion where
  commits : Bool
  delivery : Delivery

namespace Occasion

def quiet : Occasion := ⟨false, .answered⟩

def schedule (occasions : List Occasion) : List Delivery := occasions.map (·.delivery)

private theorem headD_schedule (occasions : List Occasion) :
    (schedule occasions).headD .answered = (occasions.headD quiet).delivery := by
  cases occasions <;> rfl

theorem tail_schedule (occasions : List Occasion) :
    (schedule occasions).tail = schedule occasions.tail := by
  cases occasions <;> rfl

end Occasion

open Occasion (quiet schedule)

namespace Database

/-- The rows as others leave them to the next request. -/
def meanwhile (database : Database) (uuid : Uuid) (rows : Rows) (commits : Bool) : Rows :=
  if commits then (database.execute rows (.commit uuid)).2 else rows

/-- Answer a request as the next occasion says; after the last one all are answered. -/
def serveAmid (database : Database) (uuid : Uuid) (state : List Occasion × Rows)
    (request : Request) : request.Response × List Occasion × Rows :=
  let occasion := state.1.headD quiet
  let (response, rows) :=
    database.deliver (database.meanwhile uuid state.2 occasion.commits) occasion.delivery request
  (response, state.1.tail, rows)

/-- What a program ends with while others may commit an artifact, and the rows at its end. -/
def endingAmid (database : Database) (uuid : Uuid) (occasions : List Occasion) (rows : Rows)
    (program : Program α) : α × Rows :=
  let (value, _, last) := program.run (database.serveAmid uuid) (occasions, rows)
  (value, last)

end Database

/-- Circumstances in which others do nothing but commit an artifact. -/
def Circumstances.committing (database : Database) (uuid : Uuid) : Circumstances where
  database
  others before after := ∃ commits, after = database.meanwhile uuid before commits
  own _ _ := True
  occurs _ := True

/-- A program ends as it is sure to, on occasions within its budget. -/
theorem Sure.runAmid {database : Database} {uuid : Uuid} {post : α → Nat → Rows → Prop}
    {program : Program α} {budget : Nat} {rows : Rows} {occasions : List Occasion}
    (sure : Sure (.committing database uuid) post program budget rows)
    (within : failures (schedule occasions) ≤ budget) :
    ∃ left, post (program.run (database.serveAmid uuid) (occasions, rows)).1 left
      (program.run (database.serveAmid uuid) (occasions, rows)).2.2 := by
  induction program generalizing budget rows occasions with
  | done value => exact ⟨budget, sure⟩
  | ask request next ih =>
    have split := failures_eq (schedule occasions)
    rw [Occasion.headD_schedule, Occasion.tail_schedule] at split
    have rest := (sure _ (occasions.headD quiet).delivery ⟨(occasions.headD quiet).commits, rfl⟩
      trivial (by omega)).2
    have left : failures (schedule occasions.tail) ≤
        budget - (occasions.headD quiet).delivery.failures := by omega
    exact ih _ rest left

/-- The rows with an artifact in them, committed or not. -/
def Rows.holding (rows : Rows) (artifact : Artifact) (committed : Bool) : Rows :=
  rows.insert artifact.uuid { artifact with committed }

section New

variable {database : Database} {rows : Rows} {artifact : Artifact}

private theorem get?_holding (committed : Bool) :
    (rows.holding artifact committed).get? artifact.uuid = some { artifact with committed } :=
  OrderedMap.get?_insert_self ..

theorem meanwhile_absent (absent : rows.get? artifact.uuid = none) (commits : Bool) :
    database.meanwhile artifact.uuid rows commits = rows := by
  cases commits <;> simp [Database.meanwhile, Database.execute, Database.update, absent]

private theorem meanwhile_holding (committed commits : Bool) :
    database.meanwhile artifact.uuid (rows.holding artifact committed) commits =
      rows.holding artifact (committed || commits) := by
  cases commits
  · simp [Database.meanwhile]
  · simp [Database.meanwhile, Database.execute, Database.update, Rows.holding,
      OrderedMap.insert_insert]

variable {own : Bool → Artifact}

/-- How the row of an artifact is read, when it is committed and when it is not. -/
def Database.Returns (database : Database) (artifact : Artifact) (own : Bool → Artifact) : Prop :=
  ∀ committed, (database.row { artifact with committed }).artifact = .ok (own committed)

private theorem present_of_returns (reads : database.Returns artifact own) :
    Present (.committing database artifact.uuid) artifact fun seen read =>
      ∃ committed, seen = rows.holding artifact committed ∧ read = own committed where
  idle _ := trivial
  stable := by
    rintro _ _ ⟨commits, rfl⟩ ⟨_, committed, rfl, rfl⟩
    exact ⟨_, _, meanwhile_holding committed commits, rfl⟩
  known := by
    rintro _ _ ⟨committed, rfl, rfl⟩
    exact ⟨_, get?_holding committed, reads committed⟩

/-- Whether the first insertion that is carried out is not answered: the reply is lost after some
attempts that get no connection, or whose insertion does not arrive. There is a pause between two
attempts. -/
def losesInsertion : List Delivery → Bool
  | .answered :: .unanswered _ :: _ => true
  | .answered :: .undelivered _ :: _ :: later => losesInsertion later
  | .answered :: _ => false
  | _ :: _ :: later => losesInsertion later
  | _ => false

private theorem losesInsertion_eq (schedule : List Delivery) :
    losesInsertion schedule =
      match (schedule.headD .answered).fault?, schedule.tail.headD .answered with
      | some _, _ => losesInsertion schedule.tail.tail
      | none, .unanswered _ => true
      | none, .undelivered _ => losesInsertion schedule.tail.tail.tail
      | none, .answered => false := by
  rcases schedule with _ | ⟨_ | _ | _, _ | ⟨_ | _ | _, _ | ⟨pause, later⟩⟩⟩ <;> rfl

section Fresh

variable (absent : rows.get? artifact.uuid = none)
  (free : rows.values.any (·.position == artifact.position) = false)
include absent

private theorem run_connected_amid (work : Attempt α) (occasions : List Occasion) :
    (Attempt.connected work).run (database.serveAmid artifact.uuid) (occasions, rows) =
      match (occasions.headD quiet).delivery.fault? with
      | none => work.run (database.serveAmid artifact.uuid) (occasions.tail, rows)
      | some fault => (.error (.pool fault.inPool), occasions.tail, rows) := by
  simp only [Attempt.connected, Program.run, Database.serveAmid, Database.deliver,
    meanwhile_absent absent]
  cases (occasions.headD quiet).delivery.fault? <;> rfl

include free

private theorem execute_insert : database.execute rows (.insert artifact) =
    (.ok (database.reply (some artifact.uncommitted)), rows.holding artifact false) := by
  simp [Database.execute, Database.insert, OrderedMap.contains, absent, free]
  rfl

private theorem run_insert_amid {read : Artifact}
    (row : (database.row artifact.uncommitted).artifact = .ok read)
    (next : Option Artifact → Attempt α) (occasions : List Occasion) :
    ((Attempt.query (.insert artifact) Reply.artifact?).andThen next).run
        (database.serveAmid artifact.uuid) (occasions, rows) =
      match (occasions.headD quiet).delivery with
      | .answered => (next (some read)).run (database.serveAmid artifact.uuid)
          (occasions.tail, rows.holding artifact false)
      | .undelivered fault => (.error (.statement fault.onConnection), occasions.tail, rows)
      | .unanswered fault =>
        (.error (.statement fault.onConnection), occasions.tail, rows.holding artifact false) := by
  simp only [Attempt.andThen, Attempt.query_eq, Program.bind, Program.run, Database.serveAmid,
    meanwhile_absent absent]
  cases (occasions.headD quiet).delivery <;>
    simp only [Database.deliver, Database.after, Delivery.fault?, execute_insert absent free,
      Database.reading_row row] <;> rfl

/-- What becomes of an attempt while the row is not there: it writes the row and is answered, or it
fails for a reason that may pass, without a row or with a row whose reply is lost. -/
theorem first_attempt (reads : database.Returns artifact own) (number : Nat)
    (occasions : List Occasion) :
    (losesInsertion (schedule occasions) = false ∧ ∃ later,
      (insertion artifact number).run (database.serveAmid artifact.uuid) (occasions, rows) =
        (.ok (some (own false)), later, rows.holding artifact false)) ∨
    ∃ error later seen,
      (insertion artifact number).run (database.serveAmid artifact.uuid) (occasions, rows) =
        (.error error, later, seen) ∧
      error.isTransient = true ∧ failures (schedule later) < failures (schedule occasions) ∧
      (losesInsertion (schedule occasions) = losesInsertion (schedule later.tail) ∧ seen = rows ∨
        losesInsertion (schedule occasions) = true ∧ seen = rows.holding artifact false) := by
  have all := failures_eq (schedule occasions)
  have rest := failures_eq (schedule occasions).tail
  rw [losesInsertion_eq, insertion, run_connected_amid absent]
  simp only [Occasion.headD_schedule, Occasion.tail_schedule] at all rest ⊢
  -- without a connection there is no row; without a reply there is one if the insertion got through
  cases first : (occasions.headD quiet).delivery.fault? with
  | some fault =>
    have used := Delivery.failures_of_fault first
    exact .inr ⟨_, _, _, rfl, fault.passing.2, by omega, .inl ⟨rfl, rfl⟩⟩
  | none =>
    simp only [run_insert_amid absent free (reads false)]
    cases second : (occasions.tail.headD quiet).delivery with
    | answered => exact .inl ⟨rfl, _, rfl⟩
    | undelivered fault =>
      have used : (Delivery.undelivered fault).failures = 1 := rfl
      rw [second] at rest
      exact .inr ⟨_, _, _, rfl, fault.passing.1, by omega, .inl ⟨rfl, rfl⟩⟩
    | unanswered fault =>
      have used : (Delivery.unanswered fault).failures = 1 := rfl
      rw [second] at rest
      exact .inr ⟨_, _, _, rfl, fault.passing.1, by omega, .inr ⟨rfl, rfl⟩⟩

/-- What an insertion and its repetitions find: the row, as an attempt after the first looks at it
if the reply to the insertion was lost, and otherwise as it was answered. -/
def Found (rows : Rows) (artifact : Artifact) (own : Bool → Artifact) (lost : Bool)
    (found : Option Artifact) (last : Rows) : Prop :=
  ∃ committed, last = rows.holding artifact committed ∧
    found = if lost then (some (own committed)).filter (isSameInsert artifact)
      else some (own committed)

private theorem run_insertions (reads : database.Returns artifact own) (operation : String)
    (delay : Duration) {number retries : Nat} (positive : 0 < number) {occasions : List Occasion}
    (bounded : failures (schedule occasions) ≤ retries) :
    ∃ found later last,
      (retryFrom operation delay (insertion artifact) number retries).run
        (database.serveAmid artifact.uuid) (occasions, rows) = (.ok found, later, last) ∧
      Found rows artifact own (losesInsertion (schedule occasions)) found last := by
  have first := first_attempt absent free reads number occasions
  -- by retries, as long as no row was written; once one was, the repetitions look at it
  induction retries generalizing number occasions with
  | zero =>
    rcases first with ⟨kept, later, ran⟩ | ⟨error, later, seen, -, -, less, -⟩
    · rw [retryFrom, Program.run_bind, ran, kept]
      exact ⟨_, _, _, rfl, false, rfl, rfl⟩
    · omega
  | succ retries ih =>
    rcases first with ⟨kept, later, ran⟩ | ⟨error, later, seen, ran, passing, less, first⟩
    · rw [retryFrom, Program.run_bind, ran, kept]
      exact ⟨_, _, _, rfl, false, rfl, rfl⟩
    · rw [retryFrom, Program.run_bind, ran]
      simp only [conclude, if_pos passing]
      rcases first with ⟨kept, rfl⟩ | ⟨kept, rfl⟩
      · have paused := failures_eq (schedule later)
        rw [Occasion.tail_schedule] at paused
        simp only [Program.run, Database.serveAmid, Database.deliver, meanwhile_absent absent]
        rw [kept]
        exact ih (Nat.succ_pos number) (by omega) (first_attempt absent free reads _ _)
      · have within : failures (schedule later) ≤ retries := by omega
        obtain ⟨-, found, answer, _, ⟨committed, last, rfl⟩, looked⟩ :=
          ((present_of_returns reads).sure_insertions ⟨_, false, rfl, rfl⟩ operation delay positive
            retries).runAmid within
        rw [kept]
        exact ⟨found, _, _, Prod.ext answer rfl, committed, last, looked⟩

end Fresh

end New

/-- A new artifact is indexed while others may commit it, with no more failures than retries. The
row is there at the end. It is answered as it is read back, unless the reply to its insertion was
lost and the row, as it is read back, differs from the artifact. -/
theorem endingAmid_index {database : Database} {catalog : Sql} {rows : Rows} {artifact : Artifact}
    {own : Bool → Artifact} (ready : catalog.state = .ready) (valid : artifact.validate = .ok ())
    (absent : rows.get? artifact.uuid = none)
    (free : rows.values.any (·.position == artifact.position) = false)
    (reads : database.Returns artifact own) {occasions : List Occasion}
    (bounded : failures (schedule occasions) ≤ catalog.retryConfig.maxRetries.toNat) :
    ∃ committed,
      database.endingAmid artifact.uuid occasions rows (catalog.run (.index artifact)) =
        (if losesInsertion (schedule occasions) ∧ isSameInsert artifact (own committed) = false then
            .refuse (.storage (.alreadyExists artifact.uuid))
          else .ok (own committed),
        rows.holding artifact committed) := by
  obtain ⟨found, later, last, ran, committed, rfl, kept⟩ := run_insertions absent free reads
    (Operation.index artifact).name catalog.retryConfig.retryDelay Nat.one_pos bounded
  refine ⟨committed, ?_⟩
  rw [run_of_accepted (.index artifact) ready valid, perform, retry, Database.endingAmid,
    Program.run_bind, ran, kept]
  cases losesInsertion (schedule occasions) <;>
    cases same : isSameInsert artifact (own committed) <;>
      simp [same, Option.filter_some, Program.run]

/-- On a ready catalog with no more failures than retries, a new artifact is indexed while others
may commit it. The row is there at the end. A repetition takes it for the artifact's own exactly if
the collection date is a whole number of microseconds and no leap second; so the answer is the row,
committed or not, unless the reply to the insertion was lost and the date is of another kind. Then
the artifact exists already. -/
theorem insertion_recognised_iff {catalog : Sql} {rows : Rows} {artifact : Artifact}
    {date : Instant} (ready : catalog.state = .ready) (valid : artifact.validate = .ok ())
    (absent : rows.get? artifact.uuid = none)
    (free : rows.values.any (·.position == artifact.position) = false)
    (kept : Instant.ofMicros2000? artifact.collectionDate.micros2000 = some date)
    {occasions : List Occasion}
    (bounded : failures (schedule occasions) ≤ catalog.retryConfig.maxRetries.toNat) :
    let own (committed : Bool) : Artifact := { artifact with committed, collectionDate := date }
    (∀ committed,
      (Database.exact.row { artifact with committed }).artifact = .ok (own committed) ∧
        (isSameInsert artifact (own committed) = true ↔ artifact.collectionDate.Whole)) ∧
      ∃ committed,
        Database.exact.endingAmid artifact.uuid occasions rows (catalog.run (.index artifact)) =
          (if losesInsertion (schedule occasions) ∧ ¬artifact.collectionDate.Whole then
              .refuse (.storage (.alreadyExists artifact.uuid))
            else .ok (own committed),
          rows.holding artifact committed) := by
  intro own
  have same (committed : Bool) :
      isSameInsert artifact (own committed) = true ↔ artifact.collectionDate.Whole := by
    rw [isSameInsert_dated, beq_iff_eq, ← Instant.ofMicros2000?_micros2000_iff, kept,
      Option.some_inj, eq_comm]
  have reads : Database.exact.Returns artifact own := fun committed => Database.exact_row kept
  refine ⟨fun committed => ⟨reads committed, same committed⟩, ?_⟩
  obtain ⟨committed, ended⟩ := endingAmid_index ready valid absent free reads bounded
  refine ⟨committed, ?_⟩
  simp only [ended, ← same committed, Bool.not_eq_true]

/-- An artifact is committed by another client before the repetition finds it. -/
theorem insertion_recognised_of_commit :
    let catalog : Sql := ⟨⟨1, Duration.ofSecs 1⟩, none, .ready, none⟩
    let artifact := Artifact.make (.ofNat 1) "ns" "au" "http://example.org/" 1
    let occasions := [quiet, ⟨false, .unanswered .lost⟩, quiet, ⟨true, .answered⟩]
    ∃ committed,
      Database.exact.endingAmid artifact.uuid occasions .empty (catalog.run (.index artifact)) =
        (.ok { artifact with committed }, Rows.holding .empty artifact committed) := by
  intro catalog artifact occasions
  have ready : catalog.state = .ready := rfl
  have valid : artifact.validate = .ok () := rfl
  have kept : Instant.ofMicros2000? artifact.collectionDate.micros2000 =
      some artifact.collectionDate := by decide
  have bounded : failures (schedule occasions) ≤ catalog.retryConfig.maxRetries.toNat := by decide
  exact (insertion_recognised_iff ready valid rfl rfl kept bounded).2

/-- An artifact whose collection date has a nanosecond too much, and whose insertion is not
answered, is there and exists already. -/
theorem own_row_taken_for_another :
    let catalog : Sql := ⟨⟨1, Duration.ofSecs 1⟩, none, .ready, none⟩
    let date : Instant := ⟨18262, 0, 0, by decide⟩
    let artifact : Artifact :=
      { Artifact.make (.ofNat 1) "ns" "au" "http://example.org/" 1 with
        collectionDate := ⟨18262, 0, 1, by decide⟩ }
    let own (committed : Bool) : Artifact := { artifact with committed, collectionDate := date }
    let occasions := [quiet, ⟨false, .unanswered .lost⟩]
    artifact.validate = .ok () ∧
      (∀ committed,
        (Database.exact.row { artifact with committed }).artifact = .ok (own committed) ∧
          isSameInsert artifact (own committed) = false) ∧
      ∃ committed,
        Database.exact.endingAmid artifact.uuid occasions .empty (catalog.run (.index artifact)) =
          (.refuse (.storage (.alreadyExists artifact.uuid)),
            Rows.holding .empty artifact committed) := by
  intro catalog date artifact own occasions
  have valid : artifact.validate = .ok () := rfl
  have kept : Instant.ofMicros2000? artifact.collectionDate.micros2000 = some date := by decide
  have reads : Database.exact.Returns artifact own := fun committed => Database.exact_row kept
  have other (committed : Bool) : isSameInsert artifact (own committed) = false :=
    (isSameInsert_dated artifact committed date).trans (by decide)
  refine ⟨valid, fun committed => ⟨reads committed, other committed⟩, ?_⟩
  have ready : catalog.state = .ready := rfl
  have absent : OrderedMap.get? (.empty : Rows) artifact.uuid = none := rfl
  have bounded : failures (schedule occasions) ≤ catalog.retryConfig.maxRetries.toNat := by decide
  obtain ⟨committed, ended⟩ := endingAmid_index ready valid absent rfl reads bounded
  refine ⟨committed, ended.trans ?_⟩
  rw [if_pos ⟨rfl, other committed⟩]

end Sql

end ArchiveCatalog
