import ArchiveCatalog.Proofs.SoleInsertion

namespace ArchiveCatalog.Sql

section Known

variable {database : Database} {rows : Rows} {artifact stored : Artifact}

theorem insert_known (known : rows.get? artifact.uuid = some stored) :
    database.execute rows (.insert artifact) = (.ok (database.reply none), rows) := by
  simp [Database.execute, Database.insert, OrderedMap.contains, known]

private theorem byUuid_known (known : rows.get? artifact.uuid = some stored) :
    database.execute rows (.byUuid artifact.uuid) =
      (.ok (database.reply (some stored)), rows) := by
  simp [Database.execute, known]

private theorem after_insert_known (known : rows.get? artifact.uuid = some stored)
    (delivery : Delivery) :
    database.after rows (.insert artifact) delivery = rows := by
  cases delivery with
  | undelivered fault => rfl
  | answered => exact congrArg Prod.snd (insert_known known)
  | unanswered fault => exact congrArg Prod.snd (insert_known known)

end Known

/-- A row that repetitions of an insertion meet, whatever others do to it meanwhile: `held` says in
which rows it is there, and as which artifact it is read. -/
structure Present (setting : Circumstances) (artifact : Artifact) (held : Rows → Artifact → Prop) :
    Prop where
  idle : ∀ seen, setting.own seen seen
  stable : ∀ before seen, setting.others before seen → (∃ read, held before read) →
    ∃ read, held seen read
  known : ∀ seen read, held seen read → ∃ stored, seen.get? artifact.uuid = some stored ∧
    (setting.database.row stored).artifact = .ok read

namespace Present

variable {setting : Circumstances} {artifact : Artifact} {held : Rows → Artifact → Prop}

/-- What an attempt after the first finds: the row as it is read, if it is what the insertion would
write. -/
def Looks (artifact : Artifact) (held : Rows → Artifact → Prop) (found : Option Artifact)
    (last : Rows) : Prop :=
  ∃ read, held last read ∧ found = (some read).filter (isSameInsert artifact)

/-- An attempt after the first looks at the row, or uses up a failure. -/
theorem sure_insertion (present : Present setting artifact held) {seen : Rows}
    (there : ∃ read, held seen read) {number budget : Nat} (later : 1 < number) :
    Sure setting
      (Sure.Ends (Looks artifact held) (fun seen => 1 < number + 1 ∧ ∃ read, held seen read) budget)
      (insertion artifact number) budget seen := by
  have again : 1 < number + 1 := Nat.lt_succ_of_lt later
  refine Sure.connected present.idle ?work ?unconnected
  case unconnected =>
    intro seen fault left others less
    exact ⟨fault.passing.2, less, again, present.stable _ _ others there⟩
  case work =>
    intro seen others
    have there := present.stable _ _ others there
    refine Sure.bind (Sure.query ?own ?answered ?failed)
    case own =>
      intro seen others
      obtain ⟨read, here⟩ := present.stable _ _ others there
      obtain ⟨stored, known, -⟩ := present.known _ _ here
      rw [insert_known known]
      exact ⟨present.idle seen, present.idle seen⟩
    case failed =>
      intro seen delivery fault left others _ _ less
      obtain ⟨read, here⟩ := present.stable _ _ others there
      obtain ⟨stored, known, -⟩ := present.known _ _ here
      rw [after_insert_known known]
      exact ⟨fault.passing.1, less, again, read, here⟩
    case answered =>
      intro seen others
      have there := present.stable _ _ others there
      obtain ⟨read, here⟩ := there
      obtain ⟨stored, known, -⟩ := present.known _ _ here
      rw [insert_known known]
      change Sure _ _ (if number = 1 then _ else _) _ _
      rw [if_neg (Nat.ne_of_gt later)]
      refine Sure.bind (Sure.query (fun seen _ => ⟨present.idle seen, present.idle seen⟩)
        ?found ?unanswered)
      case unanswered =>
        intro seen delivery fault left others _ _ less
        have there := present.stable _ _ others ⟨read, here⟩
        refine ⟨fault.passing.1, less, again, ?_⟩
        cases delivery <;> exact there
      case found =>
        intro seen others
        obtain ⟨read, here⟩ := present.stable _ _ others ⟨read, here⟩
        obtain ⟨stored, known, row⟩ := present.known _ _ here
        rw [byUuid_known known, Database.reading_row row]
        exact ⟨read, here, rfl⟩

theorem sure_insertions (present : Present setting artifact held) {seen : Rows}
    (there : ∃ read, held seen read) (operation : String) (delay : Duration) {number : Nat}
    (positive : 0 < number) (retries : Nat) :
    Sure setting
      (fun outcome _ last => ∃ found, outcome = .ok found ∧ Looks artifact held found last)
      (.ask (.pause delay) fun _ =>
        retryFrom operation delay (insertion artifact) (number + 1) retries) retries seen := by
  intro seen delivery others _ _
  refine ⟨present.idle seen, Sure.retryFrom (Looks artifact held)
    (fun number seen => 1 < number ∧ ∃ read, held seen read) operation delay present.idle ?stable
    ?each (Nat.sub_le _ _) ⟨Nat.succ_lt_succ positive, present.stable _ _ others there⟩⟩
  case stable =>
    rintro number before after others ⟨later, there⟩
    exact ⟨later, present.stable _ _ others there⟩
  case each =>
    rintro number budget seen ⟨later, there⟩
    exact present.sure_insertion there later

end Present

section Known

variable {database : Database} {rows : Rows} {artifact stored : Artifact}

private theorem present_of_known (known : rows.get? artifact.uuid = some stored)
    (kept : database.Keeps stored) :
    Present (.alone database fun _ => True) artifact fun seen read =>
      seen = rows ∧ read = stored where
  idle _ := trivial
  stable := by
    rintro before _ rfl there
    exact there
  known := by
    rintro _ _ ⟨rfl, rfl⟩
    exact ⟨_, known, kept⟩

/-- Whether the first attempt fails: when it asks for a connection, or with its insertion. -/
def firstAttemptFails (schedule : List Delivery) : Bool :=
  (schedule.take 2).any fun delivery => delivery.fault?.isSome

private theorem firstAttemptFails_eq (schedule : List Delivery) : firstAttemptFails schedule =
    ((schedule.headD .answered).fault?.isSome ||
      (schedule.tail.headD .answered).fault?.isSome) := by
  rcases schedule with _ | ⟨first, _ | ⟨second, later⟩⟩ <;>
    simp [firstAttemptFails, Delivery.fault?]

theorem failures_eq (schedule : List Delivery) :
    failures schedule = (schedule.headD .answered).failures + failures schedule.tail := by
  cases schedule <;> rfl

theorem Delivery.failures_of_fault {delivery : Delivery} {fault : Fault}
    (faulty : delivery.fault? = some fault) : delivery.failures = 1 := by
  rw [failures, faulty]
  rfl

private theorem run_connected (work : Attempt α) (schedule : List Delivery) :
    (Attempt.connected work).run database.serve (schedule, rows) =
      match (schedule.headD .answered).fault? with
      | none => work.run database.serve (schedule.tail, rows)
      | some fault => (.error (.pool fault.inPool), schedule.tail, rows) := by
  simp only [Attempt.connected, Program.run, Database.serve, Database.deliver]
  cases (schedule.headD .answered).fault? <;> rfl

private theorem run_insertion (known : rows.get? artifact.uuid = some stored)
    (next : Option Artifact → Attempt α) (schedule : List Delivery) :
    ((Attempt.query (.insert artifact) Reply.artifact?).andThen next).run database.serve
        (schedule, rows) =
      match (schedule.headD .answered).fault? with
      | none => (next none).run database.serve (schedule.tail, rows)
      | some fault => (.error (.statement fault.onConnection), schedule.tail, rows) := by
  simp only [Attempt.andThen, Attempt.query_eq, Program.bind, Program.run, Database.serve,
    Database.deliver, after_insert_known known, insert_known known]
  cases (schedule.headD .answered).fault? <;> rfl

/-- The first attempt finds that the identifier is taken, or it fails for a reason that may
pass. -/
theorem first_insertion (database : Database) (known : rows.get? artifact.uuid = some stored)
    (schedule : List Delivery) :
    (firstAttemptFails schedule = false ∧ ∃ later,
      (insertion artifact 1).run database.serve (schedule, rows) = (.ok none, later, rows)) ∨
    (firstAttemptFails schedule = true ∧ ∃ error later,
      (insertion artifact 1).run database.serve (schedule, rows) = (.error error, later, rows) ∧
        error.isTransient = true ∧ failures later < failures schedule) := by
  rw [firstAttemptFails_eq, failures_eq schedule, insertion, run_connected]
  cases first : (schedule.headD .answered).fault? with
  | some fault =>
    refine .inr ⟨rfl, _, _, rfl, fault.passing.2, ?_⟩
    rw [Delivery.failures_of_fault first]
    omega
  | none =>
    rw [failures_eq schedule.tail]
    simp only [run_insertion known]
    cases second : (schedule.tail.headD .answered).fault? with
    | some fault =>
      refine .inr ⟨rfl, _, _, rfl, fault.passing.1, ?_⟩
      rw [Delivery.failures_of_fault second]
      omega
    | none => exact .inl ⟨rfl, _, rfl⟩

/-- What an insertion and its repetitions find in the row that is there: nothing at the first
attempt, and at a later one the row, if it is what the insertion would write. -/
def foundAgain (schedule : List Delivery) (artifact stored : Artifact) : Option Artifact :=
  if firstAttemptFails schedule then (some stored).filter (isSameInsert artifact) else none

private theorem ending_insertions (config : RetryConfig)
    (known : rows.get? artifact.uuid = some stored) (kept : database.Keeps stored)
    (operation : String) {schedule : List Delivery}
    (bounded : failures schedule ≤ config.maxRetries.toNat) :
    database.ending schedule rows (retry config operation (insertion artifact)) =
      (.ok (foundAgain schedule artifact stored), rows) := by
  unfold retry foundAgain
  rcases first_insertion database known schedule with
    ⟨answered, later, first⟩ | ⟨failed, error, later, first, passing, less⟩
  · rw [answered]
    cases config.maxRetries.toNat <;> exact Database.ending_bind first _
  · obtain ⟨retries, enough⟩ : ∃ retries, config.maxRetries.toNat = retries + 1 :=
      Nat.exists_eq_add_one_of_ne_zero (by omega)
    rw [enough] at bounded ⊢
    rw [failed, retryFrom, Database.ending_bind first]
    simp only [conclude, if_pos passing]
    obtain ⟨-, found, answer, _, ⟨last, rfl⟩, rfl⟩ :=
      ((present_of_known known kept).sure_insertions ⟨_, rfl, rfl⟩ operation config.retryDelay
        Nat.one_pos retries).run trivial (fun _ _ => trivial) (by omega : failures later ≤ retries)
    exact Prod.ext answer last

/-- What is found in the row is answered; when nothing is, the artifact exists already. -/
theorem ending_index {catalog : Sql} (ready : catalog.state = .ready)
    (valid : artifact.validate = .ok ()) (known : rows.get? artifact.uuid = some stored)
    (kept : database.Keeps stored) {schedule : List Delivery}
    (bounded : failures schedule ≤ catalog.retryConfig.maxRetries.toNat) :
    database.ending schedule rows (catalog.run (.index artifact)) =
      (match foundAgain schedule artifact stored with
        | some own => .ok own
        | none => .refuse (.storage (.alreadyExists artifact.uuid)), rows) := by
  rw [run_of_accepted (.index artifact) ready valid]
  refine Database.ending_map (ending_insertions catalog.retryConfig known kept
    (Operation.index artifact).name bounded) ?_
  cases foundAgain schedule artifact stored <;> rfl

/-- On a ready catalog with no more failures than retries, indexing an artifact whose identifier
has a row leaves the rows as they are. It answers that the artifact exists already, unless the first
attempt fails and the row is what the insertion would write; then it answers the row. -/
theorem index_of_known {catalog : Sql} (ready : catalog.state = .ready)
    (valid : artifact.validate = .ok ()) (known : rows.get? artifact.uuid = some stored)
    (kept : database.Keeps stored) {schedule : List Delivery}
    (bounded : failures schedule ≤ catalog.retryConfig.maxRetries.toNat) :
    database.ending schedule rows (catalog.run (.index artifact)) =
      (if firstAttemptFails schedule = true ∧ isSameInsert artifact stored = true then .ok stored
        else .refuse (.storage (.alreadyExists artifact.uuid)), rows) := by
  rw [ending_index ready valid known kept bounded, foundAgain]
  by_cases failed : firstAttemptFails schedule = true
  · by_cases same : isSameInsert artifact stored = true <;>
      simp [failed, same, Option.filter_some]
  · simp [failed]

end Known

/-- A version that is indexed again under the identifier of another exists already, though the first
attempt gets no connection. -/
theorem index_of_known_version :
    let catalog : Sql := ⟨⟨1, Duration.ofSecs 1⟩, none, .ready, none⟩
    let stored := Artifact.make (.ofNat 1) "ns" "au" "http://example.org/" 1
    let artifact := Artifact.make (.ofNat 1) "ns" "au" "http://example.org/" 2
    let rows := OrderedMap.empty.insert stored.uuid stored
    Database.exact.ending [.undelivered .lost] rows (catalog.run (.index artifact)) =
      (.refuse (.storage (.alreadyExists artifact.uuid)), rows) := by
  intro catalog stored artifact rows
  have ready : catalog.state = .ready := rfl
  have valid : artifact.validate = .ok () := rfl
  have known : rows.get? artifact.uuid = some stored := OrderedMap.get?_insert_self ..
  have kept : Database.exact.Keeps stored := Database.exact_keeps (by decide)
  have bounded : failures [.undelivered .lost] ≤ catalog.retryConfig.maxRetries.toNat := by decide
  exact index_of_known ready valid known kept bounded

/-- An artifact that is indexed again, and whose first attempt gets no connection, is answered as if
it had been inserted: the second attempt takes the row that was there for its own. -/
theorem index_answers_row_of_another :
    let catalog : Sql := ⟨⟨1, Duration.ofSecs 1⟩, none, .ready, none⟩
    let artifact := Artifact.make (.ofNat 1) "ns" "au" "http://example.org/" 1
    let rows := OrderedMap.empty.insert artifact.uuid artifact
    let schedule := [.undelivered .lost]
    failures schedule ≤ catalog.retryConfig.maxRetries.toNat ∧
      rows.get? artifact.uuid = some artifact ∧
      (Database.exact.ending schedule rows (catalog.run (.index artifact))).1 = .ok artifact := by
  intro catalog artifact rows schedule
  have ready : catalog.state = .ready := rfl
  have valid : artifact.validate = .ok () := rfl
  have known : rows.get? artifact.uuid = some artifact := OrderedMap.get?_insert_self ..
  have kept : Database.exact.Keeps artifact := Database.exact_keeps (by decide)
  have bounded : failures schedule ≤ catalog.retryConfig.maxRetries.toNat := by decide
  have found : foundAgain schedule artifact artifact = some artifact := rfl
  refine ⟨bounded, known, ?_⟩
  rw [ending_index ready valid known kept bounded, found]

end ArchiveCatalog.Sql
