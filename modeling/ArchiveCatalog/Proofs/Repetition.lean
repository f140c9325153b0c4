import ArchiveCatalog.Proofs.LiveArtifacts
import ArchiveCatalog.Proofs.LostReplies

namespace ArchiveCatalog.Sql

/-- A database replies to a query or refuses it for good, and does so again, without any further
change, when the query is repeated. -/
structure Database.Repeatable (database : Database) (query : Query) : Prop where
  lasting : ∀ rows, Lasting ConnectionError.isTransient (database.execute rows query).1
  again : ∀ rows,
    database.execute (database.execute rows query).2 query = database.execute rows query

private theorem Database.update_again (database : Database) (rows : Rows) (uuid : Uuid)
    {change : Artifact → Artifact}
    (settled : ∀ artifact, change (change artifact) = change artifact) :
    database.update (database.update rows uuid change).2 uuid change =
      database.update rows uuid change := by
  cases known : rows.get? uuid with
  | none => simp only [update, known]
  | some artifact =>
    simp only [update, known, OrderedMap.get?_insert_self, settled]
    rw [OrderedMap.insert_insert]

private theorem Database.update_lasting (database : Database) (rows : Rows) (uuid : Uuid)
    (change : Artifact → Artifact) :
    Lasting ConnectionError.isTransient (database.update rows uuid change).1 := by
  unfold update
  split <;> exact .ok _ _

/-- Whether a query does not show that it was carried out before. -/
def Query.isSteady : Query → Bool
  | .insert _ => false
  | .delete _ => false
  | _ => true

theorem Database.repeatable (database : Database) {query : Query} (steady : query.isSteady = true) :
    database.Repeatable query := by
  cases query with
  | insert artifact => cases steady
  | delete uuid => cases steady
  | commit uuid =>
    exact ⟨fun rows => database.update_lasting rows uuid _,
      fun rows => database.update_again rows uuid fun _ => rfl⟩
  | relocate uuid storageUrl =>
    exact ⟨fun rows => database.update_lasting rows uuid _,
      fun rows => database.update_again rows uuid fun _ => rfl⟩
  | byUuid uuid => exact ⟨fun rows => .ok _ _, fun rows => rfl⟩
  | _ => exact ⟨fun rows => database.lasting rows _, fun rows => rfl⟩

namespace Lasting

theorem bind {passes : ε → Bool} {result : Except ε α} {next : α → Except ε β}
    (first : Lasting passes result) (later : ∀ value, Lasting passes (next value)) :
    Lasting passes (result >>= next) := by
  cases result with
  | error failure => exact error (first failure rfl)
  | ok value => exact later value

theorem map {passes : ε → Bool} {result : Except ε α} (lasting : Lasting passes result)
    (change : α → β) : Lasting passes (result.map change) := by
  cases result with
  | error failure => exact error (lasting failure rfl)
  | ok value => exact ok passes _

theorem mapM {passes : ε → Bool} {reader : β → Except ε α}
    (each : ∀ item, Lasting passes (reader item)) (items : List β) :
    Lasting passes (items.mapM reader) := by
  induction items with
  | nil => exact ok passes []
  | cons item rest ih =>
    rw [List.mapM_cons]
    exact (each item).bind fun _ => ih.bind fun _ => ok passes _

theorem read (row : Row) (column : Nat) (reader : Cell → Option α) :
    Lasting ConnectionError.isTransient (row.read column reader) := by
  unfold Row.read
  split
  · exact ok _ _
  · exact error rfl

theorem artifact (row : Row) : Lasting ConnectionError.isTransient row.artifact := by
  unfold Row.artifact
  iterate 10 refine (read row _ _).bind fun _ => ?_
  exact ok _ _

theorem totals (row : Row) : Lasting ConnectionError.isTransient row.totals :=
  (read row 0 _).bind fun _ => (read row 1 _).bind fun _ => ok _ _

theorem atMostOne (reply : Reply) : Lasting ConnectionError.isTransient reply.atMostOne := by
  unfold Reply.atMostOne
  split
  · exact ok _ _
  · exact ok _ _
  · exact error rfl

theorem exactlyOne (reply : Reply) : Lasting ConnectionError.isTransient reply.exactlyOne := by
  unfold Reply.exactlyOne
  split
  · exact ok _ _
  · exact error rfl

theorem artifact? (reply : Reply) : Lasting ConnectionError.isTransient reply.artifact? := by
  refine (atMostOne reply).bind fun found => ?_
  cases found with
  | none => exact ok _ _
  | some row => exact (artifact row).bind fun _ => ok _ _

theorem artifacts (reply : Reply) : Lasting ConnectionError.isTransient reply.artifacts :=
  mapM artifact reply.rows

theorem texts (reply : Reply) : Lasting ConnectionError.isTransient reply.texts :=
  mapM (fun row => read row 0 _) reply.rows

/-- A refusal, and what cannot be read of a reply, fails the attempt for good. -/
theorem reading {α : Type} {reader : Reply → Except ConnectionError α}
    {response : Except ConnectionError Reply}
    (responds : Lasting ConnectionError.isTransient response)
    (lasting : ∀ reply, Lasting ConnectionError.isTransient (reader reply)) :
    Lasting AttemptError.isTransient (Attempt.reading reader response) := by
  have read : Lasting ConnectionError.isTransient (response.bind reader) := responds.bind lasting
  rw [Attempt.reading]
  cases result : response.bind reader with
  | ok value => exact ok _ value
  | error failure => exact error (read failure result)

end Lasting

variable (database : Database) (config : RetryConfig)

/-- A repeated statement ends as it does when it is carried out once. -/
theorem sure_statement (operation : Operation) {query : Query}
    {reader : Reply → Except ConnectionError α} (repeatable : database.Repeatable query)
    (lasting : ∀ reply, Lasting ConnectionError.isTransient (reader reply)) (rows : Rows) :
    Sure (.alone database fun _ => True)
      (fun outcome _ last =>
        outcome = Attempt.report operation.name
          (Attempt.reading reader (database.execute rows query).1) ∧
        last = (database.execute rows query).2)
      (statement config operation query reader) config.maxRetries.toNat rows := by
  unfold statement retry
  -- Before each attempt the statement has been carried out, once or several times, or not at all.
  refine Sure.mono (Sure.retryFrom_settles
    (fun result last => result = Attempt.reading reader (database.execute rows query).1 ∧
      last = (database.execute rows query).2)
    (fun _ seen => seen = rows ∨ seen = (database.execute rows query).2)
    _ _ (fun _ => trivial) ?stable ?each (Nat.le_refl _) (.inl rfl)) ?reported
  case reported =>
    rintro outcome left last ⟨result, rfl, rfl, rfl⟩
    exact ⟨rfl, rfl⟩
  case stable =>
    rintro number before _ rfl known
    exact known
  case each =>
    intro number budget current known
    have same : database.execute current query = database.execute rows query := by
      rcases known with rfl | rfl
      · rfl
      · exact repeatable.again rows
    refine Sure.sole_query ?answered
      (fun error _ passing less => .inr ⟨error, rfl, passing, less, known⟩)
      (fun error _ _ _ passing less =>
        .inr ⟨error, rfl, passing, less, .inr (congrArg Prod.snd same)⟩)
    case answered =>
      rw [same]
      exact .inl ⟨(repeatable.lasting rows).reading lasting, rfl, rfl⟩

/-- A program ends with one value and one set of rows, whatever fails within its budget. -/
def Steadfast (program : Program α) (budget : Nat) (rows : Rows) : Prop :=
  ∃ value last, Sure (.alone database fun _ => True)
    (fun ended _ left => ended = value ∧ left = last) program budget rows

theorem Steadfast.map {database : Database} {program : Program α} {next : α → Program β}
    {budget : Nat} {rows : Rows} (steadfast : Steadfast database program budget rows)
    (ends : ∀ value, ∃ result, next value = .done result) :
    Steadfast database (program.bind next) budget rows := by
  obtain ⟨value, last, sure⟩ := steadfast
  obtain ⟨result, ended⟩ := ends value
  refine ⟨result, last, Sure.bind (sure.mono ?_)⟩
  rintro _ left _ ⟨rfl, rfl⟩
  rw [ended]
  exact ⟨rfl, rfl⟩

/-- A program that runs alone ends on every schedule as on the one without failures. -/
theorem Steadfast.ending_eq {database : Database} {program : Program α} {budget : Nat}
    {rows : Rows} (steadfast : Steadfast database program budget rows) {schedule : List Delivery}
    (bounded : failures schedule ≤ budget) :
    database.ending schedule rows program = database.ending [] rows program := by
  obtain ⟨value, last, sure⟩ := steadfast
  have faultless : failures [] ≤ budget := Nat.zero_le budget
  obtain ⟨-, answer, left⟩ := sure.run trivial (fun _ _ => trivial) bounded
  obtain ⟨-, plainAnswer, plainLeft⟩ := sure.run trivial (fun _ _ => trivial) faultless
  exact Prod.ext (answer.trans plainAnswer.symm) (left.trans plainLeft.symm)

theorem steadfast_statement (operation : Operation) {query : Query}
    {reader : Reply → Except ConnectionError α} (repeatable : database.Repeatable query)
    (lasting : ∀ reply, Lasting ConnectionError.isTransient (reader reply)) (rows : Rows) :
    Steadfast database (statement config operation query reader) config.maxRetries.toNat rows :=
  ⟨_, _, sure_statement database config operation repeatable lasting rows⟩

/-- Every operation but an insertion and a deletion is steadfast. -/
theorem steadfast_perform (store : Option DataStore) (operation : Operation)
    (inserts : ∀ artifact, operation ≠ .index artifact) (deletes : ∀ uuid, operation ≠ .delete uuid)
    (rows : Rows) :
    Steadfast database (perform config store operation) config.maxRetries.toNat rows := by
  cases operation with
  | index artifact => exact absurd rfl (inserts artifact)
  | delete uuid => exact absurd rfl (deletes uuid)
  | commit | find | latest | version =>
    exact steadfast_statement database config _ (database.repeatable rfl)
      Lasting.artifact? rows
  | contains uuid =>
    exact steadfast_statement database config _ (database.repeatable rfl)
      (fun reply => (Lasting.artifact? reply).map _) rows
  | relocate uuid storageUrl =>
    refine (steadfast_statement database config _ (database.repeatable rfl)
      Lasting.artifact? rows).map fun outcome => ?_
    split <;> exact ⟨_, rfl⟩
  | namespaces | auIds =>
    exact steadfast_statement database config _ (database.repeatable rfl)
      Lasting.texts rows
  | listLatest | listAll | listUrl | searchLatest | searchAll | acrossAusByUrl | acrossAusByStart =>
    exact steadfast_statement database config _ (database.repeatable rfl)
      Lasting.artifacts rows
  | auSize ns auid =>
    refine (steadfast_statement database config (.auSize ns auid)
      (database.repeatable rfl)
      (fun reply => (Lasting.exactlyOne reply).bind Lasting.totals) rows).map fun outcome => ?_
    split <;> exact ⟨_, rfl⟩

private theorem Database.reading_cases (artifact : Artifact) :
    (∃ read, Attempt.reading Reply.artifact? (.ok (database.reply (some artifact))) =
      .ok (some read)) ∨
    ∃ error, Attempt.reading Reply.artifact? (.ok (database.reply (some artifact))) =
      .error (.statement error) := by
  simp only [Attempt.reading, Except.bind, Reply.artifact?, Reply.atMostOne, Database.reply,
    Option.map_some, Option.toList_some]
  simp only [bind, Except.bind]
  cases (database.row artifact).artifact with
  | ok read => exact .inl ⟨read, rfl⟩
  | error error => exact .inr ⟨error, rfl⟩

private theorem toFailure_statement_ne (operation : String) (error : ConnectionError)
    (uuid : Uuid) :
    (AttemptError.statement error).toFailure operation ≠ .refused (.storage (.notFound uuid)) := by
  cases error with
  | refused code text constraint =>
    simp only [AttemptError.toFailure]
    split <;> simp
  | _ => simp [AttemptError.toFailure]

/-- An artifact that is to be moved is not found exactly if there is no row of it. -/
theorem sure_relocate (store : Option DataStore) (uuid : Uuid) (storageUrl : String)
    (rows : Rows) :
    Sure (.alone database fun _ => True)
      (fun outcome _ _ => outcome = .refuse (.storage (.notFound uuid)) ↔ rows.get? uuid = none)
      (perform config store (.relocate uuid storageUrl)) config.maxRetries.toNat rows := by
  refine Sure.bind ((sure_statement database config (.relocate uuid storageUrl)
    (database.repeatable rfl) Lasting.artifact? rows).mono ?_)
  rintro _ left last ⟨rfl, -⟩
  cases known : rows.get? uuid with
  | none =>
    simp only [Database.execute, Database.update, known]
    exact ⟨fun _ => trivial, fun _ => rfl⟩
  | some artifact =>
    simp only [Database.execute, Database.update, known]
    rcases database.reading_cases { artifact with storageUrl } with ⟨read, result⟩ | ⟨error, result⟩
    · rw [result]
      exact ⟨fun missing => (by cases missing), fun unknown => (by cases unknown)⟩
    · rw [result]
      refine ⟨fun failed => ?_, fun unknown => (by cases unknown)⟩
      exact absurd (Except.error.inj failed) (toFailure_statement_ne _ error uuid)

private theorem relocate_accepted_iff (uuid : Uuid) (storageUrl : String) :
    (Operation.relocate uuid storageUrl).checkArguments = .ok () ↔
      uuid ≠ .nil ∧ storageUrl ≠ "" := by
  simp only [Operation.checkArguments]
  rcases requireUuid_cases uuid with ⟨nil, refused⟩ | ⟨named, identified⟩
  · rw [refused]
    exact ⟨fun accepted => (by cases accepted), fun accepted => absurd nil accepted.1⟩
  · rw [identified]
    rcases requireNonEmpty_cases "storage_url" storageUrl with ⟨empty, refused⟩ | ⟨given, located⟩
    · rw [refused]
      exact ⟨fun accepted => (by cases accepted), fun accepted => absurd empty accepted.2⟩
    · rw [located]
      exact ⟨fun _ => ⟨named, given⟩, fun _ => rfl⟩

/-- On a ready catalog every operation but an insertion and a deletion gives the answer, and leaves
the rows, that it would without failures, as long as there are no more failures than retries. An
artifact that is to be moved is not found exactly if the arguments are accepted and it has no
row. -/
theorem answers_despite_failures {catalog : Sql} (ready : catalog.state = .ready) (rows : Rows)
    {schedule : List Delivery}
    (bounded : failures schedule ≤ catalog.retryConfig.maxRetries.toNat) :
    (∀ operation : Operation, (∀ artifact, operation ≠ .index artifact) →
      (∀ uuid, operation ≠ .delete uuid) →
      database.ending schedule rows (catalog.run operation) =
        database.ending [] rows (catalog.run operation)) ∧
    ∀ uuid storageUrl,
      (database.ending schedule rows (catalog.run (.relocate uuid storageUrl))).1 =
          .refuse (.storage (.notFound uuid)) ↔
        uuid ≠ .nil ∧ storageUrl ≠ "" ∧ rows.get? uuid = none := by
  refine ⟨fun operation inserts deletes => ?_, fun uuid storageUrl => ?_⟩
  · cases checked : operation.checkArguments with
    | error error =>
      rw [run_of_refused operation ready checked]
      rfl
    | ok =>
      rw [run_of_accepted operation ready checked]
      exact (steadfast_perform database catalog.retryConfig catalog.dataStore operation inserts
        deletes rows).ending_eq bounded
  · have accepted := relocate_accepted_iff uuid storageUrl
    rw [← and_assoc, ← accepted]
    cases checked : (Operation.relocate uuid storageUrl).checkArguments with
    | error error =>
      rw [run_of_refused _ ready checked]
      exact ⟨fun unknown => (by cases unknown), fun unknown => (by cases unknown.1)⟩
    | ok =>
      rw [run_of_accepted _ ready checked]
      obtain ⟨-, found⟩ := (sure_relocate database catalog.retryConfig catalog.dataStore uuid
        storageUrl rows).run trivial (fun _ _ => trivial) bounded
      exact ⟨fun unknown => ⟨rfl, found.1 unknown⟩, fun unknown => found.2 unknown.2⟩

/-- A commitment whose connection fails and whose reply is then lost ends as one that meets no
failure, and so does a sum that a database refuses because it is out of range. An artifact without a
row is not found. -/
theorem answers_despite_failures_of_lost_reply :
    let catalog : Sql := ⟨⟨2, Duration.ofSecs 1⟩, none, .ready, none⟩
    let artifact := Artifact.make (.ofNat 1) "ns" "au" "http://example.org/" 1
    let rows := OrderedMap.empty.insert artifact.uuid artifact
    let schedule := [.undelivered .lost, .answered, .answered, .unanswered .lost]
    let refusing : Database := { Database.exact with
      read := fun _ _ => .error (.refused "22003" "bigint out of range" none)
      lasting := fun _ _ => .error rfl }
    Database.exact.ending schedule rows (catalog.run (.commit artifact.uuid)) =
        Database.exact.ending [] rows (catalog.run (.commit artifact.uuid)) ∧
      (Database.exact.ending schedule rows (catalog.run (.relocate (.ofNat 2) "file"))).1 =
        .refuse (.storage (.notFound (.ofNat 2))) ∧
      (refusing.ending schedule rows (catalog.run (.auSize "ns" "au"))).1 =
        .refuse (.storage (.database (Operation.auSize "ns" "au").name "db error")) := by
  intro catalog artifact rows schedule refusing
  have ready : catalog.state = .ready := rfl
  have bounded : failures schedule ≤ catalog.retryConfig.maxRetries.toNat := by decide
  obtain ⟨steadfast, unknown⟩ := answers_despite_failures .exact ready rows bounded
  obtain ⟨refused, -⟩ := answers_despite_failures refusing ready rows bounded
  refine ⟨steadfast (.commit artifact.uuid) (by simp) (by simp),
    (unknown (.ofNat 2) "file").2 (by decide), ?_⟩
  rw [refused (.auSize "ns" "au") (by simp) (by simp)]
  rfl

end ArchiveCatalog.Sql
