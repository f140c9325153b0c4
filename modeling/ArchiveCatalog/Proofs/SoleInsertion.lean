import ArchiveCatalog.Proofs.Interleaving
import ArchiveCatalog.Proofs.RecordCodec

/-! The rows change once, when the first of the insertions is carried out. A client that repeats an
insertion learns from the row that is there whether it was the one; at its first attempt it has
inserted nothing yet, and a row that is there is another's. -/

namespace ArchiveCatalog.Sql

private theorem isSameInsert_self (artifact : Artifact) :
    isSameInsert artifact artifact = true := by
  simp [isSameInsert]

/-- Whether a row is the one that an insertion writes does not depend on its being committed. -/
theorem isSameInsert_uncommitted (requested stored : Artifact) :
    isSameInsert requested stored.uncommitted = isSameInsert requested stored := rfl

theorem Database.reading_row {database : Database} {stored read : Artifact}
    (row : (database.row stored).artifact = .ok read) :
    Attempt.reading Reply.artifact? (.ok (database.reply (some stored))) = .ok (some read) := by
  simp only [Attempt.reading, Except.bind, Reply.artifact?, Reply.atMostOne, Database.reply,
    Option.map_some, Option.toList_some]
  simp only [bind, Except.bind, row]
  rfl

theorem Database.Keeps.reading {database : Database} {artifact : Artifact}
    (kept : database.Keeps artifact) :
    Attempt.reading Reply.artifact? (.ok (database.reply (some artifact))) =
      .ok (some artifact) :=
  Database.reading_row kept

theorem Database.exact_row {stored : Artifact} {date : Instant}
    (kept : Instant.ofMicros2000? stored.collectionDate.micros2000 = some date) :
    (exact.row stored).artifact = .ok { stored with collectionDate := date } := by
  simp [exact, Row.artifact, Row.read, Cell.uuid?, Cell.text?, Cell.int32?, Cell.bool?,
    Cell.int64?, Cell.instant?, int32?_toInt, int64?_toInt, kept]
  rfl

/-- A database that sends every field loses nothing but parts of a microsecond. -/
theorem Database.exact_keeps {artifact : Artifact}
    (whole : Instant.ofMicros2000? artifact.collectionDate.micros2000 =
      some artifact.collectionDate) : exact.Keeps artifact :=
  exact_row whole

/-- Clients that index artifacts of their own under one identifier, which has no row yet. -/
structure Contest (ι : Type) where
  database : Database
  rows : Rows
  uuid : Uuid
  artifacts : ι → Artifact
  absent : rows.get? uuid = none
  named : ∀ client, (artifacts client).uuid = uuid
  valid : ∀ client, (artifacts client).validate = .ok ()
  apart : ∀ client other, client ≠ other →
    isSameInsert (artifacts client) (artifacts other) = false
  /-- No row has the position of any of the artifacts. -/
  free : ∀ client, rows.values.any (·.position == (artifacts client).position) = false
  kept : ∀ client, database.Keeps (artifacts client).uncommitted

namespace Contest

variable {ι : Type} (contest : Contest ι)

/-- The artifact of a client as it is stored. -/
def own (client : ι) : Artifact := (contest.artifacts client).uncommitted

def won (client : ι) : Rows := contest.rows.insert contest.uuid (contest.own client)

/-- What a client may do to the rows: insert its artifact, if no client has done so. -/
def mayWin (client : ι) (before after : Rows) : Prop :=
  after = before ∨ before = contest.rows ∧ after = contest.won client

/-- What a client knows of the rows before an attempt: they are as they were, or hold the artifact
of a client; and before its first attempt that is not its own. -/
def Undecided (client : ι) (number : Nat) (seen : Rows) : Prop :=
  0 < number ∧ (seen = contest.rows ∨
    ∃ holder, seen = contest.won holder ∧ (number = 1 → holder ≠ client))

/-- What a client knows after its insertion: whose artifact the rows hold. -/
def Settled (client : ι) (found : Option Artifact) (seen : Rows) : Prop :=
  ∃ holder, seen = contest.won holder ∧
    (holder = client → found = some (contest.own client)) ∧ (holder ≠ client → found = none)

theorem get?_won (client : ι) : (contest.won client).get? contest.uuid =
    some (contest.own client) :=
  OrderedMap.get?_insert_self ..

private theorem won_ne_rows (client : ι) : contest.won client ≠ contest.rows := by
  intro same
  have held := contest.get?_won client
  rw [same, contest.absent] at held
  cases held

/-- The row that is there is a client's own exactly if the client has won. -/
theorem isSameInsert_own [DecidableEq ι] (client holder : ι) :
    isSameInsert (contest.artifacts client) (contest.own holder) = decide (holder = client) := by
  rw [own, isSameInsert_uncommitted]
  by_cases same : holder = client
  · rw [same, isSameInsert_self, decide_eq_true rfl]
  · rw [contest.apart client holder (Ne.symm same), decide_eq_false same]

private theorem won_injective {client other : ι} (same : contest.won client = contest.won other) :
    client = other := by
  classical
  have held : contest.own client = contest.own other :=
    Option.some.inj (by rw [← get?_won, ← get?_won, same])
  have mine := contest.isSameInsert_own client client
  rw [held, contest.isSameInsert_own client other] at mine
  exact (of_decide_eq_true (mine.trans (decide_eq_true rfl))).symm

theorem insert_first (client : ι) :
    contest.database.execute contest.rows (.insert (contest.artifacts client)) =
      (.ok (contest.database.reply (some (contest.own client))), contest.won client) := by
  simp [Database.execute, Database.insert, OrderedMap.contains, contest.named, contest.absent,
    contest.free, won, own]

theorem insert_later (client holder : ι) :
    contest.database.execute (contest.won holder) (.insert (contest.artifacts client)) =
      (.ok (contest.database.reply none), contest.won holder) := by
  simp [Database.execute, Database.insert, OrderedMap.contains, contest.named, get?_won]

private theorem byUuid_won (client holder : ι) :
    contest.database.execute (contest.won holder) (.byUuid (contest.artifacts client).uuid) =
      (.ok (contest.database.reply (some (contest.own holder))), contest.won holder) := by
  simp [Database.execute, contest.named, get?_won]

private theorem mayWin_insert {client : ι} {number : Nat} {seen : Rows}
    (undecided : contest.Undecided client number seen) :
    contest.mayWin client seen
      (contest.database.execute seen (.insert (contest.artifacts client))).2 := by
  rcases undecided.2 with rfl | ⟨holder, rfl, -⟩
  · rw [contest.insert_first]
    exact .inr ⟨rfl, rfl⟩
  · rw [contest.insert_later]
    exact .inl rfl

private theorem undecided_step {client other : ι} {number : Nat} {before after : Rows}
    (different : other ≠ client) (changed : contest.mayWin other before after)
    (undecided : contest.Undecided client number before) :
    contest.Undecided client number after := by
  rcases changed with rfl | ⟨-, rfl⟩
  · exact undecided
  · exact ⟨undecided.1, .inr ⟨other, rfl, fun _ => different⟩⟩

private theorem won_step {holder other : ι} {before after : Rows}
    (changed : contest.mayWin other before after) (held : before = contest.won holder) :
    after = contest.won holder := by
  rcases changed with rfl | ⟨unheld, -⟩
  · exact held
  · exact absurd (held.symm.trans unheld) (contest.won_ne_rows holder)

/-- The circumstances of one client among all. -/
def among (client : ι) : Circumstances := .among contest.database contest.mayWin client

theorem among_database (client : ι) : (contest.among client).database = contest.database := rfl

theorem undecided_among {client : ι} {number : Nat} {before after : Rows}
    (others : (contest.among client).others before after)
    (undecided : contest.Undecided client number before) :
    contest.Undecided client number after :=
  kept_among (contest.Undecided client number)
    (fun _ _ _ different changed known => contest.undecided_step different changed known)
    others undecided

theorem won_among {client holder : ι} {before after : Rows}
    (others : (contest.among client).others before after)
    (held : before = contest.won holder) : after = contest.won holder :=
  kept_among (· = contest.won holder)
    (fun _ _ _ _ changed known => contest.won_step changed known) others held

theorem Undecided.later {contest : Contest ι} {client : ι} {number : Nat} {seen : Rows}
    (undecided : contest.Undecided client number seen) :
    contest.Undecided client (number + 1) seen := by
  obtain ⟨positive, known⟩ := undecided
  refine ⟨Nat.succ_pos _, known.imp_right ?_⟩
  rintro ⟨holder, held, -⟩
  exact ⟨holder, held, fun first => absurd first (by omega)⟩

private theorem undecided_after {client : ι} {number : Nat} {seen : Rows}
    (undecided : contest.Undecided client number seen) (delivery : Delivery) :
    contest.Undecided client (number + 1)
      (contest.database.after seen (.insert (contest.artifacts client)) delivery) := by
  have executed : contest.Undecided client (number + 1)
      (contest.database.execute seen (.insert (contest.artifacts client))).2 := by
    rcases undecided.later with ⟨positive, rfl | ⟨holder, rfl, repeated⟩⟩
    · rw [contest.insert_first]
      have later : 1 < number + 1 := Nat.lt_succ_of_le undecided.1
      exact ⟨positive, .inr ⟨client, rfl, fun first => absurd first (Nat.ne_of_gt later)⟩⟩
    · rw [contest.insert_later]
      exact ⟨positive, .inr ⟨holder, rfl, repeated⟩⟩
  cases delivery with
  | undelivered fault => exact undecided.later
  | answered => exact executed
  | unanswered fault => exact executed

/-- Once the rows hold an artifact, looking at it tells a client whether it is its own. -/
theorem sure_comparison {client holder : ι} {number budget left : Nat} {before : Rows}
    (positive : 0 < number) (fewer : left ≤ budget) (held : before = contest.won holder) :
    Sure (contest.among client)
      (Sure.Ends (contest.Settled client) (contest.Undecided client (number + 1)) budget)
      ((Attempt.query (.byUuid (contest.artifacts client).uuid) Reply.artifact?).andThen
        fun existing => Attempt.ok (existing.filter (isSameInsert (contest.artifacts client))))
      left before := by
  classical
  refine Sure.bind (Sure.query ?own ?answered ?failed)
  case own =>
    intro seen others
    obtain rfl := contest.won_among others held
    rw [among_database, contest.byUuid_won]
    exact ⟨.inl rfl, .inl rfl⟩
  case answered =>
    intro seen others
    obtain rfl := contest.won_among others held
    rw [among_database, contest.byUuid_won, own, (contest.kept holder).reading]
    refine ⟨holder, rfl, fun same => ?_, fun different => ?_⟩ <;>
      rw [Option.filter_some, ← own, contest.isSameInsert_own]
    · subst same
      simp
    · simp [different]
  case failed =>
    intro seen delivery fault rest others _ _ less
    obtain rfl := contest.won_among others held
    refine ⟨fault.passing.1, Nat.lt_of_lt_of_le less fewer, Nat.succ_pos _,
      .inr ⟨holder, ?_, fun first => absurd first (by omega)⟩⟩
    cases delivery <;> rfl

/-- An attempt of a client finds out who holds the row, or uses up a failure and leaves the client
knowing what it needs for the next attempt. -/
theorem sure_insertion {client : ι} {number budget : Nat} {before : Rows}
    (undecided : contest.Undecided client number before) :
    Sure (contest.among client)
      (Sure.Ends (contest.Settled client) (contest.Undecided client (number + 1)) budget)
      (insertion (contest.artifacts client) number) budget before := by
  refine Sure.connected (fun _ => .inl rfl) (fun entered others => ?work) ?unconnected
  case unconnected =>
    intro seen fault left others less
    exact ⟨fault.passing.2, less, (contest.undecided_among others undecided).later⟩
  case work =>
    have undecided := contest.undecided_among others undecided
    refine Sure.bind (Sure.query ?own ?answered ?failed)
    case own =>
      intro seen others
      exact ⟨.inl rfl, contest.mayWin_insert (contest.undecided_among others undecided)⟩
    case failed =>
      intro seen delivery fault left others _ _ less
      exact ⟨fault.passing.1, less,
        contest.undecided_after (contest.undecided_among others undecided) delivery⟩
    case answered =>
      intro seen others
      -- the row is still missing, or the insertion of some client has come first
      rcases contest.undecided_among others undecided with ⟨positive, rfl | ⟨holder, rfl, foreign⟩⟩
      · rw [among_database, contest.insert_first, own, (contest.kept client).reading]
        exact ⟨client, rfl, fun _ => rfl, fun different => absurd rfl different⟩
      · rw [among_database, contest.insert_later]
        change Sure _ _ (if number = 1 then _ else _) _ _
        split
        case isTrue first =>
          exact ⟨holder, rfl, fun same => absurd same (foreign first), fun _ => rfl⟩
        case isFalse =>
          exact contest.sure_comparison positive (Nat.le_refl _) rfl

/-- What a client answers tells whose artifact the rows hold. -/
def Decided (client : ι) (outcome : Outcome Artifact) (last : Rows) : Prop :=
  ∃ holder, last = contest.won holder ∧
    (holder = client → outcome = .ok (contest.own client)) ∧
    (holder ≠ client → outcome = .refuse (.storage (.alreadyExists contest.uuid)))

private theorem sure_index {client : ι} {catalog : Sql} (ready : catalog.state = .ready) :
    Sure (contest.among client) (fun outcome _ last => contest.Decided client outcome last)
      (catalog.run (.index (contest.artifacts client))) catalog.retryConfig.maxRetries.toNat
      contest.rows := by
  rw [run_of_accepted (.index (contest.artifacts client)) ready (contest.valid client)]
  have idle (seen : Rows) : (contest.among client).own seen seen := .inl rfl
  have repeated := Sure.retryFrom (contest.Settled client) (contest.Undecided client)
    (Operation.index (contest.artifacts client)).name catalog.retryConfig.retryDelay idle
    (fun _ _ _ => contest.undecided_among) (fun _ _ _ => contest.sure_insertion)
    (Nat.le_refl catalog.retryConfig.maxRetries.toNat) ⟨Nat.one_pos, .inl rfl⟩
  refine Sure.bind (repeated.mono ?_)
  rintro _ left last ⟨found, rfl, holder, held, mine, foreign⟩
  by_cases same : holder = client
  · obtain rfl := mine same
    exact ⟨holder, held, fun _ => rfl, fun different => absurd same different⟩
  · obtain rfl := foreign same
    refine ⟨holder, held, fun same' => absurd same' same, fun _ => ?_⟩
    rw [contest.named]

private theorem within_insertion (artifact : Artifact) (number : Nat) :
    (insertion artifact number).Within (1 + 1 + 1) := by
  have comparison : ((Attempt.query (.byUuid artifact.uuid) Reply.artifact?).andThen
      fun existing => Attempt.ok (existing.filter (isSameInsert artifact))).Within (1 + 0) :=
    within_andThen (within_query _ _) fun _ => trivial
  refine within_connected (within_andThen (within_query _ _) ?_)
  rintro (_ | stored)
  · change Program.Within (if number = 1 then _ else _) 1
    split
    · trivial
    · exact comparison
  · trivial

/-- A client sends at most four requests for each of its attempts. -/
theorem within_index (catalog : Sql) (artifact : Artifact) :
    (catalog.run (.index artifact)).Within
      (4 * (catalog.retryConfig.maxRetries.toNat + 1) + 0) := by
  rw [Sql.run_eq, guarded]
  split
  case h_1 => trivial
  case h_2 =>
    refine (within_retryFrom (Operation.index artifact).name catalog.retryConfig.retryDelay
      (within_insertion artifact) 1 catalog.retryConfig.maxRetries.toNat).bind fun outcome => ?_
    split <;> trivial

def indexing (catalogs : ι → Sql) : System ι (Outcome Artifact) :=
  ⟨contest.rows, fun client => (catalogs client).run (.index (contest.artifacts client))⟩

/-- Of clients that index different artifacts under one identifier, each on a ready catalog and
with no more failures than retries, exactly one has its artifact inserted and answered. To all
others it exists already. Every client ends after a number of turns, however they alternate. -/
theorem index_has_one_winner [DecidableEq ι] [Nonempty ι] {catalogs : ι → Sql}
    (ready : ∀ client, (catalogs client).state = .ready) {turns : List (Turn ι)}
    (bounded : ∀ client,
      failures (deliveries client turns) ≤ (catalogs client).retryConfig.maxRetries.toNat) :
    let ended := (contest.indexing catalogs).run contest.database turns
    (∀ client, 4 * ((catalogs client).retryConfig.maxRetries.toNat + 1) ≤
        (deliveries client turns).length →
      ∃ outcome, ended.programs client = .done outcome) ∧
    ((∀ client, ∃ outcome, ended.programs client = .done outcome) →
      ∃ winner,
        ended.rows = contest.rows.insert contest.uuid (contest.artifacts winner).uncommitted ∧
        ended.programs winner = .done (.ok (contest.artifacts winner).uncommitted) ∧
        ∀ client, client ≠ winner →
          ended.programs client = .done (.refuse (.storage (.alreadyExists contest.uuid)))) := by
  intro ended
  refine ⟨fun client many => ?_, fun allEnded => ?_⟩
  · exact System.ended_of_within ((within_index _ _).mono many)
  · have sure : System.AllSure contest.database contest.mayWin contest.Decided ended [] := by
      refine System.AllSure.run ?stable fun client =>
        (contest.sure_index (ready client)).fewer (bounded client)
      rintro client other outcome before after - changed ⟨holder, held, decided⟩
      exact ⟨holder, contest.won_step changed held, decided⟩
    have decided (client : ι) : ∃ outcome, ended.programs client = .done outcome ∧
        contest.Decided client outcome ended.rows := by
      obtain ⟨outcome, done⟩ := allEnded client
      exact ⟨outcome, done, sure.ended done⟩
    -- any client knows whose artifact the rows hold, and that is the winner for all
    obtain ⟨-, -, winner, held, -⟩ := decided (Classical.arbitrary ι)
    refine ⟨winner, held, ?_, fun client different => ?_⟩
    · obtain ⟨outcome, done, holder, held', mine, -⟩ := decided winner
      rw [done, mine (contest.won_injective (held'.symm.trans held))]
      rfl
    · obtain ⟨outcome, done, holder, held', -, foreign⟩ := decided client
      obtain rfl := contest.won_injective (held'.symm.trans held)
      rw [done, foreign different.symm]

def ofVersions : Contest Bool where
  database := .exact
  rows := .empty
  uuid := .ofNat 1
  artifacts client := .make (.ofNat 1) "ns" "au" "http://example.org/" (if client then 2 else 1)
  absent := rfl
  named _ := rfl
  valid client := by cases client <;> rfl
  apart client other different := by cases client <;> cases other <;> first | rfl | contradiction
  free _ := rfl
  kept _ := Database.exact_keeps
    (show Instant.ofMicros2000? Instant.epoch.micros2000 = some Instant.epoch by decide)

/-- One of two clients wins when the first loses the reply to its insertion, and takes its next
attempt after the second. -/
theorem index_has_one_winner_of_lost_reply :
    let catalogs : Bool → Sql := fun _ => ⟨⟨1, Duration.ofSecs 1⟩, none, .ready, none⟩
    let turns : List (Turn Bool) := [⟨false, .answered⟩, ⟨false, .unanswered .lost⟩] ++
      List.replicate 8 ⟨true, .answered⟩ ++ List.replicate 8 ⟨false, .answered⟩
    let ended := (ofVersions.indexing catalogs).run ofVersions.database turns
    ∃ winner,
      ended.rows = ofVersions.rows.insert ofVersions.uuid
        (ofVersions.artifacts winner).uncommitted ∧
      ended.programs winner = .done (.ok (ofVersions.artifacts winner).uncommitted) ∧
      ∀ client, client ≠ winner →
        ended.programs client = .done (.refuse (.storage (.alreadyExists ofVersions.uuid))) := by
  intro catalogs turns
  have ready : ∀ client, (catalogs client).state = .ready := fun _ => rfl
  have bounded : ∀ client, failures (deliveries client turns) ≤
      (catalogs client).retryConfig.maxRetries.toNat := by decide
  have many : ∀ client, 4 * ((catalogs client).retryConfig.maxRetries.toNat + 1) ≤
      (deliveries client turns).length := by decide
  have result := ofVersions.index_has_one_winner ready bounded
  generalize (ofVersions.indexing catalogs).run ofVersions.database turns = ended at result ⊢
  exact result.2 fun client => result.1 client (many client)

end Contest

end ArchiveCatalog.Sql
