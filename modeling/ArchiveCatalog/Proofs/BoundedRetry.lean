import ArchiveCatalog.Proofs.LostReplies

namespace ArchiveCatalog.Sql

variable {σ α : Type}

def mayPass : Except AttemptError α → Bool
  | .ok _ => false
  | .error error => error.isTransient

/-- The first result after which no other attempt is of use, counted from zero. -/
def FirstLasting (results : Nat → Except AttemptError α) (place : Nat) : Prop :=
  mayPass (results place) = false ∧ ∀ earlier < place, mayPass (results earlier) = true

/-- What an operation reports of an attempt that failed for good. -/
inductive Reported (operation : String) : AttemptError → Failure → Prop
  /-- A failure that has nothing to do with the database stays as it is. -/
  | unchanged (failure : Failure) : Reported operation (.other failure) failure
  | notUnique (text : String) (constraint : Option String) :
    Reported operation (.statement (.refused AttemptError.uniqueViolation text constraint))
      (.refused (.validation (.constraintViolation (constraint.getD "unique") text)))
  | ofStatement (error : ConnectionError)
    (different : ∀ text constraint, error ≠ .refused AttemptError.uniqueViolation text constraint) :
    Reported operation (.statement error) (.refused (.storage (.database operation error.message)))
  | ofPool (error : PoolError) :
    Reported operation (.pool error) (.refused (.storage (.database operation error.message)))

private theorem reported_toFailure (operation : String) (error : AttemptError) :
    Reported operation error (error.toFailure operation) := by
  cases error with
  | pool error => exact .ofPool error
  | other failure => exact .unchanged failure
  | statement error =>
    cases error with
    | refused code text constraint =>
      by_cases unique : code = AttemptError.uniqueViolation
      · subst unique
        exact .notUnique text constraint
      · rw [AttemptError.toFailure, if_neg unique]
        refine .ofStatement _ fun _ _ same => unique ?_
        cases same
        rfl
    | _ => exact .ofStatement _ fun _ _ same => by cases same

/-- How a repeated attempt ends: with the first lasting result, if so many retries are allowed, and
else with the failure of the last attempt. `states` are those that the attempts leave. -/
structure Repeats (config : RetryConfig) (operation : String)
    (results : Nat → Except AttemptError α) (states : Nat → σ) (ended : Outcome α × σ) : Prop where
  succeeds : ∀ place ≤ config.maxRetries.toNat, FirstLasting results place →
    ∀ value, results place = .ok value → ended = (.ok value, states place)
  fails : ∀ place ≤ config.maxRetries.toNat, FirstLasting results place →
    ∀ error, results place = .error error →
      ∃ failure, Reported operation error failure ∧ ended = (.error failure, states place)
  givesUp : (¬ ∃ place ≤ config.maxRetries.toNat, FirstLasting results place) →
    ∃ error, results config.maxRetries.toNat = .error error ∧
      ended = (.refuse (.storage (.retriesExhausted operation (config.maxRetries + 1).toNat
        error.message)), states config.maxRetries.toNat)

/-- The attempt that follows so many others, with a pause after each of these: its result, and the
state that it leaves. -/
def course (answer : σ → (request : Request) → request.Response × σ) (delay : Duration)
    (attempt : Nat → Attempt α) :
    (number : Nat) → (state : σ) → (place : Nat) → Except AttemptError α × σ
  | number, state, 0 => (attempt number).run answer state
  | number, state, place + 1 =>
    course answer delay attempt (number + 1)
      (answer ((attempt number).run answer state).2 (.pause delay)).2 place

section Course

variable {answer : σ → (request : Request) → request.Response × σ} {delay : Duration}
  {attempt : Nat → Attempt α} {operation : String}

private theorem conclude_of_lasting {onTransient : AttemptError → Program (Outcome α)}
    {result : Except AttemptError α} (lasting : mayPass result = false) :
    conclude operation onTransient result = .done (Attempt.report operation result) :=
  Attempt.conclude_lasting fun error failed => by rwa [failed] at lasting

private theorem conclude_of_passing {onTransient : AttemptError → Program (Outcome α)}
    {result : Except AttemptError α} (passing : mayPass result = true) :
    ∃ error, result = .error error ∧ conclude operation onTransient result = onTransient error := by
  cases result with
  | ok value => cases passing
  | error error => exact ⟨error, rfl, if_pos passing⟩

private theorem run_retryFrom_succ {number retries : Nat} {state : σ}
    (passing : mayPass ((attempt number).run answer state).1 = true) :
    (retryFrom operation delay attempt number (retries + 1)).run answer state =
      (retryFrom operation delay attempt (number + 1) retries).run answer
        (answer ((attempt number).run answer state).2 (.pause delay)).2 := by
  rw [retryFrom, Program.run_bind]
  obtain ⟨error, -, concluded⟩ := conclude_of_passing passing
  rw [concluded]
  rfl

/-- The first lasting result within the retries ends the attempts. -/
theorem run_retryFrom_of_first {number retries place : Nat} {state : σ} (within : place ≤ retries)
    (first : FirstLasting (fun later => (course answer delay attempt number state later).1) place) :
    (retryFrom operation delay attempt number retries).run answer state =
      (Attempt.report operation (course answer delay attempt number state place).1,
        (course answer delay attempt number state place).2) := by
  obtain ⟨lasting, passing⟩ := first
  induction place generalizing number retries state with
  | zero =>
    have ended : mayPass ((attempt number).run answer state).1 = false := lasting
    cases retries <;>
    · rw [retryFrom, Program.run_bind, conclude_of_lasting ended]
      rfl
  | succ place ih =>
    obtain ⟨retries, rfl⟩ := Nat.exists_eq_add_one_of_ne_zero (by omega : retries ≠ 0)
    rw [run_retryFrom_succ (passing 0 (Nat.succ_pos place))]
    exact ih (Nat.le_of_succ_le_succ within) lasting
      fun earlier before => passing (earlier + 1) (Nat.succ_lt_succ before)

/-- When all results up to the last retry may pass, the last one is reported. -/
theorem run_retryFrom_of_passing (operation : String) {number retries : Nat} {state : σ}
    (passing : ∀ place ≤ retries,
      mayPass (course answer delay attempt number state place).1 = true) :
    ∃ error, (course answer delay attempt number state retries).1 = .error error ∧
      (retryFrom operation delay attempt number retries).run answer state =
        (exhausted operation (number + retries) error,
          (course answer delay attempt number state retries).2) := by
  induction retries generalizing number state with
  | zero =>
    have failing : mayPass ((attempt number).run answer state).1 = true := passing 0 (Nat.le_refl 0)
    rw [retryFrom, Program.run_bind]
    obtain ⟨error, failed, concluded⟩ := conclude_of_passing failing
    refine ⟨error, failed, ?_⟩
    rw [concluded]
    rfl
  | succ retries ih =>
    rw [run_retryFrom_succ (passing 0 (Nat.zero_le _))]
    obtain ⟨error, failed, ended⟩ := ih fun place within =>
      passing (place + 1) (Nat.succ_le_succ within)
    refine ⟨error, failed, ended.trans ?_⟩
    rw [Nat.add_right_comm, Nat.add_assoc]
    rfl

end Course

private theorem all_mayPass_of_not_first {results : Nat → Except AttemptError α} {retries : Nat}
    (none : ¬ ∃ place ≤ retries, FirstLasting results place) :
    ∀ place ≤ retries, mayPass (results place) = true := by
  intro place
  induction place using Nat.strongRecOn with
  | ind place ih =>
    intro within
    cases lasting : mayPass (results place) with
    | true => rfl
    | false =>
      exact absurd ⟨place, within, lasting, fun earlier before => ih earlier before (by omega)⟩ none

private theorem repeats_course {config : RetryConfig}
    (counted : config.maxRetries.toNat + 1 < UInt32.size)
    (operation : String) (answer : σ → (request : Request) → request.Response × σ) (state : σ)
    (attempt : Nat → Attempt α) :
    Repeats config operation
      (fun place => (course answer config.retryDelay attempt 1 state place).1)
      (fun place => (course answer config.retryDelay attempt 1 state place).2)
      ((retry config operation attempt).run answer state) where
  succeeds place within first value succeeded := by
    rw [retry, run_retryFrom_of_first within first, succeeded]
    rfl
  fails place within first error failed := by
    refine ⟨_, reported_toFailure operation error, ?_⟩
    rw [retry, run_retryFrom_of_first within first, failed]
    rfl
  givesUp none := by
    obtain ⟨error, failed, ended⟩ :=
      run_retryFrom_of_passing operation (all_mayPass_of_not_first none)
    -- the count of failures is one more than the retries, and the settings keep it within 32 bits
    have attempts : 1 + config.maxRetries.toNat = (config.maxRetries + 1).toNat := by
      rw [UInt32.toNat_add, Nat.add_comm 1]
      exact (Nat.mod_eq_of_lt counted).symm
    rw [attempts, exhausted, if_pos (UInt32.toNat_lt _)] at ended
    exact ⟨error, failed, ended⟩

private theorem retryFrom_congr {operation : String} {delay : Duration}
    {attempt other : Nat → Attempt α}
    {number retries : Nat}
    (same : ∀ later, number ≤ later → later ≤ number + retries → attempt later = other later) :
    retryFrom operation delay attempt number retries =
      retryFrom operation delay other number retries := by
  induction retries generalizing number with
  | zero => simp only [retryFrom, same number (Nat.le_refl _) (Nat.le_refl _)]
  | succ retries ih =>
    have rest : retryFrom operation delay attempt (number + 1) retries =
        retryFrom operation delay other (number + 1) retries :=
      ih fun later after within => same later (by omega) (by omega)
    simp only [retryFrom, same number (Nat.le_refl _) (by omega), rest]

/-- A count of 32 bits that wraps around serves as well to number the attempts of an insertion: only
attempt 2³² has another number then, which is zero, and that is not the first attempt either. It
takes the most retries that settings allow, all of them used up, to come to that attempt. -/
theorem retry_insertion_counted (config : RetryConfig) (operation : String) (artifact : Artifact) :
    retry config operation (insertion artifact) =
      retry config operation fun number => insertion artifact (UInt32.ofNat number).toNat := by
  apply retryFrom_congr
  intro number positive within
  have bound : config.maxRetries.toNat < UInt32.size := config.maxRetries.toNat_lt
  have first : number = 1 ↔ (UInt32.ofNat number).toNat = 1 := by
    rw [UInt32.size] at bound
    rw [UInt32.toNat_ofNat']
    omega
  simp only [insertion, first]

/-- How many connections were asked for, and which pauses were made. -/
structure Tally where
  attempts : Nat
  pauses : List Duration

/-- Keep the tally. Every connection that is asked for is there, and nothing else is served. -/
def Tally.answer (tally : Tally) : (request : Request) → request.Response × Tally
  | .acquire => (.ok (), { tally with attempts := tally.attempts + 1 })
  | .pause duration => ((), { tally with pauses := duration :: tally.pauses })
  | .query _ => (.error .closed, tally)
  | .script _ => (.error .closed, tally)
  | .close => ((), tally)
  | .poolSize => (0, tally)

/-- Attempts that ask for a connection and end with the results of a sequence, one after another. -/
def scripted (results : Nat → Except AttemptError α) (number : Nat) : Attempt α :=
  .ask .acquire fun _ => .done (results (number - 1))

private theorem course_scripted (results : Nat → Except AttemptError α) (delay : Duration)
    (number place : Nat) (tally : Tally) :
    course Tally.answer delay (scripted results) (number + 1) tally place =
      (results (number + place),
        ⟨tally.attempts + place + 1, List.replicate place delay ++ tally.pauses⟩) := by
  induction place generalizing number tally with
  | zero => rfl
  | succ place ih =>
    have next : (Tally.answer ((scripted results (number + 1)).run Tally.answer tally).2
        (.pause delay)).2 = ⟨tally.attempts + 1, delay :: tally.pauses⟩ := rfl
    have here : number + 1 + place = number + (place + 1) := by omega
    have count : tally.attempts + 1 + place + 1 = tally.attempts + (place + 1) + 1 := by omega
    rw [course, next, ih, here, count, List.replicate_succ', List.append_assoc]
    rfl

/-- With fewer retries than a count of 32 bits can hold, and for every sequence of results: a
repeated attempt is made until the first result that is not a failure which may pass, if it comes
within the retries, and else once more often than there are retries. Between any two attempts there
is the pause of the settings, and nothing follows the last attempt. The outcome is the value or the
failure of the first lasting result, or that the retries are used up. So it is with attempts that
ask anything of any surroundings, whose results are those of the course that the attempts take. -/
theorem retry_bounded (config : RetryConfig) (counted : config.maxRetries.toNat + 1 < UInt32.size)
    (operation : String) :
    (∀ results : Nat → Except AttemptError α,
      Repeats config operation results
        (fun place => ⟨place + 1, List.replicate place config.retryDelay⟩)
        ((retry config operation (scripted results)).run Tally.answer ⟨0, []⟩)) ∧
    ∀ (σ : Type) (answer : σ → (request : Request) → request.Response × σ) (state : σ)
      (attempt : Nat → Attempt α),
      Repeats config operation
        (fun place => (course answer config.retryDelay attempt 1 state place).1)
        (fun place => (course answer config.retryDelay attempt 1 state place).2)
        ((retry config operation attempt).run answer state) := by
  refine ⟨fun results => ?_, fun σ => repeats_course counted operation⟩
  have repeats := repeats_course counted operation Tally.answer ⟨0, []⟩ (scripted results)
  simpa only [course_scripted results config.retryDelay 0, Nat.zero_add, List.append_nil]
    using repeats

/-- With two retries, a third attempt that succeeds is answered, and a third one that fails is the
last. -/
theorem retry_bounded_of_two_retries :
    let config : RetryConfig := ⟨2, Duration.ofSecs 1⟩
    let late : Except AttemptError Nat := .error (.pool .timeout)
    let pauses := [Duration.ofSecs 1, Duration.ofSecs 1]
    (retry config "count" (scripted fun place => if place < 2 then late else .ok 7)).run
        Tally.answer ⟨0, []⟩ = (.ok 7, ⟨3, pauses⟩) ∧
      (retry config "count" (scripted fun _ => late)).run Tally.answer ⟨0, []⟩ =
        (.refuse (.storage (.retriesExhausted "count" 3 (AttemptError.pool .timeout).message)),
          ⟨3, pauses⟩) := by
  intro config late pauses
  obtain ⟨ofResults, -⟩ := retry_bounded (α := Nat) config (by decide) "count"
  constructor
  · have first : FirstLasting (fun place => if place < 2 then late else .ok 7) 2 := ⟨rfl, by decide⟩
    exact (ofResults _).succeeds 2 (by decide) first 7 rfl
  · have never : ¬ ∃ place ≤ config.maxRetries.toNat, FirstLasting (fun _ => late) place := by
      rintro ⟨place, -, lasting, -⟩
      cases lasting
    obtain ⟨error, failed, ended⟩ := (ofResults fun _ => late).givesUp never
    obtain rfl : AttemptError.pool .timeout = error := Except.error.inj failed
    exact ended

end ArchiveCatalog.Sql
