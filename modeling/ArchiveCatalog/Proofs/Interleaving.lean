import ArchiveCatalog.Proofs.LostReplies
import Mathlib.Logic.Function.Basic
import Mathlib.Logic.Relation

namespace ArchiveCatalog.Sql

/-- Programs that share the rows of a database. -/
structure System (ι α : Type) where
  rows : Rows
  programs : ι → Program α

/-- The next request of a client, and what becomes of it. -/
structure Turn (ι : Type) where
  client : ι
  delivery : Delivery

section Turns

variable {ι α : Type} [DecidableEq ι]

def deliveries (client : ι) (turns : List (Turn ι)) : List Delivery :=
  (turns.filter fun turn => turn.client = client).map Turn.delivery

namespace System

/-- Let a client take its turn; one that has ended does nothing. -/
def turn (database : Database) (system : System ι α) (turn : Turn ι) : System ι α :=
  match system.programs turn.client with
  | .done _ => system
  | .ask request next =>
    let (response, rows) := database.deliver system.rows turn.delivery request
    ⟨rows, Function.update system.programs turn.client (next response)⟩

def run (database : Database) (system : System ι α) (turns : List (Turn ι)) : System ι α :=
  turns.foldl (turn database) system

end System

theorem deliveries_self (turn : Turn ι) (later : List (Turn ι)) :
    deliveries turn.client (turn :: later) = turn.delivery :: deliveries turn.client later := by
  simp [deliveries]

theorem deliveries_other {client : ι} {turn : Turn ι} (other : client ≠ turn.client)
    (later : List (Turn ι)) : deliveries client (turn :: later) = deliveries client later := by
  simp [deliveries, other.symm]

private theorem failures_deliveries_le (client : ι) (turn : Turn ι) (later : List (Turn ι)) :
    failures (deliveries client later) ≤ failures (deliveries client (turn :: later)) := by
  by_cases same : client = turn.client
  · subst same
    rw [deliveries_self, failures]
    exact Nat.le_add_left _ _
  · exact Nat.le_of_eq (congrArg failures (deliveries_other same later).symm)

end Turns

/-- The circumstances of one client among clients that may change the rows in their own ways. -/
def Circumstances.among {ι : Type} (database : Database) (changes : ι → Rows → Rows → Prop)
    (client : ι) : Circumstances where
  database
  others := Relation.ReflTransGen fun before after =>
    ∃ other, other ≠ client ∧ changes other before after
  own := changes client
  occurs _ := True

section Sure

variable {ι α : Type} {database : Database} {changes : ι → Rows → Rows → Prop}

theorem kept_among {client : ι} (holds : Rows → Prop)
    (step : ∀ other before after, other ≠ client → changes other before after → holds before →
      holds after) {before after : Rows}
    (others : (Circumstances.among database changes client).others before after)
    (held : holds before) : holds after := by
  induction others with
  | refl => exact held
  | tail _ last ih =>
    obtain ⟨other, different, changed⟩ := last
    exact step other _ _ different changed ih

/-- With fewer failures left a program is still sure of an end that does not count them. -/
theorem Sure.fewer {setting : Circumstances} {post : α → Rows → Prop} {program : Program α}
    {budget left : Nat} {rows : Rows}
    (sure : Sure setting (fun value _ last => post value last) program budget rows)
    (fewer : left ≤ budget) :
    Sure setting (fun value _ last => post value last) program left rows := by
  induction program generalizing budget left rows with
  | done value => exact sure
  | ask request next ih =>
    intro seen delivery others occurs within
    obtain ⟨own, rest⟩ := sure seen delivery others occurs (Nat.le_trans within fewer)
    exact ⟨own, ih _ rest (Nat.sub_le_sub_right fewer _)⟩

/-- A program is still sure of its end after another client has changed the rows. -/
theorem Sure.after_other {client other : ι} {post : α → Rows → Prop} {program : Program α}
    {budget : Nat} {before after : Rows}
    (stable : ∀ value before after, changes other before after → post value before →
      post value after)
    (sure : Sure (.among database changes client) (fun value _ last => post value last) program
      budget before)
    (different : other ≠ client) (changed : changes other before after) :
    Sure (.among database changes client) (fun value _ last => post value last) program budget
      after := by
  cases program with
  | done value => exact stable value before after changed sure
  | ask request next =>
    intro seen delivery others occurs within
    exact sure seen delivery (.head ⟨other, different, changed⟩ others) occurs within

namespace System

variable [DecidableEq ι] {post : ι → α → Rows → Prop}

/-- Every client is sure of its end, with the failures that are still to come for it. -/
def AllSure (database : Database) (changes : ι → Rows → Rows → Prop)
    (post : ι → α → Rows → Prop) (system : System ι α) (turns : List (Turn ι)) : Prop :=
  ∀ client, Sure (.among database changes client) (fun value _ last => post client value last)
    (system.programs client) (failures (deliveries client turns)) system.rows

/-- A turn leaves all clients sure of their ends. -/
theorem AllSure.turn {system : System ι α} {turn : Turn ι} {later : List (Turn ι)}
    (stable : ∀ client other value before after, other ≠ client → changes other before after →
      post client value before → post client value after)
    (sure : AllSure database changes post system (turn :: later)) :
    AllSure database changes post (system.turn database turn) later := by
  intro client
  unfold System.turn
  split
  case h_1 value ended =>
    exact (sure client).fewer (failures_deliveries_le client turn later)
  case h_2 request next asked =>
    have moving := sure turn.client
    rw [asked, deliveries_self, failures] at moving
    obtain ⟨changed, rest⟩ := moving system.rows turn.delivery .refl trivial (Nat.le_add_right _ _)
    rw [Nat.add_sub_cancel_left] at rest
    by_cases same : client = turn.client
    · subst same
      simp only [Function.update_self]
      exact rest
    · have other := sure client
      rw [deliveries_other same] at other
      simp only [Function.update_of_ne same]
      exact other.after_other
        (fun value before after => stable client _ value before after (Ne.symm same))
        (Ne.symm same) changed

/-- After all turns every client is still sure of its end. -/
theorem AllSure.run {system : System ι α} {turns : List (Turn ι)}
    (stable : ∀ client other value before after, other ≠ client → changes other before after →
      post client value before → post client value after)
    (sure : AllSure database changes post system turns) :
    AllSure database changes post (system.run database turns) [] := by
  induction turns generalizing system with
  | nil => exact sure
  | cons turn later ih => exact ih (sure.turn stable)

theorem AllSure.ended {system : System ι α} {turns : List (Turn ι)}
    (sure : AllSure database changes post system turns) {client : ι} {value : α}
    (ended : system.programs client = .done value) : post client value system.rows := by
  have last := sure client
  rwa [ended] at last

end System

end Sure

/-- A program ends within a number of requests, whatever the responses are. -/
def Program.Within : Program α → Nat → Prop
  | .done _, _ => True
  | .ask _ _, 0 => False
  | .ask _ next, bound + 1 => ∀ response, (next response).Within bound

namespace Program.Within

theorem mono {program : Program α} {bound more : Nat} (within : program.Within bound)
    (atLeast : bound ≤ more) : program.Within more := by
  induction program generalizing bound more with
  | done value => trivial
  | ask request next ih =>
    cases bound with
    | zero => exact within.elim
    | succ bound =>
      obtain ⟨more, rfl⟩ := Nat.exists_eq_add_of_lt atLeast
      exact fun response => ih response (within response) (by omega)

theorem bind {program : Program α} {next : α → Program β} {first second : Nat}
    (within : program.Within first) (continues : ∀ value, (next value).Within second) :
    (program.bind next).Within (first + second) := by
  induction program generalizing first with
  | done value => exact (continues value).mono (Nat.le_add_left _ _)
  | ask request rest ih =>
    cases first with
    | zero => exact within.elim
    | succ first =>
      rw [Nat.succ_add]
      exact fun response => ih response (within response)

private theorem exists_done {program : Program α} (within : program.Within 0) :
    ∃ value, program = .done value := by
  cases program with
  | done value => exact ⟨value, rfl⟩
  | ask request next => exact within.elim

end Program.Within

theorem within_query (query : Query) (reader : Reply → Except ConnectionError α) :
    (Attempt.query query reader).Within 1 := by
  rw [Attempt.query_eq]
  exact fun _ => trivial

theorem within_connected {work : Attempt α} {bound : Nat} (within : work.Within bound) :
    (Attempt.connected work).Within (bound + 1)
  | .ok () => within
  | .error _ => trivial

theorem within_andThen {attempt : Attempt α} {next : α → Attempt β} {first second : Nat}
    (within : attempt.Within first) (continues : ∀ value, (next value).Within second) :
    (attempt.andThen next).Within (first + second) := by
  refine within.bind fun result => ?_
  cases result with
  | ok value => exact continues value
  | error error => trivial

private theorem within_conclude {onTransient : AttemptError → Program (Outcome α)} {bound : Nat}
    (operation : String) (again : ∀ error, (onTransient error).Within bound)
    (result : Except AttemptError α) : (conclude operation onTransient result).Within bound := by
  cases result with
  | ok value => trivial
  | error error =>
    simp only [conclude]
    split
    · exact again error
    · trivial

/-- Each attempt is followed by at most one pause. -/
theorem within_retryFrom {attempt : Nat → Attempt α} {bound : Nat} (operation : String)
    (delay : Duration) (each : ∀ number, (attempt number).Within bound) (number retries : Nat) :
    (retryFrom operation delay attempt number retries).Within ((bound + 1) * (retries + 1)) := by
  induction retries generalizing number with
  | zero =>
    rw [Nat.zero_add, Nat.mul_one]
    exact (each number).bind (within_conclude operation fun _ => trivial)
  | succ retries ih =>
    have more : (bound + 1) * (retries + 1 + 1) = bound + ((bound + 1) * (retries + 1) + 1) := by
      rw [Nat.mul_succ]
      omega
    rw [more]
    exact (each number).bind (within_conclude operation fun _ _ => ih (number + 1))

namespace System

variable {ι α : Type} [DecidableEq ι]

private theorem within_turn {database : Database} {system : System ι α} {turn : Turn ι}
    {later : List (Turn ι)} {client : ι} {more : Nat}
    (within : (system.programs client).Within
      (more + (deliveries client (turn :: later)).length)) :
    ((system.turn database turn).programs client).Within
      (more + (deliveries client later).length) := by
  by_cases same : client = turn.client
  · subst same
    rw [deliveries_self, List.length_cons, ← Nat.add_assoc] at within
    unfold System.turn
    split
    case h_1 value ended => simp only [ended, Program.Within]
    case h_2 request next asked =>
      rw [asked] at within
      simp only [Function.update_self]
      exact within _
  · rw [deliveries_other same] at within
    unfold System.turn
    split
    case h_1 => exact within
    case h_2 => simpa only [Function.update_of_ne same] using within

/-- A client that takes as many turns as it may have requests has ended. -/
theorem ended_of_within {database : Database} {system : System ι α} {turns : List (Turn ι)}
    {client : ι} (within : (system.programs client).Within (deliveries client turns).length) :
    ∃ value, (system.run database turns).programs client = .done value := by
  induction turns generalizing system with
  | nil => exact within.exists_done
  | cons turn later ih =>
    rw [← Nat.zero_add (List.length _)] at within
    exact ih (Nat.zero_add (List.length _) ▸ within_turn within)

end System

end ArchiveCatalog.Sql
