import ArchiveCatalog.Lifecycle

/-! Callers that wait for a catalog to become ready, on a clock that moves only while one of them is
awaited. It ticks in milliseconds; a deadline falls on the first tick that leaves the whole timeout.
-/

namespace ArchiveCatalog

/-- A caller that waits, with its result once there is one. -/
structure Waiter where
  timeout : Duration
  deadline : Nat
  /-- Whether the catalog that it waits for still exists. -/
  attached : Bool
  result : Option (Except LifecycleError Unit)

namespace Waiter

def verdict (state : State) (clock : Nat) (waiter : Waiter) : Option (Except LifecycleError Unit) :=
  if waiter.attached ∧ state = .ready then some (.ok ())
  else if waiter.attached ∧ state = .stopped then some (.error .stopped)
  else if waiter.deadline ≤ clock then some (.error (.timeout waiter.timeout))
  else none

/-- Look at the state at a time; a result stays. -/
def observe (state : State) (clock : Nat) (waiter : Waiter) : Waiter :=
  if waiter.result.isSome then waiter
  else { waiter with result := waiter.verdict state clock }

end Waiter

/-- The clock and the waiters that are not yet joined, the oldest first. -/
structure Waiters where
  clock : Nat
  queue : List Waiter

namespace Waiters

def start : Waiters := ⟨0, []⟩

def observe (state : State) (waiters : Waiters) : Waiters :=
  { waiters with queue := waiters.queue.map (·.observe state waiters.clock) }

def begin (waiters : Waiters) (timeout : Duration) : Waiter :=
  ⟨timeout, waiters.clock + timeout.millisUp, true, none⟩

def spawn (state : State) (timeout : Duration) (waiters : Waiters) : Waiters :=
  observe state { waiters with queue := waiters.queue ++ [waiters.begin timeout] }

/-- Await one waiter: its result, and the waiters after the time that this takes. -/
def await (state : State) (waiter : Waiter) (waiters : Waiters) :
    Except LifecycleError Unit × Waiters :=
  match (waiter.observe state waiters.clock).result with
  | some result => (result, waiters)
  | none =>
    (.error (.timeout waiter.timeout),
      observe state { waiters with clock := max waiters.clock waiter.deadline })

def wait (state : State) (timeout : Duration) (waiters : Waiters) :
    Except LifecycleError Unit × Waiters :=
  await state (waiters.begin timeout) waiters

def join? (state : State) (waiters : Waiters) : Option (Except LifecycleError Unit × Waiters) :=
  match waiters.queue with
  | [] => none
  | waiter :: rest => some (await state waiter { waiters with queue := rest })

/-- The catalog ceases to exist; only time can end the waiters that are left. -/
def detach (waiters : Waiters) : Waiters :=
  { waiters with queue := waiters.queue.map fun waiter => { waiter with attached := false } }

end Waiters

/-- Something with a life of its own, and those who wait for it. -/
structure Watched (σ : Type) where
  subject : σ
  waiters : Waiters

namespace Watched

def step (stateOf : σ → State) (act : σ → α × σ) (watched : Watched σ) : α × Watched σ :=
  let (answer, subject) := act watched.subject
  (answer, ⟨subject, watched.waiters.observe (stateOf subject)⟩)

def replace (subject : σ) (watched : Watched σ) : Watched σ :=
  ⟨subject, watched.waiters.detach⟩

end Watched

end ArchiveCatalog
