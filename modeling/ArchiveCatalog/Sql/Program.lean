import ArchiveCatalog.Config
import ArchiveCatalog.Sql.Reply
import ArchiveCatalog.Sql.Statement

/-! Work on a database as a tree of requests. Nothing is said of who answers, so what a catalog does
against any server and under any faults is a statement on its programs. -/

namespace ArchiveCatalog.Sql

/-- What a program asks of its surroundings. -/
inductive Request where
  /-- A connection, on which the queries and scripts that follow are run. -/
  | acquire
  | query (query : Query)
  | script (script : Script)
  /-- Let some time pass. -/
  | pause (duration : Duration)
  /-- Close the pool of connections for good. -/
  | close
  /-- The number of connections that the pool holds. -/
  | poolSize

/-- The type of the answer to a request. -/
@[reducible] def Request.Response : Request → Type
  | .acquire => Except PoolError Unit
  | .query _ => Except ConnectionError Reply
  | .script _ => Except ConnectionError Unit
  | .pause _ => Unit
  | .close => Unit
  | .poolSize => Nat

/-- Work that ends with a value after finitely many requests. -/
inductive Program (α : Type) where
  | done (value : α)
  | ask (request : Request) (next : request.Response → Program α)

namespace Program

def bind : Program α → (α → Program β) → Program β
  | .done value, next => next value
  | .ask request rest, next => .ask request fun response => (rest response).bind next

instance : Monad Program where
  pure := .done
  bind := bind

def request (request : Request) : Program request.Response := .ask request .done

/-- Run a program against answers that depend on, and change, a state. -/
def run (answer : σ → (request : Request) → request.Response × σ) (state : σ) :
    Program α → α × σ
  | .done value => (value, state)
  | .ask request next =>
    let (response, state) := answer state request
    run answer state (next response)

end Program

/-- Work that can fail, and then may be tried again as a whole. -/
abbrev Attempt (α : Type) := Program (Except AttemptError α)

namespace Attempt

def ok (value : α) : Attempt α := .done (.ok value)

def fail (error : AttemptError) : Attempt α := .done (.error error)

def andThen (attempt : Attempt α) (next : α → Attempt β) : Attempt β :=
  Program.bind attempt fun
    | .ok value => next value
    | .error error => fail error

def lift : Except ConnectionError α → Attempt α
  | .ok value => ok value
  | .error error => fail (.statement error)

def connected (work : Attempt α) : Attempt α :=
  .ask .acquire fun
    | .ok () => work
    | .error error => fail (.pool error)

def query (query : Query) (reader : Reply → Except ConnectionError α) : Attempt α :=
  .ask (.query query) fun
    | .ok reply => lift (reader reply)
    | .error error => fail (.statement error)

/-- Run scripts in order, up to the first that fails. -/
def scripts : List Script → Attempt Unit
  | [] => ok ()
  | script :: rest => .ask (.script script) fun
    | .ok () => scripts rest
    | .error error => fail (.statement error)

end Attempt

/-- End with the result of an attempt, unless it failed for a reason that may pass. -/
def conclude (operation : String) (onTransient : AttemptError → Program (Outcome α)) :
    Except AttemptError α → Program (Outcome α)
  | .ok value => .done (.ok value)
  | .error error =>
    if error.isTransient then onTransient error else .done (.error (error.toFailure operation))

/-- What is reported when no retries are left. The failures are counted in 32 bits. -/
def exhausted (operation : String) (failures : Nat) (error : AttemptError) : Outcome α :=
  if failures < UInt32.size then
    .refuse (.storage (.retriesExhausted operation failures error.message))
  else .error (.aborted .additionOverflow)

/-- Repeat a failed attempt after a pause, while its failures are transient and retries are left.
The attempt that is made next has this number, and all attempts before it have failed. -/
def retryFrom (operation : String) (delay : Duration) (attempt : Nat → Attempt α) :
    (number retries : Nat) → Program (Outcome α)
  | number, 0 => (attempt number).bind (conclude operation fun error =>
      .done (exhausted operation number error))
  | number, retries + 1 => (attempt number).bind (conclude operation fun _ =>
      .ask (.pause delay) fun _ => retryFrom operation delay attempt (number + 1) retries)

/-- Repeat a failed attempt as often as the settings allow. Attempts are numbered from one. -/
def retry (config : RetryConfig) (operation : String) (attempt : Nat → Attempt α) :
    Program (Outcome α) :=
  retryFrom operation config.retryDelay attempt 1 config.maxRetries.toNat

end ArchiveCatalog.Sql
