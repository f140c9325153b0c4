import ArchiveCatalog.Conformance.Expectation
import ArchiveCatalog.Conformance.Fixture
import ArchiveCatalog.Conformance.Subject

namespace ArchiveCatalog

/-- A catalog under test, its content store, and how many identifiers were given out. -/
structure Bench where
  subject : Subject
  store : DataStore
  issued : Nat

/-- Steps on a bench, up to the first expectation that is not met. -/
abbrev Trial (α : Type) := StateT Bench Option α

namespace Trial

def expect (met : Bool) : Trial Unit := if met then pure () else failure

def expectEq [DecidableEq α] (actual expected : α) : Trial Unit :=
  expect (decide (actual = expected))

def expectOk : Outcome α → Trial α
  | .ok value => pure value
  | .error _ => failure

def act (step : Subject → α × Subject) : Trial α := fun bench =>
  let (answer, subject) := step bench.subject
  some (answer, { bench with subject })

def attempt (operation : Operation) : Trial (Outcome operation.Answer) := act (·.run operation)

def answer (operation : Operation) : Trial operation.Answer := attempt operation >>= expectOk

def meets (operation : Operation) (expectation : Outcome operation.Answer → Bool) : Trial Unit := do
  expect (expectation (← attempt operation))

def refuses (field : String) (operation : Operation) : Trial Unit :=
  meets operation (Expectation.invalidField field)

def lists (expected : List Artifact) : Outcome (List Artifact) → Bool
  | .ok actual => Expectation.artifacts actual expected
  | .error _ => false

def issue : Trial Uuid := fun bench =>
  some (Uuid.ofNat (bench.issued + 1), { bench with issued := bench.issued + 1 })

def fresh (ns auid url : String) (version : Int32) : Trial Artifact := do
  return Fixture.artifact (← issue) ns auid url version

def freshOfLength (ns auid url : String) (version : Int32) (length : Int64) : Trial Artifact := do
  return Fixture.artifactOfLength (← issue) ns auid url version length

def add (artifact : Artifact) : Trial Artifact := answer (.index artifact)

def commit (artifact : Artifact) : Trial Artifact := do
  match ← answer (.commit artifact.uuid) with
  | some committed => return committed
  | none => failure

def addCommitted (artifact : Artifact) : Trial Artifact := do commit (← add artifact)

def addNew (ns auid url : String) (version : Int32) : Trial Artifact := do
  add (← fresh ns auid url version)

def addNewCommitted (ns auid url : String) (version : Int32) : Trial Artifact := do
  addCommitted (← fresh ns auid url version)

def setWarcSize (ns auid : String) (size : Int64) : Trial Unit := fun bench =>
  let store := bench.store.setSize ns auid size
  some ((), { bench with store, subject := bench.subject.setDataStore store })

end Trial

namespace Bench

def readyTimeout : Duration := Duration.ofSecs 10

/-- Put a catalog on a bench: register an empty content store, start it, and wait until it is
ready. -/
def start (subject : Subject) : Outcome Bench := do
  let store := DataStore.sized []
  let (answer, subject) := (subject.setDataStore store).start
  answer
  subject.waitReady readyTimeout
  return ⟨subject, store, 0⟩

def teardown (bench : Bench) : Outcome Unit × Subject := bench.subject.stop

/-- Whether a catalog passes a trial: it starts, meets all expectations, and stops. -/
def passes (subject : Subject) (trial : Trial Unit) : Bool :=
  match start subject with
  | .error _ => false
  | .ok bench =>
    match trial.run bench with
    | none => false
    | some ((), bench) => (bench.teardown).1.toBool

end Bench

end ArchiveCatalog
