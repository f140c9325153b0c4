import ArchiveCatalog.Order

namespace ArchiveCatalog.Expectation

def invalidArgument : Outcome α → Bool
  | .error (.refused (.validation (.requiredFieldMissing _))) => true
  | .error (.refused (.validation (.invalidValue _ _))) => true
  | _ => false

def invalidField (field : String) : Outcome α → Bool
  | .error (.refused (.validation (.requiredFieldMissing named))) => named == field
  | .error (.refused (.validation (.invalidValue named _))) => named == field
  | _ => false

def notFound (uuid : Uuid) : Outcome α → Bool
  | .error (.refused (.storage (.notFound missing))) => missing == uuid
  | _ => false

def alreadyExists (uuid : Uuid) : Outcome α → Bool
  | .error (.refused (.storage (.alreadyExists existing))) => existing == uuid
  | _ => false

def constraintViolation (constraint : String) : Outcome α → Bool
  | .error (.refused (.validation (.constraintViolation violated _))) => violated == constraint
  | _ => false

def notReady : Outcome α → Bool
  | .error (.refused (.lifecycle (.notReady _))) => true
  | _ => false

/-- The same artifacts in the same order, told apart by their identifiers. -/
def artifacts (actual expected : List Artifact) : Bool :=
  actual.map (·.uuid) == expected.map (·.uuid)

/-- No artifact stands right before a smaller one. -/
def ordered (order : Artifact → Artifact → Ordering) : List Artifact → Bool
  | [] => true
  | [_] => true
  | first :: second :: rest => order first second != .gt && ordered order (second :: rest)

def withinAuOrder (actual : List Artifact) : Bool := ordered compareWithinAu actual

def acrossAusOrder (actual : List Artifact) : Bool := ordered compareAcrossAus actual

end ArchiveCatalog.Expectation
