import ArchiveCatalog.Json.Printer
import ArchiveCatalog.Json.Record
import ArchiveCatalog.OrderedMap

namespace ArchiveCatalog

inductive HealthStatus where
  | healthy
  | degraded
  | unhealthy
  | unknown
  deriving DecidableEq

namespace HealthStatus

def name : HealthStatus → String
  | .healthy => "healthy"
  | .degraded => "degraded"
  | .unhealthy => "unhealthy"
  | .unknown => "unknown"

def ofName? (name : String) : Option HealthStatus :=
  if name = "healthy" then some .healthy
  else if name = "degraded" then some .degraded
  else if name = "unhealthy" then some .unhealthy
  else if name = "unknown" then some .unknown
  else none

def toJson (status : HealthStatus) : Json := .ofString status.name

def ofJson? (value : Json) : Option HealthStatus := value.choice?.bind ofName?

end HealthStatus

/-- The state of one component, with whatever it wants to add. -/
structure HealthCheck where
  status : HealthStatus
  component : String
  message : Option String
  responseTimeMs : Option Int64
  metadata : Option (OrderedMap String Json)

namespace HealthCheck

def healthy (component : String) : HealthCheck := ⟨.healthy, component, none, none, none⟩

def degraded (component message : String) : HealthCheck :=
  ⟨.degraded, component, some message, none, none⟩

def unhealthy (component message : String) : HealthCheck :=
  ⟨.unhealthy, component, some message, none, none⟩

def unknown (component message : String) : HealthCheck :=
  ⟨.unknown, component, some message, none, none⟩

def withResponseTime (check : HealthCheck) (ms : Int64) : HealthCheck :=
  { check with responseTimeMs := some ms }

/-- Add an entry of metadata, over an earlier one of the same key. -/
def withMetadata (check : HealthCheck) (key : String) (value : Json) : HealthCheck :=
  { check with metadata := some ((check.metadata.getD .empty).insert key value) }

def isHealthy (check : HealthCheck) : Bool := check.status = .healthy

end HealthCheck

namespace Json

/-- The magnitude from which on a number is beyond double precision: the halfway point above the
largest one. -/
def doubleBound : Nat := Nat.pow 2 1024 - Nat.pow 2 970

/-- Whether a double-precision number can hold the magnitude `digits · 10 ^ exponent`. -/
def fitsDouble (digits : Nat) (exponent : Int) : Bool :=
  let places : Int := (Text.decimal digits).length + exponent
  digits == 0 || places < 300 ||
    places < 320 && (
      if 0 ≤ exponent then decide (digits * Nat.pow 10 exponent.toNat < doubleBound)
      else decide (digits < doubleBound * Nat.pow 10 (-exponent).toNat))

mutual

/-- Whether a value can be kept as it is: all its strings and keys stand for characters, its
numbers are finite, and it nests arrays and objects no deeper than `depth`. -/
def isKept (depth : Nat) : Json → Bool
  | .null => true
  | .bool _ => true
  | .number (.integer _) => true
  | .number (.real _ digits exponent) => fitsDouble digits exponent
  | .string content => content.isSome
  | .array items => 0 < depth && areKept (depth - 1) items
  | .object fields => 0 < depth && areFieldsKept (depth - 1) fields

def areKept (depth : Nat) : List Json → Bool
  | [] => true
  | item :: rest => isKept depth item && areKept depth rest

def areFieldsKept (depth : Nat) : List (Option String × Json) → Bool
  | [] => true
  | (key, value) :: rest => key.isSome && isKept depth value && areFieldsKept depth rest

end

/-- A map of kept values; the last of two equal keys counts. -/
def keptMap? (depth : Nat) : Json → Option (OrderedMap String Json)
  | .object fields =>
    if areFieldsKept depth fields then
      some (OrderedMap.ofList (fields.filterMap fun field => field.1.map (·, field.2)))
    else none
  | _ => none

end Json

namespace HealthCheck

def toJson (check : HealthCheck) : Json :=
  .record [("status", check.status.toJson), ("component", .ofString check.component),
    ("message", .ofOption (check.message.map .ofString)),
    ("response_time_ms", .ofOption (check.responseTimeMs.map fun ms => .ofInt ms.toInt)),
    ("metadata", .ofOption (check.metadata.map fun map => .record map.entries))]

/-- How deep the values of metadata may nest inside the record and its map. -/
def metadataDepth : Nat := 125

def ofJson? (value : Json) : Option HealthCheck := do
  let [status, component, message, responseTimeMs, metadata] ←
    value.fields? ["status", "component", "message", "response_time_ms", "metadata"] | none
  return { status := ← Json.required? HealthStatus.ofJson? status
           component := ← Json.required? Json.string? component
           message := ← Json.optional? Json.string? message
           responseTimeMs := ← Json.optional? Json.int64? responseTimeMs
           metadata := ← Json.optional? (Json.keptMap? metadataDepth) metadata }

end HealthCheck

end ArchiveCatalog
