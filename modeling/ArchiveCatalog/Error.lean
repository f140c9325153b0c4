import ArchiveCatalog.Duration
import ArchiveCatalog.Uuid

/-! Why an operation is refused, and the message for each cause. An `Abort` is no refusal: the
operation gives up on a result that has no representation or a value that cannot be read. -/

namespace ArchiveCatalog

def numeral (value : Int) : String := String.ofList (Text.signedDecimal value)

/-- Mistakes in arguments, which a retry cannot mend. -/
inductive ValidationError where
  | requiredFieldMissing (field : String)
  | invalidValue (field reason : String)
  | constraintViolation (constraint reason : String)
  deriving DecidableEq

def ValidationError.message : ValidationError → String
  | .requiredFieldMissing field => "Required field missing: " ++ field
  | .invalidValue field reason => "Invalid value for " ++ field ++ ": " ++ reason
  | .constraintViolation constraint reason =>
    "Constraint violation on " ++ constraint ++ ": " ++ reason

inductive StorageError where
  | notFound (uuid : Uuid)
  | alreadyExists (uuid : Uuid)
  | persistenceFailed (reason : String)
  | database (operation reason : String)
  | retriesExhausted (operation : String) (attempts : Nat) (reason : String)
  | corruptRecord (key reason : String)
  | lockPoisoned
  deriving DecidableEq

def StorageError.message : StorageError → String
  | .notFound uuid => "Artifact not found: " ++ uuid.text
  | .alreadyExists uuid => "Artifact already indexed: " ++ uuid.text
  | .persistenceFailed reason => "Persistence failed: " ++ reason
  | .database operation reason => "Database error during " ++ operation ++ ": " ++ reason
  | .retriesExhausted operation attempts reason =>
    "Gave up on " ++ operation ++ " after " ++ numeral attempts ++ " attempts: " ++ reason
  | .corruptRecord key reason => "Corrupt record " ++ key ++ ": " ++ reason
  | .lockPoisoned => "Storage lock poisoned"

inductive LifecycleError where
  | notReady (state : String)
  | timeout (waited : Duration)
  | stopped
  | invalidTransition (source target : String)
  | dataStoreUnavailable
  | schemaMismatch (expected : Int32) (found : Option Int32)
  deriving DecidableEq

/-- How a schema version that may be missing reads in a message. -/
def LifecycleError.foundText : Option Int32 → String
  | none => "None"
  | some version => "Some(" ++ numeral version.toInt ++ ")"

def LifecycleError.message : LifecycleError → String
  | .notReady state => "Index not ready (state: " ++ state ++ ")"
  | .timeout waited => "Index did not become ready within " ++ waited.text
  | .stopped => "Index was stopped"
  | .invalidTransition source target =>
    "Invalid lifecycle transition from " ++ source ++ " to " ++ target
  | .dataStoreUnavailable => "No artifact data store registered"
  | .schemaMismatch expected found =>
    "Schema version mismatch: expected " ++ numeral expected.toInt ++ ", found " ++ foundText found

inductive ConfigError where
  | missingRequired (field : String)
  | invalidValue (field value reason : String)
  deriving DecidableEq

def ConfigError.message : ConfigError → String
  | .missingRequired field => "Missing required configuration field: " ++ field
  | .invalidValue field value reason =>
    "Invalid value for " ++ field ++ ": " ++ value ++ " - " ++ reason

inductive CatalogError where
  | validation (error : ValidationError)
  | storage (error : StorageError)
  | lifecycle (error : LifecycleError)
  | config (error : ConfigError)
  deriving DecidableEq

namespace CatalogError

def message : CatalogError → String
  | .validation error => "Invalid argument: " ++ error.message
  | .storage error => "Storage error: " ++ error.message
  | .lifecycle error => "Lifecycle error: " ++ error.message
  | .config error => "Config error: " ++ error.message

/-- Whether the caller has to change the arguments. -/
def isInvalidArgument : CatalogError → Bool
  | .validation _ => true
  | _ => false

def isNotFound : CatalogError → Bool
  | .storage (.notFound _) => true
  | _ => false

instance : Coe ValidationError CatalogError := ⟨.validation⟩
instance : Coe StorageError CatalogError := ⟨.storage⟩
instance : Coe LifecycleError CatalogError := ⟨.lifecycle⟩
instance : Coe ConfigError CatalogError := ⟨.config⟩

end CatalogError

/-- A result that cannot be represented or read. -/
inductive Abort where
  | additionOverflow
  | multiplicationOverflow
  | unreadableColumn (column : Nat)
  deriving DecidableEq

def Abort.message : Abort → String
  | .additionOverflow => "attempt to add with overflow"
  | .multiplicationOverflow => "attempt to multiply with overflow"
  | .unreadableColumn column =>
    "error retrieving column " ++ numeral column ++
      ": error deserializing column " ++ numeral column

/-- How an operation ends without an answer. -/
inductive Failure where
  | refused (error : CatalogError)
  | aborted (abort : Abort)
  deriving DecidableEq

namespace Failure

instance : Coe CatalogError Failure := ⟨.refused⟩
instance : Coe ValidationError Failure := ⟨fun error => .refused error⟩
instance : Coe StorageError Failure := ⟨fun error => .refused error⟩
instance : Coe LifecycleError Failure := ⟨fun error => .refused error⟩
instance : Coe ConfigError Failure := ⟨fun error => .refused error⟩

end Failure

abbrev Outcome (α : Type) := Except Failure α

def Outcome.refuse (error : CatalogError) : Outcome α := .error (.refused error)

end ArchiveCatalog
