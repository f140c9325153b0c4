import ArchiveCatalog.Error

namespace ArchiveCatalog

/-- A failure of a connection, or of a statement on it. -/
inductive ConnectionError where
  /-- The connection ended without an answer. -/
  | closed
  /-- The database refused, with a state code and what it says of it. -/
  | refused (code text : String) (constraint : Option String)
  /-- The answer is not one that the protocol knows. -/
  | unreadableReply
  /-- No server listens. -/
  | unreachable
  /-- A statement for one row gave another number of rows. -/
  | rowCount
  /-- A cell of a row, counted from zero, is missing or of another type. -/
  | unreadableCell (column : Nat)
  deriving DecidableEq

namespace ConnectionError

def message : ConnectionError → String
  | .closed => "connection closed"
  | .refused .. => "db error"
  | .unreadableReply => "error parsing response from server"
  | .unreachable => "error connecting to server"
  | .rowCount => "query returned an unexpected number of rows"
  | .unreadableCell column => "error deserializing column " ++ numeral column

/-- State codes that are worth another attempt: the server dropped the connection or takes none
at the moment, or the transaction lost a race. -/
def transientCodes : List String :=
  ["40001", "40P01", "08000", "08006", "08003", "08001", "57P01", "57P02", "57P03", "53300"]

def isTransient : ConnectionError → Bool
  | .closed => true
  | .refused code _ _ => transientCodes.contains code
  | .unreadableReply => true
  | .unreachable => true
  | .rowCount => false
  | .unreadableCell _ => false

end ConnectionError

inductive PoolError where
  /-- None was opened in time. -/
  | timeout
  /-- Opening one failed. -/
  | opening (error : ConnectionError)
  /-- The pool was closed for good. -/
  | closed
  deriving DecidableEq

namespace PoolError

def message : PoolError → String
  | .timeout => "Timeout occurred while creating a new object"
  | .opening error => "Error occurred while creating a new object: " ++ error.message
  | .closed => "Pool has been closed"

def isTransient : PoolError → Bool
  | .timeout => true
  | .opening error => error.isTransient
  | .closed => false

end PoolError

inductive AttemptError where
  | statement (error : ConnectionError)
  | pool (error : PoolError)
  /-- A failure that has nothing to do with the database. -/
  | other (failure : Failure)
  deriving DecidableEq

namespace AttemptError

def message : AttemptError → String
  | .statement error => "PostgreSQL error: " ++ error.message
  | .pool error => "Connection pool error: " ++ error.message
  | .other (.refused error) => error.message
  | .other (.aborted abort) => abort.message

def isTransient : AttemptError → Bool
  | .statement error => error.isTransient
  | .pool error => error.isTransient
  | .other _ => false

def uniqueViolation : String := "23505"

/-- What an operation reports of an attempt that is not repeated. That a value is not unique is a
mistake in the arguments; every other refusal is the database's. -/
def toFailure (operation : String) : AttemptError → Failure
  | .statement (.refused code text constraint) =>
    if code = uniqueViolation then
      .refused (.validation (.constraintViolation (constraint.getD "unique") text))
    else
      .refused (.storage (.database operation
        (ConnectionError.refused code text constraint).message))
  | .statement error => .refused (.storage (.database operation error.message))
  | .pool error => .refused (.storage (.database operation error.message))
  | .other failure => failure

end AttemptError

end ArchiveCatalog
