import ParamSql.Sql.Compiled
import ParamSql.Value.Cell

/-!
# Error — what can go wrong

An error is a cause. Its kind and its message follow from it.

- `Error`: the causes.
- `Error.kind`, `Error.message`: the kind of an error and its text.
- `Error.ofServer`: the cause of a failure that the server reports.
-/

namespace ParamSql

/-- The kinds of errors. -/
inductive ErrorKind
  | template
  | guard
  | notFound
  | driver
  | query
  | uniqueViolation
  | foreignKeyViolation
  | checkViolation
  | transactionAbort
  | decode
  | validation
  | other
  deriving DecidableEq, Repr

/-- The constraints whose violation is told apart from other failures. -/
inductive Constraint
  | unique
  | foreignKey
  | check
  deriving DecidableEq, Repr

/-- Why a statement failed on its way to the server or in it. -/
inductive QueryFailure
  | server (sqlState message : String)
  | parameterCount (expected given : Nat)
  | parameter (index : Nat)
  | arrayParameter (index : Nat)
  | unsendable
  | unreadable
  deriving DecidableEq, Repr

/-- The cause of an error. -/
inductive Error
  | fragment (fault : FragmentFault)
  | compile (fault : CompileFault)
  | noRow
  | requiredEmpty
  | driver (message : String)
  | query (failure : QueryFailure)
  | violation (constraint : Constraint) (name message : String)
  | abort (error rollback : Error)
  | decode (column : String) (fault : DecodeFault)
  | alreadyStarted
  | stated (kind : ErrorKind) (text : String)
  deriving DecidableEq, Repr

namespace Constraint

def kind : Constraint → ErrorKind
  | .unique => .uniqueViolation
  | .foreignKey => .foreignKeyViolation
  | .check => .checkViolation

/-- The SQLSTATE code of a violation. -/
def sqlState : Constraint → String
  | .unique => "23505"
  | .foreignKey => "23503"
  | .check => "23514"

end Constraint

/-- What stands before the text of an error. -/
def ErrorKind.label : ErrorKind → String
  | .template => "Template error: "
  | .guard => "Guard error: "
  | .notFound => "Not found: "
  | .driver => "Driver error: "
  | .query => "Query error: "
  | .uniqueViolation => "Unique constraint violation: "
  | .foreignKeyViolation => "Foreign key violation: "
  | .checkViolation => "Check constraint violation: "
  | .validation => "Validation error: "
  | .transactionAbort => ""
  | .decode => ""
  | .other => ""

def QueryFailure.message : QueryFailure → String
  | .server _ message => s!"db error: {message}"
  | .parameterCount expected given => s!"expected {expected} parameters but got {given}"
  | .parameter index => s!"error serializing parameter {index}"
  | .arrayParameter index => s!"parameter {index} is an array, but its type is none"
  | .unsendable => "error encoding message to server"
  | .unreadable => "error parsing response from server"

namespace Error

/-! ## Kinds and messages -/

def kind : Error → ErrorKind
  | .fragment (.identifier _) => .validation
  | .fragment (.segmentCount _ _) => .template
  | .fragment (.notInlinable _) => .template
  | .compile fault => if fault.isGuard then .guard else .validation
  | .noRow => .notFound
  | .requiredEmpty => .notFound
  | .driver _ => .driver
  | .query _ => .query
  | .violation constraint _ _ => constraint.kind
  | .abort _ _ => .transactionAbort
  | .decode _ _ => .decode
  | .alreadyStarted => .validation
  | .stated kind _ => kind

def message : Error → String
  | .fragment (.identifier fault) => ErrorKind.label .validation ++ fault.message
  | .fragment fault => ErrorKind.label .template ++ fault.message
  | .compile fault =>
      (if fault.isGuard then ErrorKind.label .guard else ErrorKind.label .validation) ++
        fault.message
  | .noRow => ErrorKind.label .notFound ++ "Expected one row, got none"
  | .requiredEmpty => ErrorKind.label .notFound ++ "a required appended query matched no rows"
  | .driver message => ErrorKind.label .driver ++ message
  | .query failure => ErrorKind.label .query ++ failure.message
  | .violation constraint name message => constraint.kind.label ++ name ++ ": " ++ message
  | .abort error rollback => s!"{error.message} (rollback failed: {rollback.message})"
  | .decode column fault => s!"Decode error on column '{column}': {fault.message}"
  | .alreadyStarted => ErrorKind.label .validation ++ "test transaction already started"
  | .stated kind text => kind.label ++ text

def isNotFound (e : Error) : Bool :=
  e.kind = .notFound

def isGuard (e : Error) : Bool :=
  e.kind = .guard

def isTemplate (e : Error) : Bool :=
  e.kind = .template

def isUniqueViolation (e : Error) : Bool :=
  e.kind = .uniqueViolation

/-! ## Failures of the server -/

/-- The code of a text that is no value of the type it is cast to. -/
def invalidTextState : String := "22P02"

/-- The cause of a failure that the server reports: violations of constraints, and the cast that
fails when a required appended statement has no rows, are told apart from the others. -/
def ofServer (sqlState message : String) (constraint : Option String) : Error :=
  match [Constraint.unique, .foreignKey, .check].find? (·.sqlState = sqlState) with
  | some kind => .violation kind (constraint.getD "unknown") message
  | none =>
      if sqlState = invalidTextState && Text.occursIn notFoundMarker message then .requiredEmpty
      else .query (.server sqlState message)

end Error
end ParamSql
