import ParamSql.Error

/-!
# Event — what a connection reports while it works

- `Event`: statements that were run, verbs of transactions, and warnings about what went wrong.
- `Event.level`, `Event.target`, `Event.message`, `Event.fields`: an event as it is logged.
-/

namespace ParamSql

/-- The importance of an event, the highest first. -/
inductive Level
  | error
  | warn
  | info
  | debug
  | trace
  deriving DecidableEq, Repr

/-- Something worth reporting. -/
inductive Event
  | statement (level : Level) (sql : String) (paramCount : Nat) (params : Option String)
      (rowCount : Nat)
  | statementFailed (sql : String) (paramCount : Nat) (params : Option String) (error : Error)
  | verb (sql : String) (depth : Nat)
  | verbIgnored (sql : String)
  | bodyFailed (error : Error)
  | savepointFailed (savepoint : String) (error : Error)
  | rollbackFailed (error rollback : Error)
  | transactionDropped
  | savepointDropped (savepoint : String)
  deriving Repr

namespace Event

def level : Event → Level
  | .statement level _ _ _ _ => level
  | .verb _ _ => .debug
  | _ => .warn

/-- The part of the library that an event comes from: single statements, or transactions. -/
def target : Event → String
  | .statement _ _ _ _ _ => "pgquery.sql"
  | .statementFailed _ _ _ _ => "pgquery.sql"
  | _ => "pgquery.tx"

/-- The text of a warning. -/
def message : Event → Option String
  | .statement _ _ _ _ _ => none
  | .verb _ _ => none
  | .statementFailed _ _ _ _ => some "query failed"
  | .verbIgnored _ => some "ignoring transaction verb without matching BEGIN"
  | .bodyFailed _ => some "transaction body failed, rolling back"
  | .savepointFailed _ _ => some "rolling back to savepoint"
  | .rollbackFailed _ _ => some "rollback failed"
  | .transactionDropped => some "transaction dropped without commit or rollback"
  | .savepointDropped _ => some "savepoint dropped without release or rollback"

/-- The values that are bound, if they are reported. -/
def paramsField (params : Option String) : List (String × Json) :=
  params.toList.map fun text => ("params", .string text)

/-- The data of an event besides its message. -/
def fields : Event → List (String × Json)
  | .statement _ sql paramCount params rowCount =>
      [("sql", .string sql), ("param_count", .int paramCount), ("row_count", .int rowCount)] ++
        paramsField params
  | .statementFailed sql paramCount params error =>
      [("sql", .string sql), ("param_count", .int paramCount),
        ("error", .string error.message)] ++ paramsField params
  | .verb sql depth => [("sql", .string sql), ("depth", .int depth)]
  | .verbIgnored sql => [("sql", .string sql)]
  | .bodyFailed error => [("error", .string error.message)]
  | .savepointFailed savepoint error =>
      [("savepoint", .string savepoint), ("error", .string error.message)]
  | .rollbackFailed error rollback =>
      [("error", .string error.message), ("rollback", .string rollback.message)]
  | .transactionDropped => []
  | .savepointDropped savepoint => [("savepoint", .string savepoint)]

end Event
end ParamSql
