import ParamSql.Connection.Transaction

/-!
# Step — programs that use a connection

A program is a list of steps, so that what a program does is determined by data.

- `Request`: what can be asked of any driver.
- `TxStep`: what can be done inside an open transaction, in which savepoints are kept by name.
- `Step`: what can be done with a connection in a harness.
- `Answer`, `Note`: what a step answers, and the record of it.
-/

namespace ParamSql

/-- What can be asked of any driver: a statement, a query, an error of the caller's own, an answer
that never comes, or the end of the connection. -/
inductive Request
  | query (c : Call)
  | fetch (f : Except Error Fetch)
  | fail (e : Error)
  | pend
  | close

/-- A step inside a transaction. -/
inductive TxStep
  /-- A request to the transaction. -/
  | request (r : Request)
  /-- A request to the driver below the transaction. -/
  | bypass (r : Request)
  /-- A request to a savepoint that is kept. -/
  | via (kept : String) (r : Request)
  | depth
  /-- Opens a savepoint and keeps it. -/
  | savepoint (kept : String)
  | release (kept : String)
  | rollbackTo (kept : String)
  | drop (kept : String)
  /-- Steps inside a nested transaction. -/
  | transaction (steps : List TxStep)
  /-- Steps that are given up when an answer never comes. -/
  | cancel (steps : List TxStep)
  /-- A step whose failure does not end the steps around it. -/
  | caught (s : TxStep)

/-- What ends a transaction that has been begun by hand. -/
inductive Ending
  | commit
  | rollback
  | drop
  deriving DecidableEq, Repr

/-- A step on a connection in a harness. -/
inductive Step
  | request (r : Request)
  | start
  | rollback
  | clear
  | statements
  | transaction (options : TransactionOptions) (steps : List TxStep)
  | begin (options : TransactionOptions) (steps : List TxStep) (ending : Ending)
  | cancel (steps : List Step)

/-- What a step answers when it succeeds. -/
inductive Answer
  | nothing
  | reply (r : Reply)
  | fetched (f : Fetched)
  | depth (n : Nat)
  | savepoint (name : String)
  | notKept
  | finished
  | cancelled
  | statements (sqls : List String) (closed : Bool)
  | ended (body ending : Option Error) (savepoints : List String)

/-- What a note is about: a step, or the beginning of the steps in a transaction. -/
inductive Activity
  | enter
  | query
  | fetch
  | fail
  | pend
  | close
  | bypass
  | via
  | depth
  | savepoint
  | release
  | rollbackTo
  | drop
  | transaction
  | cancel
  | start
  | rollback
  | clear
  | statements
  | begin
  deriving DecidableEq, Repr

/-- The record of a step that has finished: its answer or its error, and the open savepoints if it
was a step inside a transaction. -/
structure Note where
  activity : Activity
  outcome : Except Error Answer
  savepoints : Option (List String)

def Request.activity : Request → Activity
  | .query _ => .query
  | .fetch _ => .fetch
  | .fail _ => .fail
  | .pend => .pend
  | .close => .close

def TxStep.activity : TxStep → Activity
  | .request r => r.activity
  | .bypass _ => .bypass
  | .via _ _ => .via
  | .depth => .depth
  | .savepoint _ => .savepoint
  | .release _ => .release
  | .rollbackTo _ => .rollbackTo
  | .drop _ => .drop
  | .transaction _ => .transaction
  | .cancel _ => .cancel
  | .caught s => s.activity

def Step.activity : Step → Activity
  | .request r => r.activity
  | .start => .start
  | .rollback => .rollback
  | .clear => .clear
  | .statements => .statements
  | .transaction _ _ => .transaction
  | .begin _ _ _ => .begin
  | .cancel _ => .cancel

/-- Whether the failure of a step ends the steps around it. -/
def TxStep.isCaught : TxStep → Bool
  | .caught _ => true
  | _ => false

end ParamSql
