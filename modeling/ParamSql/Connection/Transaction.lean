import ParamSql.Connection.Driver

/-!
# Transaction — statements that take effect together

- `TransactionOptions`: the options of BEGIN.
- `Transaction`: an open transaction with its open savepoints.
- `Transaction.savepoint`, `Transaction.release`, `Transaction.rollbackTo`: savepoints by hand.
- `Transaction.run`, `Transaction.nested`: a body between a transaction's beginning and its end, and
  between a savepoint and its end.
-/

namespace ParamSql

/-! ## Options -/

inductive Isolation
  | readUncommitted
  | readCommitted
  | repeatableRead
  | serializable
  deriving DecidableEq, Repr

def Isolation.sql : Isolation → String
  | .readUncommitted => "READ UNCOMMITTED"
  | .readCommitted => "READ COMMITTED"
  | .repeatableRead => "REPEATABLE READ"
  | .serializable => "SERIALIZABLE"

/-- The options of a transaction; what is left open is decided by the server. -/
structure TransactionOptions where
  isolation : Option Isolation := none
  readOnly : Option Bool := none
  deferrable : Option Bool := none
  deriving Repr

/-- The statement that begins a transaction. -/
def TransactionOptions.sql (options : TransactionOptions) : String :=
  let isolation :=
    match options.isolation with
    | some level => " ISOLATION LEVEL " ++ level.sql
    | none => ""
  let access :=
    match options.readOnly with
    | some true => " READ ONLY"
    | some false => " READ WRITE"
    | none => ""
  let deferrable :=
    match options.deferrable with
    | some true => " DEFERRABLE"
    | some false => " NOT DEFERRABLE"
    | none => ""
  "BEGIN" ++ isolation ++ access ++ deferrable

/-! ## Outcomes -/

/-- How something that runs in a transaction ends: with a result, with an error, or not at all,
because whoever waited for it went away. -/
inductive Outcome (α : Type)
  | done (a : α)
  | failed (e : Error)
  | abandoned
  deriving Repr

/-- The outcome of something that is always waited for. -/
def Outcome.ofExcept {α : Type} : Except Error α → Outcome α
  | .ok a => .done a
  | .error e => .failed e

/-- An open transaction on a connection. -/
structure Transaction (σ : Type) where
  /-- The names of the open savepoints, the outermost first. -/
  savepoints : List String
  /-- How many savepoints have been named. -/
  counter : Nat
  connection : σ
  deriving Repr

namespace Transaction

variable {σ α : Type} (d : Driver σ)

/-! ## Statements -/

/-- Does something to the connection. -/
def onConnection (t : Transaction σ) (f : σ → α × σ) : α × Transaction σ :=
  let (a, s) := f t.connection
  (a, { t with connection := s })

/-- Reports an event. -/
def report (e : Event) (t : Transaction σ) : Transaction σ :=
  { t with connection := d.trace e t.connection }

/-- A transaction as a driver: closing it does nothing, as the connection is not its own. -/
def driver : Driver (Transaction σ) where
  query c t := t.onConnection (d.query c)
  close t := (.ok (), t)
  trace := report d

/-- Sends a statement that controls the transaction. -/
def verb (sql : String) (t : Transaction σ) : Except Error Unit × Transaction σ :=
  let t := report d (.verb sql t.savepoints.length) t
  match t.onConnection (d.query ⟨sql, []⟩) with
  | (.ok _, t) => (.ok (), t)
  | (.error e, t) => (.error e, t)

/-- Begins a transaction. -/
def begin (options : TransactionOptions) (s : σ) : Except Error Unit × Transaction σ :=
  verb d options.sql ⟨[], 0, s⟩

def commit (t : Transaction σ) : Except Error Unit × Transaction σ :=
  verb d "COMMIT" t

def rollback (t : Transaction σ) : Except Error Unit × Transaction σ :=
  verb d "ROLLBACK" t

/-- The error that is left when something that failed could or could not be rolled back. -/
def afterRollback (error : Error) : Except Error Unit × Transaction σ → Error × Transaction σ
  | (.ok _, t) => (error, t)
  | (.error rollback, t) => (.abort error rollback, report d (.rollbackFailed error rollback) t)

/-! ## Savepoints -/

/-- Forgets a savepoint and those inside it. -/
def forget (name : String) (t : Transaction σ) : Transaction σ :=
  { t with savepoints := t.savepoints.takeWhile fun n => n ≠ name }

/-- Opens a savepoint with a name that has not been used before. -/
def savepoint (t : Transaction σ) : Except Error String × Transaction σ :=
  let name := "s" ++ toString (t.counter + 1)
  let t := { t with counter := t.counter + 1, savepoints := t.savepoints ++ [name] }
  match verb d ("SAVEPOINT " ++ name) t with
  | (.ok _, t) => (.ok name, t)
  | (.error e, t) => (.error e, t.forget name)

/-- Keeps what has been done since a savepoint. -/
def release (name : String) (t : Transaction σ) : Except Error Unit × Transaction σ :=
  let (result, t) := verb d ("RELEASE SAVEPOINT " ++ name) t
  (result, t.forget name)

/-- Undoes what has been done since a savepoint. -/
def rollbackTo (name : String) (t : Transaction σ) : Except Error Unit × Transaction σ :=
  let (result, t) := verb d ("ROLLBACK TO SAVEPOINT " ++ name) t
  (result, t.forget name)

/-- Leaves a savepoint without a word to the server. -/
def dropSavepoint (name : String) (t : Transaction σ) : Transaction σ :=
  report d (.savepointDropped name) (t.forget name)

/-- Leaves the transaction without a word to the server. -/
def drop (t : Transaction σ) : Transaction σ :=
  report d .transactionDropped t

/-! ## Bodies -/

/-- Runs a body inside a savepoint: what it has done is kept if it succeeds, and undone if it
fails. -/
def nested (body : Transaction σ → Outcome α × Transaction σ) (t : Transaction σ) :
    Outcome α × Transaction σ :=
  match savepoint d t with
  | (.error e, t) => (.failed e, t)
  | (.ok name, t) =>
      match body t with
      | (.done a, t) =>
          match release d name t with
          | (.ok _, t) => (.done a, t)
          | (.error e, t) => (.failed e, t)
      | (.failed e, t) =>
          let (e, t) :=
            afterRollback d e (rollbackTo d name (report d (.savepointFailed name e) t))
          (.failed e, t)
      | (.abandoned, t) => (.abandoned, dropSavepoint d name t)

/-- Runs a body inside a transaction, which is committed if the body succeeds and rolled back if it
fails. -/
def run (options : TransactionOptions) (body : Transaction σ → Outcome α × Transaction σ)
    (s : σ) : Outcome α × σ :=
  match begin d options s with
  | (.error e, t) => (.failed e, t.connection)
  | (.ok _, t) =>
      match body t with
      | (.done a, t) =>
          match commit d t with
          | (.ok _, t) => (.done a, t.connection)
          | (.error e, t) => (.failed e, t.connection)
      | (.failed e, t) =>
          let (e, t) := afterRollback d e (rollback d (report d (.bodyFailed e) t))
          (.failed e, t.connection)
      | (.abandoned, t) => (.abandoned, (drop d t).connection)

end Transaction
end ParamSql
