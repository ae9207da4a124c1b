import ParamSql.Connection.Driver

/-!
# Harness — transactions inside a transaction that is rolled back

A test runs inside one outer transaction that is rolled back at its end. The transactions of the
program under test become savepoints of the outer one.

- `Control`: the statements that begin and end transactions.
- `Harness`: whether the outer transaction is open, and the savepoints that stand for transactions.
- `Harness.redirect`: what is sent in the place of a statement.
- `Driver.harnessed`: a driver inside a harness.
-/

namespace ParamSql

/-! ## Statements that control transactions -/

/-- A statement that begins or ends a transaction. -/
inductive Control
  | begin
  | commit
  | rollback
  deriving DecidableEq, Repr

namespace Control

/-- The words of a statement in upper case, without the semicolons at its end. -/
def words (sql : String) : List String :=
  let cs := Text.trim sql.toList
  let cs := (cs.reverse.dropWhile fun c => c = ';').reverse
  (Text.blankWords cs).map fun word => String.ofList (word.map Char.toUpper)

/-- The control of words. -/
def ofWords? : List String → Option Control
  | "BEGIN" :: _ => some .begin
  | "START" :: "TRANSACTION" :: _ => some .begin
  | ["COMMIT"] => some .commit
  | ["END"] => some .commit
  | "COMMIT" :: "WORK" :: _ => some .commit
  | "COMMIT" :: "TRANSACTION" :: _ => some .commit
  | "END" :: "WORK" :: _ => some .commit
  | "END" :: "TRANSACTION" :: _ => some .commit
  | ["ROLLBACK"] => some .rollback
  | ["ROLLBACK", "WORK"] => some .rollback
  | ["ROLLBACK", "TRANSACTION"] => some .rollback
  | _ => none

/-- The control that a statement is, if it is one. -/
def of? (sql : String) : Option Control :=
  ofWords? (words sql)

end Control

/-! ## The harness -/

/-- A connection with the outer transaction of a test. -/
structure Harness (σ : Type) where
  active : Bool := false
  /-- The savepoints that stand for open transactions, the innermost first. -/
  savepoints : List String := []
  /-- How many transactions have been begun in the outer one. -/
  counter : Nat := 0
  connection : σ
  deriving Repr

namespace Harness

variable {σ : Type}

/-- The number of open transactions inside the outer one. -/
def depth (h : Harness σ) : Nat :=
  h.savepoints.length

/-- Does something to the connection. -/
def onConnection {α : Type} (h : Harness σ) (f : σ → α × σ) : α × Harness σ :=
  let (a, s) := f h.connection
  (a, { h with connection := s })

/-- Opens the outer transaction. -/
def start (d : Driver σ) (h : Harness σ) : Except Error Unit × Harness σ :=
  if h.active then (.error .alreadyStarted, h)
  else
    match h.onConnection (d.query ⟨"BEGIN", []⟩) with
    | (.error e, h) => (.error e, h)
    | (.ok _, h) => (.ok (), { h with active := true, savepoints := [], counter := 0 })

/-- Rolls the outer transaction back, if it is open. -/
def rollback (d : Driver σ) (h : Harness σ) : Except Error Unit × Harness σ :=
  let ended := { h with active := false, savepoints := [] }
  if h.active then
    match ended.onConnection (d.query ⟨"ROLLBACK", []⟩) with
    | (.error e, h) => (.error e, h)
    | (.ok _, h) => (.ok (), h)
  else (.ok (), ended)

/-- Rolls back and closes the connection, whether or not the rollback succeeds. -/
def finish (d : Driver σ) (h : Harness σ) : Except Error Unit × Harness σ :=
  let (rolledBack, h) := h.rollback d
  let (closed, h) := h.onConnection d.close
  (rolledBack.bind fun _ => closed, h)

/-- What is sent in the place of a statement, if anything is. -/
def redirect (h : Harness σ) (sql : String) : Option String × Harness σ :=
  if !h.active then (some sql, h)
  else
    match Control.of? sql, h.savepoints with
    | none, _ => (some sql, h)
    | some .begin, opened =>
        let name := "t" ++ toString (h.counter + 1)
        (some ("SAVEPOINT " ++ name),
          { h with counter := h.counter + 1, savepoints := name :: opened })
    | some .commit, name :: rest =>
        (some ("RELEASE SAVEPOINT " ++ name), { h with savepoints := rest })
    | some .rollback, name :: rest =>
        (some ("ROLLBACK TO SAVEPOINT " ++ name), { h with savepoints := rest })
    | some _, [] => (none, h)

end Harness

/-- The driver inside a harness. The end of a transaction that has no beginning is answered and not
sent, since it would end the outer one. -/
def Driver.harnessed {σ : Type} (d : Driver σ) : Driver (Harness σ) where
  query c h :=
    match h.redirect c.sql with
    | (some sql, h) => h.onConnection (d.query ⟨sql, c.params⟩)
    | (none, h) =>
        (.ok .empty, { h with connection := d.trace (.verbIgnored c.sql) h.connection })
  close h :=
    match h.rollback d with
    | (.error e, h) => (.error e, h)
    | (.ok _, h) => h.onConnection d.close
  trace e h := { h with connection := d.trace e h.connection }

end ParamSql
