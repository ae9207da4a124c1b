import ParamSql.Connection.Driver

/-!
# Recorder — a connection for tests

A recorder remembers the statements that reach it, and answers as it has been told to.

- `Scripted`: what to answer to statements in which a pattern occurs.
- `Recorder`: the statements so far, and the answers.
- `Recorder.driver`: a recorder as a driver.
-/

namespace ParamSql

/-- An answer of a recorder. -/
inductive ScriptedReply
  | rows (rs : List Row)
  | fail (message : String)
  deriving Repr

/-- The answer to statements in which a pattern occurs. -/
structure Scripted where
  pattern : String
  reply : ScriptedReply
  deriving Repr

/-- The statements that have been run, and the answers to statements. -/
structure Recorder where
  calls : List Call := []
  scripts : List Scripted := []
  closed : Bool := false
  deriving Repr

namespace Recorder

/-- The answer to a statement: that of the first pattern that occurs in it, or no rows. -/
def reply (r : Recorder) (sql : String) : Except Error Reply :=
  match r.scripts.find? fun s => Text.occursIn s.pattern sql with
  | some ⟨_, .rows rs⟩ => .ok (.ofRows rs)
  | some ⟨_, .fail message⟩ => .error (.driver message)
  | none => .ok .empty

/-- A recorder remembers statements and does not remember events. -/
def driver : Driver Recorder where
  query c r := (r.reply c.sql, { r with calls := r.calls ++ [c] })
  close r := (.ok (), { r with closed := true })
  trace _ r := r

/-- Forgets the statements. -/
def clear (r : Recorder) : Recorder :=
  { r with calls := [] }

end Recorder
end ParamSql
