import ParamSql.Connection.Harness
import ParamSql.Connection.Log
import ParamSql.Connection.Recorder
import ParamSql.Script.Body

/-!
# Journal — running programs with a record of what they do

- `Journal`: the notes of a program, each with the statements and events that led to it.
- `Stack`: a recorder with a journal and a log, inside a harness.
- `Step.run`, `Step.runAll`: a step, and the steps of a program.
- `Program.run`: a program from its beginning to its end.
-/

namespace ParamSql

/-- A note with the statements that were sent and the events that were reported since the note
before it, and the state of the harness. -/
structure Entry where
  note : Note
  sent : List Call
  events : List Event
  active : Bool
  depth : Nat

/-- A connection with the entries so far, the last one first, and with what has happened since the
last one. -/
structure Journal (σ : Type) where
  entries : List Entry := []
  sent : List Call := []
  events : List Event := []
  connection : σ

/-- The driver that keeps a journal of what reaches it. -/
def Driver.journaled {σ : Type} (d : Driver σ) : Driver (Journal σ) where
  query c j :=
    let (reply, s) := d.query c j.connection
    (reply, { j with sent := j.sent ++ [c], connection := s })
  close j :=
    let (result, s) := d.close j.connection
    (result, { j with connection := s })
  trace e j := { j with events := j.events ++ [e], connection := d.trace e j.connection }

/-! ## The stack of drivers -/

/-- The state of a recorder with a journal, inside a harness. -/
abbrev Stack := Harness (Journal Recorder)

namespace Stack

/-- The driver inside the harness: a recorder whose statements are logged. -/
def inner (config : LogConfig) : Driver (Journal Recorder) :=
  Recorder.driver.journaled.logged config

/-- The driver of the whole stack. -/
def driver (config : LogConfig) : Driver Stack :=
  (inner config).harnessed

/-- A stack whose recorder answers as it is told to. -/
def initial (scripts : List Scripted) : Stack :=
  { connection := { connection := { scripts } } }

/-- Adds an entry. -/
def note (n : Note) (s : Stack) : Stack :=
  let entry : Entry := ⟨n, s.connection.sent, s.connection.events, s.active, s.depth⟩
  { s with
    connection :=
      { s.connection with entries := entry :: s.connection.entries, sent := [], events := [] } }

/-- Does something to the recorder. -/
def onRecorder (f : Recorder → Recorder) (s : Stack) : Stack :=
  { s with connection := { s.connection with connection := f s.connection.connection } }

def recorder (s : Stack) : Recorder :=
  s.connection.connection

end Stack

namespace Step

variable (config : LogConfig)

/-! ## Steps -/

/-- Ends a transaction that has been begun by hand. -/
def endBy (t : Transaction Stack) : Ending → Except Error Unit × Transaction Stack
  | .commit => t.commit (Stack.driver config)
  | .rollback => t.rollback (Stack.driver config)
  | .drop => (.ok (), t.drop (Stack.driver config))

/-- The error of a result, if it is one. -/
def errorOf? {α : Type} : Except Error α → Option Error
  | .ok _ => none
  | .error e => some e

/-- Begins a transaction by hand and ends it as asked, whether or not the steps in it succeed. -/
def runByHand (options : TransactionOptions) (steps : List TxStep) (ending : Ending) (s : Stack) :
    Outcome Answer × Stack :=
  let d := Stack.driver config
  match Transaction.begin d options s with
  | (.error e, t) => (.failed e, t.connection)
  | (.ok _, t) =>
      match TxStep.body d Stack.note steps t with
      | (.abandoned, t) => (.abandoned, (t.drop d).connection)
      | (.done _, t) =>
          let (result, ended) := endBy config t ending
          (.done (.ended none (errorOf? result) t.savepoints), ended.connection)
      | (.failed e, t) =>
          let (result, ended) := endBy config t ending
          (.done (.ended (some e) (errorOf? result) t.savepoints), ended.connection)

/-- Something without a result of its own. -/
def plain (result : Except Error Unit × Stack) : Outcome Answer × Stack :=
  ((Outcome.ofExcept result.1).answer fun _ => .nothing, result.2)

mutual
/-- Runs a step. -/
def run : Step → Stack → Outcome Answer × Stack
  | .request r, s => r.run (Stack.driver config) s
  | .start, s => plain (Harness.start (Stack.inner config) s)
  | .rollback, s => plain (Harness.rollback (Stack.inner config) s)
  | .clear, s => (.done .nothing, Stack.onRecorder Recorder.clear s)
  | .statements, s =>
      let r := Stack.recorder s
      (.done (.statements (r.calls.map Call.sql) r.closed), s)
  | .transaction options steps, s =>
      let d := Stack.driver config
      let (outcome, s) := Transaction.run d options (TxStep.body d Stack.note steps) s
      (outcome.answer fun _ => .nothing, s)
  | .begin options steps ending, s => runByHand config options steps ending s
  | .cancel steps, s =>
      match runAll steps s with
      | (true, s) => (.done .finished, s)
      | (false, s) => (.done .cancelled, s)

/-- Runs steps, each with a note of it, unless one of them never ends; tells whether all have come
to an end. -/
def runAll : List Step → Stack → Bool × Stack
  | [], s => (true, s)
  | step :: rest, s =>
      match step.run s with
      | (.done answer, s) => runAll rest (Stack.note ⟨step.activity, .ok answer, none⟩ s)
      | (.failed e, s) => runAll rest (Stack.note ⟨step.activity, .error e, none⟩ s)
      | (.abandoned, s) => (false, s)
end

end Step

/-! ## Programs -/

/-- A program: how a recorder answers, how its statements are logged, and what is done. -/
structure Program where
  scripts : List Scripted := []
  config : LogConfig := {}
  steps : List Step
  /-- Whether the harness is closed at the end. -/
  close : Bool := false

/-- The end of a program that closes its harness: the result, whether the recorder was closed, and
what was sent. -/
structure Closing where
  result : Except Error Unit
  closed : Bool
  sent : List Call

namespace Program

/-- The entries of a program, and its end. -/
def run (p : Program) : List Entry × Option Closing :=
  let (_, s) := Step.runAll p.config p.steps (.initial p.scripts)
  let entries := s.connection.entries.reverse
  if p.close then
    let (result, s) := Harness.finish (Stack.inner p.config) s
    (entries, some ⟨result, (Stack.recorder s).closed, s.connection.sent⟩)
  else (entries, none)

end Program
end ParamSql
