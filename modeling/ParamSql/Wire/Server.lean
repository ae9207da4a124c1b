import ParamSql.Connection.Driver
import ParamSql.Wire.Decode
import ParamSql.Wire.Encode
import ParamSql.Wire.Report

/-!
# Server — round trips with a server that follows a script

- `ServerScript`: what a server answers to one statement.
- `Exchange`: what arrives at the server.
- `ServerScript.driver`: the server as a driver, whose state is what has arrived.
-/

namespace ParamSql

/-- What a server answers to one statement: the types of its parameters, its columns and rows, the
text behind the rows, and the failure that it reports, if any. -/
structure ServerScript where
  paramTypes : List WireType := []
  columns : List (String × WireType) := []
  rows : List (List (Option (List UInt8))) := []
  tag : String := "SELECT 0"
  failure : Option ServerFailure := none
  deriving Repr

/-- What arrives at a server. -/
inductive Exchange
  | prepare (sql : String)
  | bind (params : List (Option (List UInt8)))
  deriving Repr

namespace ServerScript

/-- The error that the server reports at a phase. -/
def failureAt? (script : ServerScript) (phase : Phase) : Option Error :=
  (script.failure.filter (·.phase = phase)).map ServerFailure.error

/-- The parameters as they are sent; the first that cannot be sent is reported by its place. -/
def encodeParams : Nat → List WireType → List Value → Except Error (List (Option (List UInt8)))
  | index, t :: ts, v :: vs => do
      let first ← (v.encode t).mapError fun
        | .outOfRange => .query (.parameter index)
        | .notArray => .query (.arrayParameter index)
      let rest ← encodeParams (index + 1) ts vs
      return first :: rest
  | _, _, _ => .ok []

/-- The row of cells; the first cell that cannot be read is reported by its column. -/
def decodeRow (script : ServerScript) (cells : List (Option (List UInt8))) : Except Error Row := do
  let values ← (script.columns.zip cells).mapM fun ((column, t), cell) =>
    (t.decode cell).mapError (.decode column)
  return ⟨script.columns.map Prod.fst, values⟩

/-- The number of affected rows: the last word of a tag, or zero if that is no number. -/
def affectedRows (tag : String) : Nat :=
  let last :=
    match Text.splitLast? ' ' tag.toList with
    | some (_, last) => last
    | none => tag.toList
  (Numeral.word? 64 last).getD 0

/-- Whether a text can be sent, which ends with its first zero character. -/
def isSendable (text : String) : Bool :=
  !text.contains '\x00'

/-- The answer to parameters that have been sent. The rows arrive before a failure behind them, and
each has as many cells as there are columns; cells are read when everything has arrived. -/
def reply (script : ServerScript) : Except Error Reply :=
  match script.failureAt? .execute with
  | some e => .error e
  | none =>
      if script.rows.any (·.length ≠ script.columns.length) then .error (.query .unreadable)
      else
        match script.failureAt? .rows with
        | some e => .error e
        | none =>
            if isSendable script.tag then do
              let rows ← script.rows.mapM script.decodeRow
              return ⟨rows, affectedRows script.tag⟩
            else .error (.query .unreadable)

/-- One round trip: a statement is prepared, and then run with its parameters. -/
def run (script : ServerScript) (c : Call) (arrived : List Exchange) :
    Except Error Reply × List Exchange :=
  if isSendable c.sql then
    let arrived := arrived ++ [.prepare c.sql]
    match script.failureAt? .prepare with
    | some e => (.error e, arrived)
    | none =>
        if c.params.length ≠ script.paramTypes.length then
          (.error (.query (.parameterCount script.paramTypes.length c.params.length)), arrived)
        else
          match encodeParams 0 script.paramTypes c.params with
          | .error e => (.error e, arrived)
          | .ok params => (script.reply, arrived ++ [.bind params])
  else (.error (.query .unsendable), arrived)

/-- The server as a driver. -/
def driver (script : ServerScript) : Driver (List Exchange) where
  query := script.run
  close arrived := (.ok (), arrived)
  trace _ arrived := arrived

end ServerScript
end ParamSql
