import ParamSql.Connection.Event
import ParamSql.Result.Reply

/-!
# Driver — running statements on a connection

A driver is given by what it does to the state of a connection. Verbs of transactions are statements
like any other, so that a driver around another one sees them and may replace them.

- `Call`: a statement with the values for its placeholders.
- `Driver`: running statements, closing the connection and reporting events.
- `Fetch`: a query with the form in which its result is wanted; it takes one statement at most.
-/

namespace ParamSql

/-- A statement as it is sent. -/
structure Call where
  sql : String
  params : List Value := []
  deriving Repr, BEq

/-- What can be done with a connection whose state is in `σ`. -/
structure Driver (σ : Type) where
  query : Call → σ → Except Error Reply × σ
  close : σ → Except Error Unit × σ
  trace : Event → σ → σ

/-- A query with the way in which its result is to be read. -/
structure Fetch where
  query : Query
  reading : Reading
  options : CompileOptions := {}

namespace Fetch

variable {σ : Type}

/-- Sends the query as one statement and reads the reply. Nothing is sent if it has none. -/
def run (d : Driver σ) (f : Fetch) (s : σ) : Except Error Fetched × σ :=
  match f.query.compile f.options with
  | .error fault => (.error (.compile fault), s)
  | .ok c =>
      let (reply, s) := d.query ⟨c.sql, c.params⟩ s
      (reply.bind fun reply => reply.readAs f.query.shape f.reading, s)

end Fetch
end ParamSql
