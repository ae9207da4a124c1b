import ParamSql.Sql.Alias
import ParamSql.Sql.Statement
import Std.Data.HashSet

/-!
# Compiled — statements ready to be sent

- `Compiled`: the text of a statement with numbered placeholders, and the values for them.
- `Query.rendered`: a query with its appended statements, each of which becomes a common table
  expression.
- `Query.compile`: the statement of a query.
- `Compiled.placeholderCount`: how many placeholders a text has.
-/

namespace ParamSql

/-- The choices that a query leaves open. -/
structure CompileOptions where
  /-- The naming of columns, unless the table has its own. -/
  naming : Naming := .verbatim
  /-- How many values a statement may bind. -/
  maxParams : Nat := 65535
  deriving Repr

/-- A statement with the values for its placeholders. -/
structure Compiled where
  sql : String
  params : List Value
  /-- Whether the statement fails when a required appended statement has no rows. -/
  guarded : Bool
  deriving Repr, BEq

/-- The text that the server complains about when a required appended statement has no rows. -/
def notFoundMarker : String := "pgquery:not-found"

namespace Query

variable {ω : Type} [Output ω]

/-! ## Appended statements -/

/-- The names that a statement refers to its source and its common table expressions by. -/
def ownNames (c : Clauses Query) : List String :=
  c.reference?.toList ++ c.ctes.map Cte.name

/-- The names that generated ones have to differ from. -/
def reservedNames (q : Query) : List String :=
  ownNames q.clauses ++ q.dependents.flatMap fun d => ownNames d.clauses

/-- The condition that a statement has rows: its failure is a cast that the server refuses. -/
def guardCondition (name : String) : Rendering ω :=
  .fixed "(CASE WHEN NOT EXISTS (SELECT 1 FROM " ++ .name name ++
    .fixed (") THEN (SELECT '" ++ notFoundMarker ++ "')::int END) IS NULL")

/-- The conditions that the required statements have rows. -/
def guards (names : List String) : Rendering ω :=
  if names.isEmpty then .nothing
  else .fixed " WHERE " ++ .separated " AND " (names.map guardCondition)

/-- A statement as a common table expression. -/
def member (naming : Naming) (name : String) (c : Clauses Query) : Rendering ω :=
  .name name ++ .fixed " AS " ++ .bracketed (statement naming true c)

/-- A query with appended statements: each of them and the query itself become common table
expressions, and the rows of the query are selected. -/
def chain (naming : Naming) (q : Query) : Rendering ω :=
  let names := (reservedNames q).foldl Aliases.reserve .empty
  let aliases := names.generate (q.dependents.length + 1)
  let dependents := aliases.zip q.dependents
  let main := aliases.getLastD ""
  let members := dependents.map fun (name, d) => member naming name d.clauses
  let required := dependents.filter fun (_, d) => d.required
  .fixed "WITH " ++ .commas (members ++ [member naming main q.clauses]) ++
    .fixed " SELECT * FROM " ++ .name main ++ guards (required.map Prod.fst)

/-- A query as a single statement. -/
def rendered (naming : Naming) (q : Query) : Rendering ω :=
  if q.appended.isEmpty then statement naming false q.clauses else chain naming q

/-- Whether an appended statement is required. -/
def isGuarded (q : Query) : Bool :=
  q.dependents.any Dependent.required

/-! ## Compilation -/

/-- The statement of a query, if it binds no more values than it may. -/
def compile (q : Query) (options : CompileOptions) : Except CompileFault Compiled := do
  let lexemes ← (q.rendered options.naming : Rendering (List Lexeme)).result
  let params := Lexeme.params lexemes
  if params.length ≤ options.maxParams then
    return ⟨Lexeme.text lexemes, params, q.isGuarded⟩
  else throw (.tooManyParams params.length options.maxParams)

end Query

namespace Compiled

/-! ## Views -/

/-- The runs of digits behind a `$`. -/
def placeholders : List Char → List String
  | [] => []
  | c :: rest =>
      if c = '$' && rest.head?.any Char.isDigit then
        String.ofList (rest.takeWhile Char.isDigit) :: placeholders rest
      else placeholders rest

/-- The number of different placeholders in a text. -/
def placeholderCountOf (sql : String) : Nat :=
  (Std.HashSet.ofList (placeholders sql.toList)).size

def placeholderCount (c : Compiled) : Nat :=
  placeholderCountOf c.sql

/-- The statement as JSON, its members in the order in which they are declared. -/
def jsonText (c : Compiled) : String :=
  "\x7b\"sql\":" ++ Json.quote c.sql ++ ",\"params\":" ++ (Value.array c.params).toJson.text ++
    ",\"guarded\":" ++ (Json.bool c.guarded).text ++ "\x7d"

end Compiled
end ParamSql
