import ParamSql.Query.Clause

/-!
# Query — descriptions of statements

A query is a value: the clauses of its own statement, and the statements that run ahead of it in
the same round trip. Refining a query gives another one and leaves the first as it is.

- `Query`: clauses that may contain queries, with appended statements.
- `Query.fold`: replaces every query inside a query, from the innermost outwards.
- `Query.dependents`: all appended statements, each one ahead of its own.
- `Query.shape`: the form of the result.
-/

namespace ParamSql

/-- A statement with the statements that are appended to it. -/
inductive Query
  | of (clauses : Clauses Query) (appended : List (Appended Query))

namespace Query

/-! ## Parts -/

/-- The clauses of the query's own statement. -/
def clauses : Query → Clauses Query
  | .of clauses _ => clauses

/-- The statements appended to the query itself. -/
def appended : Query → List (Appended Query)
  | .of _ appended => appended

/-- A query without clauses. -/
def empty : Query :=
  .of {} []

instance : Inhabited Query := ⟨empty⟩

/-- A query that takes its rows from a source. -/
def ofSource (source : Source Query) : Query :=
  .of { source } []

/-- The query with other clauses. -/
def modify (q : Query) (f : Clauses Query → Clauses Query) : Query :=
  .of (f q.clauses) q.appended

/-- The table of the query, if its rows come from one. -/
def table? (q : Query) : Option TableInfo :=
  q.clauses.table?

/-- The name by which other clauses refer to the rows of the query. -/
def reference? (q : Query) : Option String :=
  q.clauses.reference?

def isMutation (q : Query) : Bool :=
  q.clauses.mutation.isSome

/-- The form of the result. Without a choice of its own, a change that returns no columns delivers
the number of rows, and everything else delivers all rows. -/
def shape (q : Query) : Shape :=
  match q.clauses.shape with
  | some shape => shape
  | none => if q.isMutation && q.clauses.returning.isEmpty then .rowCount else .all

/-! ## Appended statements -/

/-- An appended statement without the ones that are appended to it in turn. -/
structure Dependent where
  clauses : Clauses Query
  required : Bool

mutual
/-- All appended statements; one stands ahead of those appended to it. -/
def dependents : Query → List Dependent
  | .of _ appended => dependentsOf appended

/-- The appended statements of a list, with those appended to them. -/
def dependentsOf : List (Appended Query) → List Dependent
  | [] => []
  | ⟨q, required⟩ :: rest => ⟨q.clauses, required⟩ :: q.dependents ++ dependentsOf rest
end

/-! ## Folding -/

section Fold

variable {α : Type} (make : (Unit → Clauses α × List (Appended α)) → α)

mutual
/-- Replaces every query by what `make` makes of its parts, from the innermost outwards. The parts
are folded when `make` asks for them: a query that is used in many places of another one need not be
followed into each of them. -/
def fold : Query → α
  | .of clauses appended => make fun _ => (foldClauses clauses, foldAppended appended)

/-- The clauses with every query in them replaced. -/
def foldClauses : Clauses Query → Clauses α
  | ⟨source, select, distinct, conditions, joins, group, having, order, limit, offset, windows,
      lock, setOps, ctes, mutation, returning, scopes, all, shape⟩ =>
      ⟨foldSource source, foldItems select, distinct, foldConditions conditions, foldJoins joins,
        foldOperands group, foldConditions having, order, limit, offset, windows, lock,
        foldSetOps setOps, foldCtes ctes, foldMutation? mutation, foldItems returning,
        foldScopes scopes, all, shape⟩

def foldAppended : List (Appended Query) → List (Appended α)
  | [] => []
  | ⟨q, required⟩ :: rest => ⟨q.fold, required⟩ :: foldAppended rest

def foldSource : Source Query → Source α
  | .nothing => .nothing
  | .table t => .table t
  | .query q name => .query q.fold name
  | .fragment f name => .fragment f name

def foldItem : SelectItem Query → SelectItem α
  | .column c name => .column c name
  | .fragment f name => .fragment f name
  | .aggregate function column isDistinct name => .aggregate function column isDistinct name
  | .window call window name => .window call window name
  | .query q name => .query q.fold name
  | .existence q name => .existence q.fold name

def foldItems : List (SelectItem Query) → List (SelectItem α)
  | [] => []
  | item :: rest => foldItem item :: foldItems rest

def foldOperand : Operand Query → Operand α
  | .column c => .column c
  | .value v => .value v
  | .fragment f => .fragment f
  | .query q => .query q.fold

def foldOperands : List (Operand Query) → List (Operand α)
  | [] => []
  | operand :: rest => foldOperand operand :: foldOperands rest

def foldPredicate : Predicate Query → Predicate α
  | .compare column op operand => .compare column op (foldOperand operand)
  | .nullCheck column isNull => .nullCheck column isNull
  | .inList column values negated => .inList column values negated
  | .inQuery column q negated => .inQuery column q.fold negated
  | .existence q negated => .existence q.fold negated
  | .between column low high negated => .between column low high negated
  | .fragment f => .fragment f
  | .constant b => .constant b

def foldCondition : Formula (Predicate Query) → Formula (Predicate α)
  | .atom p => .atom (foldPredicate p)
  | .not c => .not (foldCondition c)
  | .all cs => .all (foldConditions cs)
  | .any cs => .any (foldConditions cs)

def foldConditions : List (Formula (Predicate Query)) → List (Formula (Predicate α))
  | [] => []
  | c :: rest => foldCondition c :: foldConditions rest

def foldCondition? : Option (Formula (Predicate Query)) → Option (Formula (Predicate α))
  | none => none
  | some c => some (foldCondition c)

def foldJoinSource : JoinSource Query → JoinSource α
  | .table path name => .table path name
  | .query q name => .query q.fold name

def foldJoin : Join Query → Join α
  | ⟨kind, source, on⟩ => ⟨kind, foldJoinSource source, foldCondition? on⟩

def foldJoins : List (Join Query) → List (Join α)
  | [] => []
  | j :: rest => foldJoin j :: foldJoins rest

def foldSetOp : SetOp Query → SetOp α
  | ⟨kind, q⟩ => ⟨kind, q.fold⟩

def foldSetOps : List (SetOp Query) → List (SetOp α)
  | [] => []
  | op :: rest => foldSetOp op :: foldSetOps rest

def foldCteBody : CteBody Query → CteBody α
  | .query q => .query q.fold
  | .fragment f => .fragment f

def foldCte : Cte Query → Cte α
  | ⟨name, columns, body, isRecursive⟩ => ⟨name, columns, foldCteBody body, isRecursive⟩

def foldCtes : List (Cte Query) → List (Cte α)
  | [] => []
  | cte :: rest => foldCte cte :: foldCtes rest

def foldSetValue : SetValue Query → SetValue α
  | .value v => .value v
  | .fragment f => .fragment f
  | .increment v => .increment v
  | .decrement v => .decrement v
  | .query q => .query q.fold
  | .default => .default

def foldAssignment : Assignment Query → Assignment α
  | ⟨column, value⟩ => ⟨column, foldSetValue value⟩

def foldAssignments : List (Assignment Query) → List (Assignment α)
  | [] => []
  | a :: rest => foldAssignment a :: foldAssignments rest

def foldRecord : Record Query → Record α
  | ⟨assignments⟩ => ⟨foldAssignments assignments⟩

def foldRecords : List (Record Query) → List (Record α)
  | [] => []
  | r :: rest => foldRecord r :: foldRecords rest

def foldAction : ConflictAction Query → ConflictAction α
  | .nothing => .nothing
  | .merge columns => .merge columns
  | .update r => .update (foldRecord r)

def foldOnConflict : OnConflict Query → OnConflict α
  | ⟨columns, action⟩ => ⟨columns, foldAction action⟩

def foldOnConflict? : Option (OnConflict Query) → Option (OnConflict α)
  | none => none
  | some c => some (foldOnConflict c)

def foldRows : InsertRows Query → InsertRows α
  | .records rs => .records (foldRecords rs)
  | .query columns q => .query columns q.fold

def foldMutation : Mutation Query → Mutation α
  | .insert rows onConflict => .insert (foldRows rows) (foldOnConflict? onConflict)
  | .update r => .update (foldRecord r)
  | .delete hard => .delete hard

def foldMutation? : Option (Mutation Query) → Option (Mutation α)
  | none => none
  | some m => some (foldMutation m)

def foldScope : Scope Query → Scope α
  | ⟨name, condition⟩ => ⟨name, foldCondition condition⟩

def foldScopes : List (Scope Query) → List (Scope α)
  | [] => []
  | s :: rest => foldScope s :: foldScopes rest
end

end Fold
end Query
end ParamSql
