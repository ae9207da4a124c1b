import ParamSql.Query.Basic

/-!
# Condition — filters of a query

- `Condition`: a formula over predicates that may contain queries.
- `Condition.inList`, `Condition.notInList`: lists without values are decided at once.
- `Query.filter`, `Query.orFilter`, `Query.filterNot`: what the caller asks of the rows.
- `Query.scope`, `Query.unscope`: default filters, kept apart from what the caller asks.
-/

namespace ParamSql

/-- A condition of WHERE, HAVING or ON. -/
abbrev Condition := Formula (Predicate Query)

namespace Condition

/-! ## Predicates -/

def compare (column : String) (op : CompareOp) (operand : Operand Query) : Condition :=
  .atom (.compare (.parse column) op operand)

/-- Equality of two columns. -/
def columnsEq (left right : String) : Condition :=
  compare left .eq (.column (.parse right))

def isNull (column : String) : Condition :=
  .atom (.nullCheck (.parse column) true)

def isNotNull (column : String) : Condition :=
  .atom (.nullCheck (.parse column) false)

/-- Membership in a list of values, which is false of a list without any. -/
def inList (column : String) (values : List Value) : Condition :=
  if values.isEmpty then .atom (.constant false)
  else .atom (.inList (.parse column) values false)

/-- Absence from a list of values, which is true of a list without any. -/
def notInList (column : String) (values : List Value) : Condition :=
  if values.isEmpty then .atom (.constant true)
  else .atom (.inList (.parse column) values true)

def inQuery (column : String) (q : Query) : Condition :=
  .atom (.inQuery (.parse column) q false)

/-- Whether a query has rows. -/
def existence (q : Query) : Condition :=
  .atom (.existence q false)

def between (column : String) (low high : Value) : Condition :=
  .atom (.between (.parse column) low high false)

def fragment (f : Fragment) : Condition :=
  .atom (.fragment f)

end Condition

namespace Query

/-! ## What the caller asks -/

/-- Demands a condition besides those there are. -/
def filter (q : Query) (condition : Condition) : Query :=
  q.modify fun c => { c with conditions := c.conditions ++ [condition] }

/-- Accepts a condition in the place of all those there are. -/
def orFilter (q : Query) (condition : Condition) : Query :=
  q.modify fun c =>
    { c with
      conditions :=
        [if c.conditions.isEmpty then condition else .any [.all c.conditions, condition]] }

/-- Demands that a condition does not hold. -/
def filterNot (q : Query) (condition : Condition) : Query :=
  q.filter (.not condition)

/-- Demands that a column has a value, if one is given. -/
def filterEq? (q : Query) (column : String) (value : Option Value) : Query :=
  match value with
  | some v => q.filter (.compare column .eq (.value v))
  | none => q

/-! ## Default filters -/

/-- The name of the default filter of tables whose rows are marked as deleted. -/
def deletedScope : String := "deleted"

/-- Adds a default filter, in the place of any other of its name. -/
def scope (q : Query) (name : String) (condition : Condition) : Query :=
  q.modify fun c => { c with scopes := Keyed.putLast Scope.name ⟨name, condition⟩ c.scopes }

/-- Drops the default filter of a name. -/
def unscope (q : Query) (name : String) : Query :=
  q.modify fun c => { c with scopes := Keyed.remove Scope.name name c.scopes }

/-- Drops the default filter against rows marked as deleted. -/
def includeDeleted (q : Query) : Query :=
  q.unscope deletedScope

/-- States that a change is meant to affect every row. -/
def allRows (q : Query) : Query :=
  q.modify fun c => { c with all := true }

end Query
end ParamSql
