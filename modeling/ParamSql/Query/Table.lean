import ParamSql.Query.Condition

/-!
# Table — tables as starting points of queries

- `Table`: what is known of a table, with the default filters of its queries.
- `Table.softDelete`: rows are marked as deleted, and marked rows are filtered out.
- `Table.query`: the query of all rows.
-/

namespace ParamSql

/-- A table with the default filters of the queries on it. -/
structure Table where
  info : TableInfo
  scopes : List (Scope Query)

namespace Table

/-- A table of which only the name is known. -/
def named (name : String) : Table :=
  ⟨{ name }, []⟩

def inSchema (t : Table) (schema : String) : Table :=
  { t with info := { t.info with schema := some schema } }

/-- Declares the logical names of the columns. -/
def withColumns (t : Table) (columns : List String) : Table :=
  { t with info := { t.info with columns } }

/-- Chooses the naming of the columns, whatever the queries would choose. -/
def withNaming (t : Table) (naming : Naming) : Table :=
  { t with info := { t.info with naming := some naming } }

/-- Adds a default filter, in the place of any other of its name. -/
def scope (t : Table) (name : String) (condition : Condition) : Table :=
  { t with scopes := Keyed.putLast Scope.name ⟨name, condition⟩ t.scopes }

/-- Rows are marked as deleted in a column, and only rows without a mark are seen. -/
def softDelete (t : Table) (column : String) : Table :=
  let t := t.scope Query.deletedScope (.isNull column)
  { t with info := { t.info with softDelete := some column } }

/-- The query of all rows that pass the default filters. -/
def query (t : Table) : Query :=
  .of { source := .table t.info, scopes := t.scopes } []

end Table
end ParamSql
