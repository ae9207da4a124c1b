import ParamSql.Proofs.Query.Map

/-!
# Revaluation — queries with other values

The values that a query binds stand in many places of it.  This file exchanges all of them:

* `Revaluation` — a function on the bound values, and one on the bounds of LIMIT and OFFSET;
* `Clauses.revalue`, from `Fragment.revalue` upwards — the clauses with other values in them, and
  the same inner queries;
* `Query.revalue` — a query with other values everywhere inside it, as `Query.revalue_of` says;
* `Clauses.revalue_same`, `Clauses.revalue_map` — nothing is exchanged for itself, and inner queries
  have nothing to do with it.
-/

namespace ParamSql

variable {Q R : Type}

/-- Other values in the place of those that a query binds. -/
structure Revaluation where
  /-- For the values. -/
  value : Value → Value
  /-- For the numbers of rows behind LIMIT and OFFSET. -/
  count : Int64 → Int64

/-- Every value in its own place. -/
def Revaluation.same : Revaluation :=
  ⟨id, id⟩

@[simp]
theorem Revaluation.same_value : Revaluation.same.value = id := rfl

@[simp]
theorem Revaluation.same_count : Revaluation.same.count = id := rfl

section Parts

variable (r : Revaluation)

/-! ## Parts without queries -/

def Piece.revalue : Piece → Piece
  | .text s => .text s
  | .bind v => .bind (r.value v)

def Fragment.revalue (f : Fragment) : Fragment :=
  ⟨⟨f.parts, f.values.map r.value⟩, f.inStep.trans (List.length_map _).symm⟩

/-- The values are exchanged in their places. -/
theorem Fragment.pieces_revalue (f : Fragment) :
    (f.revalue r).pieces = f.pieces.map (Piece.revalue r) := by
  have hpair : ∀ (parts : List Part) (vs : List Value),
      Piece.pair parts (vs.map r.value) = (Piece.pair parts vs).map (Piece.revalue r) := by
    intro parts
    induction parts with
    | nil => exact fun _ => rfl
    | cons p parts ih =>
        intro vs
        cases p with
        | text s => exact congrArg (.text s :: ·) (ih vs)
        | marker =>
            cases vs with
            | nil => rfl
            | cons v vs => exact congrArg (.bind (r.value v) :: ·) (ih vs)
  exact hpair f.parts f.values

def Order.revalue (o : Order) : Order :=
  match o.target with
  | .column _ => o
  | .fragment f => { o with target := .fragment (f.revalue r) }

def Window.revalue (w : Window) : Window :=
  { w with orderBy := w.orderBy.map (Order.revalue r), frame := w.frame.map (Fragment.revalue r) }

def LockTable.revalue : LockTable → LockTable
  | .path name => .path name
  | .fragment f => .fragment (f.revalue r)

def Lock.revalue (l : Lock) : Lock :=
  { l with tables := l.tables.map (LockTable.revalue r) }

/-! ## Conditions and rows -/

def Operand.revalue : Operand Q → Operand Q
  | .column c => .column c
  | .value v => .value (r.value v)
  | .fragment f => .fragment (f.revalue r)
  | .query q => .query q

def Predicate.revalue : Predicate Q → Predicate Q
  | .compare column op operand => .compare column op (operand.revalue r)
  | .nullCheck column isNull => .nullCheck column isNull
  | .inList column values negated => .inList column (values.map r.value) negated
  | .inQuery column q negated => .inQuery column q negated
  | .existence q negated => .existence q negated
  | .between column low high negated => .between column (r.value low) (r.value high) negated
  | .fragment f => .fragment (f.revalue r)
  | .constant b => .constant b

def SelectItem.revalue : SelectItem Q → SelectItem Q
  | .column c name => .column c name
  | .fragment f name => .fragment (f.revalue r) name
  | .aggregate function c isDistinct name => .aggregate function c isDistinct name
  | .window call w name => .window (call.revalue r) w name
  | .query q name => .query q name
  | .existence q name => .existence q name

def Source.revalue : Source Q → Source Q
  | .nothing => .nothing
  | .table t => .table t
  | .query q name => .query q name
  | .fragment f name => .fragment (f.revalue r) name

def Join.revalue (j : Join Q) : Join Q :=
  { j with on := j.on.map (Formula.map (Predicate.revalue r)) }

def CteBody.revalue : CteBody Q → CteBody Q
  | .query q => .query q
  | .fragment f => .fragment (f.revalue r)

def Cte.revalue (cte : Cte Q) : Cte Q :=
  { cte with body := cte.body.revalue r }

def Scope.revalue (s : Scope Q) : Scope Q :=
  { s with condition := s.condition.map (Predicate.revalue r) }

/-! ## Changes -/

def SetValue.revalue : SetValue Q → SetValue Q
  | .value v => .value (r.value v)
  | .fragment f => .fragment (f.revalue r)
  | .increment v => .increment (r.value v)
  | .decrement v => .decrement (r.value v)
  | .query q => .query q
  | .default => .default

def Assignment.revalue (a : Assignment Q) : Assignment Q :=
  { a with value := a.value.revalue r }

def Record.revalue (record : Record Q) : Record Q :=
  ⟨record.assignments.map (Assignment.revalue r)⟩

def ConflictAction.revalue : ConflictAction Q → ConflictAction Q
  | .nothing => .nothing
  | .merge columns => .merge columns
  | .update record => .update (record.revalue r)

def OnConflict.revalue (c : OnConflict Q) : OnConflict Q :=
  { c with action := c.action.revalue r }

def InsertRows.revalue : InsertRows Q → InsertRows Q
  | .records rs => .records (rs.map (Record.revalue r))
  | .query columns q => .query columns q

def Mutation.revalue : Mutation Q → Mutation Q
  | .insert rows onConflict => .insert (rows.revalue r) (onConflict.map (OnConflict.revalue r))
  | .update record => .update (record.revalue r)
  | .delete hard => .delete hard

/-! ## Statements -/

/-- The clauses with other values. -/
@[simps]
def Clauses.revalue (c : Clauses Q) : Clauses Q where
  source := c.source.revalue r
  select := c.select.map (SelectItem.revalue r)
  distinct := c.distinct
  conditions := c.conditions.map (Formula.map (Predicate.revalue r))
  joins := c.joins.map (Join.revalue r)
  group := c.group.map (Operand.revalue r)
  having := c.having.map (Formula.map (Predicate.revalue r))
  order := c.order.map (Order.revalue r)
  limit := c.limit.map r.count
  offset := c.offset.map r.count
  windows := c.windows.map (Window.revalue r)
  lock := c.lock.map (Lock.revalue r)
  setOps := c.setOps
  ctes := c.ctes.map (Cte.revalue r)
  mutation := c.mutation.map (Mutation.revalue r)
  returning := c.returning.map (SelectItem.revalue r)
  scopes := c.scopes.map (Scope.revalue r)
  all := c.all
  shape := c.shape

/-- A query with other values, in the queries inside it and in the appended ones as well. -/
def Query.revalue : Query → Query :=
  fold fun parts => .of ((parts ()).1.revalue r) (parts ()).2

theorem Query.revalue_of (c : Clauses Query) (as : List (Appended Query)) :
    (of c as).revalue r =
      of ((c.map (revalue r)).revalue r) (as.map (Appended.map (revalue r))) := by
  rw [revalue, fold_of]

/-! ## Inner queries have nothing to do with it -/

section Queries

variable (f : Q → R)

theorem Operand.revalue_comp_map :
    Operand.revalue r ∘ Operand.map f = Operand.map f ∘ Operand.revalue r := by
  funext operand
  cases operand <;> rfl

theorem Predicate.revalue_comp_map :
    Predicate.revalue r ∘ Predicate.map f = Predicate.map f ∘ Predicate.revalue r := by
  funext p
  cases p with
  | compare column op operand =>
      exact congrArg (compare column op) (congrFun (Operand.revalue_comp_map r f) operand)
  | _ => rfl

theorem Formula.revalue_comp_map :
    Formula.map (Predicate.revalue r) ∘ Formula.map (Predicate.map f) =
      Formula.map (Predicate.map f) ∘ Formula.map (Predicate.revalue r) := by
  rw [Formula.map_comp, Formula.map_comp, Predicate.revalue_comp_map]

theorem SelectItem.revalue_comp_map :
    SelectItem.revalue r ∘ SelectItem.map f = SelectItem.map f ∘ SelectItem.revalue r := by
  funext item
  cases item <;> rfl

theorem Join.revalue_comp_map : Join.revalue r ∘ Join.map f = Join.map f ∘ Join.revalue r := by
  funext j
  simp only [Function.comp_apply, revalue, map, Option.map_map, Formula.revalue_comp_map r f]

theorem Cte.revalue_comp_map : Cte.revalue r ∘ Cte.map f = Cte.map f ∘ Cte.revalue r := by
  funext cte
  rcases cte with ⟨name, columns, body, isRecursive⟩
  cases body <;> rfl

theorem Scope.revalue_comp_map : Scope.revalue r ∘ Scope.map f = Scope.map f ∘ Scope.revalue r := by
  funext s
  exact congrArg (Scope.mk s.name) (congrFun (Formula.revalue_comp_map r f) s.condition)

theorem Record.revalue_comp_map :
    Record.revalue r ∘ Record.map f = Record.map f ∘ Record.revalue r := by
  funext record
  have hassignment :
      Assignment.revalue r ∘ Assignment.map f = Assignment.map f ∘ Assignment.revalue r := by
    funext a
    rcases a with ⟨column, value⟩
    cases value <;> rfl
  simp only [Function.comp_apply, revalue, map, List.map_map, hassignment]

theorem Mutation.revalue_comp_map :
    Mutation.revalue r ∘ Mutation.map f = Mutation.map f ∘ Mutation.revalue r := by
  -- a record is part of an update and of the conflict of an insertion
  have hrecord := Record.revalue_comp_map r f
  have hconflict :
      OnConflict.revalue r ∘ OnConflict.map f = OnConflict.map f ∘ OnConflict.revalue r := by
    funext c
    rcases c with ⟨columns, action⟩
    cases action with
    | update record =>
        exact congrArg (fun s => OnConflict.mk columns (.update s)) (congrFun hrecord record)
    | _ => rfl
  funext m
  cases m with
  | insert rows onConflict =>
      cases rows <;>
        simp only [Function.comp_apply, revalue, map, InsertRows.revalue, InsertRows.map,
          List.map_map, Option.map_map, hrecord, hconflict]
  | update record => exact congrArg update (congrFun hrecord record)
  | delete hard => rfl

theorem Clauses.revalue_map (c : Clauses Q) : (c.map f).revalue r = (c.revalue r).map f := by
  have hsource : (c.source.map f).revalue r = (c.source.revalue r).map f := by
    cases c.source <;> rfl
  simp only [map, revalue, List.map_map, Option.map_map, hsource, SelectItem.revalue_comp_map r f,
    Formula.revalue_comp_map r f, Join.revalue_comp_map r f, Operand.revalue_comp_map r f,
    Cte.revalue_comp_map r f, Mutation.revalue_comp_map r f, Scope.revalue_comp_map r f]

end Queries
end Parts

/-! ## Nothing is exchanged for itself -/

@[simp]
theorem Fragment.revalue_same : Fragment.revalue .same = id := by
  funext f
  simp [revalue]

@[simp]
theorem Order.revalue_same : Order.revalue .same = id := by
  funext o
  rcases o with ⟨target, direction, nulls⟩
  cases target <;> simp [revalue]

@[simp]
theorem Window.revalue_same : Window.revalue .same = id := by
  funext w
  simp [revalue]

@[simp]
theorem Lock.revalue_same : Lock.revalue .same = id := by
  have htable : LockTable.revalue .same = id := by
    funext t
    cases t <;> simp [LockTable.revalue]
  funext l
  simp [revalue, htable]

section Same

variable {Q : Type}

@[simp]
theorem Operand.revalue_same : Operand.revalue .same = (id : Operand Q → Operand Q) := by
  funext operand
  cases operand <;> simp [revalue]

@[simp]
theorem Formula.revalue_same :
    Formula.map (Predicate.revalue .same) =
      (id : Formula (Predicate Q) → Formula (Predicate Q)) := by
  have hpredicate : Predicate.revalue .same = (id : Predicate Q → Predicate Q) := by
    funext p
    cases p <;> simp [Predicate.revalue]
  funext f
  rw [hpredicate]
  exact Formula.map_id f

@[simp]
theorem SelectItem.revalue_same :
    SelectItem.revalue .same = (id : SelectItem Q → SelectItem Q) := by
  funext item
  cases item <;> simp [revalue]

@[simp]
theorem Join.revalue_same : Join.revalue .same = (id : Join Q → Join Q) := by
  funext j
  simp [revalue]

@[simp]
theorem Cte.revalue_same : Cte.revalue .same = (id : Cte Q → Cte Q) := by
  funext cte
  rcases cte with ⟨name, columns, body, isRecursive⟩
  cases body <;> simp [revalue, CteBody.revalue]

@[simp]
theorem Scope.revalue_same : Scope.revalue .same = (id : Scope Q → Scope Q) := by
  funext s
  simp [revalue]

@[simp]
theorem Record.revalue_same : Record.revalue .same = (id : Record Q → Record Q) := by
  have hassignment : Assignment.revalue .same = (id : Assignment Q → Assignment Q) := by
    funext a
    rcases a with ⟨column, value⟩
    cases value <;> simp [Assignment.revalue, SetValue.revalue]
  funext record
  simp [revalue, hassignment]

@[simp]
theorem Mutation.revalue_same : Mutation.revalue .same = (id : Mutation Q → Mutation Q) := by
  have hconflict : OnConflict.revalue .same = (id : OnConflict Q → OnConflict Q) := by
    funext c
    rcases c with ⟨columns, action⟩
    cases action <;> simp [OnConflict.revalue, ConflictAction.revalue]
  funext m
  cases m with
  | insert rows onConflict => cases rows <;> simp [revalue, InsertRows.revalue, hconflict]
  | update record => simp [revalue]
  | delete hard => rfl

@[simp]
theorem Clauses.revalue_same (c : Clauses Q) : c.revalue .same = c := by
  have hsource : c.source.revalue .same = c.source := by
    cases c.source <;> simp [Source.revalue]
  simp [revalue, hsource]

end Same
end ParamSql
