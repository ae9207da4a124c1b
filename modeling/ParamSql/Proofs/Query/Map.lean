import Mathlib.Tactic.Simps.Basic
import ParamSql.Proofs.Logic.Formula
import ParamSql.Query.Basic

/-!
# Map — clauses with other inner queries

The parts of a statement take the type of the queries inside them as a parameter.  This file defines
what a function on queries does to each part, up to `Clauses.map`, and shows that `Query.fold` is
made of it:

* `Clauses.map f c` — the clauses `c` with `f q` in the place of every inner query `q`;
* `Clauses.map_map`, `Clauses.map_id` — one map behind another, and every query in its own place;
* `Query.foldClauses_eq_map` and `Query.foldAppended_eq_map` — folding the parts of a query is
  mapping its fold over them;
* `Query.fold_of` — the equation that all proofs about renderings start from.
-/

namespace ParamSql

variable {α β γ Q R S : Type}

/-! ## Parts of a statement -/

def Operand.map (f : Q → R) : Operand Q → Operand R
  | .column c => .column c
  | .value v => .value v
  | .fragment g => .fragment g
  | .query q => .query (f q)

def Predicate.map (f : Q → R) : Predicate Q → Predicate R
  | .compare column op operand => .compare column op (operand.map f)
  | .nullCheck column isNull => .nullCheck column isNull
  | .inList column values negated => .inList column values negated
  | .inQuery column q negated => .inQuery column (f q) negated
  | .existence q negated => .existence (f q) negated
  | .between column low high negated => .between column low high negated
  | .fragment g => .fragment g
  | .constant b => .constant b

def SelectItem.map (f : Q → R) : SelectItem Q → SelectItem R
  | .column c name => .column c name
  | .fragment g name => .fragment g name
  | .aggregate function c isDistinct name => .aggregate function c isDistinct name
  | .window call w name => .window call w name
  | .query q name => .query (f q) name
  | .existence q name => .existence (f q) name

@[simp]
theorem SelectItem.map_ofColumn (f : Q → R) (column : String) :
    (SelectItem.ofColumn column).map f = .ofColumn column := rfl

def Source.map (f : Q → R) : Source Q → Source R
  | .nothing => .nothing
  | .table t => .table t
  | .query q name => .query (f q) name
  | .fragment g name => .fragment g name

def JoinSource.map (f : Q → R) : JoinSource Q → JoinSource R
  | .table path name => .table path name
  | .query q name => .query (f q) name

def Join.map (f : Q → R) (j : Join Q) : Join R :=
  ⟨j.kind, j.source.map f, j.on.map (Formula.map (Predicate.map f))⟩

def SetOp.map (f : Q → R) (op : SetOp Q) : SetOp R :=
  ⟨op.kind, f op.query⟩

def CteBody.map (f : Q → R) : CteBody Q → CteBody R
  | .query q => .query (f q)
  | .fragment g => .fragment g

def Cte.map (f : Q → R) (cte : Cte Q) : Cte R :=
  ⟨cte.name, cte.columns, cte.body.map f, cte.isRecursive⟩

def Scope.map (f : Q → R) (s : Scope Q) : Scope R :=
  ⟨s.name, s.condition.map (Predicate.map f)⟩

/-! ## Changes -/

def SetValue.map (f : Q → R) : SetValue Q → SetValue R
  | .value v => .value v
  | .fragment g => .fragment g
  | .increment v => .increment v
  | .decrement v => .decrement v
  | .query q => .query (f q)
  | .default => .default

def Assignment.map (f : Q → R) (a : Assignment Q) : Assignment R :=
  ⟨a.column, a.value.map f⟩

def Record.map (f : Q → R) (r : Record Q) : Record R :=
  ⟨r.assignments.map (Assignment.map f)⟩

theorem Record.get?_map (f : Q → R) (r : Record Q) (column : String) :
    (r.map f).get? column = (r.get? column).map (SetValue.map f) := by
  simp only [Record.get?, Keyed.find?, Record.map, List.find?_map, Option.map_map]
  rfl

@[simp]
theorem SetValue.isRelative_map (f : Q → R) (v : SetValue Q) :
    (v.map f).isRelative = v.isRelative := by
  cases v <;> rfl

def ConflictAction.map (f : Q → R) : ConflictAction Q → ConflictAction R
  | .nothing => .nothing
  | .merge columns => .merge columns
  | .update r => .update (r.map f)

def OnConflict.map (f : Q → R) (c : OnConflict Q) : OnConflict R :=
  ⟨c.columns, c.action.map f⟩

def InsertRows.map (f : Q → R) : InsertRows Q → InsertRows R
  | .records rs => .records (rs.map (Record.map f))
  | .query columns q => .query columns (f q)

def Mutation.map (f : Q → R) : Mutation Q → Mutation R
  | .insert rows onConflict => .insert (rows.map f) (onConflict.map (OnConflict.map f))
  | .update r => .update (r.map f)
  | .delete hard => .delete hard

/-! ## Statements -/

/-- The clauses with other inner queries. -/
@[simps]
def Clauses.map (f : Q → R) (c : Clauses Q) : Clauses R where
  source := c.source.map f
  select := c.select.map (SelectItem.map f)
  distinct := c.distinct
  conditions := c.conditions.map (Formula.map (Predicate.map f))
  joins := c.joins.map (Join.map f)
  group := c.group.map (Operand.map f)
  having := c.having.map (Formula.map (Predicate.map f))
  order := c.order
  limit := c.limit
  offset := c.offset
  windows := c.windows
  lock := c.lock
  setOps := c.setOps.map (SetOp.map f)
  ctes := c.ctes.map (Cte.map f)
  mutation := c.mutation.map (Mutation.map f)
  returning := c.returning.map (SelectItem.map f)
  scopes := c.scopes.map (Scope.map f)
  all := c.all
  shape := c.shape

def Appended.map (f : Q → R) (a : Appended Q) : Appended R :=
  ⟨f a.query, a.required⟩

/-! ## One map behind another -/

section Composition

variable (f : Q → R) (g : R → S)

theorem Operand.map_comp : Operand.map g ∘ Operand.map f = Operand.map (g ∘ f) := by
  funext operand
  cases operand <;> rfl

theorem Predicate.map_comp : Predicate.map g ∘ Predicate.map f = Predicate.map (g ∘ f) := by
  funext p
  cases p with
  | compare column op operand =>
      exact congrArg (compare column op) (congrFun (Operand.map_comp f g) _)
  | _ => rfl

theorem Formula.map_predicate_comp :
    Formula.map (Predicate.map g) ∘ Formula.map (Predicate.map f) =
      Formula.map (Predicate.map (g ∘ f)) := by
  rw [Formula.map_comp, Predicate.map_comp]

theorem SelectItem.map_comp : SelectItem.map g ∘ SelectItem.map f = SelectItem.map (g ∘ f) := by
  funext item
  cases item <;> rfl

theorem Source.map_map (s : Source Q) : (s.map f).map g = s.map (g ∘ f) := by
  cases s <;> rfl

theorem Join.map_comp : Join.map g ∘ Join.map f = Join.map (g ∘ f) := by
  funext j
  rcases j with ⟨kind, source, on⟩
  cases source <;>
    simp only [Function.comp_apply, map, JoinSource.map, Option.map_map,
      Formula.map_predicate_comp f g]

theorem SetOp.map_comp : SetOp.map g ∘ SetOp.map f = SetOp.map (g ∘ f) :=
  rfl

theorem Cte.map_comp : Cte.map g ∘ Cte.map f = Cte.map (g ∘ f) := by
  funext cte
  rcases cte with ⟨name, columns, body, isRecursive⟩
  cases body <;> rfl

theorem Scope.map_comp : Scope.map g ∘ Scope.map f = Scope.map (g ∘ f) := by
  funext s
  exact congrArg (Scope.mk s.name) (congrFun (Formula.map_predicate_comp f g) s.condition)

theorem Assignment.map_comp : Assignment.map g ∘ Assignment.map f = Assignment.map (g ∘ f) := by
  funext a
  rcases a with ⟨column, value⟩
  cases value <;> rfl

theorem Record.map_comp : Record.map g ∘ Record.map f = Record.map (g ∘ f) := by
  funext r
  simp only [Function.comp_apply, map, List.map_map, Assignment.map_comp f g]

theorem OnConflict.map_comp : OnConflict.map g ∘ OnConflict.map f = OnConflict.map (g ∘ f) := by
  funext c
  rcases c with ⟨columns, action⟩
  cases action with
  | update r => exact congrArg (fun r => mk columns (.update r)) (congrFun (Record.map_comp f g) r)
  | _ => rfl

theorem Mutation.map_comp : Mutation.map g ∘ Mutation.map f = Mutation.map (g ∘ f) := by
  funext m
  cases m with
  | insert rows onConflict =>
      cases rows <;>
        simp only [Function.comp_apply, map, InsertRows.map, List.map_map, Option.map_map,
          Record.map_comp f g, OnConflict.map_comp f g]
  | update r => exact congrArg update (congrFun (Record.map_comp f g) r)
  | delete hard => rfl

theorem Clauses.map_map (c : Clauses Q) : (c.map f).map g = c.map (g ∘ f) := by
  simp only [map, List.map_map, Option.map_map, Source.map_map f g, SelectItem.map_comp f g,
    Formula.map_predicate_comp f g, Join.map_comp f g, Operand.map_comp f g, SetOp.map_comp f g,
    Cte.map_comp f g, Mutation.map_comp f g, Scope.map_comp f g]

end Composition

/-! ## Every query in its own place -/

section Identity

theorem Formula.map_predicate_id :
    Formula.map (Predicate.map id) = (id : Formula (Predicate Q) → Formula (Predicate Q)) := by
  have hpredicate : Predicate.map id = (id : Predicate Q → Predicate Q) := by
    funext p
    cases p with
    | compare column op operand => cases operand <;> rfl
    | _ => rfl
  rw [hpredicate]
  exact funext Formula.map_id

theorem SelectItem.map_id : SelectItem.map id = (id : SelectItem Q → SelectItem Q) := by
  funext item
  cases item <;> rfl

theorem Join.map_id : Join.map id = (id : Join Q → Join Q) := by
  funext j
  rcases j with ⟨kind, source, on⟩
  cases source <;> simp [map, JoinSource.map, Formula.map_predicate_id]

theorem Cte.map_id : Cte.map id = (id : Cte Q → Cte Q) := by
  funext cte
  rcases cte with ⟨name, columns, body, isRecursive⟩
  cases body <;> rfl

theorem Record.map_id : Record.map id = (id : Record Q → Record Q) := by
  have hassignment : Assignment.map id = (id : Assignment Q → Assignment Q) := by
    funext a
    rcases a with ⟨column, value⟩
    cases value <;> rfl
  funext r
  simp [map, hassignment]

theorem Mutation.map_id : Mutation.map id = (id : Mutation Q → Mutation Q) := by
  have hconflict : OnConflict.map id = (id : OnConflict Q → OnConflict Q) := by
    funext c
    rcases c with ⟨columns, action⟩
    cases action <;> simp [OnConflict.map, ConflictAction.map, Record.map_id]
  funext m
  cases m with
  | insert rows onConflict => cases rows <;> simp [map, InsertRows.map, Record.map_id, hconflict]
  | update r => simp [map, Record.map_id]
  | delete hard => rfl

theorem Clauses.map_id (c : Clauses Q) : c.map id = c := by
  have hsource : c.source.map id = c.source := by
    cases c.source <;> rfl
  have hoperand : Operand.map id = (id : Operand Q → Operand Q) := by
    funext operand
    cases operand <;> rfl
  have hsetOp : SetOp.map id = (id : SetOp Q → SetOp Q) := rfl
  have hscope : Scope.map id = (id : Scope Q → Scope Q) := by
    funext s
    simp [Scope.map, Formula.map_predicate_id]
  simp [map, hsource, hoperand, hsetOp, hscope, SelectItem.map_id, Formula.map_predicate_id,
    Join.map_id, Cte.map_id, Mutation.map_id]

end Identity

/-! ## Folding is mapping -/

namespace Query

variable (make : (Unit → Clauses α × List (Appended α)) → α)

theorem foldItem_eq_map (item : SelectItem Query) :
    foldItem make item = item.map (fold make) := by
  cases item <;> rfl

theorem foldItems_eq_map (items : List (SelectItem Query)) :
    foldItems make items = items.map (SelectItem.map (fold make)) := by
  induction items with
  | nil => rfl
  | cons item rest ih =>
      simp only [foldItems, foldItem_eq_map, ih, List.map_cons]

theorem foldOperand_eq_map (operand : Operand Query) :
    foldOperand make operand = operand.map (fold make) := by
  cases operand <;> rfl

theorem foldOperands_eq_map (operands : List (Operand Query)) :
    foldOperands make operands = operands.map (Operand.map (fold make)) := by
  induction operands with
  | nil => rfl
  | cons operand rest ih =>
      simp only [foldOperands, foldOperand_eq_map, ih, List.map_cons]

theorem foldPredicate_eq_map (p : Predicate Query) :
    foldPredicate make p = p.map (fold make) := by
  cases p with
  | compare column op operand =>
      simp only [foldPredicate, Predicate.map, foldOperand_eq_map]
  | _ => rfl

mutual
theorem foldCondition_eq_map :
    ∀ f : Formula (Predicate Query),
      foldCondition make f = f.map (Predicate.map (fold make))
  | .atom p => by
      simp only [foldCondition, Formula.map, foldPredicate_eq_map]
  | .not f => by
      simp only [foldCondition, Formula.map, foldCondition_eq_map f]
  | .all fs => by
      simp only [foldCondition, Formula.map, foldConditions_eq_map fs, Formula.mapList_eq_map]
  | .any fs => by
      simp only [foldCondition, Formula.map, foldConditions_eq_map fs, Formula.mapList_eq_map]

theorem foldConditions_eq_map :
    ∀ fs : List (Formula (Predicate Query)),
      foldConditions make fs = fs.map (Formula.map (Predicate.map (fold make)))
  | [] => rfl
  | f :: fs => by
      simp only [foldConditions, foldCondition_eq_map f, foldConditions_eq_map fs, List.map_cons]
end

theorem foldJoin_eq_map (j : Join Query) : foldJoin make j = j.map (fold make) := by
  rcases j with ⟨kind, source, on⟩
  cases source <;> cases on <;>
    simp [foldJoin, foldJoinSource, foldCondition?, Join.map, JoinSource.map, foldCondition_eq_map]

theorem foldJoins_eq_map (js : List (Join Query)) :
    foldJoins make js = js.map (Join.map (fold make)) := by
  induction js with
  | nil => rfl
  | cons j rest ih =>
      simp only [foldJoins, foldJoin_eq_map, ih, List.map_cons]

theorem foldSetOps_eq_map (ops : List (SetOp Query)) :
    foldSetOps make ops = ops.map (SetOp.map (fold make)) := by
  induction ops with
  | nil => rfl
  | cons op rest ih =>
      rcases op with ⟨kind, q⟩
      simp only [foldSetOps, foldSetOp, SetOp.map, ih, List.map_cons]

theorem foldCtes_eq_map (ctes : List (Cte Query)) :
    foldCtes make ctes = ctes.map (Cte.map (fold make)) := by
  induction ctes with
  | nil => rfl
  | cons cte rest ih =>
      rcases cte with ⟨name, columns, body, isRecursive⟩
      cases body <;>
        simp only [foldCtes, foldCte, foldCteBody, Cte.map, CteBody.map, ih, List.map_cons]

theorem foldRecord_eq_map (r : Record Query) : foldRecord make r = r.map (fold make) := by
  rcases r with ⟨assignments⟩
  induction assignments with
  | nil => rfl
  | cons a rest ih =>
      rcases a with ⟨column, value⟩
      -- the assignments are what the induction is about, not the record around them
      simp only [foldRecord, Record.map, Record.mk.injEq] at ih
      cases value <;>
        simp [foldRecord, foldAssignments, foldAssignment, foldSetValue, Record.map,
          Assignment.map, SetValue.map, ih]

theorem foldRecords_eq_map (rs : List (Record Query)) :
    foldRecords make rs = rs.map (Record.map (fold make)) := by
  induction rs with
  | nil => rfl
  | cons r rest ih =>
      simp only [foldRecords, foldRecord_eq_map, ih, List.map_cons]

theorem foldOnConflict_eq_map (c : OnConflict Query) :
    foldOnConflict make c = c.map (fold make) := by
  rcases c with ⟨columns, action⟩
  cases action <;>
    simp only [foldOnConflict, foldAction, OnConflict.map, ConflictAction.map, foldRecord_eq_map]

theorem foldMutation_eq_map (m : Mutation Query) :
    foldMutation make m = m.map (fold make) := by
  cases m with
  | insert rows onConflict =>
      cases rows <;> cases onConflict <;>
        simp [foldMutation, foldRows, foldOnConflict?, Mutation.map, InsertRows.map,
          foldRecords_eq_map, foldOnConflict_eq_map]
  | update r =>
      simp only [foldMutation, Mutation.map, foldRecord_eq_map]
  | delete hard => rfl

theorem foldScopes_eq_map (scopes : List (Scope Query)) :
    foldScopes make scopes = scopes.map (Scope.map (fold make)) := by
  induction scopes with
  | nil => rfl
  | cons s rest ih =>
      rcases s with ⟨name, condition⟩
      simp only [foldScopes, foldScope, Scope.map, foldCondition_eq_map, ih, List.map_cons]

/-- Folding the clauses of a query folds the queries in them. -/
theorem foldClauses_eq_map (c : Clauses Query) : foldClauses make c = c.map (fold make) := by
  -- the clauses that are not lists
  have hsource : foldSource make c.source = c.source.map (fold make) := by
    cases c.source <;> rfl
  have hmutation : foldMutation? make c.mutation = c.mutation.map (Mutation.map (fold make)) := by
    cases c.mutation with
    | none => rfl
    | some m =>
        simp only [foldMutation?, foldMutation_eq_map, Option.map_some]
  cases c
  simp only [foldClauses, Clauses.map, foldItems_eq_map, foldConditions_eq_map, foldJoins_eq_map,
    foldOperands_eq_map, foldSetOps_eq_map, foldCtes_eq_map, foldScopes_eq_map, hsource, hmutation]

/-- Folding the appended statements folds each of them. -/
theorem foldAppended_eq_map (as : List (Appended Query)) :
    foldAppended make as = as.map (Appended.map (fold make)) := by
  induction as with
  | nil => rfl
  | cons a rest ih =>
      simp only [foldAppended, Appended.map, ih, List.map_cons]

/-- What a query is folded to: its parts are mapped, and `make` is told how to get at them. -/
theorem fold_of (c : Clauses Query) (as : List (Appended Query)) :
    fold make (.of c as) =
      make fun _ => (c.map (fold make), as.map (Appended.map (fold make))) := by
  simp only [fold, foldClauses_eq_map, foldAppended_eq_map]

end Query
end ParamSql
