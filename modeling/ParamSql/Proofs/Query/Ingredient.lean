import ParamSql.Proofs.Query.Map

/-!
# Ingredient — what the caller puts into a statement

Apart from bound values, a statement is written from three kinds of things that the caller supplies:
names, fragments of SQL, and other queries.  This file lists them:

* `Clauses.ingredients c` — everything of the three kinds in the clauses `c`, written or not;
* `Clauses.Each p c` — the same as a statement about the single clauses, with a name for each;
* `Query.induction` — to prove something of all queries, it may be taken for granted of the queries
  among the ingredients and of the appended ones.
-/

namespace ParamSql

variable {α Q : Type}

/-- Something that the caller supplies to a statement. -/
inductive Ingredient (Q : Type)
  | name (s : String)
  | fragment (f : Fragment)
  | query (q : Q)

/-! ## Ingredients of the parts -/

def ColumnRef.ingredients (c : ColumnRef) : List (Ingredient Q) :=
  c.table.toList.map .name ++ [.name c.name]

def Operand.ingredients : Operand Q → List (Ingredient Q)
  | .column c => c.ingredients
  | .value _ => []
  | .fragment g => [.fragment g]
  | .query q => [.query q]

def Predicate.ingredients : Predicate Q → List (Ingredient Q)
  | .compare c _ operand => c.ingredients ++ operand.ingredients
  | .nullCheck c _ => c.ingredients
  | .inList c _ _ => c.ingredients
  | .inQuery c q _ => c.ingredients ++ [.query q]
  | .existence q _ => [.query q]
  | .between c _ _ _ => c.ingredients
  | .fragment g => [.fragment g]
  | .constant _ => []

def Formula.ingredients (f : Formula (Predicate Q)) : List (Ingredient Q) :=
  f.atoms.flatMap Predicate.ingredients

def SelectItem.ingredients : SelectItem Q → List (Ingredient Q)
  | .column c name => c.ingredients ++ name.toList.map .name
  | .fragment g name => .fragment g :: name.toList.map .name
  | .aggregate _ c _ name => c.toList.flatMap ColumnRef.ingredients ++ name.toList.map .name
  | .window call w name => .fragment call :: .name w :: name.toList.map .name
  | .query q name => [.query q, .name name]
  | .existence q name => [.query q, .name name]

def Distinct.ingredients : Distinct → List (Ingredient Q)
  | .rows => []
  | .on columns => columns.flatMap ColumnRef.ingredients

def Order.ingredients (o : Order) : List (Ingredient Q) :=
  match o.target with
  | .column c => c.ingredients
  | .fragment g => [.fragment g]

def Window.ingredients (w : Window) : List (Ingredient Q) :=
  .name w.name :: w.partitionBy.flatMap ColumnRef.ingredients ++
    w.orderBy.flatMap Order.ingredients ++ w.frame.toList.map .fragment

def LockTable.ingredients : LockTable → List (Ingredient Q)
  | .path name => [.name name]
  | .fragment g => [.fragment g]

def Lock.ingredients (l : Lock) : List (Ingredient Q) :=
  l.tables.flatMap LockTable.ingredients

def TableInfo.ingredients (t : TableInfo) : List (Ingredient Q) :=
  .name t.name :: (t.schema.toList ++ t.columns ++ t.softDelete.toList).map .name

def Source.ingredients : Source Q → List (Ingredient Q)
  | .nothing => []
  | .table t => t.ingredients
  | .query q name => [.query q, .name name]
  | .fragment g name => [.fragment g, .name name]

def JoinSource.ingredients : JoinSource Q → List (Ingredient Q)
  | .table path name => .name path :: name.toList.map .name
  | .query q name => [.query q, .name name]

def Join.ingredients (j : Join Q) : List (Ingredient Q) :=
  j.source.ingredients ++ j.on.toList.flatMap Formula.ingredients

def SetOp.ingredients (op : SetOp Q) : List (Ingredient Q) :=
  [.query op.query]

def Cte.ingredients (cte : Cte Q) : List (Ingredient Q) :=
  .name cte.name :: cte.columns.map .name ++
    match cte.body with
    | .query q => [.query q]
    | .fragment g => [.fragment g]

def Scope.ingredients (s : Scope Q) : List (Ingredient Q) :=
  s.condition.ingredients

def SetValue.ingredients : SetValue Q → List (Ingredient Q)
  | .value _ => []
  | .fragment g => [.fragment g]
  | .increment _ => []
  | .decrement _ => []
  | .query q => [.query q]
  | .default => []

def Assignment.ingredients (a : Assignment Q) : List (Ingredient Q) :=
  .name a.column :: a.value.ingredients

def Record.ingredients (r : Record Q) : List (Ingredient Q) :=
  r.assignments.flatMap Assignment.ingredients

theorem Record.mem_ingredients {r : Record Q} {column : String} {v : SetValue Q}
    (h : r.get? column = some v) {i : Ingredient Q} (hi : i ∈ v.ingredients) :
    i ∈ r.ingredients := by
  rcases Option.map_eq_some_iff.1 h with ⟨a, ha, rfl⟩
  exact List.mem_flatMap.2 ⟨a, List.mem_of_find?_eq_some ha, List.mem_cons_of_mem _ hi⟩

def OnConflict.ingredients (c : OnConflict Q) : List (Ingredient Q) :=
  c.columns.map .name ++
    match c.action with
    | .nothing => []
    | .merge columns => columns.map .name
    | .update r => r.ingredients

def InsertRows.ingredients : InsertRows Q → List (Ingredient Q)
  | .records rs => rs.flatMap Record.ingredients
  | .query columns q => columns.map .name ++ [.query q]

def Mutation.ingredients : Mutation Q → List (Ingredient Q)
  | .insert rows onConflict =>
      rows.ingredients ++ onConflict.toList.flatMap OnConflict.ingredients
  | .update r => r.ingredients
  | .delete _ => []

/-! ## Ingredients of a statement -/

namespace Clauses

/-- All ingredients of a statement. -/
def ingredients (c : Clauses Q) : List (Ingredient Q) :=
  c.source.ingredients ++ c.select.flatMap SelectItem.ingredients ++
    c.distinct.toList.flatMap Distinct.ingredients ++
    c.conditions.flatMap Formula.ingredients ++ c.joins.flatMap Join.ingredients ++
    c.group.flatMap Operand.ingredients ++ c.having.flatMap Formula.ingredients ++
    c.order.flatMap Order.ingredients ++ c.windows.flatMap Window.ingredients ++
    c.lock.toList.flatMap Lock.ingredients ++ c.setOps.flatMap SetOp.ingredients ++
    c.ctes.flatMap Cte.ingredients ++ c.mutation.toList.flatMap Mutation.ingredients ++
    c.returning.flatMap SelectItem.ingredients ++ c.scopes.flatMap Scope.ingredients

/-- All ingredients of a statement have a property. -/
structure Each (p : Ingredient Q → Prop) (c : Clauses Q) : Prop where
  source : ∀ i ∈ c.source.ingredients, p i
  select : ∀ item ∈ c.select, ∀ i ∈ item.ingredients, p i
  distinct : ∀ d ∈ c.distinct, ∀ i ∈ d.ingredients, p i
  conditions : ∀ f ∈ c.conditions, ∀ i ∈ f.ingredients, p i
  joins : ∀ j ∈ c.joins, ∀ i ∈ j.ingredients, p i
  group : ∀ operand ∈ c.group, ∀ i ∈ operand.ingredients, p i
  having : ∀ f ∈ c.having, ∀ i ∈ f.ingredients, p i
  order : ∀ o ∈ c.order, ∀ i ∈ o.ingredients, p i
  windows : ∀ w ∈ c.windows, ∀ i ∈ w.ingredients, p i
  lock : ∀ l ∈ c.lock, ∀ i ∈ l.ingredients, p i
  setOps : ∀ op ∈ c.setOps, ∀ i ∈ op.ingredients, p i
  ctes : ∀ cte ∈ c.ctes, ∀ i ∈ cte.ingredients, p i
  mutation : ∀ m ∈ c.mutation, ∀ i ∈ m.ingredients, p i
  returning : ∀ item ∈ c.returning, ∀ i ∈ item.ingredients, p i
  scopes : ∀ s ∈ c.scopes, ∀ i ∈ s.ingredients, p i

theorem each_iff {p : Ingredient Q → Prop} {c : Clauses Q} :
    c.Each p ↔ ∀ i ∈ c.ingredients, p i := by
  -- both sides say the same of the clauses, in the same order
  simp only [ingredients, List.forall_mem_append, List.forall_mem_flatMap, Option.mem_toList,
    and_assoc]
  constructor
  · intro h
    exact ⟨h.source, h.select, h.distinct, h.conditions, h.joins, h.group, h.having, h.order,
      h.windows, h.lock, h.setOps, h.ctes, h.mutation, h.returning, h.scopes⟩
  · rintro ⟨source, select, distinct, conditions, joins, group, having, order, windows, lock,
      setOps, ctes, mutation, returning, scopes⟩
    exact ⟨source, select, distinct, conditions, joins, group, having, order, windows, lock, setOps,
      ctes, mutation, returning, scopes⟩

end Clauses

/-! ## Queries are smaller than what they stand in -/

section Size

variable [SizeOf Q] {q : Q}

omit [SizeOf Q] in
@[simp]
theorem ColumnRef.query_notMem (c : ColumnRef) : .query q ∉ c.ingredients := by
  simp [ColumnRef.ingredients]

theorem Operand.sizeOf_query_lt {operand : Operand Q} (h : .query q ∈ operand.ingredients) :
    sizeOf q < sizeOf operand := by
  cases operand with
  | query p =>
      have hq : q = p := by simpa [ingredients] using h
      simp [hq]
  | _ => simp [ingredients] at h

theorem Predicate.sizeOf_query_lt {p : Predicate Q} (h : .query q ∈ p.ingredients) :
    sizeOf q < sizeOf p := by
  cases p with
  | compare c op operand =>
      have hlt : sizeOf q < sizeOf operand :=
        Operand.sizeOf_query_lt (by simpa [ingredients] using h)
      simp only [compare.sizeOf_spec]
      omega
  | inQuery c r negated =>
      have hq : q = r := by simpa [ingredients] using h
      simp only [inQuery.sizeOf_spec, hq]
      omega
  | existence r negated =>
      have hq : q = r := by simpa [ingredients] using h
      simp only [existence.sizeOf_spec, hq]
      omega
  | _ => simp [ingredients] at h

mutual
theorem Formula.sizeOf_atom_lt [SizeOf α] {a : α} :
    ∀ {f : Formula α}, a ∈ f.atoms → sizeOf a < sizeOf f
  | .atom b, h => by
      have hab : a = b := by simpa [Formula.atoms] using h
      simp [hab]
  | .not f, h => by
      have hlt := Formula.sizeOf_atom_lt (f := f) (by simpa [Formula.atoms] using h)
      simp only [Formula.not.sizeOf_spec]
      omega
  | .all fs, h => by
      have hlt := Formula.sizeOf_atomsOf_lt h
      simp only [Formula.all.sizeOf_spec]
      omega
  | .any fs, h => by
      have hlt := Formula.sizeOf_atomsOf_lt h
      simp only [Formula.any.sizeOf_spec]
      omega

theorem Formula.sizeOf_atomsOf_lt [SizeOf α] {a : α} :
    ∀ {fs : List (Formula α)}, a ∈ Formula.atomsOf fs → sizeOf a < sizeOf fs
  | [], h => by
      simp [Formula.atomsOf] at h
  | f :: fs, h => by
      have hmem : a ∈ f.atoms ∨ a ∈ Formula.atomsOf fs := List.mem_append.1 h
      simp only [List.cons.sizeOf_spec]
      rcases hmem with hf | hfs
      · have hlt := Formula.sizeOf_atom_lt hf
        omega
      · have hlt := Formula.sizeOf_atomsOf_lt hfs
        omega
end

theorem Formula.sizeOf_query_lt {f : Formula (Predicate Q)} (h : .query q ∈ f.ingredients) :
    sizeOf q < sizeOf f := by
  rcases List.mem_flatMap.1 h with ⟨p, hp, hq⟩
  exact Nat.lt_trans (Predicate.sizeOf_query_lt hq) (Formula.sizeOf_atom_lt hp)

theorem SelectItem.sizeOf_query_lt {item : SelectItem Q} (h : .query q ∈ item.ingredients) :
    sizeOf q < sizeOf item := by
  cases item with
  | query r name =>
      have hq : q = r := by simpa [ingredients] using h
      simp only [query.sizeOf_spec, hq]
      omega
  | existence r name =>
      have hq : q = r := by simpa [ingredients] using h
      simp only [existence.sizeOf_spec, hq]
      omega
  | _ => simp [ingredients] at h

theorem Source.sizeOf_query_lt {source : Source Q} (h : .query q ∈ source.ingredients) :
    sizeOf q < sizeOf source := by
  cases source with
  | query r name =>
      have hq : q = r := by simpa [ingredients] using h
      simp only [query.sizeOf_spec, hq]
      omega
  | _ => simp [ingredients, TableInfo.ingredients] at h

theorem Join.sizeOf_query_lt {j : Join Q} (h : .query q ∈ j.ingredients) :
    sizeOf q < sizeOf j := by
  rcases j with ⟨kind, source, on⟩
  simp only [mk.sizeOf_spec]
  rcases List.mem_append.1 h with hsource | hon
  · cases source with
    | table path name => simp [JoinSource.ingredients] at hsource
    | query r name =>
        have hq : q = r := by simpa [JoinSource.ingredients] using hsource
        simp only [JoinSource.query.sizeOf_spec, hq]
        omega
  · cases on with
    | none => simp at hon
    | some f =>
        have hlt : sizeOf q < sizeOf f := Formula.sizeOf_query_lt (by simpa using hon)
        simp only [Option.some.sizeOf_spec]
        omega

theorem SetOp.sizeOf_query_lt {op : SetOp Q} (h : .query q ∈ op.ingredients) :
    sizeOf q < sizeOf op := by
  rcases op with ⟨kind, r⟩
  have hq : q = r := by simpa [ingredients] using h
  simp only [mk.sizeOf_spec, hq]
  omega

theorem Cte.sizeOf_query_lt {cte : Cte Q} (h : .query q ∈ cte.ingredients) :
    sizeOf q < sizeOf cte := by
  rcases cte with ⟨name, columns, body, isRecursive⟩
  cases body with
  | query r =>
      have hq : q = r := by simpa [ingredients] using h
      simp only [mk.sizeOf_spec, CteBody.query.sizeOf_spec, hq]
      omega
  | fragment g => simp [ingredients] at h

theorem Scope.sizeOf_query_lt {s : Scope Q} (h : .query q ∈ s.ingredients) :
    sizeOf q < sizeOf s := by
  rcases s with ⟨name, condition⟩
  have hlt : sizeOf q < sizeOf condition := Formula.sizeOf_query_lt h
  simp only [mk.sizeOf_spec]
  omega

theorem Record.sizeOf_query_lt {r : Record Q} (h : .query q ∈ r.ingredients) :
    sizeOf q < sizeOf r := by
  rcases r with ⟨assignments⟩
  rcases List.mem_flatMap.1 h with ⟨a, ha, hq⟩
  have hlist : sizeOf a < sizeOf assignments := List.sizeOf_lt_of_mem ha
  rcases a with ⟨column, value⟩
  cases value with
  | query p =>
      have hqp : q = p := by simpa [Assignment.ingredients, SetValue.ingredients] using hq
      simp only [Assignment.mk.sizeOf_spec, SetValue.query.sizeOf_spec] at hlist
      simp only [mk.sizeOf_spec, hqp]
      omega
  | _ => simp [Assignment.ingredients, SetValue.ingredients] at hq

theorem OnConflict.sizeOf_query_lt {c : OnConflict Q} (h : .query q ∈ c.ingredients) :
    sizeOf q < sizeOf c := by
  rcases c with ⟨columns, action⟩
  cases action with
  | update r =>
      have hlt : sizeOf q < sizeOf r := Record.sizeOf_query_lt (by simpa [ingredients] using h)
      simp only [mk.sizeOf_spec, ConflictAction.update.sizeOf_spec]
      omega
  | _ => simp [ingredients] at h

theorem InsertRows.sizeOf_query_lt {rows : InsertRows Q} (h : .query q ∈ rows.ingredients) :
    sizeOf q < sizeOf rows := by
  cases rows with
  | records rs =>
      rcases List.mem_flatMap.1 h with ⟨r, hr, hq⟩
      have hlist := List.sizeOf_lt_of_mem hr
      have hlt := Record.sizeOf_query_lt hq
      simp only [records.sizeOf_spec]
      omega
  | query columns r =>
      have hq : q = r := by simpa [ingredients] using h
      simp only [query.sizeOf_spec, hq]
      omega

theorem Mutation.sizeOf_query_lt {m : Mutation Q} (h : .query q ∈ m.ingredients) :
    sizeOf q < sizeOf m := by
  cases m with
  | insert rows onConflict =>
      simp only [insert.sizeOf_spec]
      rcases List.mem_append.1 h with hrows | hconflict
      · have hlt := InsertRows.sizeOf_query_lt hrows
        omega
      · cases onConflict with
        | none => simp at hconflict
        | some c =>
            have hlt : sizeOf q < sizeOf c := OnConflict.sizeOf_query_lt (by simpa using hconflict)
            simp only [Option.some.sizeOf_spec]
            omega
  | update r =>
      have hlt : sizeOf q < sizeOf r := Record.sizeOf_query_lt h
      simp only [update.sizeOf_spec]
      omega
  | delete hard => simp [ingredients] at h

/-- A query in a list of parts is smaller than the list. -/
theorem sizeOf_lt_of_mem_list [SizeOf α] {parts : List α} {x : α} (hx : x ∈ parts)
    (h : sizeOf q < sizeOf x) : sizeOf q < sizeOf parts :=
  Nat.lt_trans h (List.sizeOf_lt_of_mem hx)

theorem Clauses.sizeOf_query_lt {c : Clauses Q} (h : .query q ∈ c.ingredients) :
    sizeOf q < sizeOf c := by
  -- clause by clause: in each a query is smaller than the clause, and the clause than the statement
  have each : c.Each fun i => ∀ r, i = .query r → sizeOf r < sizeOf c := by
    obtain ⟨source, select, distinct, conditions, joins, group, having, order, limit, offset,
      windows, lock, setOps, ctes, mutation, returning, scopes, all, shape⟩ := c
    simp only [mk.sizeOf_spec]
    constructor
    case source =>
      rintro i hi r rfl
      have hlt : sizeOf r < sizeOf source := Source.sizeOf_query_lt hi
      omega
    case select =>
      rintro x hx i hi r rfl
      have hlt : sizeOf r < sizeOf select :=
        sizeOf_lt_of_mem_list hx (SelectItem.sizeOf_query_lt hi)
      omega
    case distinct =>
      rintro d - i hi r rfl
      -- columns are not queries, nor are the parts of an entry, a window or a lock below
      cases d <;> simp [Distinct.ingredients] at hi
    case conditions =>
      rintro x hx i hi r rfl
      have hlt : sizeOf r < sizeOf conditions :=
        sizeOf_lt_of_mem_list hx (Formula.sizeOf_query_lt hi)
      omega
    case joins =>
      rintro x hx i hi r rfl
      have hlt : sizeOf r < sizeOf joins :=
        sizeOf_lt_of_mem_list hx (Join.sizeOf_query_lt hi)
      omega
    case group =>
      rintro x hx i hi r rfl
      have hlt : sizeOf r < sizeOf group :=
        sizeOf_lt_of_mem_list hx (Operand.sizeOf_query_lt hi)
      omega
    case having =>
      rintro x hx i hi r rfl
      have hlt : sizeOf r < sizeOf having :=
        sizeOf_lt_of_mem_list hx (Formula.sizeOf_query_lt hi)
      omega
    case order =>
      rintro o - i hi r rfl
      rcases o with ⟨target, direction, nulls⟩
      cases target <;> simp [Order.ingredients] at hi
    case windows =>
      rintro w - i hi r rfl
      rcases w with ⟨name, partitionBy, orderBy, frame⟩
      simp only [Window.ingredients, List.mem_append, List.mem_cons, List.mem_flatMap,
        List.mem_map] at hi
      rcases hi with (hi | ⟨o, -, ho⟩) | hi
      · simp at hi
      · rcases o with ⟨target, direction, nulls⟩
        cases target <;> simp [Order.ingredients] at ho
      · simp at hi
    case lock =>
      rintro l - i hi r rfl
      rcases List.mem_flatMap.1 hi with ⟨t, -, ht⟩
      cases t <;> simp [LockTable.ingredients] at ht
    case setOps =>
      rintro x hx i hi r rfl
      have hlt : sizeOf r < sizeOf setOps :=
        sizeOf_lt_of_mem_list hx (SetOp.sizeOf_query_lt hi)
      omega
    case ctes =>
      rintro x hx i hi r rfl
      have hlt : sizeOf r < sizeOf ctes :=
        sizeOf_lt_of_mem_list hx (Cte.sizeOf_query_lt hi)
      omega
    case mutation =>
      rintro m hm i hi r rfl
      have hlt := Mutation.sizeOf_query_lt hi
      obtain rfl : mutation = some m := hm
      simp only [Option.some.sizeOf_spec]
      omega
    case returning =>
      rintro x hx i hi r rfl
      have hlt : sizeOf r < sizeOf returning :=
        sizeOf_lt_of_mem_list hx (SelectItem.sizeOf_query_lt hi)
      omega
    case scopes =>
      rintro x hx i hi r rfl
      have hlt : sizeOf r < sizeOf scopes :=
        sizeOf_lt_of_mem_list hx (Scope.sizeOf_query_lt hi)
      omega
  exact Clauses.each_iff.1 each _ h q rfl

end Size

/-! ## Induction on queries -/

namespace Query

/-- What holds of a query whenever it holds of the queries among its ingredients and of the appended
ones holds of all queries. -/
theorem induction {P : Query → Prop}
    (step : ∀ c as, (∀ q, .query q ∈ c.ingredients → P q) → (∀ a ∈ as, P a.query) → P (.of c as)) :
    ∀ q, P q
  | .of c as => by
      refine step c as ?_ ?_
      · intro q hq
        have hlt := Clauses.sizeOf_query_lt hq
        exact induction step q
      · intro a ha
        have hlt := List.sizeOf_lt_of_mem ha
        exact induction step a.query
termination_by q => sizeOf q
decreasing_by
  · simp only [of.sizeOf_spec]
    omega
  · rcases a with ⟨q, required⟩
    simp only [of.sizeOf_spec, Appended.mk.sizeOf_spec] at hlt ⊢
    omega

end Query
end ParamSql
