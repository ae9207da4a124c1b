import ParamSql.Proofs.Logic.SetGrammar
import ParamSql.Proofs.Sql.Nesting

/-!
# SetOperations — what a chain of set operations is read as

A SELECT is followed by its set operations in the order in which they were asked for, each with its
right-hand side in brackets.  What is on the left of an operation is not in brackets, so that SQL
reads the chain by precedence:

* `RowExpr.chainTokens`, `RowExpr.chain` — the words of a chain, and what they are read as;
* `RowExpr.inOrder` — every operation applied to all that was asked for before it;
* `RowExpr.chain_eq_inOrder_iff`, `RowExpr.value_chain_eq_iff` — the two are the same expression,
  and have the same rows whatever rows the queries have, just if no INTERSECT stands behind a UNION
  or EXCEPT;
* `Query.combined_read_in_order_iff` — the chains that are written for queries.
-/

namespace ParamSql

/-! ## Chains -/

/-- No INTERSECT stands behind a UNION or EXCEPT. -/
def SetOpKind.IntersectionsFirst (kinds : List SetOpKind) : Prop :=
  kinds.Pairwise fun k l => l.isIntersection = true → k.isIntersection = true

namespace RowExpr

variable {α : Type}

/-- The words of operations, whose right-hand sides are in brackets. -/
def operationTokens (ops : List (SetOpKind × α)) : List (RowToken α) :=
  ops.flatMap fun op => [.operation op.1, .opening, .rows op.2, .closing]

/-- What is read when some operations stand behind an operand `e`, ahead of which the last UNION or
EXCEPT is still to be applied. -/
def chainFrom (u : Pending α) (e : RowExpr α) : List (SetOpKind × α) → RowExpr α
  | [] => apply u e
  | (k, a) :: ops =>
      if k.isIntersection then chainFrom u (.combine k e (.rows a)) ops
      else chainFrom (some (apply u e, k)) (.rows a) ops

/-- The words of a chain, whose queries are numbered from 0 on. -/
def chainTokens (kinds : List SetOpKind) : List (RowToken Nat) :=
  .rows 0 :: operationTokens (kinds.zipIdx 1)

/-- What a chain is read as. -/
def chain (kinds : List SetOpKind) : RowExpr Nat :=
  chainFrom none (.rows 0) (kinds.zipIdx 1)

/-- Operations that are applied one after another. -/
def applied (e : RowExpr α) (ops : List (SetOpKind × α)) : RowExpr α :=
  ops.foldl (fun e op => .combine op.1 e (.rows op.2)) e

/-- Every operation of a chain is applied to all that is before it. -/
def inOrder (kinds : List SetOpKind) : RowExpr Nat :=
  applied (.rows 0) (kinds.zipIdx 1)

/-! ## Reading chains -/

/-- The words up to the last UNION or EXCEPT. -/
def Pending.Derives (u : Pending α) (us : List (RowToken α)) : Prop :=
  match u with
  | none => us = []
  | some (x, k) => k.isIntersection = false ∧
      ∃ vs, RowExpr.Derives .union vs x ∧ us = vs ++ [.operation k]

theorem Pending.Derives.apply {u : Pending α} {us ss : List (RowToken α)} {e : RowExpr α}
    (hu : u.Derives us) (he : RowExpr.Derives .intersection ss e) :
    RowExpr.Derives .union (us ++ ss) (RowExpr.apply u e) := by
  cases u with
  | none =>
      obtain rfl : us = [] := hu
      exact .intersection he
  | some p =>
      rcases hu with ⟨hk, vs, hvs, rfl⟩
      have hunion := RowExpr.Derives.union hk hvs he
      rw [List.append_assoc]
      exact hunion

theorem derives_chainFrom {us ss : List (RowToken α)} {u : Pending α} {e : RowExpr α}
    (hu : u.Derives us) (he : Derives .intersection ss e) (ops : List (SetOpKind × α)) :
    Derives .union (us ++ ss ++ operationTokens ops) (chainFrom u e ops) := by
  -- by induction on the operations: an INTERSECT goes on with its left-hand side, any other closes
  -- it
  induction ops generalizing us ss u e with
  | nil => simpa [operationTokens, chainFrom] using hu.apply he
  | cons op ops ih =>
      rcases op with ⟨k, a⟩
      have hoperand : Derives .primary [.opening, .rows a, .closing] (.rows a) :=
        .brackets (.intersection (.primary (.rows a)))
      cases hk : k.isIntersection with
      | true =>
          have hnext := ih hu (Derives.intersect hk he hoperand)
          simpa [operationTokens, chainFrom, hk] using hnext
      | false =>
          have hclosed : Pending.Derives (some (apply u e, k)) (us ++ ss ++ [.operation k]) :=
            ⟨hk, _, hu.apply he, rfl⟩
          have hnext := ih hclosed (.primary hoperand)
          simpa [operationTokens, chainFrom, hk] using hnext

/-- A chain is read by precedence. -/
theorem derives_chain (kinds : List SetOpKind) :
    Derives .union (chainTokens kinds) (chain kinds) := by
  have hnone : Pending.Derives (none : Pending Nat) [] := rfl
  have hfirst : Derives .intersection [.rows 0] (.rows 0) := .primary (.rows 0)
  exact derives_chainFrom hnone hfirst (kinds.zipIdx 1)

/-! ## Chains that are read in order -/

/-- Without INTERSECT, operations are read as they are applied. -/
theorem chainFrom_of_unions (u : Pending α) (e : RowExpr α) {ops : List (SetOpKind × α)}
    (h : ∀ op ∈ ops, op.1.isIntersection = false) :
    chainFrom u e ops = applied (apply u e) ops := by
  induction ops generalizing u e with
  | nil => rfl
  | cons op ops ih =>
      rcases op with ⟨k, a⟩
      obtain ⟨hk, hops⟩ := List.forall_mem_cons.1 h
      have hk : k.isIntersection = false := hk
      simp only [chainFrom, hk, Bool.false_eq_true, if_false]
      exact ih _ _ hops

/-- Operations among which no INTERSECT comes late are read as they are applied. -/
theorem chainFrom_of_intersectionsFirst (e : RowExpr α) {ops : List (SetOpKind × α)}
    (h : SetOpKind.IntersectionsFirst (ops.map Prod.fst)) :
    chainFrom none e ops = applied e ops := by
  induction ops generalizing e with
  | nil => rfl
  | cons op ops ih =>
      rcases op with ⟨k, a⟩
      obtain ⟨hbehind, hops⟩ := List.pairwise_cons.1 h
      cases hk : k.isIntersection with
      | true =>
          simp only [chainFrom, hk, if_true]
          exact ih _ hops
      | false =>
          -- behind the first UNION or EXCEPT there is no INTERSECT any more
          have hunions : ∀ op ∈ ops, op.1.isIntersection = false := by
            intro op hop
            by_contra hinter
            have hfirst := hbehind op.1 (List.mem_map_of_mem hop) (by simpa using hinter)
            simp [hk] at hfirst
          simp only [chainFrom, hk, Bool.false_eq_true, if_false]
          exact chainFrom_of_unions _ _ hunions

/-! ## Rows that tell -/

section Rows

variable {ρ : Type} [DecidableEq ρ] {rows : α → Multiset ρ} {r : ρ}

/-- A single row passes the INTERSECTs that come first, in either way of reading. -/
theorem value_chainFrom_leading {e : RowExpr α} {ops : List (SetOpKind × α)}
    (more : List (SetOpKind × α)) (he : e.value rows = {r})
    (hops : ∀ op ∈ ops, op.1.isIntersection = true ∧ rows op.2 = {r}) :
    ∃ f : RowExpr α, f.value rows = {r} ∧ chainFrom none e (ops ++ more) = chainFrom none f more ∧
      applied e (ops ++ more) = applied f more := by
  induction ops generalizing e with
  | nil => exact ⟨e, he, rfl, rfl⟩
  | cons op ops ih =>
      rcases op with ⟨k, a⟩
      obtain ⟨⟨hk, ha⟩, hops⟩ := List.forall_mem_cons.1 hops
      have hk : k.isIntersection = true := hk
      have hnext : (combine k e (.rows a)).value rows = {r} := by
        rw [value, he, value, ha, SetOpKind.apply_singleton_of_isIntersection hk]
      rcases ih hnext hops with ⟨f, hf, hchain, happlied⟩
      refine ⟨f, hf, ?_, happlied⟩
      simpa only [List.cons_append, chainFrom, hk, if_true] using hchain

/-- A row ahead of a UNION or EXCEPT stays in what is read, if no other query has rows. -/
theorem value_chainFrom_of_zero {u : RowExpr α × SetOpKind} {e : RowExpr α}
    {ops : List (SetOpKind × α)} (hu : u.1.value rows = {r}) (hk : u.2.isIntersection = false)
    (he : e.value rows = 0) (hops : ∀ op ∈ ops, rows op.2 = 0) :
    (chainFrom (some u) e ops).value rows = {r} := by
  induction ops generalizing u e with
  | nil =>
      change u.2.apply (u.1.value rows) (e.value rows) = {r}
      rw [hu, he, SetOpKind.apply_singleton_zero hk]
  | cons op ops ih =>
      rcases op with ⟨k, a⟩
      obtain ⟨ha, hops⟩ := List.forall_mem_cons.1 hops
      cases hinter : k.isIntersection with
      | true =>
          have hnone : (combine k e (.rows a)).value rows = 0 :=
            SetOpKind.apply_zero_of_isIntersection hinter _ _ (.inl he)
          simpa only [chainFrom, hinter, if_true] using ih hu hk hnone hops
      | false =>
          -- the operation before this one leaves the row alone
          have hleft : (combine u.2 u.1 e).value rows = {r} := by
            rw [value, hu, he, SetOpKind.apply_singleton_zero hk]
          simp only [chainFrom, hinter, Bool.false_eq_true, if_false]
          exact ih (u := (combine u.2 u.1 e, k)) hleft hinter ha hops

/-- Operations on no rows have none. -/
theorem value_applied_of_zero {e : RowExpr α} {ops : List (SetOpKind × α)}
    (he : e.value rows = 0) (hops : ∀ op ∈ ops, rows op.2 = 0) :
    (applied e ops).value rows = 0 := by
  induction ops generalizing e with
  | nil => exact he
  | cons op ops ih =>
      obtain ⟨ha, hops⟩ := List.forall_mem_cons.1 hops
      refine ih ?_ hops
      rw [value, he, value, ha, SetOpKind.apply_zero_zero]

/-- An INTERSECT with no rows removes the row that is before it. -/
theorem value_applied_of_singleton {e : RowExpr α} {ops : List (SetOpKind × α)}
    (he : e.value rows = {r}) (hops : ∀ op ∈ ops, rows op.2 = 0)
    (hinter : ∃ op ∈ ops, op.1.isIntersection = true) : (applied e ops).value rows = 0 := by
  induction ops generalizing e with
  | nil => simp at hinter
  | cons op ops ih =>
      obtain ⟨ha, hrest⟩ := List.forall_mem_cons.1 hops
      cases hk : op.1.isIntersection with
      | true =>
          have hfirst : (combine op.1 e (.rows op.2)).value rows = 0 :=
            SetOpKind.apply_zero_of_isIntersection hk _ _ (.inr ha)
          exact value_applied_of_zero (e := combine op.1 e (.rows op.2)) hfirst hrest
      | false =>
          have hfirst : (combine op.1 e (.rows op.2)).value rows = {r} := by
            rw [value, he, value, ha, SetOpKind.apply_singleton_zero hk]
          have hlater : ∃ op ∈ ops, op.1.isIntersection = true := by
            rcases hinter with ⟨late, hmem, hlate⟩
            rcases List.mem_cons.1 hmem with rfl | hmem
            · simp [hk] at hlate
            · exact ⟨late, hmem, hlate⟩
          exact ih hfirst hrest hlater

end Rows

/-- Where an INTERSECT comes late, the INTERSECTs that come first end at a UNION or EXCEPT, and
another one is behind that. -/
theorem exists_late {kinds : List SetOpKind} (h : ¬SetOpKind.IntersectionsFirst kinds) :
    ∃ leading k rest, kinds = leading ++ k :: rest ∧ (∀ l ∈ leading, l.isIntersection = true) ∧
      k.isIntersection = false ∧ ∃ l ∈ rest, l.isIntersection = true := by
  induction kinds with
  | nil => exact absurd .nil h
  | cons k kinds ih =>
      cases hk : k.isIntersection with
      | true =>
          have hlater : ¬SetOpKind.IntersectionsFirst kinds := fun hfirst =>
            h (List.pairwise_cons.2 ⟨fun _ _ _ => hk, hfirst⟩)
          rcases ih hlater with ⟨leading, l, rest, rfl, hleading, hl, hlate⟩
          exact ⟨k :: leading, l, rest, rfl, List.forall_mem_cons.2 ⟨hk, hleading⟩, hl, hlate⟩
      | false =>
          refine ⟨[], k, kinds, rfl, by simp, hk, ?_⟩
          by_contra hnone
          -- without an INTERSECT further behind there is none that comes late
          have hunions : ∀ l ∈ kinds, ¬l.isIntersection = true := fun l hl hinter =>
            hnone ⟨l, hl, hinter⟩
          refine h (List.pairwise_cons.2 ⟨fun l hl hinter => absurd hinter (hunions l hl), ?_⟩)
          exact List.pairwise_of_forall_mem_list fun _ _ l hl hinter =>
            absurd hinter (hunions l hl)

/-- Where an INTERSECT comes late, there are rows on which it matters. -/
theorem exists_value_chain_ne {ρ : Type} [DecidableEq ρ] (r : ρ) {kinds : List SetOpKind}
    (h : ¬SetOpKind.IntersectionsFirst kinds) :
    ∃ rows : Nat → Multiset ρ, (chain kinds).value rows = {r} ∧ (inOrder kinds).value rows = 0 := by
  rcases exists_late h with ⟨leading, k, rest, rfl, hleading, hk, hinter⟩
  -- only the queries up to the first UNION or EXCEPT have a row
  let rows : Nat → Multiset ρ := fun i => if i ≤ leading.length then {r} else 0
  have hown : (RowExpr.rows 0).value rows = {r} := by simp [value, rows]
  have hops : (leading ++ k :: rest).zipIdx 1 =
      leading.zipIdx 1 ++ (k, 1 + leading.length) :: rest.zipIdx (1 + leading.length + 1) := by
    simp [List.zipIdx_append, List.zipIdx_cons]
  have hfirst : ∀ op ∈ leading.zipIdx 1, op.1.isIntersection = true ∧ rows op.2 = {r} := by
    rintro ⟨l, i⟩ hl
    have hbound : i < 1 + leading.length := List.snd_lt_add_of_mem_zipIdx hl
    exact ⟨hleading l (List.fst_mem_of_mem_zipIdx hl), if_pos (by omega)⟩
  have hzero : ∀ op ∈ (k, 1 + leading.length) :: rest.zipIdx (1 + leading.length + 1),
      rows op.2 = 0 := by
    rintro ⟨l, i⟩ hl
    have hbound : 1 + leading.length ≤ i := by
      rcases List.mem_cons.1 hl with heq | hl
      · exact (congrArg Prod.snd heq).ge
      · exact Nat.le_of_succ_le (List.le_snd_of_mem_zipIdx hl)
    exact if_neg (by omega)
  rcases value_chainFrom_leading ((k, 1 + leading.length) :: rest.zipIdx (1 + leading.length + 1))
    hown hfirst with ⟨f, hf, hchain, happlied⟩
  refine ⟨rows, ?read, ?applied⟩
  case read =>
    obtain ⟨hnone, hrest⟩ := List.forall_mem_cons.1 hzero
    rw [chain, hops, hchain]
    simp only [chainFrom, hk, Bool.false_eq_true, if_false]
    exact value_chainFrom_of_zero hf hk hnone hrest
  case applied =>
    rw [inOrder, hops, happlied]
    refine value_applied_of_singleton hf hzero ?_
    rcases hinter with ⟨l, hl, hinter⟩
    have hlate : l ∈ (rest.zipIdx (1 + leading.length + 1)).map Prod.fst := by
      rwa [List.zipIdx_map_fst]
    rcases List.mem_map.1 hlate with ⟨op, hop, rfl⟩
    exact ⟨op, List.mem_cons_of_mem _ hop, hinter⟩

variable {kinds : List SetOpKind}

theorem chain_eq_inOrder (h : SetOpKind.IntersectionsFirst kinds) :
    chain kinds = inOrder kinds := by
  refine chainFrom_of_intersectionsFirst (.rows 0) ?_
  rwa [List.zipIdx_map_fst]

/-- A chain is read as its operations are applied, whatever rows the queries have, just if no
INTERSECT stands behind a UNION or EXCEPT. -/
theorem value_chain_eq_iff {ρ : Type} [DecidableEq ρ] (r : ρ) :
    (∀ rows : Nat → Multiset ρ, (chain kinds).value rows = (inOrder kinds).value rows) ↔
      SetOpKind.IntersectionsFirst kinds := by
  constructor
  · intro h
    by_contra hlate
    rcases exists_value_chain_ne r hlate with ⟨rows, hread, happlied⟩
    have heq := h rows
    rw [hread, happlied] at heq
    exact Multiset.singleton_ne_zero r heq
  · intro h rows
    rw [chain_eq_inOrder h]

theorem chain_eq_inOrder_iff :
    chain kinds = inOrder kinds ↔ SetOpKind.IntersectionsFirst kinds := by
  constructor
  · intro h
    exact (value_chain_eq_iff ()).1 fun rows => by rw [h]
  · exact chain_eq_inOrder

end RowExpr

/-! ## Chains of queries -/

section Chains

variable {ω : Type} [Output ω]

/-- A word of a chain, where the rows are those of written queries. -/
def RowToken.rendering {α : Type} (queries : α → Rendering ω) : RowToken α → Rendering ω
  | .rows a => queries a
  | .operation k => .fixed (" " ++ k.sql ++ " ")
  | .opening => .fixed "("
  | .closing => .fixed ")"

namespace Clauses

variable {Q : Type}

/-- The clauses of a SELECT that stand ahead of its set operations. -/
def ownRows (c : Clauses Q) : Clauses Q :=
  { c with ctes := [], setOps := [], order := [], limit := none, offset := none, lock := none }

/-- What stands behind the set operations of a SELECT. -/
def trailer (cs : Columns) (c : Clauses (Rendering ω)) : Rendering ω :=
  .concat
    [.clause " ORDER BY " (c.order.map (Columns.orderEntry (c.orderColumn cs))),
      Rendering.optional (fun n => .fixed " LIMIT " ++ .bind (.int n)) c.limit,
      Rendering.optional (fun n => .fixed " OFFSET " ++ .bind (.int n)) c.offset,
      Rendering.optional Lock.rendering c.lock]

variable [LawfulOutput ω]

/-- A SELECT is its own rows, its set operations and what stands behind them. -/
theorem selection_eq (cs : Columns) (c : Clauses (Rendering ω)) :
    c.selection cs =
      c.ownRows.selection cs ++ .concat (c.setOps.map setOperation) ++ c.trailer cs := by
  have hsplit
      (select distinct items source joins filters group having windows ops order limit offset
      lock : Rendering ω) :
      Rendering.concat [select, distinct, items, source, joins, filters, group, having, windows,
        ops, order, limit, offset, lock] =
      Rendering.concat [select, distinct, items, source, joins, filters, group, having, windows,
        .nothing, .nothing, .nothing, .nothing, .nothing] ++ ops ++
        Rendering.concat [order, limit, offset, lock] := by
    simp [Rendering.append_assoc]
  exact hsplit ..

/-- Set operations are written as words with their right-hand sides, which are numbered from `n`
on. -/
theorem concat_operationTokens {queries : Nat → Rendering ω} {n : Nat}
    (ops : List (SetOp (Rendering ω)))
    (h : ∀ i op, ops[i]? = some op → queries (n + i) = op.query) :
    .concat ((RowExpr.operationTokens ((ops.map SetOp.kind).zipIdx n)).map
      (RowToken.rendering queries)) = Rendering.concat (ops.map setOperation) := by
  induction ops generalizing n with
  | nil => rfl
  | cons op ops ih =>
      have hfirst : queries n = op.query := h 0 op rfl
      have hrest : ∀ i op, ops[i]? = some op → queries (n + 1 + i) = op.query := by
        intro i op hop
        rw [Nat.add_assoc, Nat.add_comm 1 i]
        exact h (i + 1) op hop
      have hnext := ih hrest
      simp only [RowExpr.operationTokens] at hnext
      simp [RowExpr.operationTokens, RowToken.rendering, setOperation, Rendering.bracketed,
        Rendering.append_assoc, hfirst, hnext]

end Clauses

namespace Query

variable {naming : Naming}

/-- A query with set operations that are asked for one after another. -/
def combined (q : Query) (ops : List (SetOpKind × Query)) : Query :=
  ops.foldl (fun q op => q.setOp op.1 op.2) q

/-- The queries of a chain: the SELECT itself, and the right-hand sides of its operations. -/
def chained (naming : Naming) (c : Clauses Query) : Nat → Rendering ω
  | 0 => statement naming false c.ownRows
  | i + 1 => ((c.setOps[i]?).map fun op => op.query.rendering naming).getD .nothing

/-- Every call adds its operation behind those that are there. -/
theorem clauses_combined (q : Query) (ops : List (SetOpKind × Query)) :
    (q.combined ops).clauses =
      { q.clauses with setOps := q.clauses.setOps ++ ops.map fun op => ⟨op.1, op.2⟩ } := by
  induction ops generalizing q with
  | nil => simp [combined]
  | cons op ops ih =>
      have hnext : (q.combined (op :: ops)).clauses = ((q.setOp op.1 op.2).combined ops).clauses :=
        rfl
      rw [hnext, ih]
      simp [setOp, modify, clauses]

variable [LawfulOutput ω]

/-- A SELECT is its common table expressions, the chain of its set operations and what stands behind
that. -/
theorem statement_eq_chain {c : Clauses Query} (hselect : c.mutation = none) (inCte : Bool) :
    (statement naming inCte c : Rendering ω) =
      (c.map (rendering naming)).withClause ++
        .concat ((RowExpr.chainTokens (c.setOps.map SetOp.kind)).map
          (RowToken.rendering (chained naming c))) ++
        (c.map (rendering naming)).trailer (c.columns naming) := by
  have hbody (c : Clauses Query) (inCte : Bool) (hselect : c.mutation = none) :
      (statement naming inCte c : Rendering ω) = (c.map (rendering naming)).withClause ++
        (c.map (rendering naming)).selection (c.columns naming) := by
    simp only [statement, foldClauses_eq_map, Clauses.statement, Clauses.body, Clauses.columns_map,
      Clauses.map_mutation, hselect]
    rfl
  -- the SELECT itself is a statement with nothing ahead of it
  have hown : (chained naming c 0 : Rendering ω) =
      (c.map (rendering naming)).ownRows.selection (c.columns naming) := by
    refine (hbody c.ownRows false hselect).trans ?_
    exact Rendering.nothing_append _
  have hoperands : ∀ i op, (c.map (rendering naming)).setOps[i]? = some op →
      (chained naming c (1 + i) : Rendering ω) = op.query := by
    intro i op hop
    rw [Clauses.map_setOps, List.getElem?_map] at hop
    rcases Option.map_eq_some_iff.1 hop with ⟨written, hwritten, rfl⟩
    simp [Nat.add_comm 1, chained, hwritten, SetOp.map]
  have hoperations := Clauses.concat_operationTokens _ hoperands
  have hkinds : (c.map (rendering (ω := ω) naming)).setOps.map SetOp.kind =
      c.setOps.map SetOp.kind := by
    simp [Clauses.map_setOps, SetOp.map]
  rw [hkinds] at hoperations
  rw [hbody c inCte hselect, Clauses.selection_eq, ← hown, ← hoperations]
  simp [RowExpr.chainTokens, RowToken.rendering, Rendering.append_assoc]

/-- Set operations are written in the order in which they are asked for, and there is one reading of
what is written.  It applies every operation to all that is before it just if no INTERSECT stands
behind a UNION or EXCEPT; where one does, there are rows that tell the two apart. -/
theorem combined_read_in_order_iff {q : Query} (hselect : q.clauses.mutation = none)
    (ops : List (SetOpKind × Query)) (naming : Naming) (inCte : Bool) :
    let d := (q.combined ops).clauses
    let kinds := q.clauses.setOps.map SetOp.kind ++ ops.map Prod.fst
    (statement naming inCte d : Rendering ω) =
      (d.map (rendering naming)).withClause ++
        .concat ((RowExpr.chainTokens kinds).map (RowToken.rendering (chained naming d))) ++
        (d.map (rendering naming)).trailer (d.columns naming) ∧
    ∃ e, (∀ e', RowExpr.Derives .union (RowExpr.chainTokens kinds) e' ↔ e' = e) ∧
      (e = RowExpr.inOrder kinds ↔ SetOpKind.IntersectionsFirst kinds) ∧
      ∀ (ρ : Type) [DecidableEq ρ] [Nonempty ρ],
        ((∀ rows : Nat → Multiset ρ, e.value rows = (RowExpr.inOrder kinds).value rows) ↔
          SetOpKind.IntersectionsFirst kinds) := by
  intro d kinds
  refine ⟨?written, RowExpr.chain kinds, fun e' => ⟨?unique, ?reading⟩,
    RowExpr.chain_eq_inOrder_iff, fun ρ _ ⟨r⟩ => RowExpr.value_chain_eq_iff r⟩
  case written =>
    have hd : d.mutation = none := by
      change (q.combined ops).clauses.mutation = none
      rw [clauses_combined]
      exact hselect
    have hkinds : d.setOps.map SetOp.kind = kinds := by
      change (q.combined ops).clauses.setOps.map SetOp.kind = _
      rw [clauses_combined]
      simp [kinds]
    rw [← hkinds]
    exact statement_eq_chain hd inCte
  case unique =>
    exact (RowExpr.derives_chain kinds).unique
  case reading =>
    rintro rfl
    exact RowExpr.derives_chain kinds

/-- The rows of `a` or `b` that are also rows of `c`, as they are asked for. -/
def eitherWithinC : Query :=
  (Table.named "a").query.combined
    [(.union, (Table.named "b").query), (.intersect, (Table.named "c").query)]

theorem combined_read_in_order_iff_eitherWithinC :
    ((Table.named "a").query.clauses.mutation = none) ∧
    ∃ e, (∀ e', RowExpr.Derives .union (RowExpr.chainTokens [.union, .intersect]) e' ↔ e' = e) ∧
      e ≠ RowExpr.inOrder [.union, .intersect] := by
  rcases (combined_read_in_order_iff (ω := List Lexeme) (q := (Table.named "a").query) rfl
    [(.union, (Table.named "b").query), (.intersect, (Table.named "c").query)] .verbatim false).2
    with ⟨e, hunique, horder, -⟩
  refine ⟨rfl, e, hunique, fun heq => ?_⟩
  -- the INTERSECT stands behind the UNION
  obtain ⟨hfirst, -⟩ := List.pairwise_cons.1 (horder.1 heq)
  exact Bool.false_ne_true (hfirst .intersect (by simp) rfl)

/-- What is written for the rows of `a` or `b` that are also rows of `c` is read as the rows of `a`,
with those of `b` that are also rows of `c`. -/
theorem eitherWithinC_misread :
    eitherWithinC.compile {} = .ok
      ⟨"SELECT * FROM \"a\" UNION (SELECT * FROM \"b\") INTERSECT (SELECT * FROM \"c\")", [],
        false⟩ ∧
    RowExpr.Derives .union (RowExpr.chainTokens [.union, .intersect])
      (.combine .union (.rows 0) (.combine .intersect (.rows 1) (.rows 2))) ∧
    RowExpr.inOrder [.union, .intersect] =
      .combine .intersect (.combine .union (.rows 0) (.rows 1)) (.rows 2) ∧
    ∃ rows : Nat → Multiset Nat,
      (RowExpr.combine .union (.rows 0) (.combine .intersect (.rows 1) (.rows 2))).value rows ≠
        (RowExpr.inOrder [.union, .intersect]).value rows := by
  refine ⟨rfl, RowExpr.derives_chain [.union, .intersect], rfl,
    fun i => if i = 0 then {1} else {2}, ?_⟩
  decide

end Query
end Chains
end ParamSql
