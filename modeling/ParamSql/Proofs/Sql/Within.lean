import ParamSql.Proofs.Sql.Border

/-!
# Within — the statements that are written for a query

A query is written with all statements in it: those of its chain, and those of the queries inside
them at any depth.  A fault in any of them is a fault of the query.

* `Clauses.Within`, `Query.Writes` — a statement is written in another one, or for a query;
* `Clauses.nodes`, `Query.nodes` — all of them, as often as they are written;
* `Query.exists_written` — each of them is a part of what is written, with a border behind it;
* `Query.compile_of_writes` — and of the compiled statement.
-/

namespace ParamSql

/-- A statement is written in another one: it is that one itself, or it is written in the statement
of a query inside that one. -/
inductive Clauses.Within (d : Clauses Query) : Clauses Query → Prop
  | self : Within d d
  | inside {c : Clauses Query} {q : Query} (hq : q ∈ c.subqueries) (h : Within d q.clauses) :
      Within d c

/-- All statements that are written in a statement, itself first, as often as they are written. -/
def Clauses.nodes (c : Clauses Query) : List (Clauses Query) :=
  c :: c.subqueries.attach.flatMap fun ⟨q, _⟩ => q.clauses.nodes
termination_by sizeOf c
decreasing_by
  rename_i hq
  have hlt := Clauses.sizeOf_query_lt (Clauses.query_mem_ingredients hq)
  rcases q with ⟨c', as⟩
  simp only [Query.of.sizeOf_spec] at hlt
  simp only [Query.clauses]
  omega

theorem Clauses.nodes_eq (c : Clauses Query) :
    c.nodes = c :: c.subqueries.flatMap fun q => q.clauses.nodes := by
  rw [nodes]
  simp [List.flatMap_subtype]

theorem Clauses.mem_nodes_iff {c d : Clauses Query} : d ∈ c.nodes ↔ d.Within c := by
  constructor
  · intro h
    -- by induction on the statement, as its nodes are listed
    induction c using Clauses.nodes.induct with
    | case1 c ih =>
        rw [nodes_eq] at h
        rcases List.mem_cons.1 h with rfl | hinside
        · exact .self
        · rcases List.mem_flatMap.1 hinside with ⟨q, hq, hd⟩
          exact .inside hq (ih q hq hd)
  · intro h
    -- by induction on where the statement stands
    induction h with
    | self =>
        rw [nodes_eq]
        exact List.mem_cons_self
    | @inside c q hq _ ih =>
        rw [nodes_eq]
        exact List.mem_cons_of_mem _ (List.mem_flatMap.2 ⟨q, hq, ih⟩)

namespace Query

variable {naming : Naming}

/-- All statements that are written for a query, as often as they are written. -/
def nodes (q : Query) : List (Clauses Query) :=
  q.members.flatMap Clauses.nodes

/-- A statement is written for a query: it is written in one of its chain. -/
def Writes (q : Query) (d : Clauses Query) : Prop :=
  ∃ c ∈ q.members, d.Within c

theorem mem_nodes_iff {q : Query} {d : Clauses Query} : d ∈ q.nodes ↔ q.Writes d := by
  simp only [nodes, List.mem_flatMap, Writes, Clauses.mem_nodes_iff]

/-- A statement supplies all that the statements in it are made from. -/
theorem supplies_of_within {c d : Clauses Query} (h : d.Within c) {i : Ingredient Query}
    (hi : i ∈ d.ingredients) : (of c []).Supplies i := by
  induction h with
  | self => exact .own hi
  | inside hq _ ih => exact .inner (Clauses.query_mem_ingredients hq) (supplies_clauses ih)

/-- A query supplies all that its statements do. -/
theorem supplies_member {q : Query} {c : Clauses Query} (hc : c ∈ q.members) {i : Ingredient Query}
    (hi : (of c []).Supplies i) : q.Supplies i := by
  rw [members_eq, List.mem_append, List.mem_map, List.mem_singleton] at hc
  rcases hc with ⟨dependent, hdependent, rfl⟩ | rfl
  · exact supplies_dependent dependent hdependent hi
  · exact supplies_clauses hi

/-- A query supplies all that the statements are made from that are written for it. -/
theorem supplies_of_writes {q : Query} {d : Clauses Query} (h : q.Writes d) {i : Ingredient Query}
    (hi : i ∈ d.ingredients) : q.Supplies i := by
  rcases h with ⟨c, hc, hwithin⟩
  exact supplies_member hc (supplies_of_within hwithin hi)

/-- A statement that is written in another one is that one itself, or that of a query at some
position in it. -/
theorem exists_inner_of_within {c d : Clauses Query} (h : d.Within c) :
    d = c ∨ ∃ path q, c.inner? path = some q ∧ q.clauses = d := by
  induction h with
  | self => exact .inl rfl
  | @inside c r hr _ ih =>
      obtain ⟨i, hi⟩ := List.getElem?_of_mem hr
      rcases ih with rfl | ⟨path, q, hpath, hq⟩
      · exact .inr ⟨[i], r, hi, rfl⟩
      -- a position inside the query goes on from where the query stands
      · cases path with
        | nil => cases hpath
        | cons j path =>
            have hinner : c.inner? (i :: j :: path) = some q := by
              rw [Clauses.inner?, hi, Option.bind_some, hpath]
            exact .inr ⟨i :: j :: path, q, hinner, hq⟩

/-- What is written for a query has every statement in it, with a border behind it. -/
theorem exists_written {q : Query} {d : Clauses Query} (h : q.Writes d) {ls : List Lexeme}
    (hls : (q.rendered naming : Rendering (List Lexeme)).result = .ok ls) :
    ∃ inCte before body behind,
      (statement naming inCte d : Rendering (List Lexeme)).result = .ok body ∧
        ls = before ++ body ++ behind ∧ Lexeme.Border behind := by
  rcases h with ⟨c, hc, hwithin⟩
  rcases List.getElem?_of_mem hc with ⟨i, hi⟩
  rcases exists_encloses hi hls with ⟨inCte, ahead, behind, hencloses, -, hmember, rfl⟩
  rcases exists_inner_of_within hwithin with rfl | ⟨path, r, hr, rfl⟩
  · exact ⟨inCte, ahead, _, behind, hmember, rfl, hencloses.border⟩
  · -- the statement of a query inside the member
    rcases exists_surrounds hr hmember with ⟨before, after, hsurrounds, hwritten, hbody⟩
    refine ⟨false, ahead ++ before, _, after ++ behind, (rendering_eq_ok hwritten).2, ?_,
      hsurrounds.border.append hencloses.border⟩
    rw [hbody]
    simp only [List.append_assoc]

/-- What is written for a compiled query is a part of its text and binds a part of its values. -/
theorem compile_of_writes {q : Query} {d : Clauses Query} (h : q.Writes d)
    {options : CompileOptions} {compiled : Compiled} (hq : q.compile options = .ok compiled) :
    ∃ inCte before body behind,
      (statement options.naming inCte d : Rendering (List Lexeme)).result = .ok body ∧
        compiled.sql = Lexeme.text (before ++ body ++ behind) ∧
          compiled.params = Lexeme.params (before ++ body ++ behind) := by
  rcases compile_eq_ok_iff.1 hq with ⟨ls, hls, -, rfl⟩
  rcases exists_written h hls with ⟨inCte, before, body, behind, hbody, rfl, -⟩
  exact ⟨inCte, before, body, behind, hbody, rfl, rfl⟩

end Query
end ParamSql
