import ParamSql.Proofs.Sql.Nesting

/-!
# Change — statements that change rows

* `Clauses.changing` — a change ahead of its RETURNING clause;
* `Query.statement_returning` — a change is written as it is without RETURNING, and RETURNING behind
  it;
* `Clauses.isChange` — the statements that change or remove rows that are there.
-/

namespace ParamSql

/-! ## RETURNING clauses -/

namespace Clauses

variable {ω : Type} [Output ω]

/-- A change ahead of its RETURNING clause. -/
def changing (cs : Columns) (c : Clauses (Rendering ω)) : Mutation (Rendering ω) → Rendering ω
  | .insert rows conflict => c.insertion cs rows conflict
  | .update r => c.updating cs r
  | .delete hard => c.deletion cs hard

theorem body_of_mutation {c : Clauses (Rendering ω)} {m : Mutation (Rendering ω)}
    (h : c.mutation = some m) (cs : Columns) (inCte : Bool) :
    c.body cs inCte = c.changing cs m ++ c.returningClause cs inCte := by
  unfold body
  rw [h]
  cases m with
  | insert rows conflict => rfl
  | update r => rfl
  | delete hard => rfl

/-- Without columns to deliver, the statement ends with the change. -/
theorem body_without_returning [LawfulOutput ω] {c : Clauses (Rendering ω)}
    {m : Mutation (Rendering ω)} (h : c.mutation = some m) (cs : Columns) :
    body cs { c with returning := [] } false = c.changing cs m := by
  -- no change reads its RETURNING clause before it comes to write it
  have hchanging : changing cs { c with returning := [] } m = c.changing cs m := by
    cases m with
    | insert rows conflict => rfl
    | update r => rfl
    | delete hard => rfl
  rw [body_of_mutation (c := { c with returning := [] }) h, hchanging]
  exact Rendering.append_nothing _

end Clauses

namespace Query

/-- A change is written as it is without RETURNING, and RETURNING behind it. -/
theorem statement_returning (naming : Naming) (inCte : Bool) {c : Clauses Query}
    (h : c.mutation.isSome = true) :
    (statement naming inCte c : Rendering (List Lexeme)) =
      statement naming false { c with returning := [] } ++
        (c.map (rendering naming)).returningClause (c.columns naming) inCte := by
  rcases Option.isSome_iff_exists.1 h with ⟨m, hm⟩
  let d : Clauses (Rendering (List Lexeme)) := c.map (rendering naming)
  have hd : d.mutation = some (m.map (rendering naming)) := by
    simp [d, Clauses.map_mutation, hm]
  calc (statement naming inCte c : Rendering (List Lexeme))
      = d.withClause ++ d.body (c.columns naming) inCte := by
        rw [statement_eq_map, Clauses.statement, Clauses.columns_map]
    _ = d.withClause ++ (Clauses.body (c.columns naming) { d with returning := [] } false ++
          d.returningClause (c.columns naming) inCte) := by
        rw [Clauses.body_of_mutation hd, Clauses.body_without_returning hd]
    _ = d.withClause ++ Clauses.body (c.columns naming) { d with returning := [] } false ++
          d.returningClause (c.columns naming) inCte := (Rendering.append_assoc _ _ _).symm
    _ = statement naming false { c with returning := [] } ++
          d.returningClause (c.columns naming) inCte := by
        rw [statement_eq_map, Clauses.statement, Clauses.columns_map]
        rfl

end Query

/-! ## Changes of rows that are there -/

namespace Clauses

variable {Q : Type}

/-- Whether a statement changes or removes rows that are there. -/
def isChange (c : Clauses Q) : Bool :=
  match c.mutation with
  | some (.update _) => true
  | some (.delete _) => true
  | _ => false

theorem exists_mutation {c : Clauses Q} (h : c.isChange = true) : ∃ m, c.mutation = some m := by
  unfold isChange at h
  cases hm : c.mutation with
  | none => simp [hm] at h
  | some m => exact ⟨m, rfl⟩

@[simp]
theorem isChange_map {R : Type} (f : Q → R) (c : Clauses Q) : (c.map f).isChange = c.isChange := by
  unfold isChange
  rw [map_mutation]
  cases c.mutation with
  | none => rfl
  | some m => cases m <;> rfl

end Clauses

/-- The orders that nobody has paid are deleted. -/
def Query.unpaidOrders : Query :=
  ((Table.named "order").query.filter (.isNull "paid")).delete true

end ParamSql
