import ParamSql.Proofs.Logic.Confinement
import ParamSql.Proofs.Sql.Draft

/-!
# Filters — conditions where they stand in a statement

Conditions stand behind WHERE, HAVING and ON and inside NOT, and the conditions of the joins of an
UPDATE or DELETE behind its WHERE.  In all of these places, what is written is read as the
conditions that were asked for:

* `Columns.token` — the text of a word of a condition, whose predicates go by names;
* `Columns.condition_eq_tokens` — a written condition is the text of its words;
* `Columns.Restates cs render f r` — the part `r` has one reading only, with the value of `f`;
* `Query.conditions_keep_value` — every place where conditions stand restates them.
-/

namespace ParamSql

variable {Q ω α : Type} [Output ω]

/-! ## The text of words -/

/-- The words of a predicate that goes by a name: the AND of a range is a word of its own. -/
def Predicate.words (name : α) : Predicate Q → List (Token α)
  | .between .. => [.range name, .and, .bound name]
  | _ => [.operand name]

namespace Columns

/-- A predicate up to the AND that belongs to it. -/
def front (cs : Columns) : Predicate (Rendering ω) → Rendering ω
  | .between column low _ negated =>
      cs.reference column ++ .fixed (if negated then " NOT BETWEEN " else " BETWEEN ") ++ .bind low
  | p => cs.predicate p

/-- The upper bound of a range. -/
def upperBound : Predicate (Rendering ω) → Rendering ω
  | .between _ _ high _ => .bind high
  | _ => .nothing

/-- The text of a word, where `leaf` is the predicate that goes by a name. -/
def token (cs : Columns) (render : Q → Rendering ω) (leaf : α → Predicate Q) :
    Token α → Rendering ω
  | .operand a => cs.front ((leaf a).map render)
  | .range a => cs.front ((leaf a).map render)
  | .bound a => upperBound ((leaf a).map render)
  | .and => .fixed " AND "
  | .or => .fixed " OR "
  | .not => .fixed "NOT "
  | .opening => .fixed "("
  | .closing => .fixed ")"

variable (cs : Columns)

theorem predicate_eq_words [LawfulOutput ω] (render : Q → Rendering ω) (leaf : α → Predicate Q)
    (a : α) :
    cs.predicate ((leaf a).map render) =
      .concat (((leaf a).words a).map (cs.token render leaf)) := by
  cases hp : leaf a with
  | between column low high negated =>
      simp [Predicate.words, token, front, upperBound, predicate, Predicate.map, hp,
        Rendering.append_assoc]
  | _ => simp [Predicate.words, token, front, Predicate.map, hp]

end Columns

/-- In a draft it does not matter how a text is cut. -/
theorem Rendering.fixed_append (s t : String) :
    (fixed (s ++ t) : Rendering Draft) = fixed s ++ fixed t := by
  apply ext_result
  have hs : ∀ u : String, (fixed u : Rendering Draft).result = .ok ⟨Glyph.ofText u, []⟩ := by
    intro u
    simp [fixed, Output.append, Output.blank, Output.ofLexeme]
  rw [hs, result_append_ok (hs s) (hs t)]
  simp [Output.append, Glyph.ofText]

namespace Columns

variable (cs : Columns) (render : Q → Rendering Draft) (leaf : α → Predicate Q)

/-- Brackets are words too. -/
theorem bracketed_eq_tokens (needed : Bool) {r : Rendering Draft} {ts : List (Token α)}
    (h : r = .concat (ts.map (cs.token render leaf))) :
    (if needed then .bracketed r else r) =
      Rendering.concat ((Token.bracketed needed ts).map (cs.token render leaf)) := by
  cases needed with
  | false => exact h
  | true =>
      simp [Token.bracketed, Rendering.bracketed, h, token, Rendering.concat_append,
        Rendering.append_assoc]

/-- A written condition is the text of its words, if each predicate is that of its own. -/
theorem condition_eq_tokens {word : α → List (Token α)}
    (hword : ∀ a, cs.predicate ((leaf a).map render) =
      .concat ((word a).map (cs.token render leaf))) :
    ∀ f : Formula α, cs.condition (f.map fun a => (leaf a).map render) =
      .concat ((f.tokens word).map (cs.token render leaf)) := by
  have hand : cs.token render leaf .and = .fixed " AND " := rfl
  have hor : cs.token render leaf .or = .fixed " OR " := rfl
  intro f
  -- by induction on the formula, with the same brackets on both sides
  induction f using Formula.induction with
  | atom a =>
      rw [Formula.map, condition_atom, Formula.tokens_atom, hword]
  | not f ih =>
      -- NOT and the bracket behind it are written as one text
      have hopen : (.fixed "NOT (" : Rendering Draft) = .fixed "NOT " ++ .fixed "(" :=
        Rendering.fixed_append "NOT " "("
      rw [Formula.map, condition_not, Formula.tokens_not, ih, hopen]
      simp [token, Rendering.concat_append, Rendering.append_assoc]
  | all fs ih =>
      rw [Formula.map, Formula.mapList_eq_map, condition_all, Formula.tokens_all,
        Rendering.concat_intercalate hand, Formula.written_map, List.map_map, List.map_map]
      refine congrArg _ (List.map_congr_left fun f hf => ?_)
      simpa [member] using
        cs.bracketed_eq_tokens render leaf f.isAny (ih f (Formula.mem_written.1 hf).1)
  | any fs ih =>
      rw [Formula.map, Formula.mapList_eq_map, condition_any, Formula.tokens_any,
        Rendering.concat_intercalate hor, Formula.written_map, List.map_map, List.map_map]
      refine congrArg _ (List.map_congr_left fun f hf => ?_)
      simpa [member] using
        cs.bracketed_eq_tokens render leaf f.isAll (ih f (Formula.mem_written.1 hf).1)

/-! ## Conditions that are restated -/

/-- What is written for a formula: words that are read in one way only, and as the formula without
the groups that have no predicates. By whatever names its predicates go, these are what the values
are given to, so that a predicate that stands in two places may have two values. -/
def Restates (f : Formula (Predicate Q)) (r : Rendering Draft) : Prop :=
  ∀ (α : Type) (leaf : α → Predicate Q) (g : Formula α), g.map leaf = f →
    ∃ ts e, r = .concat (ts.map (cs.token render leaf)) ∧ Tidy ts ∧ Derives .disjunction ts e ∧
      (∀ e', Derives .disjunction ts e' → e' = e) ∧ ∀ ρ, e.value ρ = g.prune.value ρ

/-- What is written for a list of conditions: nothing at all if there are no predicates in them, and
otherwise their conjunction behind a keyword. -/
def RestatesAll (keyword : String) (fs : List (Formula (Predicate Q))) (r : Rendering Draft) :
    Prop :=
  if Formula.areEmpty fs then r = .nothing
  else ∃ body, r = .fixed keyword ++ body ∧ cs.Restates render (.all fs) body

/-- A predicate is a single term. -/
theorem readsAs_words (a : α) (p : Predicate Q) : ReadsAs (p.words a) fun ρ => [ρ a] := by
  have hprimary : Derives .primary (p.words a) (.atom a) := by
    cases p with
    | between => exact .range _
    | _ => exact .operand _
  exact .of_derives (.negation (.primary hprimary))

theorem restates_condition {f : Formula (Predicate Q)} (h : f.isEmpty = false) :
    cs.Restates render f (cs.condition (f.map (Predicate.map render))) := by
  intro α leaf g hg
  subst hg
  rw [Formula.isEmpty_map] at h
  obtain ⟨e, he, hvalue⟩ := (Formula.readsAs (fun a => (leaf a).words a) (fun ρ a => [ρ a]) g h
    fun a _ => readsAs_words a (leaf a)).exists_derives
  -- every predicate is a single term, so that there is nothing to confine
  have hconfines : g.confines (fun _ => false) = true :=
    Formula.confines_of_tight (fun _ => rfl) g
  have hterms : ∀ ρ : α → Truth, Truth.disjunction (g.terms fun a => [ρ a]) =
      g.prune.value fun a => Truth.disjunction [ρ a] := fun ρ =>
    Formula.value_of_confines (fun a _ => ⟨ρ a, rfl⟩) g h hconfines
  refine ⟨_, e, ?_, he.tidy, he, fun e' he' => he.unique he', fun ρ => ?_⟩
  · rw [Formula.map_map]
    exact cs.condition_eq_tokens render leaf (cs.predicate_eq_words render leaf) g
  · rw [hvalue, hterms]
    simp

theorem restatesAll_clauseOf (keyword : String) (fs : List (Formula (Predicate Q))) :
    cs.RestatesAll render keyword fs
      (cs.clauseOf keyword (fs.map (Formula.map (Predicate.map render)))) := by
  unfold RestatesAll clauseOf
  rw [Formula.areEmpty_map]
  cases hfs : Formula.areEmpty fs with
  | true => rfl
  | false =>
      refine ⟨_, rfl, ?_⟩
      simpa [Formula.map] using cs.restates_condition render (f := .all fs) hfs

end Columns

/-- What is written for the condition of a join, which is TRUE if there are no predicates. -/
def Columns.RestatesOn (cs : Columns) (render : Q → Rendering Draft)
    (on : Option (Formula (Predicate Q))) (r : Rendering Draft) : Prop :=
  match on with
  | some f => if f.isEmpty then r = .fixed "TRUE" else cs.Restates render f r
  | none => r = .fixed "TRUE"

theorem Join.exists_restatesOn (cs : Columns) (render : Q → Rendering Draft) {j : Join Q}
    (h : j.kind ≠ .cross) :
    ∃ r, (j.map render).rendering cs =
        .fixed (" " ++ j.kind.sql ++ " ") ++ (j.source.map render).rendering ++
          (.fixed " ON " ++ r) ∧
      cs.RestatesOn render j.on r := by
  rcases j with ⟨kind, source, on⟩
  have hkind : kind ≠ .cross := h
  simp only [Join.rendering, Join.map, hkind, if_false]
  -- without predicates the condition is TRUE
  refine ⟨_, rfl, ?_⟩
  cases on with
  | none => rfl
  | some f =>
      cases hf : f.isEmpty with
      | true => simp [Columns.RestatesOn, hf]
      | false => simpa [Columns.RestatesOn, hf] using cs.restates_condition render hf

/-! ## The places of conditions -/

namespace Query

/-- Wherever conditions stand in a statement, they are written as words that are read in one way
only, and as the conditions that were asked for; a list without predicates is not written. -/
theorem conditions_keep_value (naming : Naming) (cs : Columns) (c : Clauses Query) :
    let render : Query → Rendering Draft := rendering naming
    let parts := foldClauses (Clauses.nested naming) c
    cs.RestatesAll render " WHERE " c.filters (cs.clauseOf " WHERE " parts.filters) ∧
    cs.RestatesAll render " HAVING " c.having (cs.clauseOf " HAVING " parts.having) ∧
    (∀ keyword, ∃ r,
      parts.changeFilter cs keyword =
        .clause keyword (parts.joins.map Clauses.changeSource) ++ r ∧
      cs.RestatesAll render " WHERE " (c.joins.filterMap Join.on ++ c.filters) r) ∧
    (∀ j ∈ c.joins, j.kind ≠ .cross → ∃ r,
      (j.map render).rendering cs =
        .fixed (" " ++ j.kind.sql ++ " ") ++ (j.source.map render).rendering ++
          (.fixed " ON " ++ r) ∧
      cs.RestatesOn render j.on r) ∧
    ∀ f : Formula (Predicate Query), f.isEmpty = false → ∃ r,
      cs.condition ((Formula.not f).map (Predicate.map render)) =
        .fixed "NOT (" ++ r ++ .fixed ")" ∧
      cs.Restates render f r := by
  intro render parts
  -- in a statement the predicates are those of the query, with the queries in them rendered
  have hparts : parts = c.map render := foldClauses_eq_map _ c
  refine ⟨?_, ?_, ?_, ?_, ?_⟩
  · rw [hparts, Clauses.filters_map]
    exact cs.restatesAll_clauseOf render " WHERE " c.filters
  · have hhaving : parts.having = c.having.map (Formula.map (Predicate.map render)) := by
      simp [hparts]
    rw [hhaving]
    exact cs.restatesAll_clauseOf render " HAVING " c.having
  · intro keyword
    refine ⟨_, rfl, ?_⟩
    rw [hparts, Clauses.changeConditions_map]
    exact cs.restatesAll_clauseOf render " WHERE " _
  · intro j _ hkind
    exact Join.exists_restatesOn cs render hkind
  · intro f hf
    exact ⟨_, cs.condition_not _, cs.restates_condition render hf⟩

end Query
end ParamSql
