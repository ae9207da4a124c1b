import ParamSql.Proofs.Logic.Escape
import ParamSql.Proofs.Sql.Filters
import ParamSql.Query.Table

/-!
# FragmentFilters — fragments as conditions

A fragment is written as it is, without brackets.  Where its text has an OR that is not in brackets,
an AND beside the fragment takes only a part of it:

* `FragmentReading` — how the texts of fragments are read, and which have such an OR;
* `FragmentReading.Spells` — the text of a fragment is that of the words it is read as;
* `FragmentReading.Conjoins R fs` — behind WHERE, the conditions `fs` are read as their conjunction;
* `Query.filters_conjoin_iff` — they are, whatever the fragments say, just if no AND stands beside
  one that has such an OR.
-/

namespace ParamSql

/-- How fragments are read as conditions: each of them is some well-formed expression. A fragment
that is not loose has no OR outside of brackets. -/
structure FragmentReading where
  words : Fragment → List (Token (Predicate Query))
  expr : Fragment → Expr (Predicate Query)
  derives : ∀ s, Derives .disjunction (words s) (expr s)
  loose : Fragment → Bool
  tight : ∀ s, loose s = false → Derives .conjunction (words s) (expr s)

namespace FragmentReading

variable (R : FragmentReading)

/-- The words of a predicate. -/
def tokens (p : Predicate Query) : List (Token (Predicate Query)) :=
  match p with
  | .fragment s => R.words s
  | p => p.words p

/-- Whether a predicate is a fragment with an OR outside of brackets. -/
def isLoose (p : Predicate Query) : Bool :=
  match p with
  | .fragment s => R.loose s
  | _ => false

/-- The value of a predicate. The predicates in the text of a fragment decide about it. -/
def value (ρ : Predicate Query → Truth) (p : Predicate Query) : Truth :=
  match p with
  | .fragment s => (R.expr s).value ρ
  | p => ρ p

/-- The words of a fragment are written as its text. -/
def Spells (cs : Columns) (render : Query → Rendering Draft) : Prop :=
  ∀ s, .concat ((R.words s).map (cs.token render id)) = (.fragment s : Rendering Draft)

/-- The words behind WHERE, of which there are none without predicates. -/
def clause (cs : Columns) (render : Query → Rendering Draft)
    (fs : List (Formula (Predicate Query))) : Rendering Draft :=
  if Formula.areEmpty fs then .nothing
  else .fixed " WHERE " ++ .concat (((Formula.all fs).tokens R.tokens).map (cs.token render id))

/-- Behind WHERE, conditions are read as their conjunction. -/
def Conjoins (fs : List (Formula (Predicate Query))) : Prop :=
  Formula.areEmpty fs = false →
    ∃ e, Derives .disjunction ((Formula.all fs).tokens R.tokens) e ∧
      ∀ ρ, e.value ρ = (Formula.all fs).prune.value (R.value ρ)

theorem readsAs_of_words {p : Predicate Query} (h : R.tokens p = p.words p) :
    ReadsAs (R.tokens p) fun ρ => [ρ p] :=
  h ▸ Columns.readsAs_words p p

/-- The terms of a predicate, of which there is only one if it is not loose. -/
theorem exists_readsAs (p : Predicate Query) :
    ∃ τ : (Predicate Query → Truth) → List Truth, ReadsAs (R.tokens p) τ ∧
      (∀ ρ, Truth.disjunction (τ ρ) = R.value ρ p) ∧
      (R.isLoose p = false → ∀ ρ, ∃ u, τ ρ = [u]) := by
  -- all predicates but fragments are single terms
  have hwords : ∀ p : Predicate Query, R.tokens p = p.words p → (∀ ρ, R.value ρ p = ρ p) →
      ∃ τ : (Predicate Query → Truth) → List Truth, ReadsAs (R.tokens p) τ ∧
        (∀ ρ, Truth.disjunction (τ ρ) = R.value ρ p) ∧
        (R.isLoose p = false → ∀ ρ, ∃ u, τ ρ = [u]) := by
    intro p htokens hvalue
    refine ⟨fun ρ => [ρ p], R.readsAs_of_words htokens, fun ρ => ?_, fun _ ρ => ⟨_, rfl⟩⟩
    simp [hvalue]
  cases p with
  | fragment s =>
      cases hloose : R.loose s with
      | true =>
          -- the terms of a loose fragment are those between its ORs
          rcases Terms.of_derives (R.derives s) with ⟨es, hes, hvalue⟩
          refine ⟨fun ρ => es.map (Expr.value ρ), ⟨es, hes, fun _ => rfl⟩, fun ρ => ?_, ?_⟩
          · exact (hvalue ρ).symm
          · simp [isLoose, hloose]
      | false =>
          refine ⟨fun ρ => [(R.expr s).value ρ], .of_derives (R.tight s hloose), fun ρ => ?_,
            fun _ ρ => ⟨_, rfl⟩⟩
          simp [value]
  | _ => exact hwords _ rfl fun _ => rfl

/-- Conditions that confine the fragments with an OR are read as their conjunction. -/
theorem conjoins_of_confines {fs : List (Formula (Predicate Query))}
    (h : (Formula.all fs).confines R.isLoose = true) : R.Conjoins fs := by
  intro hfs
  -- each predicate is read by itself, and then the formula with what they are read as
  choose τ hreads hvalue hsingle using R.exists_readsAs
  obtain ⟨e, he, hterms⟩ := (Formula.readsAs R.tokens (fun ρ p => τ p ρ) (.all fs) hfs
    fun p _ => hreads p).exists_derives
  refine ⟨e, he, ?_⟩
  intro ρ
  have hread := Formula.value_of_confines (fun p hp => hsingle p hp ρ) (.all fs) hfs h
  rw [hterms, hread]
  simp only [hvalue]

/-- What is written behind WHERE is the text of the words that it is read as. -/
theorem clause_eq {cs : Columns} {render : Query → Rendering Draft} (h : R.Spells cs render)
    (fs : List (Formula (Predicate Query))) :
    cs.clauseOf " WHERE " (fs.map (Formula.map (Predicate.map render))) =
      R.clause cs render fs := by
  -- a fragment is written as the words that it is read as
  have hword : ∀ p : Predicate Query,
      cs.predicate (p.map render) = .concat ((R.tokens p).map (cs.token render id)) := by
    intro p
    cases p with
    | fragment s => exact (h s).symm
    | _ => exact cs.predicate_eq_words render id _
  have hall : cs.condition ((Formula.all fs).map (Predicate.map render)) = _ :=
    cs.condition_eq_tokens render id hword (.all fs)
  rw [Formula.map, Formula.mapList_eq_map] at hall
  simp only [Columns.clauseOf, clause, Formula.areEmpty_map, hall]

/-! ## Fragments that escape -/

/-- A text with an OR outside of brackets. -/
def sampleText (b : Bool) : String :=
  if b then "TRUE OR TRUE" else "FALSE OR FALSE"

/-- The value of a fragment with one of the two texts. -/
def sampleValue (s : Fragment) : Option Bool :=
  match s.pieces with
  | [.text t] =>
      if t = sampleText true then some true
      else if t = sampleText false then some false
      else none
  | _ => none

theorem eq_of_sampleValue {s : Fragment} {b : Bool} (h : sampleValue s = some b) :
    s = .ofText (sampleText b) := by
  have htext (b : Bool) : (Fragment.ofText (sampleText b)).pieces = [.text (sampleText b)] :=
    Fragment.pieces_ofText (by cases b <;> decide)
  unfold sampleValue at h
  split at h
  case h_1 t hpieces =>
    apply Fragment.eq_of_pieces
    rw [hpieces, htext]
    split_ifs at h with htrue hfalse
    · obtain rfl := Option.some.inj h
      rw [htrue]
    · obtain rfl := Option.some.inj h
      rw [hfalse]
  case h_2 => cases h

/-- A reading in which two texts have an OR, and all other fragments are one predicate each. -/
def sample : FragmentReading where
  words s :=
    match sampleValue s with
    | some b => [.operand (.constant b), .or, .operand (.constant b)]
    | none => [.operand (.fragment s)]
  expr s :=
    match sampleValue s with
    | some b => .or (.atom (.constant b)) (.atom (.constant b))
    | none => .atom (.fragment s)
  derives s := by
    cases sampleValue s with
    | none => exact (Derives.operand _).loosen
    | some b => exact .or (Derives.operand _).loosen (.negation (.primary (.operand _)))
  loose s := (sampleValue s).isSome
  tight s h := by
    cases hs : sampleValue s with
    | none => exact .negation (.primary (.operand _))
    | some b => simp [hs] at h

theorem sample_spells (cs : Columns) (render : Query → Rendering Draft) :
    sample.Spells cs render := by
  intro s
  cases hs : sampleValue s with
  | none =>
      simp [sample, hs, Columns.token, Columns.front, Predicate.map, Columns.predicate]
  | some b =>
      have htext : (.fragment (.ofText (sampleText b)) : Rendering Draft) =
          .fixed (sampleText b) := by
        cases b <;> rfl
      -- the text is cut at its OR
      have hcut : (.fixed (sampleText b) : Rendering Draft) =
          .fixed (if b then "TRUE" else "FALSE") ++
            (.fixed " OR " ++ .fixed (if b then "TRUE" else "FALSE")) := by
        rw [← Rendering.fixed_append, ← Rendering.fixed_append]
        cases b <;> rfl
      obtain rfl := eq_of_sampleValue hs
      rw [htext, hcut]
      simp [sample, hs, Columns.token, Columns.front, Predicate.map, Columns.predicate]

/-- The terms of the predicates under that reading. -/
def sampleTerms (ρ : Predicate Query → Truth) (p : Predicate Query) : List Truth :=
  match p with
  | .fragment s =>
      match sampleValue s with
      | some b => [ρ (.constant b), ρ (.constant b)]
      | none => [ρ p]
  | p => [ρ p]

theorem sample_readsAs (p : Predicate Query) :
    ReadsAs (sample.tokens p) fun ρ => sampleTerms ρ p := by
  cases p with
  | fragment s =>
      have hoperand : ∀ p : Predicate Query, Derives .conjunction [.operand p] (.atom p) :=
        fun p => .negation (.primary (.operand p))
      cases hs : sampleValue s with
      | none =>
          have hreads := ReadsAs.of_derives (hoperand (.fragment s))
          simpa [tokens, sample, sampleTerms, hs, Expr.value] using hreads
      | some b =>
          have hconstant := hoperand (.constant b)
          have hterms := Terms.cons hconstant (.last hconstant)
          exact ⟨_, by simpa [tokens, sample, hs] using hterms, fun ρ => by
            simp [sampleTerms, hs, Expr.value]⟩
  | _ => exact sample.readsAs_of_words rfl

theorem disjunction_sampleTerms (ρ : Predicate Query → Truth) (p : Predicate Query) :
    Truth.disjunction (sampleTerms ρ p) = sample.value ρ p := by
  cases p with
  | fragment s =>
      cases hs : sampleValue s <;> simp [sampleTerms, value, sample, hs, Expr.value]
  | _ => simp [sampleTerms, value]

/-- Constants have their values. -/
def sampleTruth (p : Predicate Query) : Truth :=
  match p with
  | .constant b => .ofBool b
  | _ => .unknown

/-- A predicate of either kind and either value. -/
def samplePredicate (isLoose b : Bool) : Predicate Query :=
  if isLoose then .fragment (.ofText (sampleText b)) else .constant b

theorem sampleValue_text (b : Bool) : sampleValue (.ofText (sampleText b)) = some b := by
  cases b <;> rfl

theorem sample_fillers :
    Formula.Fillers sample.isLoose (sampleTerms sampleTruth) samplePredicate where
  loose_fill l b := by
    cases l <;> simp [samplePredicate, isLoose, sample, sampleValue_text]
  terms_loose b := by
    simp [samplePredicate, sampleTerms, sampleValue_text, sampleTruth]
  terms_tight b := by
    simp [samplePredicate, sampleTerms, sampleTruth]

/-- Conditions that do not confine the fragments with an OR are misread for some fragments. -/
theorem exists_not_conjoins (shape : List (Formula Bool))
    (h : (Formula.all shape).confines id = false) :
    ∃ fs : List (Formula (Predicate Query)), fs.map (Formula.map sample.isLoose) = shape ∧
      ¬sample.Conjoins fs := by
  have hsingle : ∀ p, sample.isLoose p = false → ∃ u, sampleTerms sampleTruth p = [u] := by
    intro p hp
    cases p with
    | fragment s =>
        have hs : sampleValue s = none := by simpa [isLoose, sample] using hp
        exact ⟨sampleTruth (.fragment s), by simp [sampleTerms, hs]⟩
    | _ => exact ⟨_, rfl⟩
  -- some conditions of this shape are read as the opposite of what they are
  rcases Formula.exists_escape sample_fillers hsingle (.all shape) h with ⟨b, g, hg⟩
  have hatoms := hg.isEmpty_eq_false h
  cases g with
  | atom | not | any => cases hg.shape
  | all fs =>
      refine ⟨fs, by simpa [Formula.map] using hg.shape, ?_⟩
      intro hconjoins
      rcases hconjoins hatoms with ⟨e, he, hmeaning⟩
      obtain ⟨e', he', hreading⟩ := (Formula.readsAs sample.tokens sampleTerms (.all fs) hatoms
        fun p _ => sample_readsAs p).exists_derives
      -- there is only one reading
      obtain rfl := he.unique he'
      have hvalue : sample.value sampleTruth =
          fun p => Truth.disjunction (sampleTerms sampleTruth p) :=
        funext fun p => (disjunction_sampleTerms sampleTruth p).symm
      have hboth : Truth.ofBool b = .ofBool (!b) := by
        rw [← hg.reading, ← hg.meaning, ← hreading, ← hvalue, ← hmeaning]
      cases b <;> cases hboth

end FragmentReading

namespace Query

/-- What is written behind the WHERE of a SELECT, UPDATE or DELETE are the words of its conditions,
with those of the fragments among them.  Whatever the fragments say, these words are read as the
conjunction of the conditions just if no AND stands beside a fragment with an OR outside of
brackets; otherwise there are texts of fragments in the same places with which they are not. -/
theorem filters_conjoin_iff (naming : Naming) (cs : Columns) :
    let render : Query → Rendering Draft := rendering naming
    (∀ (R : FragmentReading) (c : Clauses Query), R.Spells cs render →
      let parts := foldClauses (Clauses.nested naming) c
      cs.clauseOf " WHERE " parts.filters = R.clause cs render c.filters ∧
      ∀ keyword, parts.changeFilter cs keyword =
        .clause keyword (parts.joins.map Clauses.changeSource) ++
          R.clause cs render (c.joins.filterMap Join.on ++ c.filters)) ∧
    ∀ shape : List (Formula Bool),
      ((Formula.all shape).confines id = true → ∀ (R : FragmentReading)
        (fs : List (Formula (Predicate Query))), fs.map (Formula.map R.isLoose) = shape →
          R.Conjoins fs) ∧
      ((Formula.all shape).confines id = false → ∃ (R : FragmentReading)
        (fs : List (Formula (Predicate Query))), R.Spells cs render ∧
          fs.map (Formula.map R.isLoose) = shape ∧ ¬R.Conjoins fs) := by
  intro render
  refine ⟨?_, fun shape => ⟨?_, ?_⟩⟩
  · intro R c hspells parts
    have hparts : parts = c.map render := foldClauses_eq_map _ c
    rw [hparts]
    refine ⟨by rw [Clauses.filters_map, R.clause_eq hspells], ?_⟩
    intro keyword
    rw [Clauses.changeFilter, Clauses.changeConditions_map, R.clause_eq hspells]
  · intro hshape R fs hfs
    refine R.conjoins_of_confines ?_
    rw [← hfs] at hshape
    have hmap : ((Formula.all fs).map R.isLoose).confines id =
        (Formula.all fs).confines R.isLoose := Formula.confines_map R.isLoose (.all fs)
    rw [Formula.map, Formula.mapList_eq_map, hshape] at hmap
    exact hmap.symm
  · intro hshape
    rcases FragmentReading.exists_not_conjoins shape hshape with ⟨fs, hfs, hnot⟩
    exact ⟨_, fs, FragmentReading.sample_spells cs render, hfs, hnot⟩

/-- Rows that pass a fragment with an OR, of a table whose rows are marked as deleted. -/
def eitherOfKept : Query :=
  ((Table.named "t").softDelete "deleted_at").query.filter
    (Condition.fragment (.ofText "a = 1 OR b = 2"))

/-- The words behind its WHERE. -/
def eitherOfKeptWords : List (Token (Predicate Query)) :=
  [.operand (.fragment (.ofText "a = 1")), .or, .operand (.fragment (.ofText "b = 2")), .and,
    .operand (.nullCheck (.parse "deleted_at") true)]

/-- Only that a row is not deleted does not hold. -/
def deletedTruth (p : Predicate Query) : Truth :=
  match p with
  | .nullCheck .. => .no
  | _ => .yes

/-- Rows with `a = 1` pass though they are marked as deleted. -/
theorem eitherOfKept_escapes :
    eitherOfKept.compile {} = .ok
      ⟨"SELECT * FROM \"t\" WHERE a = 1 OR b = 2 AND \"t\".\"deleted_at\" IS NULL", [], false⟩ ∧
    Columns.clauseOf ⟨some "t", .verbatim⟩ " WHERE "
        (foldClauses (Clauses.nested .verbatim) eitherOfKept.clauses).filters =
      (.fixed " WHERE " ++ .concat (eitherOfKeptWords.map
        (Columns.token ⟨some "t", .verbatim⟩ (rendering .verbatim) id)) : Rendering Draft) ∧
    ∃ e, parse eitherOfKeptWords = some e ∧ e.value deletedTruth = .yes ∧
      deletedTruth (.nullCheck (.parse "deleted_at") true) = .no := by
  refine ⟨rfl, ?_, _, rfl, rfl, rfl⟩
  have hfilters : (foldClauses (Clauses.nested .verbatim) eitherOfKept.clauses).filters =
      [.atom (.fragment (.ofText "a = 1 OR b = 2")),
        (.atom (.nullCheck (.parse "deleted_at") true) : Formula (Predicate (Rendering Draft)))] :=
    rfl
  -- the text of the fragment is cut at its OR
  have hcut : (.fragment (.ofText "a = 1 OR b = 2") : Rendering Draft) =
      .fragment (.ofText "a = 1") ++ (.fixed " OR " ++ .fragment (.ofText "b = 2")) := by
    have htext {s : String} (hs : s ≠ "") :
        (.fragment (.ofText s) : Rendering Draft) = .fixed s := by
      rw [Rendering.fragment, Fragment.pieces_ofText hs]
      rfl
    rw [htext (by decide), htext (by decide), htext (by decide), ← Rendering.fixed_append,
      ← Rendering.fixed_append]
    rfl
  simp [hfilters, Columns.clauseOf, Columns.condition_all, Columns.member, Formula.areEmpty,
    Formula.isEmpty, Formula.written, Rendering.separated_cons_cons, eitherOfKeptWords,
    Columns.token, Columns.front, Predicate.map, Columns.predicate, hcut, Formula.isAny,
    Rendering.append_assoc]

end Query
end ParamSql
