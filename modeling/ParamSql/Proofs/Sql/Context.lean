import Mathlib.Data.List.Flatten
import ParamSql.Proofs.Sql.Chain
import ParamSql.Proofs.Sql.Filtered
import ParamSql.Query.Condition

/-!
# Context — a query in its surroundings

If a default filter of one query is dropped, the statement of this query loses the items of the
filter.  Nothing else is written in another way, whatever the query stands in: a query around it, at
any depth, or one that it is appended to.

* `Query.Context`, `Context.plug` — a query with a place in it, and another one in the place;
* `Unscoping` — a statement as it is written with a default filter, and without it;
* `Rendering.AgreesAround` — two renderings are the same but for such statements;
* `Agreement.around` — which all writers respect;
* `Query.compile_unscope` — so that the compiled queries are the same but for such statements.
-/

namespace ParamSql

namespace Query

/-! ## Contexts -/

/-- A query with a place for another one: the place is the whole, stands somewhere inside the
clauses of the query, or is among the appended statements. -/
inductive Context
  | here
  | inside (c : Clauses (Option Query)) (as : List (Appended Query)) (context : Context)
  | appended (c : Clauses Query) (before : List (Appended Query)) (context : Context)
      (required : Bool) (behind : List (Appended Query))

/-- The query in a context. -/
def Context.plug (q : Query) : Context → Query
  | .here => q
  | .inside c as context => .of (c.map fun place => place.getD (context.plug q)) as
  | .appended c before context required behind =>
      .of c (before ++ ⟨context.plug q, required⟩ :: behind)

end Query

/-! ## Statements without a default filter -/

/-- A statement as it is written with the default filter of a name, and without it: nothing but the
items of this default filter is missing, and nothing at all in an INSERT. -/
structure Unscoping (naming : Naming) (name : String) (c : Clauses Query) where
  lexemes : List Lexeme
  unscoped : List Lexeme
  lexemes_eq : (Query.statement naming false c : Rendering (List Lexeme)).result = .ok lexemes
  unscoped_eq : (Query.statement naming false
    (c.withScopes (Keyed.remove Scope.name name c.scopes)) : Rendering (List Lexeme)).result =
      .ok unscoped
  insertion : c.isInsertion = true → unscoped = lexemes
  filtered : c.isInsertion = false →
    ∃ (parts : FilterParts naming false c) (kept : List (List Lexeme)),
      kept.Sublist parts.defaults ∧
      Query.WrittenAs naming c ((Keyed.remove Scope.name name c.scopes).map Scope.condition) kept ∧
        lexemes = parts.lexemes ∧ unscoped = parts.lexemesWith kept

namespace Lexeme

theorem params_whereOf (items : List (List Lexeme)) :
    params (Clauses.whereOf items) = items.flatMap params := by
  unfold Clauses.whereOf
  cases items with
  | nil => rfl
  | cons item items =>
      rw [List.isEmpty_cons, if_neg Bool.false_ne_true, params_fixed, params_intercalate]

end Lexeme

namespace Unscoping

variable {naming : Naming} {name : String} {c : Clauses Query}

/-- Whoever can write a statement can write it without a default filter. -/
theorem exists_of_statement (name : String) {ls : List Lexeme}
    (h : (Query.statement naming false c : Rendering (List Lexeme)).result = .ok ls) :
    ∃ u : Unscoping naming name c, u.lexemes = ls := by
  -- an insertion has no default filters, and anything else has theirs as items of its WHERE
  cases hinsertion : c.isInsertion with
  | true =>
      have hunscoped : (Query.statement naming false
          (c.withScopes (Keyed.remove Scope.name name c.scopes)) :
            Rendering (List Lexeme)).result = .ok ls := by
        rw [Query.statement_insertion hinsertion]
        exact h
      exact ⟨⟨ls, ls, h, hunscoped, fun _ => rfl, by simp [hinsertion]⟩, rfl⟩
  | false =>
      rcases Query.exists_filterParts hinsertion h with ⟨parts, rfl⟩
      have hremoved : ((Keyed.remove Scope.name name c.scopes).map Scope.condition).Sublist
          c.defaults := List.filter_sublist.map _
      rcases parts.defaults_eq.exists_sublist hremoved with ⟨kept, hsublist, hkept⟩
      have hunscoped := Query.statement_withScopes hinsertion (Query.isGuarded_of_statement h) parts
        hkept
      exact ⟨⟨parts.lexemes, parts.lexemesWith kept, h, hunscoped, by simp [hinsertion],
        fun _ => ⟨parts, kept, hsublist, hkept, rfl, rfl⟩⟩, rfl⟩

/-- Without a default filter no more values are bound. -/
theorem length_params_le (u : Unscoping naming name c) :
    (Lexeme.params u.unscoped).length ≤ (Lexeme.params u.lexemes).length := by
  cases hinsertion : c.isInsertion with
  | true => rw [u.insertion hinsertion]
  | false =>
      rcases u.filtered hinsertion with ⟨parts, kept, hsublist, -, hlexemes, hunscoped⟩
      have hvalues : (kept.flatMap Lexeme.params).Sublist
          (parts.defaults.flatMap Lexeme.params) := hsublist.flatMap _
      have hlength := hvalues.length_le
      simp only [hlexemes, hunscoped, FilterParts.lexemes, FilterParts.lexemesWith,
        Lexeme.params_append, Lexeme.params_whereOf, List.flatMap_append, List.length_append]
      omega

end Unscoping

/-! ## Renderings around a statement -/

section Around

variable {naming : Naming} {name : String} {c : Clauses Query}

theorem Slot.length_params_fill_le (slots : List (Slot (Unscoping naming name c))) :
    (Lexeme.params (Slot.fill Unscoping.unscoped slots)).length ≤
      (Lexeme.params (Slot.fill Unscoping.lexemes slots)).length := by
  -- every slot either is a lexeme that both have, or a statement that binds no more values
  induction slots with
  | nil => exact Nat.le_refl _
  | cons slot slots ih =>
      cases slot with
      | lexeme l =>
          have hfill (f : Unscoping naming name c → List Lexeme) :
              Slot.fill f (.lexeme l :: slots) = [l] ++ Slot.fill f slots := rfl
          simp only [hfill, Lexeme.params_append, List.length_append]
          omega
      | query u =>
          have hle := u.length_params_le
          simp only [Slot.fill_query, Lexeme.params_append, List.length_append]
          omega

variable (naming name c) in
/-- Whenever the first one is written, the second one is: the same but for the statement of `c`,
which loses a default filter wherever it stands. -/
def Rendering.AgreesAround (x y : Rendering (List Lexeme)) : Prop :=
  ∀ ls, x.result = .ok ls → ∃ slots : List (Slot (Unscoping naming name c)),
    ls = Slot.fill Unscoping.lexemes slots ∧ y.result = .ok (Slot.fill Unscoping.unscoped slots)

namespace Rendering.AgreesAround

variable {x x' y y' : Rendering (List Lexeme)}

theorem refl (x : Rendering (List Lexeme)) : x.AgreesAround naming name c x := by
  intro ls hls
  refine ⟨ls.map .lexeme, (Slot.fill_map_lexeme _ ls).symm, ?_⟩
  rw [Slot.fill_map_lexeme, hls]

theorem append (h : x.AgreesAround naming name c y) (h' : x'.AgreesAround naming name c y') :
    (x ++ x').AgreesAround naming name c (y ++ y') := by
  intro ls hls
  rcases result_append_eq_ok hls with ⟨before, behind, hbefore, hbehind, rfl⟩
  rcases h before hbefore with ⟨slots, rfl, hslots⟩
  rcases h' behind hbehind with ⟨more, rfl, hmore⟩
  refine ⟨slots ++ more, (Slot.fill_append _ slots more).symm, ?_⟩
  rw [result_append_ok hslots hmore, Slot.fill_append]
  rfl

end Rendering.AgreesAround

variable (naming name c) in
/-- Whatever is written around a statement does not depend on its default filters. -/
def Agreement.around (Q : Type) : Agreement Q (List Lexeme) (List Lexeme) where
  names _ := True
  fragments _ := True
  free _ x y := x.AgreesAround naming name c y
  led _ x y := x.AgreesAround naming name c y
  led_of_free h := h
  nothing := .refl _
  fault _ _ := .refl _
  behind _ h := (Rendering.AgreesAround.refl _).append h
  append h h' := h.append h'
  led_append h h' := h.append h'
  bind _ := .refl _
  fragment _ := .refl _
  name _ := .refl _
  path _ := .refl _
  physical _ _ := trivial
  qualified _ _ := trivial
  parsed := @ColumnRef.parsed_anything

end Around

namespace Query

/-! ## Statements in contexts -/

section Contexts

variable {naming : Naming} {name : String} {q : Query} {context : Context}

theorem appended_plug (context : Context) :
    (context.plug (q.unscope name)).appended.isEmpty = (context.plug q).appended.isEmpty := by
  cases context with
  | here => rfl
  | inside c as context => rfl
  | appended c before context required behind => cases before <;> rfl

theorem rendering_agreesAround {r s : Query} (happended : s.appended.isEmpty = r.appended.isEmpty)
    (h : (statement naming false r.clauses).AgreesAround naming name q.clauses
      (statement naming false s.clauses)) :
    (r.rendering naming).AgreesAround naming name q.clauses (s.rendering naming) := by
  intro ls hls
  obtain ⟨hr, hstatement⟩ := rendering_eq_ok hls
  have hs : s.appended = [] := by simpa [hr] using happended
  rw [rendering_eq_statement hs]
  exact h ls hstatement

/-- By itself, and in the place of a common table expression. -/
theorem statement_unscope (inCte : Bool) :
    (statement naming inCte q.clauses).AgreesAround naming name q.clauses
      (statement naming inCte (q.unscope name).clauses) := by
  -- by itself, the statement is all there is
  have halone : (statement naming false q.clauses).AgreesAround naming name q.clauses
      (statement naming false (q.unscope name).clauses) := by
    intro ls hls
    rcases Unscoping.exists_of_statement name hls with ⟨u, rfl⟩
    have hunscoped : (statement naming false (q.unscope name).clauses :
        Rendering (List Lexeme)).result = .ok u.unscoped := u.unscoped_eq
    exact ⟨[.query u], by simp [Slot.fill], by simpa [Slot.fill] using hunscoped⟩
  cases inCte with
  | false => exact halone
  | true =>
      rw [statement_true_eq, statement_true_eq]
      exact halone.append (.refl _)

theorem statement_plug (context : Context) (inCte : Bool) :
    (statement naming inCte (context.plug q).clauses).AgreesAround naming name q.clauses
      (statement naming inCte (context.plug (q.unscope name)).clauses) := by
  -- by induction on the context, from the place outwards
  induction context generalizing inCte with
  | here => exact statement_unscope inCte
  | inside c as context ih =>
      let outer (q : Query) (place : Option Query) : Rendering (List Lexeme) :=
        rendering naming (place.getD (context.plug q))
      -- in its place the query loses the filter, and in any other place there is another query
      have hplaces : ∀ place : Option Query,
          (outer q place).AgreesAround naming name q.clauses (outer (q.unscope name) place) := by
        rintro (- | r)
        · exact rendering_agreesAround (appended_plug context) (ih false)
        · exact .refl _
      have hadmits : ∀ i ∈ c.ingredients,
          (Agreement.around naming name q.clauses (Option Query)).Admits (outer q)
            (outer (q.unscope name)) i := by
        intro i _
        cases i with
        | name s => trivial
        | fragment f => trivial
        | query place => exact hplaces place
      have hmap (q : Query) :
          (statement naming inCte ((Context.inside c as context).plug q).clauses :
            Rendering (List Lexeme)) = (c.map (outer q)).statement naming inCte := by
        rw [statement_eq_map, Context.plug, clauses, Clauses.map_map]
        rfl
      rw [hmap, hmap]
      exact Agreement.statement hadmits naming inCte
  | appended c before context required behind _ => exact .refl _

/-! ## Chains in contexts -/

/-- Appended statements that are written in the same way but for one statement. -/
structure Dependent.Agrees (naming : Naming) (name : String) (c : Clauses Query)
    (d d' : Dependent) : Prop where
  required : d.required = d'.required
  names : ownNames d.clauses = ownNames d'.clauses
  statement : (statement naming true d.clauses).AgreesAround naming name c
    (Query.statement naming true d'.clauses)

theorem Dependent.Agrees.refl {c : Clauses Query} (d : Dependent) : d.Agrees naming name c d :=
  ⟨rfl, rfl, .refl _⟩

/-- What statements have in common that agree, lists of them have in common. -/
theorem Dependent.map_eq_of_agrees {β : Type} {c : Clauses Query} {f : Dependent → β}
    (hf : ∀ d d' : Dependent, d.Agrees naming name c d' → f d = f d') {ds ds' : List Dependent}
    (h : List.Forall₂ (Dependent.Agrees naming name c) ds ds') : ds.map f = ds'.map f := by
  rw [← List.forall₂_eq_eq_eq, List.forall₂_map_left_iff, List.forall₂_map_right_iff]
  exact h.imp hf

theorem ownNames_plug (context : Context) :
    ownNames (context.plug q).clauses = ownNames (context.plug (q.unscope name)).clauses := by
  cases context with
  | here => rfl
  | inside c as context =>
      exact (ownNames_map _ c).trans (ownNames_map _ c).symm
  | appended c before context required behind => rfl

theorem dependents_plug (context : Context) :
    List.Forall₂ (Dependent.Agrees naming name q.clauses) (context.plug q).dependents
      (context.plug (q.unscope name)).dependents := by
  have hsame (ds : List Dependent) : List.Forall₂ (Dependent.Agrees naming name q.clauses) ds ds :=
    List.forall₂_same.2 fun d _ => .refl d
  -- only the query in the place differs, and what stands beside it is the same
  induction context with
  | here =>
      rcases q with ⟨c, as⟩
      exact hsame _
  | inside c as context _ => exact hsame _
  | appended c before context required behind ih =>
      simp only [Context.plug, dependents_of, List.flatMap_append, List.flatMap_cons]
      have hplace : Dependent.Agrees naming name q.clauses ⟨(context.plug q).clauses, required⟩
          ⟨(context.plug (q.unscope name)).clauses, required⟩ :=
        ⟨rfl, ownNames_plug context, statement_plug context true⟩
      exact List.rel_append (hsame _) (List.rel_append (.cons hplace ih) (hsame _))

/-- Generated names have nothing to do with default filters. -/
theorem generatedNames_plug (context : Context) :
    (context.plug q).generatedNames = (context.plug (q.unscope name)).generatedNames := by
  have hdependents : List.Forall₂ (Dependent.Agrees .verbatim name q.clauses)
      (context.plug q).dependents (context.plug (q.unscope name)).dependents :=
    dependents_plug context
  have hnames : ((context.plug q).dependents.flatMap fun d => ownNames d.clauses) =
      (context.plug (q.unscope name)).dependents.flatMap fun d => ownNames d.clauses := by
    rw [List.flatMap_def, List.flatMap_def,
      Dependent.map_eq_of_agrees (fun _ _ hd => hd.names) hdependents]
  have hreserved :
      (context.plug q).reservedNames = (context.plug (q.unscope name)).reservedNames := by
    rw [reservedNames, reservedNames, ownNames_plug, hnames]
  rw [generatedNames, generatedNames, hreserved, hdependents.length_eq]

/-- The appended statements have the same names. -/
theorem zip_dependents_plug (context : Context) :
    List.Forall₂ (fun p p' => p.1 = p'.1 ∧ p.2.Agrees naming name q.clauses p'.2)
      ((context.plug q).generatedNames.zip (context.plug q).dependents)
      ((context.plug (q.unscope name)).generatedNames.zip
        (context.plug (q.unscope name)).dependents) := by
  rw [← generatedNames_plug]
  have hzip {names : List String} {ds ds' : List Dependent}
      (h : List.Forall₂ (Dependent.Agrees naming name q.clauses) ds ds') :
      List.Forall₂ (fun p p' => p.1 = p'.1 ∧ p.2.Agrees naming name q.clauses p'.2)
        (names.zip ds) (names.zip ds') := by
    induction h generalizing names with
    | nil => simp
    | cons hd _ ih =>
        cases names with
        | nil => simp
        | cons first names => exact .cons ⟨rfl, hd⟩ ih
  exact hzip (dependents_plug context)

theorem mainName_plug (q : Query) (name : String) (context : Context) :
    (context.plug q).mainName = (context.plug (q.unscope name)).mainName :=
  congrArg (List.getLastD · "") (generatedNames_plug context)

theorem requiredNames_plug (q : Query) (name : String) (context : Context) :
    (context.plug q).requiredNames = (context.plug (q.unscope name)).requiredNames := by
  have hrequired {ps ps' : List (String × Dependent)}
      (h : List.Forall₂
        (fun p p' => p.1 = p'.1 ∧ p.2.Agrees .verbatim name q.clauses p'.2) ps ps') :
      (ps.filter fun p => p.2.required).map Prod.fst =
        (ps'.filter fun p => p.2.required).map Prod.fst := by
    induction h with
    | nil => rfl
    | @cons p p' _ _ hp _ ih => cases hp' : p'.2.required <;> simp [hp.1, hp.2.required, hp', ih]
  exact hrequired (zip_dependents_plug context)

/-- The statements of a chain are written under the same names. -/
theorem members_plug (context : Context) :
    List.Forall₂ (fun x y : Rendering (List Lexeme) => x.AgreesAround naming name q.clauses y)
      ((context.plug q).namedMembers.map fun member =>
        memberOf (statement naming true) member.1 member.2)
      ((context.plug (q.unscope name)).namedMembers.map fun member =>
        memberOf (statement naming true) member.1 member.2) := by
  have hmember {n : String} {c d : Clauses Query}
      (h : (statement naming true c).AgreesAround naming name q.clauses (statement naming true d)) :
      (memberOf (statement naming true) n c).AgreesAround naming name q.clauses
        (memberOf (statement naming true) n d) :=
    Rendering.AgreesAround.append (.refl _)
      (Rendering.AgreesAround.append (Rendering.AgreesAround.append (.refl _) h) (.refl _))
  have hnamed (r : Query) : r.namedMembers = (r.generatedNames.zip r.dependents).map
      (fun p => (p.1, p.2.clauses)) ++ [(r.mainName, r.clauses)] := rfl
  have hzip : List.Forall₂ (fun p p' => p.1 = p'.1 ∧ p.2.Agrees naming name q.clauses p'.2)
      ((context.plug q).generatedNames.zip (context.plug q).dependents)
      ((context.plug (q.unscope name)).generatedNames.zip
        (context.plug (q.unscope name)).dependents) := zip_dependents_plug context
  rw [hnamed, hnamed, ← mainName_plug q name, List.forall₂_map_left_iff, List.forall₂_map_right_iff]
  refine List.rel_append ?appended (.cons (hmember (statement_plug context true)) .nil)
  case appended =>
    rw [List.forall₂_map_left_iff, List.forall₂_map_right_iff]
    -- beside each other are statements that agree, under one name
    refine hzip.imp ?_
    rintro ⟨n, d⟩ ⟨_, d'⟩ ⟨rfl, hd⟩
    exact hmember hd.statement

theorem chain_plug (context : Context) :
    (chain naming (context.plug q)).AgreesAround naming name q.clauses
      (chain naming (context.plug (q.unscope name))) := by
  have hcommas : (Rendering.commas ((context.plug q).namedMembers.map fun member =>
      memberOf (statement naming true) member.1 member.2)).AgreesAround naming name q.clauses
        (.commas ((context.plug (q.unscope name)).namedMembers.map fun member =>
          memberOf (statement naming true) member.1 member.2)) :=
    Correspondence.separated_forall₂
      (C := (Agreement.around naming name q.clauses Query).correspondence) (by simp [openers])
      (members_plug context)
  rw [chain_eq, chain_eq, chainOf, chainOf, mainName_plug q name, requiredNames_plug q name]
  exact (((Rendering.AgreesAround.refl _).append hcommas).append (.refl _)).append (.refl _)
    |>.append (.refl _)

theorem rendered_plug (context : Context) :
    ((context.plug q).rendered naming).AgreesAround naming name q.clauses
      ((context.plug (q.unscope name)).rendered naming) := by
  unfold rendered
  rw [appended_plug]
  split
  · exact statement_plug context false
  · exact chain_plug context

theorem isGuarded_plug (context : Context) :
    (context.plug (q.unscope name)).isGuarded = (context.plug q).isGuarded := by
  have hdependents : List.Forall₂ (Dependent.Agrees .verbatim name q.clauses)
      (context.plug q).dependents (context.plug (q.unscope name)).dependents :=
    dependents_plug context
  have hrequired := Dependent.map_eq_of_agrees (fun _ _ hd => hd.required) hdependents
  simpa [isGuarded, Function.comp_def] using congrArg (List.any · id) hrequired.symm

/-- A query without a default filter compiles wherever the query does, and to the same but for its
own statement. -/
theorem compile_unscope (name : String) (context : Context) {options : CompileOptions}
    {compiled : Compiled} (h : (context.plug q).compile options = .ok compiled) :
    ∃ slots : List (Slot (Unscoping options.naming name q.clauses)),
      compiled = ⟨Lexeme.text (Slot.fill Unscoping.lexemes slots),
        Lexeme.params (Slot.fill Unscoping.lexemes slots), compiled.guarded⟩ ∧
      (context.plug (q.unscope name)).compile options =
        .ok ⟨Lexeme.text (Slot.fill Unscoping.unscoped slots),
          Lexeme.params (Slot.fill Unscoping.unscoped slots), compiled.guarded⟩ := by
  rcases compile_eq_ok_iff.1 h with ⟨ls, hls, hlimit, rfl⟩
  have hagrees :
      ((context.plug q).rendered options.naming).AgreesAround options.naming name q.clauses
        ((context.plug (q.unscope name)).rendered options.naming) :=
    rendered_plug context
  rcases hagrees ls hls with ⟨slots, rfl, hunscoped⟩
  refine ⟨slots, rfl, compile_eq_ok_iff.2 ⟨_, hunscoped, ?_, ?_⟩⟩
  · exact (Slot.length_params_fill_le slots).trans hlimit
  · rw [isGuarded_plug]

end Contexts
end Query
end ParamSql
