import ParamSql.Proofs.Text.Characters
import ParamSql.Sql.Compiled

/-!
# Rendering — laws of the ways to put parts together

A rendering is known by its result.  On outputs that form a monoid, parts behind each other do not
depend on how they are grouped:

* `LawfulOutput ω` — putting one output behind another is associative, and a blank output does
  nothing;
* `Rendering.append_assoc`, `Rendering.nothing_append`, `Rendering.append_nothing`;
* `Rendering.concat_cons`, `Rendering.concat_append`, `Rendering.separated_cons_cons` — lists of
  parts in terms of `++`;
* `Rendering.result_append_eq_ok`, `Rendering.result_separated_eq_ok_iff` — what is written is made
  of what is written for the parts;
* `Rendering.name_eq_ok`, `Rendering.path_eq_ok` — names and paths are written as identifiers.
-/

namespace ParamSql

/-- An output is a monoid. -/
class LawfulOutput (ω : Type) [Output ω] : Prop where
  append_assoc : ∀ x y z : ω,
    Output.append (Output.append x y) z = Output.append x (Output.append y z)
  blank_append : ∀ x : ω, Output.append Output.blank x = x
  append_blank : ∀ x : ω, Output.append x Output.blank = x

instance : LawfulOutput (List Lexeme) where
  append_assoc := List.append_assoc
  blank_append := List.nil_append
  append_blank := List.append_nil

namespace Output

variable {ω : Type} [Output ω]

@[simp]
theorem join_nil : join ([] : List ω) = blank := rfl

@[simp]
theorem join_cons (o : ω) (os : List ω) : join (o :: os) = append o (join os) := rfl

@[simp]
theorem ofLexemes_nil : (ofLexemes [] : ω) = blank := rfl

@[simp]
theorem ofLexemes_cons (l : Lexeme) (ls : List Lexeme) :
    (ofLexemes (l :: ls) : ω) = append (ofLexeme l) (ofLexemes ls) := rfl

variable [LawfulOutput ω]

theorem join_append (os ps : List ω) : join (os ++ ps) = append (join os) (join ps) := by
  induction os with
  | nil =>
      simp [LawfulOutput.blank_append]
  | cons o os ih =>
      simp [ih, LawfulOutput.append_assoc]

theorem ofLexemes_append (ls ms : List Lexeme) :
    (ofLexemes (ls ++ ms) : ω) = append (ofLexemes ls) (ofLexemes ms) := by
  simp [ofLexemes, join_append]

end Output

/-- Lexemes written as lexemes are themselves. -/
@[simp]
theorem ofLexemes_self (ls : List Lexeme) : (Output.ofLexemes ls : List Lexeme) = ls := by
  induction ls with
  | nil => rfl
  | cons l ls ih =>
      rw [Output.ofLexemes_cons, ih]
      rfl

/-- Lists of lexemes behind each other, with one lexeme between them. -/
theorem join_intersperse (l : Lexeme) (lss : List (List Lexeme)) :
    Output.join (lss.intersperse (Output.ofLexeme l)) = [l].intercalate lss := by
  have hflatten : ∀ lss : List (List Lexeme), Output.join lss = lss.flatten := by
    intro lss
    induction lss with
    | nil => rfl
    | cons ls lss ih => exact congrArg (ls ++ ·) ih
  exact hflatten _

/-- The lexemes of a path. -/
def Path.lexemes (p : Path) : List Lexeme :=
  (p.map Lexeme.name).intersperse (.fixed ".")

/-- There are only names in a path, and dots between them. -/
theorem Path.forall_mem_lexemes {P : Lexeme → Prop} {p : Path} (hdot : P (.fixed "."))
    (hnames : ∀ i ∈ p, P (.name i)) : ∀ l ∈ p.lexemes, P l := by
  unfold lexemes
  induction p with
  | nil => simp
  | cons i p ih =>
      obtain ⟨hname, hrest⟩ := List.forall_mem_cons.1 hnames
      cases p with
      | nil => simpa using hname
      | cons j p =>
          simp only [List.map_cons, List.intersperse_cons_cons] at ih ⊢
          exact List.forall_mem_cons.2 ⟨hname, List.forall_mem_cons.2 ⟨hdot, ih hrest⟩⟩

namespace Rendering

variable {ω : Type}

/-- Renderings with the same result are the same. -/
theorem ext_result {r s : Rendering ω} (h : r.result = s.result) : r = s := by
  rcases r with ⟨write⟩
  rcases s with ⟨write'⟩
  have hwrite : write = write' := funext fun _ => h
  rw [hwrite]

@[simp]
theorem result_fault (f : CompileFault) : (fault f : Rendering ω).result = .error f := rfl

@[simp]
theorem delayed_eq (r : Unit → Rendering ω) : delayed r = r () :=
  ext_result rfl

variable [Output ω]

@[simp]
theorem result_lexemes (ls : List Lexeme) :
    (lexemes ls : Rendering ω).result = .ok (Output.ofLexemes ls) := rfl

@[simp]
theorem result_nothing : (nothing : Rendering ω).result = .ok Output.blank := rfl

/-- What is written when both parts are. -/
theorem result_append_ok {r s : Rendering ω} {x y : ω} (hr : r.result = .ok x)
    (hs : s.result = .ok y) : (r ++ s).result = .ok (Output.append x y) := by
  change (do
    let before ← r.result
    let behind ← s.result
    return Output.append before behind) = _
  rw [hr, hs]
  rfl

/-- A fault in the first part is reported. -/
theorem result_append_error {r : Rendering ω} (s : Rendering ω) {f : CompileFault}
    (hr : r.result = .error f) : (r ++ s).result = .error f := by
  change (do
    let before ← r.result
    let behind ← s.result
    return Output.append before behind) = _
  rw [hr]
  rfl

@[simp]
theorem fault_append (f : CompileFault) (r : Rendering ω) : fault f ++ r = fault f :=
  ext_result (result_append_error r rfl)

/-- A fault in the second part is reported if there is none in the first. -/
theorem result_append_ok_error {r s : Rendering ω} {x : ω} {f : CompileFault}
    (hr : r.result = .ok x) (hs : s.result = .error f) : (r ++ s).result = .error f := by
  change (do
    let before ← r.result
    let behind ← s.result
    return Output.append before behind) = _
  rw [hr, hs]
  rfl

/-- Whoever has written two parts has written both. -/
theorem result_append_eq_ok {r s : Rendering ω} {z : ω} (h : (r ++ s).result = .ok z) :
    ∃ x y, r.result = .ok x ∧ s.result = .ok y ∧ z = Output.append x y := by
  -- a fault in either part is a fault of both
  cases hr : r.result with
  | error f =>
      rw [result_append_error s hr] at h
      cases h
  | ok x =>
      cases hs : s.result with
      | error f =>
          rw [result_append_ok_error hr hs] at h
          cases h
      | ok y =>
          rw [result_append_ok hr hs] at h
          cases h
          exact ⟨x, y, rfl, rfl, rfl⟩

/-- What is written for a name is an identifier. -/
theorem name_eq_ok {s : String} {ls : List Lexeme}
    (h : (name s : Rendering (List Lexeme)).result = .ok ls) :
    ∃ i, Identifier.of s = .ok i ∧ ls = [.name i] := by
  unfold name at h
  cases hi : Identifier.of s with
  | error f => simp [hi] at h
  | ok i =>
      rw [hi] at h
      exact ⟨i, rfl, (Except.ok.inj h).symm⟩

/-- What is written for a path are the lexemes of the path. -/
theorem path_eq_ok {s : String} {ls : List Lexeme}
    (h : (path s : Rendering (List Lexeme)).result = .ok ls) :
    ∃ p, Path.of s = .ok p ∧ ls = p.lexemes := by
  unfold path at h
  cases hp : Path.of s with
  | error f => simp [hp] at h
  | ok p =>
      rw [hp] at h
      obtain rfl := Except.ok.inj h
      exact ⟨p, rfl, ofLexemes_self _⟩

/-! ## Lists of parts -/

@[simp]
theorem concat_nil : concat ([] : List (Rendering ω)) = nothing := rfl

@[simp]
theorem concat_cons (r : Rendering ω) (rs : List (Rendering ω)) :
    concat (r :: rs) = r ++ concat rs := by
  apply ext_result
  change ((r :: rs).mapM result).map Output.join = (do
    let before ← r.result
    let behind ← (rs.mapM result).map Output.join
    return Output.append before behind)
  rw [List.mapM_cons]
  cases r.result with
  | error f => rfl
  | ok x =>
      cases rs.mapM result with
      | error f => rfl
      | ok xs => rfl

@[simp]
theorem separated_nil (separator : String) :
    separated separator ([] : List (Rendering ω)) = nothing := rfl

/-- What is written for parts with a text between them is what is written for each of them, with the
text between. -/
theorem result_separated_eq_ok_iff {separator : String} {rs : List (Rendering ω)} {o : ω} :
    (separated separator rs).result = .ok o ↔
      ∃ os, List.Forall₂ (fun r o => r.result = .ok o) rs os ∧
        o = Output.join (os.intersperse (Output.ofLexeme (.fixed separator))) := by
  have hresult : (separated separator rs).result = (rs.mapM result).map fun os =>
      Output.join (os.intersperse (Output.ofLexeme (.fixed separator))) := rfl
  simp only [hresult, ← Text.mapM_eq_ok_iff]
  cases rs.mapM result with
  | error f =>
      constructor
      · intro h
        cases h
      · rintro ⟨os, hos, -⟩
        cases hos
  | ok os =>
      constructor
      · intro h
        cases h
        exact ⟨os, rfl, rfl⟩
      · rintro ⟨os', hos, rfl⟩
        cases hos
        rfl

/-- Parts with commas between them are written one by one. -/
theorem commas_eq_ok {rs : List (Rendering (List Lexeme))} {ls : List Lexeme}
    (h : (commas rs).result = .ok ls) :
    ∃ lss, List.Forall₂ (fun r ls => r.result = .ok ls) rs lss ∧
      ls = [.fixed ", "].intercalate lss := by
  obtain ⟨lss, hlss, rfl⟩ := result_separated_eq_ok_iff.1 h
  exact ⟨lss, hlss, join_intersperse _ lss⟩

theorem bracketed_eq_ok {r : Rendering (List Lexeme)} {ls : List Lexeme}
    (h : r.bracketed.result = .ok ls) :
    ∃ inner, r.result = .ok inner ∧ ls = .fixed "(" :: inner ++ [.fixed ")"] := by
  obtain ⟨front, close, hfront, hclose, rfl⟩ := result_append_eq_ok h
  obtain ⟨opening, inner, hopening, hinner, rfl⟩ := result_append_eq_ok hfront
  obtain rfl := Except.ok.inj hopening
  obtain rfl := Except.ok.inj hclose
  exact ⟨inner, hinner, rfl⟩

/-! ## Outputs that are monoids -/

variable [LawfulOutput ω]

theorem append_assoc (r s t : Rendering ω) : r ++ s ++ t = r ++ (s ++ t) := by
  -- the first fault from the left is reported, however the parts are grouped
  apply ext_result
  cases hr : r.result with
  | error f =>
      rw [result_append_error _ (result_append_error _ hr), result_append_error _ hr]
  | ok x =>
      cases hs : s.result with
      | error f =>
          rw [result_append_error _ (result_append_ok_error hr hs),
            result_append_ok_error hr (result_append_error _ hs)]
      | ok y =>
          cases ht : t.result with
          | error f =>
              rw [result_append_ok_error (result_append_ok hr hs) ht,
                result_append_ok_error hr (result_append_ok_error hs ht)]
          | ok z =>
              rw [result_append_ok (result_append_ok hr hs) ht,
                result_append_ok hr (result_append_ok hs ht), LawfulOutput.append_assoc]

@[simp]
theorem nothing_append (r : Rendering ω) : nothing ++ r = r := by
  apply ext_result
  cases hr : r.result with
  | error f => exact result_append_ok_error result_nothing hr
  | ok x =>
      rw [result_append_ok result_nothing hr, LawfulOutput.blank_append]

@[simp]
theorem append_nothing (r : Rendering ω) : r ++ nothing = r := by
  apply ext_result
  cases hr : r.result with
  | error f => exact result_append_error _ hr
  | ok x =>
      rw [result_append_ok hr result_nothing, LawfulOutput.append_blank]

@[simp]
theorem separated_singleton (separator : String) (r : Rendering ω) :
    separated separator [r] = r := by
  apply ext_result
  change ([r].mapM result).map (fun os =>
    Output.join (os.intersperse (Output.ofLexeme (.fixed separator)))) = r.result
  rw [List.mapM_cons]
  cases r.result with
  | error f => rfl
  | ok x =>
      change Except.ok (Output.append x Output.blank) = .ok x
      rw [LawfulOutput.append_blank]

theorem separated_cons_cons (separator : String) (r s : Rendering ω) (rs : List (Rendering ω)) :
    separated separator (r :: s :: rs) =
      r ++ (fixed separator ++ separated separator (s :: rs)) := by
  -- the result is taken of all parts first, and the separators come between the results
  have unfolded : ∀ ts : List (Rendering ω), (separated separator ts).result =
      (ts.mapM result).map fun os =>
        Output.join (os.intersperse (Output.ofLexeme (.fixed separator))) := fun _ => rfl
  have htext :
      (fixed separator : Rendering ω).result = .ok (Output.ofLexeme (.fixed separator)) := by
    change Except.ok (Output.append (Output.ofLexeme (.fixed separator)) Output.blank) = _
    rw [LawfulOutput.append_blank]
  apply ext_result
  cases hr : r.result with
  | error f =>
      rw [result_append_error _ hr, unfolded, List.mapM_cons, hr]
      rfl
  | ok x =>
      cases hrest : (s :: rs).mapM result with
      | error f =>
          have hsep : (separated separator (s :: rs)).result = .error f := by
            rw [unfolded, hrest]
            rfl
          rw [result_append_ok_error hr (result_append_ok_error htext hsep), unfolded,
            List.mapM_cons, hr, hrest]
          rfl
      | ok ys =>
          have hsep : (separated separator (s :: rs)).result =
              .ok (Output.join (ys.intersperse (Output.ofLexeme (.fixed separator)))) := by
            rw [unfolded, hrest]
            rfl
          rw [result_append_ok hr (result_append_ok htext hsep), unfolded, List.mapM_cons, hr,
            hrest]
          cases ys with
          | nil =>
              -- a list of at least one part has at least one result
              rw [List.mapM_cons] at hrest
              cases hs : s.result with
              | error f => rw [hs] at hrest; cases hrest
              | ok y =>
                  rw [hs] at hrest
                  cases hmap : rs.mapM result with
                  | error f => rw [hmap] at hrest; cases hrest
                  | ok zs => rw [hmap] at hrest; cases hrest
          | cons y ys => rfl

theorem concat_append (rs ss : List (Rendering ω)) :
    concat (rs ++ ss) = concat rs ++ concat ss := by
  induction rs with
  | nil => simp
  | cons r rs ih =>
      simp [ih, append_assoc]

end Rendering
end ParamSql
