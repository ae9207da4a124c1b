import ParamSql.Proofs.Sql.Alias
import ParamSql.Proofs.Sql.Nesting

/-!
# Link — the statements of a chain and their texts

A statement of a chain stands in brackets behind its name, and the statement that selects the rows
of the last one has a condition for each one that is required.

* `Lexeme.textsFrom` — texts behind each other, with placeholders that are counted on;
* `Aliases.identifierAt` — generated names can be quoted, and nothing in them has to be doubled;
* `Link`, `Link.chain` — a statement under its name, and the lexemes of a chain;
* `Link.texts`, `Link.guardTexts` — the texts of statements under their names, and of the
  conditions;
* `Link.text_chain`, `Link.params_chain` — the text of a chain and its values.
-/

namespace ParamSql

/-! ## Texts of lexemes -/

namespace Lexeme

@[simp]
theorem textFrom_nil (n : Nat) : textFrom n [] = "" := rfl

theorem textFrom_cons (n : Nat) (l : Lexeme) (ls : List Lexeme) :
    textFrom n (l :: ls) = textFrom n [l] ++ textFrom (n + (params [l]).length) ls :=
  textFrom_append n [l] ls

@[simp]
theorem textFrom_fixed (n : Nat) (s : String) (ls : List Lexeme) :
    textFrom n (.fixed s :: ls) = s ++ textFrom n ls := by
  have hs : textFrom n [.fixed s] = s := by
    simp [textFrom, Draft.glyphs_ofLexeme, piece, Output.blank]
  rw [textFrom_cons, hs]
  rfl

@[simp]
theorem textFrom_name (n : Nat) (i : Identifier) (ls : List Lexeme) :
    textFrom n (.name i :: ls) = i.quoted ++ textFrom n ls := by
  have hi : textFrom n [.name i] = i.quoted := by
    simp [textFrom, Draft.glyphs_ofLexeme, piece, Output.blank]
  rw [textFrom_cons, hi]
  rfl

@[simp]
theorem textFrom_verbatim (n : Nat) (s : String) (ls : List Lexeme) :
    textFrom n (.verbatim s :: ls) = s ++ textFrom n ls := by
  have hs : textFrom n [.verbatim s] = s := by
    simp [textFrom, Draft.glyphs_ofLexeme, piece, Output.blank]
  rw [textFrom_cons, hs]
  rfl

@[simp]
theorem textFrom_bind (n : Nat) (v : Value) (ls : List Lexeme) :
    textFrom n (.bind v :: ls) = "$" ++ toString n ++ textFrom (n + 1) ls := by
  have hv : textFrom n [.bind v] = "$" ++ toString n := by
    simp [textFrom, Draft.glyphs_ofLexeme, piece, Output.blank, Glyph.filledFrom, Nat.repr]
  rw [textFrom_cons, hv]
  rfl

/-- Texts behind each other, the placeholders of which are numbered from `n` on. -/
def textsFrom : Nat → List (List Lexeme) → List String
  | _, [] => []
  | n, ls :: lss => textFrom n ls :: textsFrom (n + (params ls).length) lss

@[simp]
theorem params_nil : params [] = [] := rfl

@[simp]
theorem params_fixed (s : String) (ls : List Lexeme) : params (.fixed s :: ls) = params ls := rfl

@[simp]
theorem params_name (i : Identifier) (ls : List Lexeme) : params (.name i :: ls) = params ls := rfl

theorem params_intercalate (s : String) (lss : List (List Lexeme)) :
    params ([.fixed s].intercalate lss) = lss.flatMap params := by
  induction lss with
  | nil => rfl
  | cons ls lss ih =>
      cases lss with
      | nil => simp
      | cons ms lss =>
          rw [List.intercalate_cons_cons, params_append, params_append, ih, params_fixed]
          simp

/-- Texts with a fixed text between them, in which nothing is bound. -/
theorem textFrom_intercalate (s : String) (lss : List (List Lexeme)) : ∀ n : Nat,
    textFrom n ([.fixed s].intercalate lss) = s.intercalate (textsFrom n lss) := by
  induction lss with
  | nil =>
      -- the number with which the rest begins depends on what is bound ahead of it
      intro n
      rfl
  | cons ls lss ih =>
      intro n
      cases lss with
      | nil => simp [textsFrom]
      | cons ms lss =>
          have hrest := ih (n + (params ls).length)
          rw [List.intercalate_cons_cons, textFrom_append, textFrom_append, params_append,
            params_fixed, params_nil, List.append_nil, hrest, textFrom_fixed, textFrom_nil,
            String.append_empty, textsFrom, textsFrom, textsFrom, String.intercalate_cons_cons]

end Lexeme

/-! ## Quoted names of a chain -/

/-- In a name without quotes there is nothing to double. -/
theorem Identifier.quoted_of_notMem {i : Identifier} (h : '"' ∉ i.text.toList) :
    i.quoted = "\"" ++ i.text ++ "\"" := by
  have hescape : ∀ cs : List Char, '"' ∉ cs → escape cs = cs := by
    intro cs
    induction cs with
    | nil =>
        intro _
        rfl
    | cons c cs ih =>
        -- neither the first character nor any behind it is a quote
        intro hcs
        have hne : c ≠ '"' := fun hc => hcs (by simp [hc])
        have hrest : '"' ∉ cs := fun hmem => hcs (List.mem_cons_of_mem c hmem)
        simp [escape, hne, ih hrest]
  apply String.toList_inj.1
  simp [quoted, hescape _ h]

namespace Aliases

/-- A name consists of a `q` and digits. -/
theorem eq_q_or_isDigit {index : Nat} {c : Char} (h : c ∈ (nameAt index).toList) :
    c = 'q' ∨ c.isDigit = true := by
  rw [toList_nameAt] at h
  rcases List.mem_cons.1 h with hq | hsuffix
  · exact .inl hq
  · unfold suffixAt at hsuffix
    split at hsuffix
    · cases hsuffix
    -- digits, which are no quotes and no zero characters
    · exact .inr (Nat.isDigit_of_mem_toDigits (by omega) (by omega) hsuffix)

theorem notMem_nameAt (index : Nat) {c : Char} (hq : c ≠ 'q') (hdigit : c.isDigit = false) :
    c ∉ (nameAt index).toList := by
  intro h
  rcases eq_q_or_isDigit h with heq | htrue
  · exact hq heq
  · rw [hdigit] at htrue
    cases htrue

/-- The name with an index as an identifier. -/
def identifierAt (index : Nat) : Identifier where
  text := nameAt index
  ne_empty := by
    intro h
    have hlist := congrArg String.toList h
    rw [toList_nameAt] at hlist
    cases hlist
  no_nul := notMem_nameAt index (by decide) (by decide)

@[simp]
theorem name_nameAt (index : Nat) {ω : Type} [Output ω] :
    (Rendering.name (nameAt index) : Rendering ω) = .lexemes [.name (identifierAt index)] := by
  -- the name of an index is neither empty nor does it hold a zero character
  have hempty : nameAt index ≠ "" := (identifierAt index).ne_empty
  have hnul : '\x00' ∉ (nameAt index).toList := (identifierAt index).no_nul
  have hof : Identifier.of (nameAt index) = .ok (identifierAt index) := by
    simp only [Identifier.of, hempty, hnul, dite_false]
    rfl
  rw [Rendering.name, hof]

@[simp]
theorem quoted_identifierAt (index : Nat) :
    (identifierAt index).quoted = "\"" ++ nameAt index ++ "\"" :=
  Identifier.quoted_of_notMem (notMem_nameAt index (by decide) (by decide))

end Aliases

/-! ## Links -/

/-- A statement of a chain: the index of its name, and the lexemes between its brackets. -/
structure Link where
  index : Nat
  statement : Query.Dependent
  body : List Lexeme

namespace Link

def name (l : Link) : String :=
  Aliases.nameAt l.index

/-- The statement in brackets behind its name. -/
def lexemes (l : Link) : List Lexeme :=
  [.name (Aliases.identifierAt l.index), .fixed " AS ", .fixed "("] ++ l.body ++ [.fixed ")"]

/-- The condition that the statement has rows. -/
def guard (l : Link) : List Lexeme :=
  [.fixed "(CASE WHEN NOT EXISTS (SELECT 1 FROM ", .name (Aliases.identifierAt l.index),
    .fixed ") THEN (SELECT 'pgquery:not-found')::int END) IS NULL"]

/-- The conditions that the required ones among several statements have rows. -/
def guards (ls : List Link) : List Lexeme :=
  match ls.filter (·.statement.required) with
  | [] => []
  | required => .fixed " WHERE " :: [.fixed " AND "].intercalate (required.map guard)

/-- The lexemes of a chain whose last link is `main`. -/
def chain (ls : List Link) (main : Link) : List Lexeme :=
  .fixed "WITH " :: [.fixed ", "].intercalate ((ls ++ [main]).map lexemes) ++
    [.fixed " SELECT * FROM ", .name (Aliases.identifierAt main.index)] ++ guards ls

/-! ## Texts of links -/

/-- The name in quotes. -/
def quoted (l : Link) : String :=
  "\"" ++ l.name ++ "\""

/-- The texts of statements behind their names, with placeholders that are numbered from `n` on. -/
def texts : Nat → List Link → List String
  | _, [] => []
  | n, l :: ls =>
      (l.quoted ++ " AS (" ++ Lexeme.textFrom n l.body ++ ")") ::
        texts (n + (Lexeme.params l.body).length) ls

/-- The text of the condition that the statement has rows. -/
def guardText (l : Link) : String :=
  "(CASE WHEN NOT EXISTS (SELECT 1 FROM " ++ l.quoted ++
    ") THEN (SELECT 'pgquery:not-found')::int END) IS NULL"

/-- The text behind the statement that selects the rows of a chain: a condition for each required
statement. -/
def guardTexts (ls : List Link) : String :=
  match ls.filter (·.statement.required) with
  | [] => ""
  | required => " WHERE " ++ " AND ".intercalate (required.map guardText)

theorem params_lexemes (l : Link) : Lexeme.params l.lexemes = Lexeme.params l.body := by
  simp [lexemes, Lexeme.params_append]

theorem textsFrom_lexemes (ls : List Link) : ∀ n : Nat,
    Lexeme.textsFrom n (ls.map lexemes) = texts n ls := by
  have has : " AS (" = " AS " ++ "(" := rfl
  induction ls with
  | nil =>
      intro n
      rfl
  | cons l ls ih =>
      intro n
      have hfirst : Lexeme.textFrom n l.lexemes =
          l.quoted ++ " AS (" ++ Lexeme.textFrom n l.body ++ ")" := by
        simp only [lexemes, quoted, name, has, List.cons_append, List.nil_append,
          Lexeme.textFrom_name, Lexeme.textFrom_fixed, Lexeme.textFrom_append, Lexeme.textFrom_nil,
          Aliases.quoted_identifierAt, String.append_assoc, String.append_empty]
      rw [List.map_cons, Lexeme.textsFrom, texts, hfirst, params_lexemes, ih]

/-- Nothing is bound in a guard, so that nothing is counted. -/
theorem textsFrom_guard (n : Nat) (ls : List Link) :
    Lexeme.textsFrom n (ls.map guard) = ls.map guardText := by
  have hbetween : ∀ (l : Link) (s t : String),
      Lexeme.textFrom n [.fixed s, .name (Aliases.identifierAt l.index), .fixed t] =
        s ++ l.quoted ++ t := by
    intro l s t
    simp [quoted, name, String.append_assoc]
  -- every guard binds nothing, so the number stays the same throughout
  induction ls with
  | nil => rfl
  | cons l ls ih =>
      have hfirst : Lexeme.textFrom n l.guard = l.guardText := hbetween l _ _
      have hnone : Lexeme.params l.guard = [] := rfl
      rw [List.map_cons, Lexeme.textsFrom, hfirst, hnone, List.length_nil, Nat.add_zero, ih,
        List.map_cons]

theorem textFrom_guards (n : Nat) (ls : List Link) :
    Lexeme.textFrom n (guards ls) = guardTexts ls := by
  unfold guards guardTexts
  split
  · rfl
  · rw [Lexeme.textFrom_fixed, Lexeme.textFrom_intercalate, textsFrom_guard]

theorem params_guards (ls : List Link) : Lexeme.params (guards ls) = [] := by
  unfold guards
  split
  · rfl
  · rw [Lexeme.params_fixed, Lexeme.params_intercalate, List.flatMap_eq_nil_iff]
    intro g hg
    rcases List.mem_map.1 hg with ⟨l, -, rfl⟩
    rfl

/-- The text of a chain. -/
theorem text_chain (ls : List Link) (main : Link) :
    Lexeme.text (chain ls main) = "WITH " ++ ", ".intercalate (texts 1 (ls ++ [main])) ++
      " SELECT * FROM " ++ main.quoted ++ guardTexts ls := by
  simp only [chain, Lexeme.text_eq, List.cons_append, Lexeme.textFrom_fixed, Lexeme.textFrom_append,
    Lexeme.textFrom_intercalate, textsFrom_lexemes, Lexeme.textFrom_name, Lexeme.textFrom_nil,
    textFrom_guards, Aliases.quoted_identifierAt, name, quoted, String.append_assoc,
    String.append_empty]

/-- The values of a chain are those of its statements. -/
theorem params_chain (ls : List Link) (main : Link) :
    Lexeme.params (chain ls main) = (ls ++ [main]).flatMap fun l => Lexeme.params l.body := by
  simp only [chain, List.cons_append, Lexeme.params_fixed, Lexeme.params_append,
    Lexeme.params_intercalate, params_guards, Lexeme.params_name, Lexeme.params_nil,
    List.append_nil, List.flatMap_map, params_lexemes]

end Link
end ParamSql
