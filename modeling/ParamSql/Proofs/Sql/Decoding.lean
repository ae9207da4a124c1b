import Mathlib.Data.Set.Function
import ParamSql.Proofs.Sql.Link
import ParamSql.Proofs.Sql.Qualified
import ParamSql.Proofs.Sql.Quoting
import ParamSql.Proofs.Text.Lexer

/-!
# Decoding — names are read back from their quotes

What is written for a name tells which name it is, wherever it stands: PostgreSQL reads as far as
the quote that no other quote follows, and has the name with all its quotes, dots and blanks.  How
much of a long name the server keeps is decided behind that, and is no matter of the quotes.

* `Lexer.takeQuoted` — reads one quoted name, and leaves what is behind it;
* `Lexer.run_of_takeQuoted` — it reads what the lexer reads;
* `takeQuoted_quote`, `injOn_quote` — quoted names;
* `lex_quotePath`, `injOn_quotePath` — quoted paths, name by name;
* `Rendering.path_append_name` — a name behind a path makes a longer path;
* `Columns.reference_verbatim` — a column with its table is written as a path.
-/

namespace ParamSql

/-! ## Reading a name -/

/-- The characters that a token stands for. -/
def SqlToken.chars : SqlToken → List Char
  | .quoted cs | .word cs | .number cs | .placeholder cs | .literal cs | .operator cs => cs
  | .punctuation c => [c]

namespace Lexer

/-- Reads a name up to the quote that ends it, and leaves what is behind that.  Two quotes are one
quote of the name, and the first that no other follows is the end. -/
def takeName : List Char → Option (List Char × List Char)
  | [] => none
  | '"' :: '"' :: cs => (takeName cs).map fun (name, rest) => ('"' :: name, rest)
  | '"' :: cs => some ([], cs)
  | c :: cs => if c = '\x00' then none else (takeName cs).map fun (name, rest) => (c :: name, rest)

/-- Reads the quoted name that a text begins with, and leaves what is behind it.  There is no name
without characters. -/
def takeQuoted : List Char → Option (SqlToken × List Char)
  | '"' :: cs =>
      match takeName cs with
      | some (name, rest) => if name.isEmpty then none else some (.quoted name, rest)
      | none => none
  | _ => none

theorem takeName_escape {cs rest : List Char} (hcs : '\x00' ∉ cs) (hrest : rest.head? ≠ some '"') :
    takeName (Identifier.escape cs ++ '"' :: rest) = some (cs, rest) := by
  induction cs with
  | nil =>
      cases rest with
      | nil => rfl
      | cons c rest =>
          have hc : c ≠ '"' := by simpa using hrest
          simp [Identifier.escape, takeName, hc]
  | cons c cs ih =>
      obtain ⟨hne, htail⟩ : '\x00' ≠ c ∧ '\x00' ∉ cs := by simpa using hcs
      -- a quote is doubled and taken together with the one behind it
      by_cases hquote : c = '"'
      · subst hquote
        simp [Identifier.escape, takeName, ih htail]
      · simp [Identifier.escape, hquote, takeName, Ne.symm hne, ih htail]

theorem takeQuoted_quoted (i : Identifier) {rest : List Char} (hrest : rest.head? ≠ some '"') :
    takeQuoted (i.quoted.toList ++ rest) = some (.quoted i.text.toList, rest) := by
  have hne : i.text.toList.isEmpty = false := by simpa using i.ne_empty
  have hname := takeName_escape i.no_nul hrest
  simp [Identifier.quoted, takeQuoted, hname, hne]

theorem run_of_takeName {cs name rest : List Char} (h : takeName cs = some (name, rest))
    (read : List Char) :
    rest.head? ≠ some '"' ∧
      ∃ as, cs = as ++ rest ∧ run (.name read) as = some ([], .nameEnd (read ++ name)) := by
  fun_induction takeName cs generalizing name read with
  | case1 => cases h
  | case2 cs ih =>
      -- the second quote shows that the first one belongs to the name
      obtain ⟨⟨name, rest⟩, hname, heq⟩ := Option.map_eq_some_iff.1 h
      cases heq
      obtain ⟨hend, as, rfl, hrun⟩ := ih hname (read ++ ['"'])
      rw [List.append_assoc] at hrun
      exact ⟨hend, '"' :: '"' :: as, rfl, by simpa [run, step] using hrun⟩
  | case3 cs hsingle =>
      cases h
      -- a single quote ends the name only if no other one is behind it
      refine ⟨fun hend => ?_, ['"'], rfl, by simp [run, step]⟩
      obtain ⟨cs', hcs⟩ := List.head?_eq_some_iff.1 hend
      exact hsingle cs' hcs
  | case4 => cases h
  | case5 c cs _ hquote hnul ih =>
      obtain ⟨⟨name, rest⟩, hname, heq⟩ := Option.map_eq_some_iff.1 h
      cases heq
      obtain ⟨hend, as, rfl, hrun⟩ := ih hname (read ++ [c])
      have hquote : c ≠ '"' := hquote
      rw [List.append_assoc] at hrun
      exact ⟨hend, c :: as, rfl, by simpa [run, step, hquote, hnul] using hrun⟩

/-- What is taken is what the lexer reads as one quoted name, which is read as far as it goes. -/
theorem run_of_takeQuoted {cs rest : List Char} {t : SqlToken}
    (h : takeQuoted cs = some (t, rest)) :
    rest.head? ≠ some '"' ∧
      ∃ as name, cs = as ++ rest ∧ t = .quoted name ∧ run .start as = some ([], .nameEnd name) ∧
        finish (.nameEnd name) = some [t] := by
  unfold takeQuoted at h
  split at h
  case h_2 => cases h
  case h_1 cs =>
    split at h
    case h_2 => cases h
    case h_1 name rest' hname =>
      split at h
      case isTrue => cases h
      case isFalse hne =>
        cases h
        obtain ⟨hend, as, rfl, hrun⟩ := run_of_takeName hname []
        refine ⟨hend, '"' :: as, name, rfl, rfl, ?_, ?_⟩
        · simpa [run, step, dispatch] using hrun
        · rw [finish, if_neg hne]

end Lexer

/-! ## Names -/

section Results

variable {ε α β : Type} {x : Except ε α} {f : α → β}

theorem map_eq_ok_iff {b : β} : x.map f = .ok b ↔ ∃ a, x = .ok a ∧ f a = b := by
  cases x with
  | error e => simp [Except.map]
  | ok a => simp [Except.map]

theorem exists_map_eq_ok_iff : (∃ b, x.map f = .ok b) ↔ ∃ a, x = .ok a := by
  cases x with
  | error e => simp [Except.map]
  | ok a => simp [Except.map]

end Results

theorem Identifier.exists_of_iff {s : String} :
    (∃ i, of s = .ok i) ↔ s ≠ "" ∧ '\x00' ∉ s.toList := by
  constructor
  · rintro ⟨i, hi⟩
    rw [← text_of hi]
    exact ⟨i.ne_empty, i.no_nul⟩
  · rintro ⟨hne, hnul⟩
    exact ⟨⟨s, hne, hnul⟩, by rw [of, dif_neg hne, dif_neg hnul]⟩

theorem exists_quote_iff {s : String} :
    (∃ o, quote s = .ok o) ↔ s ≠ "" ∧ '\x00' ∉ s.toList :=
  exists_map_eq_ok_iff.trans Identifier.exists_of_iff

/-- A quoted name is read up to its last quote, and is the name again. -/
theorem takeQuoted_quote {s o : String} (h : quote s = .ok o) {rest : List Char}
    (hrest : rest.head? ≠ some '"') :
    Lexer.takeQuoted (o.toList ++ rest) = some (.quoted s.toList, rest) := by
  obtain ⟨i, hi, rfl⟩ := map_eq_ok_iff.1 h
  rw [Lexer.takeQuoted_quoted i hrest, Identifier.text_of hi]

theorem injOn_quote : Set.InjOn quote {s | ∃ o, quote s = .ok o} := by
  rintro s ⟨o, ho⟩ s' - heq
  have hend : ([] : List Char).head? ≠ some '"' := nofun
  -- quoted alike, both are read back as the name of the same token
  have hs := takeQuoted_quote ho hend
  rw [takeQuoted_quote (heq ▸ ho) hend] at hs
  have hchars := congrArg (Option.map fun read => read.1.chars) hs
  exact (String.toList_inj.1 (Option.some.inj hchars)).symm

/-! ## Paths -/

namespace Path

theorem quoted_cons_cons (i j : Identifier) (p : Path) :
    quoted (i :: j :: p) = i.quoted ++ "." ++ quoted (j :: p) := by
  simp only [quoted, List.map_cons, String.intercalate_cons_cons]

theorem begins_quoted (p : Path) : Lexer.Begins Lexer.isPlain p.quoted.toList := by
  match p with
  | [] => exact nofun
  | [i] => simpa [quoted] using Query.begins_quoted i []
  | i :: j :: p =>
      rw [quoted_cons_cons, String.append_assoc, String.toList_append]
      exact Query.begins_quoted i _

theorem lex_quoted {p : Path} (h : p ≠ []) :
    Lexer.lex p.quoted.toList =
      some (((p.map (·.text.toList)).map .quoted).intersperse (.punctuation '.')) := by
  induction p with
  | nil => exact absurd rfl h
  | cons i p ih =>
      cases p with
      | nil => simpa [quoted] using Lexer.lex_quoted i
      | cons j p =>
          rw [quoted_cons_cons, String.append_assoc, String.toList_append, String.toList_append]
          exact Lexer.lex_quoted_append i (ih (List.cons_ne_nil j p)) (begins_quoted (j :: p))

end Path

theorem exists_quotePath_iff {s : String} : (∃ o, quotePath s = .ok o) ↔
    ∀ part ∈ Text.splitOn '.' s.toList, ∃ o, quote (String.ofList part) = .ok o := by
  have hparts : (∃ p, Path.of s = .ok p) ↔
      ∀ part ∈ Text.splitOn '.' s.toList, ∃ i, Identifier.of (String.ofList part) = .ok i :=
    Text.exists_mapM_iff
  rw [quotePath, exists_map_eq_ok_iff, hparts]
  simp only [exists_quote_iff, Identifier.exists_of_iff]

/-- A quoted path is read as its names, with the dots between them. -/
theorem lex_quotePath {s o : String} (h : quotePath s = .ok o) :
    Lexer.lex o.toList =
      some (((Text.splitOn '.' s.toList).map .quoted).intersperse (.punctuation '.')) := by
  obtain ⟨p, hp, rfl⟩ := map_eq_ok_iff.1 h
  rw [Path.lex_quoted (Path.ne_nil hp), Path.parts_of hp]

/-- A text is its parts, with the separators between them. -/
theorem Text.intercalate_splitOn (sep : Char) (cs : List Char) :
    [sep].intercalate (splitOn sep cs) = cs := by
  induction cs with
  | nil => rfl
  | cons d cs ih =>
      -- the parts of the rest begin with one to which the first character may belong
      obtain ⟨part, parts, hsplit⟩ := List.exists_cons_of_ne_nil (splitOn_ne_nil sep cs)
      rw [hsplit] at ih
      rw [splitOn_cons hsplit]
      split
      case isTrue hd =>
        rw [List.intercalate_cons_cons, ih, hd]
        rfl
      case isFalse =>
        cases parts with
        | nil => simpa using ih
        | cons next parts =>
            rw [List.intercalate_cons_cons] at ih ⊢
            rw [← ih]
            rfl

theorem SqlToken.flatMap_chars_intersperse (c : Char) (parts : List (List Char)) :
    ((parts.map quoted).intersperse (.punctuation c)).flatMap chars = [c].intercalate parts := by
  induction parts with
  | nil => rfl
  | cons part parts ih =>
      cases parts with
      | nil => simp [chars]
      | cons next parts =>
          rw [List.intercalate_cons_cons, ← ih]
          simp [chars]

theorem injOn_quotePath : Set.InjOn quotePath {s | ∃ o, quotePath s = .ok o} := by
  rintro s ⟨o, ho⟩ s' - heq
  have hs := lex_quotePath ho
  rw [lex_quotePath (heq ▸ ho)] at hs
  -- the characters of the tokens are the text of the path
  have hchars := congrArg (List.flatMap SqlToken.chars) (Option.some.inj hs)
  rw [SqlToken.flatMap_chars_intersperse, SqlToken.flatMap_chars_intersperse,
    Text.intercalate_splitOn, Text.intercalate_splitOn] at hchars
  exact (String.toList_inj.1 hchars).symm

/-! ## References -/

namespace Path

theorem of_dotted (table : String) {name : String} (h : '.' ∉ name.toList) :
    of (table ++ "." ++ name) = do
      let p ← of table
      let i ← Identifier.of name
      return p ++ [i] := by
  have hlist : (table ++ "." ++ name).toList = table.toList ++ '.' :: name.toList := by simp
  have hname : [name.toList].mapM (fun part => Identifier.of (String.ofList part)) = do
      let i ← Identifier.of name
      return [i] := by
    rw [List.mapM_cons, String.ofList_toList]
    rfl
  unfold of
  rw [hlist, Text.splitOn_append, Text.splitOn_of_notMem h, List.mapM_append, hname]
  simp only [bind_assoc, pure_bind]

theorem lexemes_concat (p : Path) (i : Identifier) :
    lexemes (p ++ [i]) = p.dotted ++ [.name i] := by
  induction p with
  | nil => rfl
  | cons j p ih =>
      cases p with
      | nil => rfl
      | cons k p => exact congrArg ([.name j, .fixed "."] ++ ·) ih

theorem textFrom_lexemes (n : Nat) (p : Path) : Lexeme.textFrom n p.lexemes = p.quoted := by
  induction p with
  | nil => rfl
  | cons i p ih =>
      cases p with
      | nil => simp [lexemes, quoted]
      | cons j p =>
          have hlexemes : lexemes (i :: j :: p) = .name i :: .fixed "." :: lexemes (j :: p) := rfl
          rw [hlexemes, Lexeme.textFrom_name, Lexeme.textFrom_fixed, ih, quoted_cons_cons,
            String.append_assoc]

end Path

namespace Rendering

variable {s : String}

theorem result_path_error {f : IdentifierFault} (h : Path.of s = .error f) :
    (path s : Rendering (List Lexeme)).result = .error (.identifier f) := by
  rw [path, h]
  rfl

theorem result_path_ok {p : Path} (h : Path.of s = .ok p) :
    (path s : Rendering (List Lexeme)).result = .ok p.lexemes := by
  rw [path, h]
  exact congrArg Except.ok (ofLexemes_self _)

theorem text_path (s : String) :
    (path s : Rendering (List Lexeme)).result.map Lexeme.text =
      (quotePath s).mapError .identifier := by
  unfold quotePath
  cases hp : Path.of s with
  | error f =>
      rw [result_path_error hp]
      rfl
  | ok p =>
      rw [result_path_ok hp, Except.map, Lexeme.text_eq, Path.textFrom_lexemes]
      rfl

/-- A name behind a path, with a dot between them, is written as the longer path. -/
theorem path_append_name (table : String) (h : '.' ∉ s.toList) :
    (path table ++ fixed "." ++ name s : Rendering (List Lexeme)) = path (table ++ "." ++ s) := by
  have hof := Path.of_dotted table h
  apply ext_result
  -- a fault of the table comes first, then one of the name, in both ways of writing
  cases hp : Path.of table with
  | error f =>
      have hwhole : Path.of (table ++ "." ++ s) = .error f := by
        rw [hof, hp]
        rfl
      have htable := result_append_error (fixed ".") (result_path_error hp)
      rw [result_append_error _ htable, result_path_error hwhole]
  | ok p =>
      have htable : (path table ++ fixed "." : Rendering (List Lexeme)).result = .ok p.dotted := by
        rw [result_append_ok (result_path_ok hp) rfl, ← Path.lexemes_dot (Path.ne_nil hp)]
        rfl
      cases hi : Identifier.of s with
      | error f =>
          have hwhole : Path.of (table ++ "." ++ s) = .error f := by
            rw [hof, hp, hi]
            rfl
          have hname : (name s : Rendering (List Lexeme)).result = .error (.identifier f) := by
            rw [name, hi]
            rfl
          rw [result_append_ok_error htable hname, result_path_error hwhole]
      | ok i =>
          have hwhole : Path.of (table ++ "." ++ s) = .ok (p ++ [i]) := by
            rw [hof, hp, hi]
            rfl
          have hname : (name s : Rendering (List Lexeme)).result = .ok [.name i] := by
            rw [name, hi]
            rfl
          rw [result_append_ok htable hname, result_path_ok hwhole, Path.lexemes_concat]
          rfl

end Rendering

/-- A reference with a table is the table and the name, with the last dot between them. -/
theorem ColumnRef.eq_of_parse {s table : String} (h : (parse s).table = some table) :
    s = table ++ "." ++ (parse s).name ∧ '.' ∉ (parse s).name.toList := by
  unfold parse at h ⊢
  split at h
  case h_2 => cases h
  case h_1 before behind hsplit =>
    split at h
    case isTrue => cases h
    case isFalse hne =>
      cases h
      rw [if_neg hne]
      -- the last dot is where the text is split, so that it can be put together again
      refine ⟨String.toList_inj.1 ?_, ?_⟩
      · simpa using Text.eq_of_splitLast? hsplit
      · simpa using Text.sep_notMem_of_splitLast? hsplit

/-- A column of a table is written as the path of its names, if they are taken as they are. -/
theorem Columns.reference_verbatim (qualifier : Option String) {s table : String}
    (htable : (ColumnRef.parse s).table = some table) (hstar : (ColumnRef.parse s).isStar = false) :
    ((⟨qualifier, .verbatim⟩ : Columns).reference (ColumnRef.parse s) : Rendering (List Lexeme)) =
      .path s := by
  obtain ⟨hs, hdot⟩ := ColumnRef.eq_of_parse htable
  have hpath := Rendering.path_append_name table hdot
  rw [← hs] at hpath
  rw [reference, htable, hstar, ← hpath]
  rfl

/-! ## Names and paths -/

/-- Quoting takes nothing away.  A text can be quoted if it is not empty and has no NUL in it, and
it is read back from its quotes, whatever follows them that is not a quote itself; a dotted text can
be quoted if each of its parts can, and it is read back as these.  No two texts that can be quoted
have the same quoted form.  A reference to a column of a table is written, or refused, as its text
is. -/
theorem quoting_decodes :
    (∀ s, ((∃ o, quote s = .ok o) ↔ s ≠ "" ∧ '\x00' ∉ s.toList) ∧
      ∀ o, quote s = .ok o → ∀ rest : List Char, rest.head? ≠ some '"' →
        Lexer.takeQuoted (o.toList ++ rest) = some (.quoted s.toList, rest)) ∧
    (∀ s, ((∃ o, quotePath s = .ok o) ↔
        ∀ part ∈ Text.splitOn '.' s.toList, ∃ o, quote (String.ofList part) = .ok o) ∧
      ∀ o, quotePath s = .ok o → Lexer.lex o.toList =
        some (((Text.splitOn '.' s.toList).map .quoted).intersperse (.punctuation '.'))) ∧
    Set.InjOn quote {s | ∃ o, quote s = .ok o} ∧
    Set.InjOn quotePath {s | ∃ o, quotePath s = .ok o} ∧
    ∀ (qualifier : Option String) (s : String), (ColumnRef.parse s).table.isSome = true →
      (ColumnRef.parse s).name ≠ "*" →
      ((⟨qualifier, .verbatim⟩ : Columns).reference (ColumnRef.parse s) :
          Rendering (List Lexeme)).result.map Lexeme.text =
        (quotePath s).mapError .identifier := by
  refine ⟨?names, ?paths, injOn_quote, injOn_quotePath, ?references⟩
  case names => exact fun s => ⟨exists_quote_iff, fun o ho rest => takeQuoted_quote ho⟩
  case paths => exact fun s => ⟨exists_quotePath_iff, fun o => lex_quotePath⟩
  case references =>
    intro qualifier s htable hstar
    obtain ⟨table, htable⟩ := Option.isSome_iff_exists.1 htable
    have hstar : (ColumnRef.parse s).isStar = false := decide_eq_false hstar
    rw [Columns.reference_verbatim qualifier htable hstar, Rendering.text_path]

/-- A name with a quote in it, by itself and as a table. -/
theorem quoting_decodes_inner_quote :
    quote "a\"b" = .ok "\"a\"\"b\"" ∧
      Lexer.takeQuoted ("\"a\"\"b\"".toList ++ ['.', '*']) =
        some (.quoted "a\"b".toList, ['.', '*']) ∧
      quotePath "a\"b.c" = .ok "\"a\"\"b\".\"c\"" ∧
      Lexer.lex "\"a\"\"b\".\"c\"".toList =
        some (((Text.splitOn '.' "a\"b.c".toList).map .quoted).intersperse (.punctuation '.')) ∧
      ((⟨some "t", .verbatim⟩ : Columns).reference (ColumnRef.parse "a\"b.c") :
          Rendering (List Lexeme)).result.map Lexeme.text =
        (quotePath "a\"b.c").mapError .identifier := by
  obtain ⟨hnames, hpaths, -, -, hreferences⟩ := quoting_decodes
  have hname : quote "a\"b" = .ok "\"a\"\"b\"" := by rfl
  have hpath : quotePath "a\"b.c" = .ok "\"a\"\"b\".\"c\"" := by rfl
  have hparse : ColumnRef.parse "a\"b.c" = ⟨some "a\"b", "c"⟩ := by rfl
  refine ⟨hname, (hnames _).2 _ hname _ (by decide), hpath, (hpaths _).2 _ hpath,
    hreferences (some "t") _ ?_ ?_⟩
  · rw [hparse]
    rfl
  · rw [hparse]
    decide

end ParamSql
