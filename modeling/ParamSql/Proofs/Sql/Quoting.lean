import ParamSql.Proofs.Sql.Link
import ParamSql.Proofs.Sql.Rendered
import ParamSql.Proofs.Text.Characters
import ParamSql.Proofs.Text.Lexer
import ParamSql.Query.Result
import ParamSql.Query.Table

/-!
# Quoting — no name breaks out of its quotes

The server splits the text of a statement into tokens.  Whatever characters are in the names that
the caller supplies, the tokens are those that the compiler has put there: outside of quotes there
are only its own words and symbols, and every quoted token is a name.

* `fixedTokens` — the words, literals and symbols of the compiler;
* `Query.Names`, `Query.Quotes` — the names that a query supplies, and what is written in quotes;
* `Query.Permits` — the tokens that the statement of a query may have;
* `Correspondence.reading` — statements without fragments of the caller are read token by token;
* `Query.lex_compiled` — so are compiled queries.
-/

namespace ParamSql

/-! ## Tokens of the compiler -/

/-- The words that statements are written with. -/
def words : List String :=
  ["LIKE", "ILIKE", "NOT", "IS", "NULL", "IN", "EXISTS", "BETWEEN", "AND", "OR", "TRUE", "FALSE",
    "WITH", "RECURSIVE", "SELECT", "DISTINCT", "ON", "AS", "OVER", "FROM", "JOIN", "LEFT", "RIGHT",
    "FULL", "CROSS", "WHERE", "GROUP", "BY", "HAVING", "WINDOW", "PARTITION", "ORDER", "UNION",
    "ALL", "INTERSECT", "EXCEPT", "ASC", "DESC", "NULLS", "FIRST", "LAST", "LIMIT", "OFFSET", "FOR",
    "UPDATE", "NO", "KEY", "SHARE", "OF", "NOWAIT", "SKIP", "LOCKED", "INSERT", "INTO", "VALUES",
    "DEFAULT", "CONFLICT", "DO", "NOTHING", "SET", "EXCLUDED", "DELETE", "USING", "RETURNING",
    "CASE", "WHEN", "THEN", "END", "int",
    -- functions
    "count", "sum", "avg", "min", "max", "now", "COALESCE", "json_agg", "row_to_json"]

/-- The strings that are written into statements: what the server complains about, and no rows. -/
def literals : List String :=
  ["pgquery:not-found", "[]"]

/-- The tokens outside of quotes, other than placeholders. -/
def fixedTokens : List SqlToken :=
  words.map (fun s => .word s.toList) ++ literals.map (fun s => .literal s.toList) ++
    [.number ['1'], .operator [':', ':'], .punctuation '(', .punctuation ')', .punctuation ',',
      .punctuation '.'] ++
    Lexer.operators.map .operator

namespace Query

/-- A name that the caller supplies, or a part of one between its dots. -/
inductive Names (q : Query) : String → Prop
  | supplied {s : String} (h : q.Supplies (.name s)) : q.Names s
  | part {s : String} {cs : List Char} (h : q.Supplies (.name s))
      (hcs : cs ∈ Text.splitOn '.' s.toList) : q.Names (String.ofList cs)

/-- What is written in quotes: such a name, if need be made a physical one, a generated name, or the
name of a wrapped query. -/
inductive Quotes (q : Query) : String → Prop
  | physical {s : String} (naming : Naming) (h : q.Names s) : q.Quotes (naming.physical s)
  | generated (index : Nat) : q.Quotes (Aliases.nameAt index)
  | fixed : q.Quotes "t"

/-- The parts of a path, between its dots, are written in quotes. -/
def IsPath (q : Query) (s : String) : Prop :=
  ∀ part ∈ Text.splitOn '.' s.toList, q.Quotes (String.ofList part)

/-- A token that the statement of a query may have. -/
def Permits (q : Query) : SqlToken → Prop
  | .quoted cs => q.Quotes (String.ofList cs)
  | .placeholder ds => ∃ n : Nat, ds = (toString n).toList
  | t => t ∈ fixedTokens

variable {q : Query}

/-- Parts of a name are names themselves. -/
theorem Names.part_of {s : String} (h : q.Names s) {cs : List Char}
    (hcs : cs ∈ Text.splitOn '.' s.toList) : q.Names (String.ofList cs) := by
  cases h with
  | supplied h => exact .part h hcs
  | part h hpart =>
      -- there is no other dot in a part
      rw [String.toList_ofList, Text.splitOn_of_notMem (Text.sep_notMem_of_splitOn hpart)] at hcs
      rw [List.mem_singleton.1 hcs]
      exact .part h hpart

theorem Names.quotes {s : String} (h : q.Names s) : q.Quotes s :=
  .physical .verbatim h

theorem permits_of_fixed {t : SqlToken} (h : t ∈ fixedTokens) : q.Permits t := by
  cases t with
  | quoted cs => simp [fixedTokens] at h
  | placeholder ds => simp [fixedTokens] at h
  | _ => exact h

end Query

/-! ## Fixed texts -/

/-- A text begins with a character of some kind, leads another text, and has only tokens of the
compiler in it. -/
def isLead (tokens : List SqlToken) (p : Char → Bool) (cs : List Char) : Bool :=
  cs.head?.any p &&
    match Lexer.run .start cs with
    | some (ts, .start) | some (ts, .dot) => ts.all tokens.contains
    | _ => false

/-- A text begins with a character of some kind, is complete, and has only tokens of the compiler in
it. -/
def isWhole (tokens : List SqlToken) (p : Char → Bool) (cs : List Char) : Bool :=
  cs.head?.any p && (Lexer.lex cs).any (·.all tokens.contains)

theorem starters_lead : (starters.map String.toList).all (isLead fixedTokens Lexer.isPlain) := by
  simp only [starters, fixedTokens, words, literals, List.map_cons, List.map_nil,
    String.reduceToList]
  decide +kernel

theorem openers_lead :
    ((openers ++ bounds).map String.toList).all (isLead fixedTokens Lexer.isDelimiter) := by
  simp only [openers, bounds, fixedTokens, words, literals, List.cons_append, List.nil_append,
    List.map_cons, List.map_nil, String.reduceToList]
  decide +kernel

theorem closers_whole :
    (closers.map String.toList).all (isWhole fixedTokens Lexer.isDelimiter) := by
  simp only [closers, fixedTokens, words, literals, List.map_cons, List.map_nil,
    String.reduceToList]
  decide +kernel

theorem constants_whole :
    (constants.map String.toList).all (isWhole fixedTokens Lexer.isPlain) := by
  simp only [constants, fixedTokens, words, literals, List.map_cons, List.map_nil,
    String.reduceToList]
  decide +kernel

theorem exists_of_isLead {p : Char → Bool} {cs : List Char} (h : isLead fixedTokens p cs = true) :
    (∃ c rest, cs = c :: rest ∧ p c = true) ∧
      ∃ ts, Lexer.Leads cs ts ∧ ∀ t ∈ ts, t ∈ fixedTokens := by
  obtain ⟨hbegins, hrun⟩ := Bool.and_eq_true_iff.1 h
  refine ⟨?begins, ?leads⟩
  case begins =>
    cases cs with
    | nil => cases hbegins
    | cons c rest => exact ⟨c, rest, rfl, hbegins⟩
  case leads =>
    split at hrun
    case h_1 ts hstart => exact ⟨ts, .inl hstart, by simpa using hrun⟩
    case h_2 ts hdot => exact ⟨ts, .inr hdot, by simpa using hrun⟩
    case h_3 => cases hrun

/-- The rows of a wrapped query as JSON, which `Query.json` selects. -/
def jsonText : String :=
  "COALESCE(json_agg(row_to_json(\"t\".*)), '[]')"

theorem select_json (q : Query) :
    q.json.clauses.select = [.fragment (.ofText jsonText) (some "json")] := rfl

theorem jsonText_whole :
    isWhole (.quoted ['t'] :: fixedTokens) Lexer.isPlain jsonText.toList = true := by
  simp only [jsonText, fixedTokens, words, literals, List.map_cons, List.map_nil,
    String.reduceToList]
  decide +kernel

/-! ## Texts -/

namespace Query

/-- A text begins with a character of some kind, and is read token by token, all of which are
permitted. -/
structure Reads (q : Query) (p : Char → Bool) (cs : List Char) : Prop where
  begins : Lexer.Begins p cs
  tokens : ∃ ts, Lexer.lex cs = some ts ∧ ∀ t ∈ ts, q.Permits t

variable {q : Query} {p : Char → Bool} {as bs : List Char}

theorem Reads.mono (h : q.Reads Lexer.isDelimiter as) : q.Reads Lexer.isPlain as :=
  ⟨h.begins.mono fun _ => Lexer.isPlain_of_isDelimiter, h.tokens⟩

/-- A text that begins with a delimiter, behind another one. -/
theorem Reads.append (hp : ∀ c, Lexer.isDelimiter c = true → p c = true) (ha : q.Reads p as)
    (hb : q.Reads Lexer.isDelimiter bs) : q.Reads p (as ++ bs) where
  begins := ha.begins.append (hb.begins.mono hp)
  tokens := by
    rcases ha.tokens with ⟨ts, hts, hpermitted⟩
    rcases hb.tokens with ⟨us, hus, hpermitted'⟩
    exact ⟨ts ++ us, Lexer.lex_append hts hus hb.begins,
      List.forall_mem_append.2 ⟨hpermitted, hpermitted'⟩⟩

/-- A text behind a fixed one that leads it. -/
theorem Reads.behind (ha : isLead fixedTokens p as = true) (hb : q.Reads Lexer.isPlain bs) :
    q.Reads p (as ++ bs) := by
  obtain ⟨⟨c, rest, rfl, hc⟩, ts, hts, hfixed⟩ := exists_of_isLead ha
  rcases hb.tokens with ⟨us, hus, hpermitted⟩
  refine ⟨?begins, ts ++ us, Lexer.lex_append_of_leads hts hus hb.begins, ?permitted⟩
  case begins =>
    intro d hd
    obtain rfl : c = d := Option.some.inj hd
    exact hc
  case permitted =>
    exact List.forall_mem_append.2 ⟨fun t ht => permits_of_fixed (hfixed t ht), hpermitted⟩

/-- A complete text, all tokens of which are permitted. -/
theorem reads_whole {tokens : List SqlToken} (ha : isWhole tokens p as = true)
    (htokens : ∀ t ∈ tokens, q.Permits t) : q.Reads p as := by
  obtain ⟨hbegins, hlex⟩ := Bool.and_eq_true_iff.1 ha
  rcases (Option.any_eq_true _ _).1 hlex with ⟨ts, hts, hall⟩
  refine ⟨fun c hc => ?begins, ts, hts, fun t ht => htokens t ?token⟩
  case begins => simpa [Option.mem_def.1 hc] using hbegins
  case token => simpa using List.all_eq_true.1 hall t ht

theorem reads_fixed (ha : isWhole fixedTokens p as = true) : q.Reads p as :=
  reads_whole ha fun _ => permits_of_fixed

theorem reads_jsonText : q.Reads Lexer.isPlain jsonText.toList :=
  reads_whole jsonText_whole (List.forall_mem_cons.2 ⟨.fixed, fun _ => permits_of_fixed⟩)

theorem reads_placeholder (n : Nat) : q.Reads Lexer.isPlain ('$' :: (toString n).toList) := by
  have hdigits : ∀ d ∈ (toString n).toList, d.isDigit = true := fun d hd =>
    Nat.isDigit_of_mem_toDigits (b := 10) (by omega) (by omega) (by simpa using hd)
  have hne : (toString n).toList ≠ [] := by simp [Nat.toDigits_ne_nil]
  refine ⟨?begins, _, Lexer.lex_placeholder hne hdigits, ?permitted⟩
  case begins =>
    intro c hc
    obtain rfl : '$' = c := Option.some.inj hc
    decide +kernel
  case permitted =>
    intro t ht
    rw [List.mem_singleton.1 ht]
    exact ⟨n, rfl⟩

theorem begins_quoted (i : Identifier) (as : List Char) :
    Lexer.Begins Lexer.isPlain (i.quoted.toList ++ as) := by
  intro c hc
  obtain rfl : '"' = c := by simpa [Identifier.quoted] using hc
  decide +kernel

theorem permits_quoted {i : Identifier} (h : q.Quotes i.text) :
    q.Permits (.quoted i.text.toList) := by
  rwa [Permits, String.ofList_toList]

theorem reads_quoted {i : Identifier} (h : q.Quotes i.text) :
    q.Reads Lexer.isPlain i.quoted.toList where
  begins := by simpa using begins_quoted i []
  tokens := ⟨_, Lexer.lex_quoted i, by simpa using permits_quoted h⟩

/-- A quoted name with a dot behind it, and another text. -/
theorem reads_quoted_append {i : Identifier} (h : q.Quotes i.text) (hb : q.Reads Lexer.isPlain bs) :
    q.Reads Lexer.isPlain (i.quoted.toList ++ '.' :: bs) where
  begins := begins_quoted i _
  tokens := by
    rcases hb.tokens with ⟨us, hus, hpermitted⟩
    have hdot : q.Permits (.punctuation '.') := permits_of_fixed (by simp [fixedTokens])
    exact ⟨_, Lexer.lex_quoted_append i hus hb.begins, List.forall_mem_cons.2
      ⟨permits_quoted h, List.forall_mem_cons.2 ⟨hdot, hpermitted⟩⟩⟩

end Query

/-! ## Renderings -/

namespace Rendering

/-- What is written is read, wherever its placeholders are numbered from. -/
def IsRead (q : Query) (p : Char → Bool) (x : Rendering (List Lexeme)) : Prop :=
  ∀ ls, x.result = .ok ls → ∀ n : Nat, q.Reads p (Lexeme.textFrom n ls).toList

variable {q : Query} {p : Char → Bool} {x y : Rendering (List Lexeme)} {s : String}

theorem IsRead.mono (h : x.IsRead q Lexer.isDelimiter) : x.IsRead q Lexer.isPlain :=
  fun ls hls n => (h ls hls n).mono

theorem isRead_fault (f : CompileFault) : (fault f : Rendering (List Lexeme)).IsRead q p := by
  intro ls hls
  cases hls

theorem isRead_lexemes {ls : List Lexeme} (h : ∀ n, q.Reads p (Lexeme.textFrom n ls).toList) :
    (lexemes ls : Rendering (List Lexeme)).IsRead q p := by
  intro ls' hls' n
  cases hls'
  rw [ofLexemes_self]
  exact h n

theorem IsRead.append (hp : ∀ c, Lexer.isDelimiter c = true → p c = true) (hx : x.IsRead q p)
    (hy : y.IsRead q Lexer.isDelimiter) : (x ++ y).IsRead q p := by
  intro ls hls n
  rcases result_append_eq_ok hls with ⟨before, behind, hbefore, hbehind, rfl⟩
  have htext : Lexeme.textFrom n (Output.append before behind) =
      Lexeme.textFrom n before ++ Lexeme.textFrom (n + (Lexeme.params before).length) behind :=
    Lexeme.textFrom_append n before behind
  rw [htext, String.toList_append]
  exact (hx before hbefore n).append hp (hy behind hbehind _)

theorem IsRead.behind (hs : isLead fixedTokens p s.toList = true) (hx : x.IsRead q Lexer.isPlain) :
    (fixed s ++ x).IsRead q p := by
  intro ls hls n
  rcases result_append_eq_ok hls with ⟨before, behind, hbefore, hbehind, rfl⟩
  obtain rfl : [.fixed s] = before := Except.ok.inj hbefore
  have htext : Lexeme.textFrom n (Output.append [.fixed s] behind) =
      s ++ Lexeme.textFrom n behind :=
    Lexeme.textFrom_fixed n s behind
  rw [htext, String.toList_append]
  exact (hx behind hbehind n).behind hs

theorem isRead_fixed (hs : isWhole fixedTokens p s.toList = true) :
    (fixed s : Rendering (List Lexeme)).IsRead q p :=
  isRead_lexemes fun n => by simpa using Query.reads_fixed hs

theorem isRead_bind (v : Value) : (bind v : Rendering (List Lexeme)).IsRead q Lexer.isPlain :=
  isRead_lexemes fun n => by simpa using Query.reads_placeholder n

/-! ### Names -/

theorem isRead_name (h : q.Quotes s) :
    (name s : Rendering (List Lexeme)).IsRead q Lexer.isPlain := by
  unfold name
  cases hi : Identifier.of s with
  | error f => exact isRead_fault _
  | ok i =>
      have htext : q.Quotes i.text := by rwa [Identifier.text_of hi]
      exact isRead_lexemes fun n => by simpa using Query.reads_quoted htext

/-- What a path is written as, and the names in it. -/
theorem exists_of_path (h : q.IsPath s) {ls : List Lexeme}
    (hls : (path s : Rendering (List Lexeme)).result = .ok ls) :
    ∃ i rest, ls = Path.lexemes (i :: rest) ∧ ∀ j ∈ i :: rest, q.Quotes j.text := by
  unfold path at hls
  cases hp : Path.of s with
  | error f =>
      rw [hp] at hls
      cases hls
  | ok p =>
      rw [hp] at hls
      cases hls
      rcases List.exists_cons_of_ne_nil (Path.ne_nil hp) with ⟨i, rest, rfl⟩
      refine ⟨i, rest, ofLexemes_self _, fun j hj => ?_⟩
      rcases Path.exists_part hp j hj with ⟨part, hpart, htext⟩
      rw [htext]
      exact h part hpart

theorem isRead_path (h : q.IsPath s) :
    (path s : Rendering (List Lexeme)).IsRead q Lexer.isPlain := by
  intro ls hls n
  rcases exists_of_path h hls with ⟨i, rest, rfl, hnames⟩
  clear hls
  -- on the names behind the first one: each but the last has a dot behind it
  induction rest generalizing i with
  | nil => simpa [Path.lexemes] using Query.reads_quoted (hnames i (by simp))
  | cons j rest ih =>
      have hfirst := hnames i List.mem_cons_self
      have hrest := ih j fun k hk => hnames k (List.mem_cons_of_mem i hk)
      simpa [Path.lexemes] using Query.reads_quoted_append hfirst hrest

/-- A path with a dot behind it, and something that is read. -/
theorem isRead_path_append (h : q.IsPath s)
    (hy : ∀ ls, y.result = .ok ls → ∀ n, ∃ cs,
      (Lexeme.textFrom n ls).toList = '.' :: cs ∧ q.Reads Lexer.isPlain cs) :
    (path s ++ y).IsRead q Lexer.isPlain := by
  intro ls hls n
  rcases result_append_eq_ok hls with ⟨before, behind, hbefore, hbehind, rfl⟩
  rcases exists_of_path h hbefore with ⟨i, rest, rfl, hnames⟩
  clear hls hbefore
  induction rest generalizing i with
  | nil =>
      rcases hy behind hbehind n with ⟨cs, htext, hcs⟩
      have hname := Query.reads_quoted_append (hnames i (by simp)) hcs
      simpa [Path.lexemes, Output.append, htext] using hname
  | cons j rest ih =>
      have hfirst := hnames i List.mem_cons_self
      have hrest := ih j fun k hk => hnames k (List.mem_cons_of_mem i hk)
      simpa [Path.lexemes, Output.append] using Query.reads_quoted_append hfirst hrest

theorem isRead_column (h : q.IsPath s) (hx : x.IsRead q Lexer.isPlain) :
    (path s ++ (fixed "." ++ x)).IsRead q Lexer.isPlain := by
  refine isRead_path_append h fun ls hls n => ?_
  rcases result_append_eq_ok hls with ⟨before, behind, hbefore, hbehind, rfl⟩
  obtain rfl : [.fixed "."] = before := Except.ok.inj hbefore
  exact ⟨_, by simp [Output.append], hx behind hbehind n⟩

theorem isRead_star (h : q.IsPath s) :
    (path s ++ fixed ".*" : Rendering (List Lexeme)).IsRead q Lexer.isPlain := by
  have hstar : q.Reads Lexer.isPlain "*".toList :=
    Query.reads_fixed (List.all_eq_true.1 constants_whole _ (by simp [constants]))
  refine isRead_path_append h fun ls hls n => ⟨"*".toList, ?_, hstar⟩
  obtain rfl : [.fixed ".*"] = ls := Except.ok.inj hls
  simp

end Rendering

/-! ## Statements -/

namespace Query

variable {q : Query}

/-- Names are paths of names. -/
theorem Names.isPath {s : String} (h : q.Names s) : q.IsPath s :=
  fun _ hpart => (h.part_of hpart).quotes

theorem isPath_append {s t : String} (hs : q.Names s) (ht : q.Names t) :
    q.IsPath (s ++ "." ++ t) := by
  have hsplit : Text.splitOn '.' (s ++ "." ++ t).toList =
      Text.splitOn '.' s.toList ++ Text.splitOn '.' t.toList := by
    simp [Text.splitOn_append]
  intro part hpart
  rw [hsplit] at hpart
  rcases List.mem_append.1 hpart with hpart | hpart
  · exact hs.isPath part hpart
  · exact ht.isPath part hpart

theorem Names.parse {s : String} (h : q.Names s) :
    (∀ t ∈ (ColumnRef.parse s).table, q.IsPath t) ∧ q.Names (ColumnRef.parse s).name := by
  rcases ColumnRef.parts_parse s with ⟨htable, hname⟩
  refine ⟨fun t ht part hpart => h.isPath part (htable t ht hpart), ?_⟩
  rcases hname with hwhole | hpart
  · rwa [hwhole]
  · rw [← String.ofList_toList (s := (ColumnRef.parse s).name)]
    exact h.part_of hpart

end Query

/-- Fixed texts and quotes keep everything in a statement apart. -/
def Correspondence.reading (q : Query) : Correspondence Query (List Lexeme) (List Lexeme) where
  values := .same
  names := q.Names
  paths := q.IsPath
  fragments f := f = .ofText jsonText
  free _ x _ := x.IsRead q Lexer.isDelimiter
  begun _ x _ := x.IsRead q Lexer.isPlain
  led _ x _ := x.IsRead q Lexer.isPlain
  led_of_free h := h.mono
  led_of_begun h := h
  nothing := Rendering.isRead_lexemes fun _ => ⟨nofun, [], rfl, nofun⟩
  fault _ _ := Rendering.isRead_fault _
  begun_fault _ _ := Rendering.isRead_fault _
  append h h' := h.append (fun _ hc => hc) h'
  begun_append h h' := h.append (fun _ => Lexer.isPlain_of_isDelimiter) h'
  led_append h h' := h.append (fun _ => Lexer.isPlain_of_isDelimiter) h'
  starting hs h := h.behind (List.all_eq_true.1 starters_lead _ (List.mem_map_of_mem hs))
  opening hs h := h.behind
    (List.all_eq_true.1 openers_lead _ (List.mem_map_of_mem (List.mem_append_left _ hs)))
  closing hs := Rendering.isRead_fixed
    (List.all_eq_true.1 closers_whole _ (List.mem_map_of_mem hs))
  constant hs := Rendering.isRead_fixed
    (List.all_eq_true.1 constants_whole _ (List.mem_map_of_mem hs))
  bind v := Rendering.isRead_bind v
  bound hs n := (Rendering.isRead_bind (.int n)).behind
    (List.all_eq_true.1 openers_lead _ (List.mem_map_of_mem (List.mem_append_right _ hs)))
  fragment hf := by
    subst hf
    exact Rendering.isRead_lexemes fun n => by
      rw [Fragment.pieces_ofText (by decide)]
      simpa [Lexeme.ofPiece] using Query.reads_jsonText (q := q)
  name h := Rendering.isRead_name h.quotes
  physical n h := Rendering.isRead_name (.physical n h)
  path h := Rendering.isRead_path h
  column h hx := Rendering.isRead_column h hx
  star h := Rendering.isRead_star h
  path_of_name h := h.isPath
  qualified := Query.isPath_append
  parsed h := h.parse

namespace Query

/-- No name breaks out of its quotes.  If a query has no fragments of the caller, what is compiled
is read token by token: every quoted token is a name that the caller supplies, a part of one between
its dots, the physical name of either, a generated name or the name of a wrapped query, whatever
characters are in it, and all that is not quoted are placeholders and tokens of the compiler. -/
theorem lex_compiled {q : Query} {options : CompileOptions} {compiled : Compiled}
    (hfragments : ∀ f, q.Supplies (.fragment f) → f = .ofText jsonText)
    (h : q.compile options = .ok compiled) :
    ∃ ts, Lexer.lex compiled.sql.toList = some ts ∧ ∀ t ∈ ts, q.Permits t := by
  rcases compile_eq_ok_iff.1 h with ⟨ls, hls, -, rfl⟩
  -- names are supplied by definition, and the only fragment is the one for rows as JSON
  have hsupports : ∀ i, q.Supplies i → (Correspondence.reading q).Supports i := by
    intro i hi
    cases i with
    | name s => exact .supplied hi
    | fragment f => exact hfragments f hi
    | query r => trivial
  have hread : (q.rendered options.naming).IsRead q Lexer.isPlain :=
    (Correspondence.reading q).rendered exchanges_id (fun h => h)
      (fun index => Rendering.isRead_name (.generated index)) options.naming hsupports
  rw [Lexeme.text_eq]
  exact (hread ls hls 1).tokens

/-- A query with quotes, a placeholder and the beginnings of comments in its names. -/
def hostile : Query :=
  (Table.named "a\"b").query.filter
    (Condition.compare "$1; --.x\"\" /*" .eq (.value (.int 7)))

theorem supplies_hostile :
    ∀ i, hostile.Supplies i → i ∈ [.name "a\"b", .name "$1; --", .name "x\"\" /*"] := by
  have hingredients : hostile.clauses.ingredients =
      [.name "a\"b", .name "$1; --", .name "x\"\" /*"] := rfl
  refine forall_supplies ?own ?inner ?appended
  case own =>
    rw [hingredients]
    exact fun _ hi => hi
  case inner =>
    rw [hingredients]
    simp
  case appended => nofun

theorem lex_compiled_hostile :
    hostile.compile {} =
        .ok ⟨"SELECT * FROM \"a\"\"b\" WHERE \"$1; --\".\"x\"\"\"\" /*\" = $1", [.int 7], false⟩ ∧
      ∃ ts, Lexer.lex "SELECT * FROM \"a\"\"b\" WHERE \"$1; --\".\"x\"\"\"\" /*\" = $1".toList =
        some ts ∧ ∀ t ∈ ts, hostile.Permits t := by
  have hcompile : hostile.compile {} = .ok
      ⟨"SELECT * FROM \"a\"\"b\" WHERE \"$1; --\".\"x\"\"\"\" /*\" = $1", [.int 7], false⟩ := by
    rfl
  have hfragments : ∀ f, hostile.Supplies (.fragment f) → f = .ofText jsonText := by
    intro f hf
    simpa using supplies_hostile _ hf
  exact ⟨hcompile, lex_compiled hfragments hcompile⟩

end Query
end ParamSql
