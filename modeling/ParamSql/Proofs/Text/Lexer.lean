import ParamSql.Identifier

/-!
# Lexer — how PostgreSQL splits a text into tokens

A text is read from left to right, and the longest token is taken at every place.  The lexer reads
the same tokens as PostgreSQL or refuses the text.  It refuses everything that a plain statement has
no use for, whether PostgreSQL knows it or not: comments, strings with a prefix, an escape or a
dollar quote, operators other than the usual ones, numbers with a fraction, blanks other than
spaces, letters beyond ASCII outside of quotes, and tokens that touch without need.

* `SqlToken` — quoted names and strings, which are decoded, words, numbers, placeholders and
  symbols;
* `Lexer.step` — what becomes of a token that has begun when one more character is read;
* `Lexer.lex` — the tokens of a text;
* `Lexer.lex_append_of_leads`, `Lexer.lex_append` — the tokens of two texts behind each other, if a
  blank or a bracket is between them;
* `Lexer.lex_quoted_append` — a quoted name is one token, whatever is in it.
-/

namespace ParamSql

/-- A token, with the characters that it stands for. -/
inductive SqlToken
  | quoted (name : List Char)
  | word (text : List Char)
  | number (digits : List Char)
  | placeholder (digits : List Char)
  | literal (text : List Char)
  | operator (text : List Char)
  | punctuation (c : Char)
  deriving DecidableEq, Repr

namespace Lexer

/-- The token that has begun. -/
inductive State
  | start
  | dot
  | word (cs : List Char)
  | number (ds : List Char)
  | dollar
  | placeholder (ds : List Char)
  | name (cs : List Char)
  | nameEnd (cs : List Char)
  | literal (cs : List Char)
  | literalEnd (cs : List Char)
  | operator (cs : List Char)
  | colon
  deriving DecidableEq, Repr

/-! ## Characters -/

def isWordStart (c : Char) : Bool :=
  c.isAlpha || c = '_'

def isWordPart (c : Char) : Bool :=
  isWordStart c || c.isDigit

def isOperatorPart (c : Char) : Bool :=
  "~!@#^&|`?+-*/%<>=".toList.contains c

/-- The operators of plain statements; `--` and `/*` are none. -/
def operators : List (List Char) :=
  [['='], ['<', '>'], ['>'], ['>', '='], ['<'], ['<', '='], ['+'], ['-'], ['*']]

/-- A character that no token has in it and that is never the beginning of a longer one. -/
def isDelimiter (c : Char) : Bool :=
  c = ' ' || c = '(' || c = ')' || c = ','

/-- A character that is not the beginning of a number. -/
def isPlain (c : Char) : Bool :=
  !c.isDigit && c != '.'

/-! ## Reading -/

/-- The first character of a token. -/
def dispatch (c : Char) : Option (List SqlToken × State) :=
  if c = ' ' then some ([], .start)
  else if c = '(' || c = ')' || c = ',' then some ([.punctuation c], .start)
  else if c = '.' then some ([.punctuation c], .dot)
  else if c = '"' then some ([], .name [])
  else if c = '\'' then some ([], .literal [])
  else if c = '$' then some ([], .dollar)
  else if c = ':' then some ([], .colon)
  else if c.isDigit then some ([], .number [c])
  else if isWordStart c then some ([], .word [c])
  else if isOperatorPart c then some ([], .operator [c])
  else none

/-- The token, if it may end here. -/
def finish : State → Option (List SqlToken)
  | .start => some []
  | .dot => some []
  | .word cs => some [.word cs]
  | .number ds => some [.number ds]
  | .placeholder ds => some [.placeholder ds]
  | .nameEnd cs => if cs.isEmpty then none else some [.quoted cs]
  | .literalEnd cs => some [.literal cs]
  | .operator cs => if operators.contains cs then some [.operator cs] else none
  | _ => none

/-- The token ends, and another one begins. -/
def close (s : State) (c : Char) : Option (List SqlToken × State) := do
  let ts ← finish s
  let (us, s') ← dispatch c
  return (ts ++ us, s')

/-- One more character: the tokens that it ends, and the one that it begins or goes on with. -/
def step (s : State) (c : Char) : Option (List SqlToken × State) :=
  match s with
  | .start => dispatch c
  -- a dot with a digit behind it would begin a number
  | .dot => if c.isDigit || c = '.' then none else dispatch c
  | .word cs =>
      if isWordPart c then some ([], .word (cs ++ [c]))
      else if isDelimiter c || c = '.' then close s c
      else none
  | .number ds =>
      if c.isDigit then some ([], .number (ds ++ [c]))
      else if isDelimiter c then close s c else none
  | .dollar => if c.isDigit then some ([], .placeholder [c]) else none
  | .placeholder ds =>
      if c.isDigit then some ([], .placeholder (ds ++ [c]))
      else if isDelimiter c then close s c
      else none
  -- a quote is a part of a name or a string if another one follows
  | .name cs =>
      if c = '\x00' then none
      else if c = '"' then some ([], .nameEnd cs)
      else some ([], .name (cs ++ [c]))
  | .nameEnd cs =>
      if c = '"' then some ([], .name (cs ++ [c]))
      else if isDelimiter c || c = '.' then close s c
      else none
  | .literal cs =>
      if c = '\x00' || c = '\\' then none
      else if c = '\'' then some ([], .literalEnd cs)
      else some ([], .literal (cs ++ [c]))
  | .literalEnd cs =>
      if c = '\'' then some ([], .literal (cs ++ [c]))
      else if isDelimiter c then close s c else none
  | .operator cs =>
      if isOperatorPart c then some ([], .operator (cs ++ [c]))
      else if isDelimiter c then close s c
      else none
  | .colon => if c = ':' then some ([.operator [':', ':']], .start) else none

/-- The tokens from a state on. -/
def lexFrom : State → List Char → Option (List SqlToken)
  | s, [] => finish s
  | s, c :: cs => do
      let (ts, s') ← step s c
      let us ← lexFrom s' cs
      return ts ++ us

/-- The tokens of a text. -/
def lex (cs : List Char) : Option (List SqlToken) :=
  lexFrom .start cs

example : lex "SELECT \"a\"\"b\".* FROM \"c\" WHERE \"x\" >= $1".toList =
    some [.word "SELECT".toList, .quoted "a\"b".toList, .punctuation '.', .operator ['*'],
      .word "FROM".toList, .quoted ['c'], .word "WHERE".toList, .quoted ['x'],
      .operator ['>', '='], .placeholder ['1']] := by
  simp only [String.reduceToList]
  decide +kernel

example : lex "SELECT 1 --".toList = none := by
  simp only [String.reduceToList]
  decide +kernel

/-! ## Texts behind each other -/

/-- What a text is read to, if another one follows. -/
def run : State → List Char → Option (List SqlToken × State)
  | s, [] => some ([], s)
  | s, c :: cs => do
      let (ts, s') ← step s c
      let (us, s'') ← run s' cs
      return (ts ++ us, s'')

/-- A text is empty or begins with a character of some kind. -/
def Begins (p : Char → Bool) (cs : List Char) : Prop :=
  ∀ c ∈ cs.head?, p c = true

/-- A text that ends at a place where any token may begin that is not a part of a number. -/
def Leads (cs : List Char) (ts : List SqlToken) : Prop :=
  run .start cs = some (ts, .start) ∨ run .start cs = some (ts, .dot)

variable {s s' : State} {as bs : List Char} {ts us : List SqlToken} {c : Char}

theorem isDelimiter_iff : isDelimiter c = true ↔ c = ' ' ∨ c = '(' ∨ c = ')' ∨ c = ',' := by
  simp [isDelimiter, or_assoc]

theorem isPlain_of_isDelimiter (h : isDelimiter c = true) : isPlain c = true := by
  rcases isDelimiter_iff.1 h with rfl | rfl | rfl | rfl <;> decide +kernel

theorem Begins.mono {p p' : Char → Bool} (h : Begins p as) (hp : ∀ c, p c = true → p' c = true) :
    Begins p' as :=
  fun c hc => hp c (h c hc)

theorem Begins.append {p : Char → Bool} (ha : Begins p as) (hb : Begins p bs) :
    Begins p (as ++ bs) := by
  cases as with
  | nil => exact hb
  | cons c as => exact ha

theorem lexFrom_cons_of_step (hstep : step s c = some (ts, s')) (hbs : lexFrom s' bs = some us) :
    lexFrom s (c :: bs) = some (ts ++ us) := by
  rw [lexFrom, hstep]
  simp [hbs]

theorem exists_step_of_lexFrom (h : lexFrom s (c :: bs) = some ts) :
    ∃ us s' vs, step s c = some (us, s') ∧ lexFrom s' bs = some vs ∧ ts = us ++ vs := by
  rw [lexFrom] at h
  rcases Option.bind_eq_some_iff.1 h with ⟨⟨us, s'⟩, hstep, hrest⟩
  rcases Option.bind_eq_some_iff.1 hrest with ⟨vs, hvs, heq⟩
  exact ⟨us, s', vs, hstep, hvs, (Option.some.inj heq).symm⟩

theorem lexFrom_append_of_run (hrun : run s as = some (ts, s')) (hbs : lexFrom s' bs = some us) :
    lexFrom s (as ++ bs) = some (ts ++ us) := by
  -- on the text, from any state: the first character leads to the next one
  induction as generalizing s ts with
  | nil =>
      obtain ⟨rfl, rfl⟩ : [] = ts ∧ s = s' := by simpa [run] using hrun
      exact hbs
  | cons c as ih =>
      rw [run] at hrun
      rcases Option.bind_eq_some_iff.1 hrun with ⟨⟨vs, s''⟩, hstep, hrest⟩
      rcases Option.bind_eq_some_iff.1 hrest with ⟨⟨ws, t⟩, hws, heq⟩
      obtain ⟨rfl, rfl⟩ : vs ++ ws = ts ∧ t = s' := by simpa using heq
      rw [List.append_assoc]
      exact lexFrom_cons_of_step hstep (ih hws)

/-- A token that is no part of a number is read behind a dot as anywhere else. -/
theorem lexFrom_dot (hc : Begins isPlain bs) : lexFrom .dot bs = lexFrom .start bs := by
  cases bs with
  | nil => rfl
  | cons c bs =>
      obtain ⟨hdigit, hdot⟩ : c.isDigit = false ∧ c ≠ '.' := by simpa [isPlain] using hc c rfl
      simp [lexFrom, step, hdigit, hdot]

/-- A text behind one that leads it. -/
theorem lex_append_of_leads (has : Leads as ts) (hbs : lex bs = some us) (hc : Begins isPlain bs) :
    lex (as ++ bs) = some (ts ++ us) := by
  rcases has with hstart | hdot
  · exact lexFrom_append_of_run hstart hbs
  · exact lexFrom_append_of_run hdot ((lexFrom_dot hc).trans hbs)

/-- Every token that may end does so at a delimiter. -/
theorem step_delimiter (hs : finish s = some ts) (hc : isDelimiter c = true) :
    step s c = close s c := by
  -- a delimiter goes on with no token but a name or a string that is still open
  have hother : isWordPart c = false ∧ c.isDigit = false ∧ isOperatorPart c = false ∧ c ≠ '.' ∧
      c ≠ '"' ∧ c ≠ '\'' := by
    rcases isDelimiter_iff.1 hc with rfl | rfl | rfl | rfl <;> decide +kernel
  rcases hother with ⟨hword, hdigit, hoperator, hdot, hquote, happostrophe⟩
  have hstart : close .start c = dispatch c ∧ close .dot c = dispatch c := by
    constructor <;> cases hd : dispatch c <;> simp [close, finish, hd]
  cases s with
  | start => exact hstart.1.symm
  | dot => simp [step, hdigit, hdot, hstart.2]
  | word | number | placeholder | nameEnd | literalEnd | operator =>
      simp [step, hword, hdigit, hoperator, hquote, happostrophe, hc]
  | dollar | name | literal | colon => cases hs

/-- A text with a delimiter at its beginning, behind one that is read from a state on. -/
theorem lexFrom_append_of_delimiter (has : lexFrom s as = some ts) (hbs : lex (c :: bs) = some us)
    (hc : isDelimiter c = true) : lexFrom s (as ++ c :: bs) = some (ts ++ us) := by
  -- on the text; where it ends, the delimiter closes its last token
  induction as generalizing s ts with
  | nil =>
      have hfinish : finish s = some ts := has
      rcases exists_step_of_lexFrom hbs with ⟨vs, s', ws, hdispatch, hws, rfl⟩
      have hdispatch : dispatch c = some (vs, s') := hdispatch
      have hstep : step s c = some (ts ++ vs, s') := by
        rw [step_delimiter hfinish hc, close, hfinish]
        simp [hdispatch]
      rw [← List.append_assoc]
      exact lexFrom_cons_of_step hstep hws
  | cons d as ih =>
      rcases exists_step_of_lexFrom has with ⟨vs, s', ws, hstep, hws, rfl⟩
      rw [List.append_assoc]
      exact lexFrom_cons_of_step hstep (ih hws)

/-- A text that begins with a delimiter, or is empty, behind another one. -/
theorem lex_append (has : lex as = some ts) (hbs : lex bs = some us) (hc : Begins isDelimiter bs) :
    lex (as ++ bs) = some (ts ++ us) := by
  cases bs with
  | nil =>
      obtain rfl : [] = us := Option.some.inj hbs
      simpa using has
  | cons c bs => exact lexFrom_append_of_delimiter has hbs (hc c rfl)

/-! ## Names and placeholders -/

/-- A name is read back from between its quotes. -/
theorem run_escape (read : List Char) {cs : List Char} (hcs : '\x00' ∉ cs) :
    run (.name read) (Identifier.escape cs ++ ['"']) = some ([], .nameEnd (read ++ cs)) := by
  induction cs generalizing read with
  | nil => simp [Identifier.escape, run, step]
  | cons c cs ih =>
      obtain ⟨hne, hrest⟩ : '\x00' ≠ c ∧ '\x00' ∉ cs := by simpa using hcs
      have hnext := ih (read ++ [c]) hrest
      rw [List.append_assoc] at hnext
      by_cases hquote : c = '"'
      · -- the second quote shows that the first one belongs to the name
        subst hquote
        simp [Identifier.escape, run, step, hnext]
      · simp [Identifier.escape, hquote, run, step, Ne.symm hne, hnext]

theorem run_quoted (i : Identifier) :
    run .start i.quoted.toList = some ([], .nameEnd i.text.toList) := by
  have hnext := run_escape [] i.no_nul
  simp [Identifier.quoted, run, step, dispatch, hnext]

theorem finish_nameEnd (i : Identifier) :
    finish (.nameEnd i.text.toList) = some [.quoted i.text.toList] := by
  have hne : i.text.toList ≠ [] := by simpa using i.ne_empty
  simp [finish, hne]

theorem lex_quoted (i : Identifier) : lex i.quoted.toList = some [.quoted i.text.toList] := by
  have hread : lex (i.quoted.toList ++ []) = some [.quoted i.text.toList] :=
    lexFrom_append_of_run (run_quoted i) (finish_nameEnd i)
  rwa [List.append_nil] at hread

/-- A name with a dot behind it, and something that does not begin a number. -/
theorem lex_quoted_append (i : Identifier) (hbs : lex bs = some us) (hc : Begins isPlain bs) :
    lex (i.quoted.toList ++ '.' :: bs) =
      some (.quoted i.text.toList :: .punctuation '.' :: us) := by
  have hstep : step (.nameEnd i.text.toList) '.' =
      some ([.quoted i.text.toList, .punctuation '.'], .dot) := by
    simp [step, close, finish_nameEnd, dispatch]
  have hdot := lexFrom_cons_of_step hstep ((lexFrom_dot hc).trans hbs)
  exact lexFrom_append_of_run (run_quoted i) hdot

theorem lex_placeholder {ds : List Char} (hne : ds ≠ []) (hds : ∀ d ∈ ds, d.isDigit = true) :
    lex ('$' :: ds) = some [.placeholder ds] := by
  have hrest : ∀ (read ds : List Char), (∀ d ∈ ds, d.isDigit = true) →
      lexFrom (.placeholder read) ds = some [.placeholder (read ++ ds)] := by
    intro read ds
    induction ds generalizing read with
    | nil =>
        intro _
        simp [lexFrom, finish]
    | cons d ds ih =>
        intro hds
        obtain ⟨hd, hds⟩ := List.forall_mem_cons.1 hds
        have hnext := ih (read ++ [d]) hds
        rw [List.append_assoc] at hnext
        have hstep : step (.placeholder read) d = some ([], .placeholder (read ++ [d])) := by
          simp [step, hd]
        exact lexFrom_cons_of_step hstep hnext
  cases ds with
  | nil => exact absurd rfl hne
  | cons d ds =>
      obtain ⟨hd, hds⟩ := List.forall_mem_cons.1 hds
      have hdollar : step .start '$' = some ([], .dollar) := rfl
      have hfirst : step .dollar d = some ([], .placeholder [d]) := by simp [step, hd]
      exact lexFrom_cons_of_step hdollar (lexFrom_cons_of_step hfirst (hrest [d] ds hds))

end Lexer
end ParamSql
