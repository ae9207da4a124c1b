import ParamSql.Proofs.Sql.Filled
import ParamSql.Proofs.Sql.Rendering

/-!
# Tidy — lists without gaps

A list is opened by a keyword or a bracket, and its elements have commas between them.  Whether an
element is missing can be seen from the lexemes alone: a text that ends with a blank, an opening
bracket or a dot asks for something behind it, and what ends an element may only have a border
behind it.  What the caller supplies as a text is not looked into.

* `Lexeme.meets` — a lexeme may stand right behind another one;
* `Lexeme.Tidy` — all lexemes do, and nothing is missing behind the last one;
* `Rendering.HeadedBy`, `Rendering.IsElement` — what is written is tidy, and begins an element;
* `Rendering.Continues` — what is written is tidy, and may stand behind an element;
* `Rendering.IsElement.commas`, `Rendering.Continues.clause` — lists that are not empty, and those
  that are left out with their keyword.
-/

namespace ParamSql

namespace Lexeme

/-! ## Lexemes next to each other -/

/-- What an element of a list ends before. -/
def isBorder (c : Char) : Bool :=
  c = ' ' || c = ',' || c = ')'

/-- Whether an element of a list may begin with a lexeme. -/
def begins : Lexeme → Bool
  | .fixed s => s.toList.head?.any fun c => !(isBorder c || c = '.')
  | .name _ | .bind _ => true
  | .verbatim s => s ≠ ""

/-- Whether a lexeme may stand behind an element: a comma, a closing bracket, or a keyword. -/
def continues : Lexeme → Bool
  | .fixed s => s.toList.head?.any isBorder
  | .name _ | .verbatim _ | .bind _ => false

/-- Whether something has to begin behind a lexeme. -/
def isOpen : Lexeme → Bool
  | .fixed s => s.toList.getLast?.any fun c => c = ' ' || c = '(' || c = '.'
  | .name _ | .verbatim _ | .bind _ => false

def isName : Lexeme → Bool
  | .name _ => true
  | .fixed _ | .verbatim _ | .bind _ => false

/-- Keywords with assignments behind them. -/
def setTexts : List String :=
  [" SET ", " DO UPDATE SET "]

def isSet : Lexeme → Bool
  | .fixed s => s ∈ setTexts
  | .name _ | .verbatim _ | .bind _ => false

/-- Keywords that statements begin with, and the parts of a window. -/
def headTexts : List String :=
  ["SELECT ", "WITH ", "WITH RECURSIVE ", "INSERT INTO ", "UPDATE ", "DELETE FROM ",
    "PARTITION BY ", "ORDER BY "]

/-- Whether a part that stands behind no more than a blank may begin with a lexeme. -/
def beginsPart : Lexeme → Bool
  | .fixed s => s ∈ headTexts
  | .name _ => false
  | .verbatim s => s ≠ ""
  | .bind _ => true

def isBlank : Lexeme → Bool
  | .fixed s => s = " "
  | .name _ | .verbatim _ | .bind _ => false

/-- Whether a lexeme belongs to the name that it stands behind. -/
def isAttached : Lexeme → Bool
  | .fixed s => s ∈ [".", ".*", "("]
  | .name _ | .verbatim _ | .bind _ => false

/-- Whether a lexeme may be a piece of a fragment. -/
def isPiece : Lexeme → Bool
  | .verbatim _ | .bind _ => true
  | .fixed _ | .name _ => false

/-- Whether a lexeme may stand right behind another one. -/
def meets (l m : Lexeme) : Bool :=
  if l.isSet then m.isName
  else if l.isBlank then m.beginsPart
  else if l.isOpen then m.begins
  else m.continues || l.isName && m.isAttached || l.isPiece && m.isPiece

/-- Every lexeme may stand where it does, and nothing is missing behind the last one.  Only a window
may be defined by nothing. -/
inductive Tidy : List Lexeme → Prop
  | nil : Tidy []
  | single {l : Lexeme} : l.isOpen = false → Tidy [l]
  | cons {l m : Lexeme} {rest : List Lexeme} : l.meets m = true → Tidy (m :: rest) →
      Tidy (l :: m :: rest)
  | window {rest : List Lexeme} : Tidy (.fixed ")" :: rest) →
      Tidy (.fixed " AS " :: .fixed "(" :: .fixed ")" :: rest)

theorem isOpen_of_isSet {l : Lexeme} (h : l.isSet = true) : l.isOpen = true := by
  have hset : ∀ s ∈ setTexts, (fixed s).isOpen = true := by decide
  cases l with
  | fixed s => exact hset s (by simpa [isSet] using h)
  | name i => cases h
  | verbatim s => cases h
  | bind v => cases h

theorem isOpen_of_isBlank {l : Lexeme} (h : l.isBlank = true) : l.isOpen = true := by
  cases l with
  | fixed s =>
      obtain rfl : s = " " := by simpa [isBlank] using h
      decide
  | name i => cases h
  | verbatim s => cases h
  | bind v => cases h

theorem begins_of_beginsPart {l : Lexeme} (h : l.beginsPart = true) : l.begins = true := by
  have hhead : ∀ s ∈ headTexts, (fixed s).begins = true := by decide
  cases l with
  | fixed s => exact hhead s (by simpa [beginsPart] using h)
  | name i => cases h
  | verbatim s => exact h
  | bind v => rfl

theorem begins_of_isName {l : Lexeme} (h : l.isName = true) : l.begins = true := by
  cases l with
  | name i => rfl
  | fixed s => cases h
  | verbatim s => cases h
  | bind v => cases h

theorem meets_of_continues {l m : Lexeme} (hl : l.isOpen = false) (hm : m.continues = true) :
    l.meets m = true := by
  -- what is neither a SET nor a blank and is not open, an element may end with
  have hset : l.isSet = false := by
    by_contra h
    exact absurd (isOpen_of_isSet (by simpa using h)) (by simp [hl])
  have hblank : l.isBlank = false := by
    by_contra h
    exact absurd (isOpen_of_isBlank (by simpa using h)) (by simp [hl])
  simp [meets, hset, hblank, hl, hm]

/-- Whether any element may begin behind a lexeme. -/
def isFree (l : Lexeme) : Bool :=
  l.isOpen && !l.isSet && !l.isBlank

theorem meets_of_begins {l m : Lexeme} (hl : l.isFree = true) (hm : m.begins = true) :
    l.meets m = true := by
  obtain ⟨⟨hopen, hset⟩, hblank⟩ : (l.isOpen = true ∧ l.isSet = false) ∧ l.isBlank = false := by
    simpa [isFree] using hl
  simp [meets, hset, hblank, hopen, hm]

namespace Tidy

variable {l m : Lexeme} {ls ms : List Lexeme}

/-- What may stand behind an element may stand behind anything that is tidy. -/
theorem append (h : Tidy ls) (h' : Tidy ms) (hcontinues : ∀ m ∈ ms.head?, m.continues = true) :
    Tidy (ls ++ ms) := by
  induction h with
  | nil => exact h'
  | single hl =>
      -- only here do the two meet
      cases ms with
      | nil => exact .single hl
      | cons m ms => exact .cons (meets_of_continues hl (hcontinues m rfl)) h'
  | cons hmeets _ ih => exact .cons hmeets ih
  | window _ ih => exact .window ih

/-- What asks for something behind it has it there.  An opening bracket may be that of a window. -/
theorem exists_meets {before behind : List Lexeme} (h : Tidy (before ++ l :: behind))
    (hopen : l.isOpen = true) (hbracket : l ≠ .fixed "(") :
    ∃ m rest, behind = m :: rest ∧ l.meets m = true := by
  generalize hls : before ++ l :: behind = ls at h
  -- by induction on the tidy list, with the lexeme at its head or further behind
  induction h generalizing before with
  | nil => simp at hls
  | single hl =>
      obtain ⟨-, rfl, -⟩ : before = [] ∧ _ ∧ behind = [] := by
        simpa using List.append_eq_singleton_iff.1 hls
      exact absurd hopen (by simp [hl])
  | @cons k m rest hmeets _ ih =>
      cases before with
      | nil =>
          obtain ⟨rfl, rfl⟩ := List.cons.inj hls
          exact ⟨m, rest, rfl, hmeets⟩
      | cons k before => exact ih (List.cons.inj hls).2
  | @window rest htidy ih =>
      -- in a window the bracket may be followed by its end, and `l` is not this bracket
      rcases before with _ | ⟨k, _ | ⟨k', before⟩⟩
      · obtain ⟨rfl, rfl⟩ := List.cons.inj hls
        exact ⟨_, _, rfl, rfl⟩
      · obtain ⟨rfl, -⟩ := List.cons.inj (List.cons.inj hls).2
        exact absurd rfl hbracket
      · exact ih (List.cons.inj (List.cons.inj hls).2).2

/-- Pieces of a fragment. -/
theorem of_pieces (ps : List Piece) : Tidy (ps.map ofPiece) := by
  induction ps with
  | nil => exact .nil
  | cons p ps ih =>
      cases ps with
      | nil => exact .single (by cases p <;> rfl)
      | cons p' ps => exact .cons (by cases p <;> cases p' <;> rfl) ih

/-- Names with dots between them, and what is attached to the last one. -/
theorem path_append (p : Path) (h : Tidy ms) (hattached : ∀ m ∈ ms.head?, m.isAttached = true) :
    Tidy (p.lexemes ++ ms) := by
  unfold Path.lexemes
  induction p with
  | nil => exact h
  | cons i p ih =>
      -- between two names stands a dot, and behind the last one what is attached to it
      cases p with
      | nil =>
          cases ms with
          | nil => exact .single rfl
          | cons m ms =>
              have hm : m.isAttached = true := hattached m rfl
              exact .cons (by simp [meets, isSet, isBlank, isOpen, isName, hm]) h
      | cons j p =>
          rw [List.map_cons, List.map_cons, List.intersperse_cons_cons]
          rw [List.map_cons] at ih
          cases p <;> exact .cons rfl (.cons rfl ih)

end Tidy

/-! ## Fixed texts -/

/-- Begins an element that goes on behind it. -/
def starts (s : String) : Bool :=
  (fixed s).begins && (fixed s).isFree

/-- Stands behind an element, and has another one behind it. -/
def leads (s : String) : Bool :=
  (fixed s).continues && (fixed s).isFree

/-- Stands behind an element, and nothing is missing behind it. -/
def closes (s : String) : Bool :=
  (fixed s).continues && !(fixed s).isOpen

/-- Is an element by itself. -/
def stands (s : String) : Bool :=
  (fixed s).begins && !(fixed s).isOpen

end Lexeme

theorem CompareOp.sql_leads (op : CompareOp) : Lexeme.leads (" " ++ op.sql ++ " ") = true := by
  cases op <;> decide

theorem Direction.sql_closes (d : Direction) : Lexeme.closes (" " ++ d.sql) = true := by
  cases d <;> decide

theorem Nulls.sql_closes (n : Nulls) : Lexeme.closes (" " ++ n.sql) = true := by
  cases n <;> decide

theorem JoinKind.sql_leads (k : JoinKind) : Lexeme.leads (" " ++ k.sql ++ " ") = true := by
  cases k <;> decide

theorem LockMode.sql_closes (m : LockMode) : Lexeme.closes (" " ++ m.sql) = true := by
  cases m <;> decide

theorem WaitPolicy.sql_closes (w : WaitPolicy) : Lexeme.closes (" " ++ w.sql) = true := by
  cases w <;> decide

theorem SetOpKind.sql_leads (k : SetOpKind) : Lexeme.leads (" " ++ k.sql ++ " ") = true := by
  cases k <;> decide

theorem Aggregate.sql_starts (f : Aggregate) (isDistinct : Bool) :
    Lexeme.starts (f.sql ++ "(" ++ if isDistinct then "DISTINCT " else "") = true := by
  cases f <;> cases isDistinct <;> decide

/-! ## Renderings -/

namespace Rendering

open Lexeme

/-- What is written is tidy, and its first lexeme has a property. -/
def HeadedBy (P : Lexeme → Bool) (r : Rendering (List Lexeme)) : Prop :=
  ∀ ls, r.result = .ok ls → Lexeme.Tidy ls ∧ ∃ m rest, ls = m :: rest ∧ P m = true

/-- What is written is tidy and begins an element. -/
abbrev IsElement (r : Rendering (List Lexeme)) : Prop :=
  r.HeadedBy begins

/-- What is written is tidy, and its first lexeme has a property if there is one. -/
def HeadedOnlyBy (P : Lexeme → Bool) (r : Rendering (List Lexeme)) : Prop :=
  ∀ ls, r.result = .ok ls → Lexeme.Tidy ls ∧ ∀ m ∈ ls.head?, P m = true

/-- What is written is tidy, and may stand behind an element. -/
abbrev Continues (r : Rendering (List Lexeme)) : Prop :=
  r.HeadedOnlyBy Lexeme.continues

variable {P P' : Lexeme → Bool} {r r' : Rendering (List Lexeme)} {s : String}

/-- A fixed text ahead of what may stand behind it. -/
theorem HeadedBy.behind (hs : P' (.fixed s) = true)
    (hmeets : ∀ m, P m = true → (Lexeme.fixed s).meets m = true) (h : r.HeadedBy P) :
    (.fixed s ++ r : Rendering _).HeadedBy P' := by
  intro ls hls
  obtain ⟨x, y, hx, hy, rfl⟩ := result_append_eq_ok hls
  obtain rfl : [.fixed s] = x := Except.ok.inj hx
  obtain ⟨htidy, m, rest, rfl, hm⟩ := h y hy
  exact ⟨.cons (hmeets m hm) htidy, .fixed s, m :: rest, rfl, hs⟩

theorem HeadedBy.alone (hs : P (.fixed s) = true) (hopen : (Lexeme.fixed s).isOpen = false) :
    HeadedBy P (.fixed s) := by
  intro ls h
  obtain rfl : [.fixed s] = ls := Except.ok.inj h
  exact ⟨.single hopen, _, _, rfl, hs⟩

theorem HeadedBy.headedOnlyBy (h : r.HeadedBy P) : r.HeadedOnlyBy P := by
  intro ls hls
  obtain ⟨htidy, m, rest, rfl, hm⟩ := h ls hls
  exact ⟨htidy, by simpa using hm⟩

/-! ### Parts behind an element -/

theorem HeadedOnlyBy.nothing : HeadedOnlyBy P .nothing := by
  intro ls h
  obtain rfl : [] = ls := Except.ok.inj h
  exact ⟨.nil, by simp⟩

theorem HeadedOnlyBy.fault (f : CompileFault) : HeadedOnlyBy P (.fault f) := by
  intro ls h
  cases h

namespace Continues

theorem append (h : r.Continues) (h' : r'.Continues) : (r ++ r').Continues := by
  intro ls hls
  obtain ⟨x, y, hx, hy, rfl⟩ := result_append_eq_ok hls
  obtain ⟨hxtidy, hxhead⟩ := h x hx
  obtain ⟨hytidy, hyhead⟩ := h' y hy
  refine ⟨hxtidy.append hytidy hyhead, ?_⟩
  -- what is written in front may be nothing, and then the second part comes first
  cases x with
  | nil => exact hyhead
  | cons l x => exact hxhead

theorem close (hs : closes s = true) : Continues (.fixed s) := by
  obtain ⟨hcontinues, hopen⟩ : (Lexeme.fixed s).continues = true ∧
      (Lexeme.fixed s).isOpen = false := by
    simpa [closes] using hs
  exact (HeadedBy.alone hcontinues hopen).headedOnlyBy

theorem lead (hs : leads s = true) (h : r.IsElement) : Continues (.fixed s ++ r) := by
  obtain ⟨hcontinues, hfree⟩ : (Lexeme.fixed s).continues = true ∧
      (Lexeme.fixed s).isFree = true := by
    simpa [leads] using hs
  exact (h.behind hcontinues fun m hm => meets_of_begins hfree hm).headedOnlyBy

theorem blank (h : r.HeadedBy beginsPart) : Continues (.fixed " " ++ r) :=
  have hset : (Lexeme.fixed " ").isSet = false := by decide
  have hblank : (Lexeme.fixed " ").isBlank = true := by decide
  (h.behind (by decide) fun m hm => by simp [meets, hset, hblank, hm]).headedOnlyBy

/-- Assignments begin with the name of a column. -/
theorem set (hs : s ∈ setTexts) (h : r.HeadedBy isName) : Continues (.fixed s ++ r) := by
  have hset : (Lexeme.fixed s).isSet = true := by simpa [isSet] using hs
  have hcontinues : ∀ s ∈ setTexts, (Lexeme.fixed s).continues = true := by decide
  exact (h.behind (hcontinues s hs) fun m hm => by simp [meets, hset, hm]).headedOnlyBy

theorem choice {c : Prop} [Decidable c] (h : c → r.Continues) (h' : ¬c → r'.Continues) :
    (if c then r else r').Continues := by
  split
  · exact h ‹_›
  · exact h' ‹_›

variable {α : Type} {write : α → Rendering (List Lexeme)}

theorem optional {o : Option α} (h : ∀ a ∈ o, (write a).Continues) :
    (Rendering.optional write o).Continues := by
  cases o with
  | none => exact .nothing
  | some a => exact h a rfl

theorem concat {l : List α} (h : ∀ a ∈ l, (write a).Continues) :
    (Rendering.concat (l.map write)).Continues := by
  induction l with
  | nil => exact .nothing
  | cons a as ih =>
      obtain ⟨ha, has⟩ := List.forall_mem_cons.1 h
      rw [List.map_cons, concat_cons]
      exact ha.append (ih has)

end Continues

/-! ### Elements -/

namespace HeadedBy

theorem mono (h : r.HeadedBy P) (hP : ∀ m, P m = true → P' m = true) :
    r.HeadedBy P' := by
  intro ls hls
  obtain ⟨htidy, m, rest, rfl, hm⟩ := h ls hls
  exact ⟨htidy, m, rest, rfl, hP m hm⟩

/-- An element may begin with a name. -/
theorem isElement (h : r.HeadedBy isName) : r.IsElement :=
  h.mono fun _ hm => begins_of_isName hm

theorem fault (f : CompileFault) : HeadedBy P (.fault f) := by
  intro ls h
  cases h

theorem append (h : r.HeadedBy P) (h' : r'.Continues) : (r ++ r').HeadedBy P := by
  intro ls hls
  obtain ⟨x, y, hx, hy, rfl⟩ := result_append_eq_ok hls
  obtain ⟨hxtidy, m, rest, rfl, hm⟩ := h x hx
  obtain ⟨hytidy, hyhead⟩ := h' y hy
  exact ⟨hxtidy.append hytidy hyhead, m, rest ++ y, rfl, hm⟩

/-- A text with an element behind it. -/
theorem lead (h : r.HeadedBy P) (hs : leads s = true) (h' : r'.IsElement) :
    (r ++ .fixed s ++ r').HeadedBy P := by
  rw [append_assoc]
  exact h.append (.lead hs h')

theorem close (h : r.HeadedBy P) (hs : closes s = true) : (r ++ .fixed s).HeadedBy P :=
  h.append (.close hs)

theorem choice {c : Prop} [Decidable c] (h : c → r.HeadedBy P) (h' : ¬c → r'.HeadedBy P) :
    (if c then r else r').HeadedBy P := by
  split
  · exact h ‹_›
  · exact h' ‹_›

/-- Parts with a text between them that leads such parts, of which there is at least one. -/
theorem separated {α : Type} {write : α → Rendering (List Lexeme)}
    (hs : ∀ r : Rendering (List Lexeme), r.HeadedBy P → Continues (.fixed s ++ r)) {l : List α}
    (hne : l ≠ []) (h : ∀ a ∈ l, (write a).HeadedBy P) :
    (Rendering.separated s (l.map write)).HeadedBy P := by
  induction l with
  | nil => exact absurd rfl hne
  | cons a as ih =>
      obtain ⟨ha, has⟩ := List.forall_mem_cons.1 h
      -- there is no separator behind the last part
      cases as with
      | nil => simpa using ha
      | cons b bs =>
          have hrest := ih (List.cons_ne_nil b bs) has
          rw [List.map_cons, List.map_cons, separated_cons_cons]
          exact ha.append (hs _ hrest)

end HeadedBy

/-- A part may begin with what only such parts begin with. -/
theorem HeadedBy.isElement_of_part (h : r.HeadedBy beginsPart) : r.IsElement :=
  h.mono fun _ hm => begins_of_beginsPart hm

/-- A keyword with an element behind it. -/
theorem HeadedBy.head (hs : s ∈ headTexts) (h : r.IsElement) :
    (.fixed s ++ r : Rendering _).HeadedBy beginsPart := by
  have hfree : ∀ s ∈ headTexts, (Lexeme.fixed s).isFree = true := by decide
  exact h.behind (by simpa [beginsPart] using hs) fun m hm => meets_of_begins (hfree s hs) hm

namespace IsElement

theorem start (hs : starts s = true) (h : r.IsElement) : IsElement (.fixed s ++ r) := by
  obtain ⟨hbegins, hfree⟩ : (Lexeme.fixed s).begins = true ∧ (Lexeme.fixed s).isFree = true := by
    simpa [starts] using hs
  exact h.behind hbegins fun m hm => meets_of_begins hfree hm

theorem constant (hs : stands s = true) : IsElement (.fixed s) := by
  obtain ⟨hbegins, hopen⟩ : (Lexeme.fixed s).begins = true ∧ (Lexeme.fixed s).isOpen = false := by
    simpa [stands] using hs
  exact .alone hbegins hopen

theorem headedBy_bracketed (hP : P (.fixed "(") = true) (h : r.IsElement) :
    r.bracketed.HeadedBy P := by
  have hclosed : IsElement (r ++ .fixed ")") := h.close (by decide)
  unfold Rendering.bracketed
  rw [append_assoc]
  exact hclosed.behind hP fun m hm => meets_of_begins (by decide) hm

theorem bracketed (h : r.IsElement) : r.bracketed.IsElement :=
  headedBy_bracketed rfl h

theorem bind (v : Value) : IsElement (.bind v) := by
  intro ls h
  obtain rfl : [.bind v] = ls := Except.ok.inj h
  exact ⟨.single rfl, _, _, rfl, rfl⟩

end IsElement

theorem HeadedBy.fragment {f : Fragment} (h : f.IsFilled) : HeadedBy beginsPart (.fragment f) := by
  obtain ⟨p, rest, hpieces, hp⟩ := h
  intro ls hls
  obtain rfl : f.pieces.map .ofPiece = ls := by
    simpa using Except.ok.inj hls
  refine ⟨.of_pieces _, .ofPiece p, rest.map .ofPiece, by rw [hpieces, List.map_cons], ?_⟩
  cases p with
  | text s => simpa [ofPiece, beginsPart] using hp
  | bind v => rfl

theorem IsElement.fragment {f : Fragment} (h : f.IsFilled) : IsElement (.fragment f) :=
  (HeadedBy.fragment h).isElement_of_part

namespace HeadedBy

/-- A path begins with a name, and ends with one. -/
theorem path_append (s : String) (h : r.HeadedOnlyBy isAttached) :
    (.path s ++ r : Rendering _).HeadedBy isName := by
  intro ls hls
  obtain ⟨x, y, hx, hy, rfl⟩ := result_append_eq_ok hls
  obtain ⟨p, hp, rfl⟩ := path_eq_ok hx
  obtain ⟨htidy, hattached⟩ := h y hy
  refine ⟨.path_append p htidy hattached, ?_⟩
  cases p with
  | nil => exact absurd rfl (Path.ne_nil hp)
  | cons i p => cases p <;> exact ⟨_, _, rfl, rfl⟩

theorem path (s : String) : HeadedBy isName (.path s) := by
  simpa using path_append s .nothing

theorem name_append (s : String) (h : r.HeadedOnlyBy isAttached) :
    (.name s ++ r : Rendering _).HeadedBy isName := by
  intro ls hls
  obtain ⟨x, y, hx, hy, rfl⟩ := result_append_eq_ok hls
  obtain ⟨i, -, rfl⟩ := name_eq_ok hx
  obtain ⟨htidy, hattached⟩ := h y hy
  exact ⟨.path_append [i] htidy hattached, _, _, rfl, rfl⟩

theorem name (s : String) : HeadedBy isName (.name s) := by
  simpa using name_append s .nothing

end HeadedBy

/-! ### Lists -/

variable {α : Type} {write : α → Rendering (List Lexeme)} {l : List α}

theorem HeadedBy.commas (hP : ∀ m, P m = true → m.begins = true) (hne : l ≠ [])
    (h : ∀ a ∈ l, (write a).HeadedBy P) : (Rendering.commas (l.map write)).HeadedBy P :=
  separated (fun _ hr => .lead (by decide) (hr.mono hP)) hne h

theorem IsElement.commas (hne : l ≠ []) (h : ∀ a ∈ l, (write a).IsElement) :
    (Rendering.commas (l.map write)).IsElement :=
  HeadedBy.commas (fun _ hm => hm) hne h

/-- A list is left out together with its keyword. -/
theorem Continues.clause (hs : leads s = true) (h : ∀ a ∈ l, (write a).IsElement) :
    (Rendering.clause s (l.map write)).Continues := by
  unfold Rendering.clause
  cases l with
  | nil => exact .nothing
  | cons a as => exact lead hs (.commas (List.cons_ne_nil a as) h)

end Rendering
end ParamSql
