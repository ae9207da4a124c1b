import ParamSql.Connection.Recorder
import ParamSql.Proofs.Connection.Rehearsal

/-!
# EndStatement — how the end of a transaction is written

The end of a transaction can be written in many ways: in any case, with blanks between the words,
and with semicolons and blanks behind them. A harness cuts off blanks, then semicolons, and compares
words; what it makes of a statement depends on whether the semicolons stand together, and on where
the first of them is.

* `EndStatement`, `EndStatement.IsWritten` — the statements that end a transaction, and their texts;
* `Control.settled_cases` — what is left of the end of a statement;
* `EndStatement.IsRecognised`, `EndStatement.IsWritten.of?_cases` — which texts a harness knows;
* `Harness.forwards_end` — what it sends for them: the verb of a savepoint, nothing, or the text
  itself;
* `Harness.idle_of_not_recognised` — in the last case the outer transaction is over.
-/

namespace ParamSql

open Text

/-! ## Statements -/

inductive EndVerb
  | commit
  | finish
  | rollback
  | abort
  deriving DecidableEq, Repr

inductive EndNoun
  | work
  | transaction
  deriving DecidableEq, Repr

/-- A statement that ends a transaction, and may say whether another one is begun. -/
structure EndStatement where
  verb : EndVerb
  noun : Option EndNoun := none
  chain : Option Bool := none
  deriving DecidableEq, Repr

namespace EndVerb

def word : EndVerb → String
  | .commit => "COMMIT"
  | .finish => "END"
  | .rollback => "ROLLBACK"
  | .abort => "ABORT"

/-- The verb keeps what has been done. -/
def Commits (verb : EndVerb) : Prop :=
  verb = .commit ∨ verb = .finish

instance (verb : EndVerb) : Decidable verb.Commits :=
  inferInstanceAs (Decidable (_ ∨ _))

theorem Commits.ne_abort {verb : EndVerb} (h : verb.Commits) : verb ≠ .abort := by
  rintro rfl
  revert h
  decide

/-- What the verb does. -/
def control : EndVerb → Control
  | .commit => .commit
  | .finish => .commit
  | .rollback => .rollback
  | .abort => .rollback

/-- What the verb tells a database to do. -/
def command : EndVerb → TransactionCommand
  | .commit => .commit
  | .finish => .commit
  | .rollback => .rollback
  | .abort => .rollback

/-- The statement that does the same to a savepoint. -/
def savepointSql (name : String) : EndVerb → String
  | .commit => "RELEASE SAVEPOINT " ++ name
  | .finish => "RELEASE SAVEPOINT " ++ name
  | .rollback => "ROLLBACK TO SAVEPOINT " ++ name
  | .abort => "ROLLBACK TO SAVEPOINT " ++ name

end EndVerb

def EndNoun.word : EndNoun → String
  | .work => "WORK"
  | .transaction => "TRANSACTION"

namespace EndStatement

/-- The words about another transaction. -/
def chainWords : Option Bool → List String
  | none => []
  | some true => ["AND", "CHAIN"]
  | some false => ["AND", "NO", "CHAIN"]

/-- The words of a statement in upper case. -/
def words (s : EndStatement) : List String :=
  s.verb.word :: (s.noun.toList.map EndNoun.word ++ chainWords s.chain)

end EndStatement

/-! ## Texts -/

/-- The text consists of the words in any case, with blanks between them. -/
inductive Spelled : List String → List Char → Prop
  | last {word : String} {w : List Char} : Control.upper w = word → Spelled [word] w
  | cons {word : String} {words : List String} {w gap rest : List Char} :
      Control.upper w = word → gap ≠ [] → (∀ c ∈ gap, isBlank c = true) → Spelled words rest →
      Spelled (word :: words) (w ++ (gap ++ rest))

/-- The text is that of the statement, with blanks in front of it, and `tail` behind it: semicolons
and blanks in any order. -/
def EndStatement.IsWritten (s : EndStatement) (tail : List Char) (sql : String) : Prop :=
  ∃ lead core, sql.toList = lead ++ (core ++ tail) ∧ (∀ c ∈ lead, isBlank c = true) ∧
    Spelled s.words core ∧ ∀ c ∈ tail, isBlank c = true ∨ c = ';'

/-- A word of capital letters. -/
def IsKeyword (word : String) : Prop :=
  word.toList ≠ [] ∧ ∀ c ∈ word.toList, c.isUpper = true

instance (word : String) : Decidable (IsKeyword word) :=
  decidable_of_iff (word.toList ≠ [] ∧ word.toList.all Char.isUpper = true)
    (by rw [IsKeyword, List.all_eq_true])

theorem EndStatement.isKeyword_of_mem (s : EndStatement) : ∀ word ∈ s.words, IsKeyword word := by
  have hverb : ∀ verb : EndVerb, IsKeyword verb.word := by
    intro verb
    cases verb <;> decide
  have hnoun : ∀ noun : Option EndNoun, ∀ word ∈ noun.toList.map EndNoun.word, IsKeyword word := by
    intro noun
    rcases noun with _ | (_ | _) <;> decide
  have hchain : ∀ chain, ∀ word ∈ chainWords chain, IsKeyword word := by
    intro chain
    rcases chain with _ | (_ | _) <;> decide
  exact List.forall_mem_cons.2 ⟨hverb s.verb,
    List.forall_mem_append.2 ⟨hnoun s.noun, hchain s.chain⟩⟩

/-- A character that is a letter in upper case is a letter. -/
theorem of_isUpper_toUpper {c : Char} (h : c.toUpper.isUpper = true) :
    isBlank c = false ∧ c ≠ ';' := by
  have hrange : (65 ≤ c.toNat ∧ c.toNat ≤ 90) ∨ (97 ≤ c.toNat ∧ c.toNat ≤ 122) := by
    unfold Char.toUpper at h
    split at h
    case isTrue hlower => exact .inr (by simpa [UInt32.le_iff_toNat_le] using hlower)
    case isFalse =>
      have hbounds : decide ('A' ≤ c ∧ c ≤ 'Z') = true := h
      exact .inl (by simpa [Char.le_def, UInt32.le_iff_toNat_le] using hbounds)
  -- no blank and no semicolon is in this range
  refine ⟨isBlank_eq_false (by omega) (by omega), ?_⟩
  rintro rfl
  simp at hrange

theorem IsKeyword.of_upper {word : String} (h : IsKeyword word) {w : List Char}
    (hw : Control.upper w = word) : w ≠ [] ∧ ∀ c ∈ w, isBlank c = false ∧ c ≠ ';' := by
  rw [IsKeyword, ← hw, Control.upper, String.toList_ofList] at h
  refine ⟨fun hnil => h.1 (by rw [hnil]; rfl), ?_⟩
  intro c hc
  exact of_isUpper_toUpper (h.2 _ (List.mem_map_of_mem hc))

/-- The text of words begins with a letter and ends in one. -/
theorem Spelled.isCore {words : List String} {core : List Char} (h : Spelled words core)
    (hwords : ∀ word ∈ words, IsKeyword word) : Control.IsCore core := by
  induction h with
  | @last word w hw =>
      rcases (hwords word (List.mem_singleton_self _)).of_upper hw with ⟨hne, hall⟩
      exact ⟨hne, fun c hc => (hall c (List.mem_of_head? hc)).1,
        fun c hc => hall c (List.mem_of_getLast? hc)⟩
  | @cons word words w gap rest hw _ _ _ ih =>
      rcases List.forall_mem_cons.1 hwords with ⟨hword, hrest⟩
      rcases hword.of_upper hw with ⟨hne, hall⟩
      rcases ih hrest with ⟨hrest, _, hlast⟩
      refine ⟨by simp [hne], ?_, ?_⟩
      · intro c hc
        -- the first word is not empty, so that the text begins with its first character
        rw [List.head?_append_of_ne_nil _ hne] at hc
        exact (hall c (List.mem_of_head? hc)).1
      · intro c hc
        -- the text ends as the rest of it does, which is not empty either
        rw [← List.append_assoc, List.getLast?_append_of_ne_nil _ hrest] at hc
        exact hlast c hc

/-- A text goes on in its last word up to the next blank. -/
theorem Spelled.words_append {words : List String} {core : List Char} (h : Spelled words core)
    (hwords : ∀ word ∈ words, IsKeyword word) (cs : List Char) :
    ∃ front last, words = front ++ [last] ∧
      (blankWords (core ++ cs)).map Control.upper = front ++
        (last ++ Control.upper (cs.takeWhile isSolid)) ::
          (blankWords (cs.dropWhile isSolid)).map Control.upper := by
  induction h with
  | @last word w hw =>
      rcases (hwords word (List.mem_singleton_self _)).of_upper hw with ⟨hne, hall⟩
      refine ⟨[], word, rfl, ?_⟩
      -- the last word goes on with what follows it up to a blank
      rw [blankWords_append ⟨hne, fun c hc => (hall c hc).1⟩, ← hw]
      simp [Control.upper]
  | @cons word words w gap rest hw hne hgap _ ih =>
      rcases List.forall_mem_cons.1 hwords with ⟨hword, hrest⟩
      rcases hword.of_upper hw with ⟨hnonempty, hall⟩
      rcases ih hrest with ⟨front, last, rfl, hbehind⟩
      refine ⟨word :: front, last, rfl, ?_⟩
      -- a blank stands behind any other word, so that it is complete
      rw [List.append_assoc, List.append_assoc,
        blankWords_cons ⟨hnonempty, fun c hc => (hall c hc).1⟩ hne hgap, List.map_cons, hbehind, hw]
      rfl

theorem Spelled.words_eq {words : List String} {core : List Char} (h : Spelled words core)
    (hwords : ∀ word ∈ words, IsKeyword word) : (blankWords core).map Control.upper = words := by
  rcases h.words_append hwords [] with ⟨front, last, rfl, hbehind⟩
  simpa [Control.upper] using hbehind

/-! ## The end of a text -/

/-- All semicolons stand together. -/
def InOneRun (tail : List Char) : Prop :=
  ∃ before n behind, (∀ c ∈ before, isBlank c = true) ∧ (∀ c ∈ behind, isBlank c = true) ∧
    tail = before ++ (List.replicate n ';' ++ behind)

/-- What is cut off behind a text. -/
theorem Control.exists_settled (tail : List Char) : ∃ n behind,
    (∀ c ∈ behind, isBlank c = true) ∧
      tail = settled tail ++ (List.replicate n ';' ++ behind) := by
  -- seen from the end, the text has blanks, then the semicolons of one run, then what is left
  let blanks : List Char := tail.reverse.takeWhile isBlank
  let kept : List Char := tail.reverse.dropWhile isBlank
  let run : List Char := kept.takeWhile fun c => c = ';'
  have hrun : run = List.replicate run.length ';' :=
    List.eq_replicate_of_mem fun c hc => by simpa using List.mem_takeWhile_imp hc
  have hreverse : run.reverse = List.replicate run.length ';' :=
    (congrArg List.reverse hrun).trans List.reverse_replicate
  have hkept : (run ++ kept.dropWhile fun c => c = ';') = kept := List.takeWhile_append_dropWhile
  have hsplit : blanks ++ kept = tail.reverse := List.takeWhile_append_dropWhile
  refine ⟨run.length, blanks.reverse, ?_, ?_⟩
  · intro c hc
    exact List.mem_takeWhile_imp (List.mem_reverse.1 hc)
  · calc
      tail = (blanks ++ (run ++ kept.dropWhile fun c => c = ';')).reverse := by
        rw [hkept, hsplit, List.reverse_reverse]
      _ = settled tail ++ (run.reverse ++ blanks.reverse) := by
        rw [List.reverse_append, List.reverse_append, List.append_assoc]
        rfl
      _ = settled tail ++ (List.replicate run.length ';' ++ blanks.reverse) := by rw [hreverse]

/-- Nothing but blanks is left of one run of semicolons. -/
theorem Control.settled_of_run {before behind : List Char}
    (hbefore : ∀ c ∈ before, isBlank c = true) (hbehind : ∀ c ∈ behind, isBlank c = true)
    (n : Nat) :
    ∀ c ∈ settled (before ++ (List.replicate n ';' ++ behind)), isBlank c = true := by
  have hsettled : settled (before ++ (List.replicate n ';' ++ behind)) =
      (((List.replicate n ';' ++ before.reverse).dropWhile isBlank).dropWhile
        fun c => c = ';').reverse := by
    rw [settled, List.reverse_append, List.reverse_append, List.reverse_replicate,
      List.append_assoc, List.dropWhile_append_of_pos (by simpa using hbehind)]
  intro c hc
  rw [hsettled, List.mem_reverse] at hc
  cases n with
  | zero =>
      -- without a semicolon, all of it is blank
      have hmem := (List.dropWhile_suffix _).subset ((List.dropWhile_suffix _).subset hc)
      exact hbefore c (by simpa using hmem)
  | succ n =>
      -- the last semicolon stops the blanks that are cut off, and those before it are cut off with
      -- it
      have hsemicolon : isBlank ';' = false := by decide
      rw [List.replicate_succ, List.cons_append, List.dropWhile_cons_of_neg (by simp [hsemicolon]),
        ← List.cons_append, ← List.replicate_succ, List.dropWhile_append_of_pos (by simp)] at hc
      exact hbefore c (by simpa using (List.dropWhile_suffix _).subset hc)

/-- What is left of blanks and semicolons is blank up to the first semicolon. -/
theorem Control.exists_semicolon {tail : List Char} (htail : ∀ c ∈ tail, isBlank c = true ∨ c = ';')
    (h : ¬ ∀ c ∈ settled tail, isBlank c = true) :
    ∃ gap rest, (∀ c ∈ gap, isBlank c = true) ∧ settled tail = gap ++ ';' :: rest := by
  have hsplit : (settled tail).takeWhile isBlank ++ (settled tail).dropWhile isBlank =
      settled tail := List.takeWhile_append_dropWhile
  cases hsolid : (settled tail).dropWhile isBlank with
  | nil => exact absurd (List.dropWhile_eq_nil_iff.1 hsolid) h
  | cons c rest =>
      have hc : isBlank c = false := by
        have hne : (settled tail).dropWhile isBlank ≠ [] := by simp [hsolid]
        simpa [hsolid] using List.head_dropWhile_not isBlank hne
      have hmem : c ∈ settled tail :=
        (List.dropWhile_suffix isBlank).subset (hsolid ▸ List.mem_cons_self ..)
      -- what is left is a part of the end, in which all is blank or a semicolon
      have hsemicolon : c = ';' :=
        (htail c ((settled_isPrefix tail).subset hmem)).resolve_left (by simp [hc])
      rw [hsolid, hsemicolon] at hsplit
      exact ⟨_, rest, fun _ => List.mem_takeWhile_imp, hsplit.symm⟩

/-- What is left of the end of a text is blank if the semicolons stand together; otherwise there is
a semicolon in it, with blanks before it if the end begins with one. -/
theorem Control.settled_cases {tail : List Char} (htail : ∀ c ∈ tail, isBlank c = true ∨ c = ';') :
    (InOneRun tail ∧ ∀ c ∈ settled tail, isBlank c = true) ∨
    (¬ InOneRun tail ∧ ∃ gap rest, (∀ c ∈ gap, isBlank c = true) ∧
      settled tail = gap ++ ';' :: rest ∧
      (gap ≠ [] ↔ ∃ c ∈ tail.head?, isBlank c = true)) := by
  by_cases hblank : ∀ c ∈ settled tail, isBlank c = true
  · rcases exists_settled tail with ⟨n, behind, hbehind, heq⟩
    exact .inl ⟨⟨settled tail, n, behind, hblank, hbehind, heq⟩, hblank⟩
  · refine .inr ⟨?_, ?_⟩
    · rintro ⟨before, n, behind, hbefore, hbehind, rfl⟩
      exact hblank (settled_of_run hbefore hbehind n)
    · rcases exists_semicolon htail hblank with ⟨gap, rest, hgap, hsettled⟩
      refine ⟨gap, rest, hgap, hsettled, ?_⟩
      -- what is left has the same first character, as only the end has been cut off
      rcases settled_isPrefix tail with ⟨cut, hcut⟩
      rw [← hcut, hsettled]
      cases gap with
      | nil =>
          have hsemicolon : isBlank ';' = false := by decide
          simp [hsemicolon]
      | cons c gap => simp [hgap c (List.mem_cons_self ..)]

/-! ## The words of a text -/

theorem takeWhile_semicolon (rest : List Char) :
    (';' :: rest).takeWhile isSolid = ';' :: rest.takeWhile isSolid :=
  List.takeWhile_cons_of_pos (by decide)

theorem upper_semicolon (cs : List Char) : Control.upper (';' :: cs) = ";" ++ Control.upper cs := by
  rw [Control.upper, Control.upper, List.map_cons, ← List.singleton_append, String.ofList_append]
  rfl

/-- A semicolon that follows no word begins one. -/
theorem exists_semicolonWord (cs : List Char) : ∃ rest more,
    (blankWords (';' :: cs)).map Control.upper = (";" ++ rest) :: more := by
  have hword : IsWord [';'] := ⟨List.cons_ne_nil _ _, List.forall_mem_singleton.2 (by decide)⟩
  refine ⟨Control.upper (cs.takeWhile isSolid),
    (blankWords (cs.dropWhile isSolid)).map Control.upper, ?_⟩
  rw [← List.singleton_append, blankWords_append hword, List.map_cons, List.singleton_append,
    upper_semicolon]

namespace EndStatement

variable {s : EndStatement} {tail : List Char} {sql : String}

/-- The words of a text are those of the statement if the semicolons stand together. Otherwise the
first semicolon that is not cut off begins a word of its own or goes on in the last one. -/
theorem IsWritten.words_cases (h : s.IsWritten tail sql) :
    (InOneRun tail ∧ Control.words sql = s.words) ∨
    (¬ InOneRun tail ∧ (∃ c ∈ tail.head?, isBlank c = true) ∧
      ∃ rest more, Control.words sql = s.words ++ (";" ++ rest) :: more) ∨
    (¬ InOneRun tail ∧ (¬ ∃ c ∈ tail.head?, isBlank c = true) ∧
      ∃ front last rest more, s.words = front ++ [last] ∧
        Control.words sql = front ++ (last ++ (";" ++ rest)) :: more) := by
  rcases h with ⟨lead, core, hsql, hlead, hcore, htail⟩
  -- what is in front of the words is cut off, and so is a part of what is behind them
  have hsplit : Control.words sql =
      (blankWords (core ++ Control.settled tail)).map Control.upper := by
    rw [← Control.words_append hlead (hcore.isCore s.isKeyword_of_mem), ← hsql,
      String.ofList_toList]
  rw [hsplit]
  rcases Control.settled_cases htail with
    ⟨hrun, hblank⟩ | ⟨hrun, gap, rest, hgap, hsettled, hbegins⟩
  -- only blanks are left, and no word is made of them
  · have hsetOff : Control.IsSetOff (Control.settled tail) :=
      fun c hc => hblank c (List.mem_of_head? hc)
    refine .inl ⟨hrun, ?_⟩
    rw [blankWords_append_of_blank hsetOff, blankWords_of_blanks hblank, List.append_nil,
      hcore.words_eq s.isKeyword_of_mem]
  · cases gap with
    | nil =>
        -- the semicolon follows the last word directly
        rcases hcore.words_append s.isKeyword_of_mem (';' :: rest) with
          ⟨front, last, hwords, hbehind⟩
        rw [takeWhile_semicolon, upper_semicolon] at hbehind
        rw [hsettled, List.nil_append]
        exact .inr (.inr ⟨hrun, fun hblank => hbegins.2 hblank rfl, front, last, _, _, hwords,
          hbehind⟩)
    | cons c gap =>
        -- a blank stands between the last word and the semicolon
        have hsetOff : Control.IsSetOff (c :: gap ++ ';' :: rest) := by
          intro x hx
          cases hx
          exact hgap c (List.mem_cons_self ..)
        rcases exists_semicolonWord rest with ⟨word, more, hword⟩
        refine .inr (.inl ⟨hrun, hbegins.1 (List.cons_ne_nil c gap), word, more, ?_⟩)
        rw [hsettled, blankWords_append_of_blank hsetOff, blankWords_blanks hgap, List.map_append,
          hcore.words_eq s.isKeyword_of_mem, hword]

/-! ## Which texts a harness knows -/

/-- The texts that a harness knows: those in which the semicolons stand together and no other
transaction is spoken of, ABORT apart; and those of COMMIT and END that have a noun which no
semicolon follows. -/
def IsRecognised (s : EndStatement) (tail : List Char) : Prop :=
  (s.verb ≠ .abort ∧ s.chain = none ∧ InOneRun tail) ∨
    (s.verb.Commits ∧ s.noun ≠ none ∧ (s.chain ≠ none ∨ ∃ c ∈ tail.head?, isBlank c = true))

theorem ofWords?_words (s : EndStatement) : Control.ofWords? s.words =
    if (s.verb ≠ .abort ∧ s.chain = none) ∨ (s.verb.Commits ∧ s.noun ≠ none) then
      some s.verb.control
    else none := by
  rcases s with ⟨verb, noun, chain⟩
  cases verb <;> rcases noun with _ | (_ | _) <;> rcases chain with _ | (_ | _) <;> decide

/-- A word with a semicolon in it is none of those that are compared with. -/
def IsForeign (word : String) : Prop :=
  ';' ∈ word.toList

theorem IsForeign.ne {word keyword : String} (h : IsForeign word) (hkeyword : IsKeyword keyword) :
    word ≠ keyword := by
  rintro rfl
  have hupper := hkeyword.2 ';' h
  revert hupper
  decide

/-- A verb and a noun with anything behind them. -/
theorem ofWords?_noun (verb : EndVerb) (noun : EndNoun) (word : String) (more : List String) :
    Control.ofWords? (verb.word :: noun.word :: word :: more) =
      if verb.Commits then some verb.control else none := by
  cases verb <;> cases noun <;> rfl

/-- A verb with a word behind it that is no noun. -/
theorem ofWords?_verb (verb : EndVerb) {word : String} (hwork : word ≠ "WORK")
    (htransaction : word ≠ "TRANSACTION") (more : List String) :
    Control.ofWords? (verb.word :: word :: more) = none := by
  cases verb <;> simp [EndVerb.word, Control.ofWords?, hwork, htransaction]

theorem ofWords?_foreign {word : String} (hword : IsForeign word) (more : List String) :
    Control.ofWords? (word :: more) = none := by
  have hbegin : word ≠ "BEGIN" := hword.ne (by decide)
  have hstart : word ≠ "START" := hword.ne (by decide)
  have hcommit : word ≠ "COMMIT" := hword.ne (by decide)
  have hend : word ≠ "END" := hword.ne (by decide)
  have hrollback : word ≠ "ROLLBACK" := hword.ne (by decide)
  simp [Control.ofWords?, hbegin, hstart, hcommit, hend, hrollback]

/-- A noun of COMMIT or END is compared with, and nothing behind it. -/
theorem ofWords?_behind (s : EndStatement) {word : String} (hword : IsForeign word)
    (more : List String) :
    Control.ofWords? (s.words ++ word :: more) =
      if s.verb.Commits ∧ s.noun ≠ none then some s.verb.control else none := by
  rcases s with ⟨verb, _ | noun, chain⟩
  · rw [if_neg (by simp)]
    rcases chain with _ | (_ | _)
    · exact ofWords?_verb verb (hword.ne (by decide)) (hword.ne (by decide)) more
    · exact ofWords?_verb verb (by decide) (by decide) _
    · exact ofWords?_verb verb (by decide) (by decide) _
  · simp only [ne_eq, reduceCtorEq, not_false_eq_true, and_true]
    rcases chain with _ | (_ | _) <;> exact ofWords?_noun verb noun _ _

/-- If the last word is spoilt, then the noun is compared with only if it is not the last word. -/
theorem ofWords?_spoilt (s : EndStatement) {word : String} (hword : IsForeign word)
    (more : List String) :
    Control.ofWords? (s.words.dropLast ++ word :: more) =
      if s.verb.Commits ∧ s.noun ≠ none ∧ s.chain ≠ none then some s.verb.control else none := by
  rcases s with ⟨verb, _ | noun, chain⟩
  · rw [if_neg (by simp)]
    rcases chain with _ | (_ | _)
    · exact ofWords?_foreign hword more
    · exact ofWords?_verb verb (by decide) (by decide) _
    · exact ofWords?_verb verb (by decide) (by decide) _
  · rcases chain with _ | (_ | _)
    · rw [if_neg (by simp)]
      exact ofWords?_verb verb (hword.ne (by decide)) (hword.ne (by decide)) more
    · simp only [ne_eq, reduceCtorEq, not_false_eq_true, and_true]
      exact ofWords?_noun verb noun _ _
    · simp only [ne_eq, reduceCtorEq, not_false_eq_true, and_true]
      exact ofWords?_noun verb noun _ _

/-- The texts that a harness knows, by what is left of their ends. -/
theorem isRecognised_iff_of_run (hrun : InOneRun tail) : s.IsRecognised tail ↔
    (s.verb ≠ .abort ∧ s.chain = none) ∨ (s.verb.Commits ∧ s.noun ≠ none) := by
  constructor
  · rintro (⟨hverb, hchain, _⟩ | ⟨hverb, hnoun, _⟩)
    · exact .inl ⟨hverb, hchain⟩
    · exact .inr ⟨hverb, hnoun⟩
  · rintro (⟨hverb, hchain⟩ | ⟨hverb, hnoun⟩)
    · exact .inl ⟨hverb, hchain, hrun⟩
    · -- with a noun, COMMIT and END are known whether or not another transaction is spoken of
      by_cases hchain : s.chain = none
      · exact .inl ⟨hverb.ne_abort, hchain, hrun⟩
      · exact .inr ⟨hverb, hnoun, .inl hchain⟩

theorem isRecognised_iff_of_not_run (hrun : ¬ InOneRun tail) : s.IsRecognised tail ↔
    s.verb.Commits ∧ s.noun ≠ none ∧ (s.chain ≠ none ∨ ∃ c ∈ tail.head?, isBlank c = true) :=
  or_iff_right fun h => hrun h.2.2

theorem control_cases {p q : Prop} [Decidable q] (h : p ↔ q) (control : Control) :
    (p ∧ (if q then some control else none) = some control) ∨
      (¬ p ∧ (if q then some control else none) = none) := by
  by_cases hp : p
  · exact .inl ⟨hp, if_pos (h.1 hp)⟩
  · exact .inr ⟨hp, if_neg (mt h.2 hp)⟩

/-- What a harness takes the text of a statement for. -/
theorem IsWritten.of?_cases (h : s.IsWritten tail sql) :
    (s.IsRecognised tail ∧ Control.of? sql = some s.verb.control) ∨
      (¬ s.IsRecognised tail ∧ Control.of? sql = none) := by
  rcases h.words_cases with ⟨hrun, hwords⟩ | ⟨hrun, hbegins, rest, more, hwords⟩ |
    ⟨hrun, hbegins, front, last, rest, more, hsplit, hwords⟩
  · rw [Control.of?, hwords, ofWords?_words]
    exact control_cases (isRecognised_iff_of_run hrun) _
  · rw [Control.of?, hwords, ofWords?_behind s (by simp [IsForeign])]
    refine control_cases ((isRecognised_iff_of_not_run hrun).trans ?_) _
    simp only [hbegins, or_true, and_true]
  · have hfront : front = s.words.dropLast := by rw [hsplit, List.dropLast_concat]
    rw [Control.of?, hwords, hfront, ofWords?_spoilt s (by simp [IsForeign])]
    refine control_cases ((isRecognised_iff_of_not_run hrun).trans ?_) _
    simp only [hbegins, or_false]

end EndStatement

/-! ## What a harness sends -/

namespace Harness

variable {σ : Type}

/-- A statement that is known to end a transaction is redirected to the innermost savepoint. -/
theorem redirect_end {h : Harness σ} (hactive : h.active = true) {sql : String} {verb : EndVerb}
    (hknown : Control.of? sql = some verb.control) : h.redirect sql =
      match h.savepoints with
      | [] => (none, h)
      | name :: rest => (some (verb.savepointSql name), { h with savepoints := rest }) := by
  cases verb with
  | commit => exact redirect_commit hactive hknown
  | finish => exact redirect_commit hactive hknown
  | rollback => exact redirect_rollback hactive hknown
  | abort => exact redirect_rollback hactive hknown

/-- A text that is not recognised ends the outer transaction of a database that takes it for what it
is: what has been done in a rehearsal is committed, or what comes after it is not rolled back any
more. -/
theorem idle_of_not_recognised {S : Type} {dialect : Dialect} {engine : Engine S}
    {h : Harness (Database S)} (hactive : h.active = true) {committed store : S}
    {savepoints : Savepoints S} (hopen : h.connection = Database.busy committed store savepoints)
    {c : Call} {s : EndStatement} {tail : List Char} (hwritten : s.IsWritten tail c.sql)
    (hrecognised : ¬ s.IsRecognised tail)
    (hcommand : dialect.command? c.sql = some s.verb.command) :
    ((Database.driver dialect engine).harnessed.query c h).2.connection =
      Database.idle (if s.verb.Commits then store else committed) := by
  -- a text that is not recognised is passed on, and the database does what it says
  have hunknown : Control.of? c.sql = none := by
    rcases hwritten.of?_cases with ⟨hknown, _⟩ | ⟨_, hunknown⟩
    · exact absurd hknown hrecognised
    · exact hunknown
  have hquery : (Database.driver dialect engine).harnessed.query c h =
      h.onConnection ((Database.driver dialect engine).query c) := by
    simp only [Driver.harnessed, redirect_other hactive hunknown]
  rw [hquery, onConnection, hopen, Database.query_of_command hcommand]
  cases s.verb <;> rfl

/-- **What is sent for the end of a transaction.** An active harness sends the end of its innermost
savepoint, or nothing if it has none, just for those texts that it recognises; every other text of a
statement that ends a transaction is sent as it is. -/
theorem forwards_end (d : Driver σ) (h : Harness (Watched σ)) (hactive : h.active = true) (c : Call)
    (s : EndStatement) (tail : List Char) (hwritten : s.IsWritten tail c.sql) :
    let h' := (d.watched.harnessed.query c h).2
    ∃ sent, h'.connection.turns = h.connection.turns ++ sent ∧
      (s.IsRecognised tail →
        (h.savepoints = [] ∧ sent = []) ∨
        ∃ name rest, h.savepoints = name :: rest ∧
          sent.map Turn.call = [⟨s.verb.savepointSql name, c.params⟩]) ∧
      (¬ s.IsRecognised tail → sent.map Turn.call = [c]) := by
  intro h'
  -- what reaches the connection is what the statement has been redirected to
  have hturns : ∀ sql? h'', h.redirect c.sql = (sql?, h'') → h''.connection = h.connection →
      ∃ sent, h'.connection.turns = h.connection.turns ++ sent ∧
        sent.map Turn.call = sql?.toList.map fun sql => ⟨sql, c.params⟩ := by
    intro sql? h'' hredirect hconnection
    refine ⟨_, (leads_of_redirect hredirect hconnection).turns_eq, ?_⟩
    rw [List.map_map]
    rfl
  rcases hwritten.of?_cases with ⟨hrecognised, hknown⟩ | ⟨hrecognised, hknown⟩
  · have hredirect := redirect_end hactive hknown
    cases hsavepoints : h.savepoints with
    | nil =>
        rw [hsavepoints] at hredirect
        rcases hturns _ _ hredirect rfl with ⟨sent, heq, hcalls⟩
        exact ⟨sent, heq, fun _ => .inl ⟨rfl, List.map_eq_nil_iff.1 hcalls⟩,
          fun h => absurd hrecognised h⟩
    | cons name rest =>
        rw [hsavepoints] at hredirect
        rcases hturns _ _ hredirect rfl with ⟨sent, heq, hcalls⟩
        exact ⟨sent, heq, fun _ => .inr ⟨name, rest, rfl, hcalls⟩, fun h => absurd hrecognised h⟩
  · rcases hturns _ _ (redirect_other hactive hknown) rfl with ⟨sent, heq, hcalls⟩
    exact ⟨sent, heq, fun h => absurd h hrecognised, fun _ => hcalls⟩

theorem forwards_end_commitWork :
    let h : Harness (Watched Recorder) := ⟨true, ["t1"], 1, .fresh {}⟩
    let s : EndStatement := ⟨.commit, some .work, none⟩
    s.IsWritten [';', ' '] "Commit\twork; " ∧
      (Recorder.driver.watched.harnessed.query ⟨"Commit\twork; ", []⟩ h).2.connection.turns.map
        Turn.call = [⟨"RELEASE SAVEPOINT t1", []⟩] := by
  intro h s
  have hwritten : s.IsWritten [';', ' '] "Commit\twork; " := by
    have hblank : ∀ c ∈ "\t".toList, isBlank c = true := List.forall_mem_singleton.2 (by decide)
    have htail : ∀ c ∈ [';', ' '], isBlank c = true ∨ c = ';' :=
      List.forall_mem_cons.2 ⟨.inr rfl, List.forall_mem_singleton.2 (.inl (by decide))⟩
    refine ⟨[], "Commit".toList ++ ("\t".toList ++ "work".toList), by decide, by simp, ?_, htail⟩
    exact .cons (by decide) (by decide) hblank (.last (by decide))
  have hrecognised : s.IsRecognised [';', ' '] :=
    .inl ⟨by decide, rfl, [], 1, [' '], by simp, List.forall_mem_singleton.2 (by decide), rfl⟩
  refine ⟨hwritten, ?_⟩
  rcases forwards_end Recorder.driver h rfl ⟨"Commit\twork; ", []⟩ s _ hwritten with
    ⟨sent, hturns, hsent, _⟩
  rcases hsent hrecognised with ⟨hnone, _⟩ | ⟨name, rest, hsavepoints, hcalls⟩
  · cases hnone
  · cases hsavepoints
    rw [hturns]
    exact hcalls

/-- An ABORT that is sent in a harness which has just been started reaches the connection. -/
theorem abort_forwarded :
    let h := ((⟨false, [], 0, {}⟩ : Harness Recorder).start Recorder.driver).2
    EndStatement.IsWritten ⟨.abort, none, none⟩ [] "ABORT" ∧ h.active = true ∧
      (Recorder.driver.harnessed.query ⟨"ABORT", []⟩ h).2.connection.calls.map Call.sql =
        ["BEGIN", "ABORT"] := by
  intro h
  refine ⟨⟨[], "ABORT".toList, rfl, by simp, .last (by decide), by simp⟩, rfl, ?_⟩
  decide +kernel

end Harness
end ParamSql
