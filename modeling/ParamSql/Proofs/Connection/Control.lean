import Mathlib.Data.List.TakeWhile
import ParamSql.Connection.Harness
import ParamSql.Proofs.Connection.Body
import ParamSql.Proofs.Text.Blank

/-!
# Control — which statements a harness knows

* `Control.settled` — what is left of the end of a statement when blanks and semicolons are cut off;
* `Control.words_append` — the words of a statement with anything behind it;
* `Control.of?_begin`, `Control.of?_savepoint` and the like — the verbs of transactions are known,
  those of savepoints are not;
* `Harness.redirect_begin` and the like — what an active harness sends, by what it knows of a
  statement.
-/

namespace ParamSql
namespace Control

open Text

/-! ## Words -/

/-- A word as it is compared. -/
def upper (w : List Char) : String :=
  String.ofList (w.map Char.toUpper)

/-- The end of a statement without the blanks behind it, and then without the semicolons. -/
def settled (rest : List Char) : List Char :=
  ((rest.reverse.dropWhile isBlank).dropWhile fun c => c = ';').reverse

theorem settled_isPrefix (rest : List Char) : settled rest <+: rest := by
  have hsuffix : (rest.reverse.dropWhile isBlank).dropWhile (fun c => c = ';') <:+ rest.reverse :=
    (List.dropWhile_suffix _).trans (List.dropWhile_suffix _)
  have hprefix := List.reverse_prefix.2 hsuffix
  rwa [List.reverse_reverse] at hprefix

/-- A text whose first character is kept when blanks are cut off in front, and whose last one is
kept when blanks and semicolons are cut off behind. -/
structure IsCore (core : List Char) : Prop where
  ne_nil : core ≠ []
  first : ∀ c ∈ core.head?, isBlank c = false
  last : ∀ c ∈ core.getLast?, isBlank c = false ∧ c ≠ ';'

theorem isCore_iff {core : List Char} : IsCore core ↔ core ≠ [] ∧
    core.head?.all (fun c => !isBlank c) = true ∧
      core.getLast?.all (fun c => !isBlank c && c != ';') = true := by
  constructor
  · rintro ⟨hne, hfirst, hlast⟩
    refine ⟨hne, ?_, ?_⟩
    · simpa [Option.all_eq_true] using hfirst
    · simpa [Option.all_eq_true] using hlast
  · rintro ⟨hne, hfirst, hlast⟩
    refine ⟨hne, ?_, ?_⟩
    · simpa [Option.all_eq_true] using hfirst
    · simpa [Option.all_eq_true] using hlast

instance (core : List Char) : Decidable (IsCore core) :=
  decidable_of_iff _ isCore_iff.symm

theorem dropWhile_append_of_head {α : Type} {p : α → Bool} {behind : List α}
    (h : ∀ c ∈ behind.head?, p c = false) (cs : List α) :
    (cs ++ behind).dropWhile p = cs.dropWhile p ++ behind := by
  induction cs with
  | nil =>
      cases behind with
      | nil => rfl
      | cons c behind =>
          have hc : p c = false := h c rfl
          simp [hc]
  | cons c cs ih =>
      cases hc : p c with
      | true => simp [hc, ih]
      | false => simp [hc]

/-- The words of a statement with blanks in front and anything behind. -/
theorem words_append {lead core : List Char} (hlead : ∀ c ∈ lead, isBlank c = true)
    (hcore : IsCore core) (rest : List Char) :
    words (String.ofList (lead ++ (core ++ rest))) =
      (blankWords (core ++ settled rest)).map upper := by
  have hfirst : ∀ c ∈ (core ++ rest).head?, isBlank c = false := by
    cases core with
    | nil => exact absurd rfl hcore.ne_nil
    | cons c core => exact hcore.first
  have hback : ∀ c ∈ core.reverse.head?, isBlank c = false ∧ (decide (c = ';')) = false := by
    intro c hc
    rcases hcore.last c (by simpa using hc) with ⟨hblank, hsemicolon⟩
    exact ⟨hblank, decide_eq_false hsemicolon⟩
  -- the core stops what is cut off in front, and what is cut off behind
  have hfront : (lead ++ (core ++ rest)).dropWhile isBlank = core ++ rest := by
    rw [dropWhile_append_of_head hfirst, List.dropWhile_eq_nil_iff.2 hlead, List.nil_append]
  have htrim : trim (lead ++ (core ++ rest)) =
      (rest.reverse.dropWhile isBlank ++ core.reverse).reverse := by
    rw [trim, hfront, List.reverse_append,
      dropWhile_append_of_head fun c hc => (hback c hc).1]
  have hcut : ((trim (lead ++ (core ++ rest))).reverse.dropWhile fun c => c = ';').reverse =
      core ++ settled rest := by
    rw [htrim, List.reverse_reverse, dropWhile_append_of_head fun c hc => (hback c hc).2,
      List.reverse_append, List.reverse_reverse]
    rfl
  rw [words, String.toList_ofList, hcut]
  rfl

/-- A text that is empty or begins with a blank. -/
def IsSetOff (cs : List Char) : Prop :=
  ∀ c ∈ cs.head?, isBlank c = true

instance (cs : List Char) : Decidable (IsSetOff cs) :=
  decidable_of_iff (cs.head?.all isBlank = true) (by simp [IsSetOff, Option.all_eq_true])

theorem IsSetOff.append {cs cs' : List Char} (h : IsSetOff cs) (h' : IsSetOff cs') :
    IsSetOff (cs ++ cs') := by
  cases cs with
  | nil => exact h'
  | cons x xs => exact h

theorem isSetOff_blank (cs : List Char) : IsSetOff (' ' :: cs) := by
  intro c hc
  cases hc
  decide

/-- Nothing behind a blank changes the words before it. -/
theorem words_of_core {sql : String} {core rest : List Char} (hsql : sql.toList = core ++ rest)
    (hcore : IsCore core) (hrest : IsSetOff rest) :
    ∃ behind, words sql = (blankWords core).map upper ++ behind := by
  -- what is left of the rest begins as the rest does, or is empty
  have hsettled : ∀ c ∈ (settled rest).head?, isBlank c = true := by
    intro c hc
    rcases settled_isPrefix rest with ⟨cut, hcut⟩
    refine hrest c ?_
    rw [← hcut]
    cases hs : settled rest with
    | nil => simp [hs] at hc
    | cons x xs => simpa [hs] using hc
  have hlist : sql = String.ofList ([] ++ (core ++ rest)) := by
    rw [List.nil_append, ← hsql, String.ofList_toList]
  refine ⟨(blankWords (settled rest)).map upper, ?_⟩
  rw [hlist, words_append (by simp) hcore, blankWords_append_of_blank hsettled, List.map_append]

/-! ## Verbs -/

/-- Every option of a transaction is set off from what is before it by a blank. -/
theorem exists_options (options : TransactionOptions) :
    ∃ rest, options.sql.toList = "BEGIN".toList ++ rest ∧ IsSetOff rest := by
  have hparts : ∃ isolation access deferrable : String,
      options.sql = "BEGIN" ++ isolation ++ access ++ deferrable ∧ IsSetOff isolation.toList ∧
        IsSetOff access.toList ∧ IsSetOff deferrable.toList := by
    refine ⟨_, _, _, rfl, ?_, ?_, ?_⟩
    · rcases options.isolation with _ | (_ | _ | _ | _) <;> decide
    · rcases options.readOnly with _ | _ | _ <;> decide
    · rcases options.deferrable with _ | _ | _ <;> decide
  rcases hparts with ⟨isolation, access, deferrable, hsql, hisolation, haccess, hdeferrable⟩
  refine ⟨isolation.toList ++ (access.toList ++ deferrable.toList), ?_,
    hisolation.append (haccess.append hdeferrable)⟩
  rw [hsql]
  simp only [String.toList_append, List.append_assoc]

/-- The statement that opens a block is known if it begins a transaction. -/
theorem of?_begin (options : TransactionOptions) : of? options.sql = some .begin := by
  rcases exists_options options with ⟨rest, hsql, hrest⟩
  rcases words_of_core hsql (by decide) hrest with ⟨behind, hwords⟩
  rw [of?, hwords]
  rfl

theorem of?_commit : of? "COMMIT" = some .commit := by decide

theorem of?_rollback : of? "ROLLBACK" = some .rollback := by decide

/-- A statement is not known if it begins with words that are not, whatever comes behind them. -/
theorem of?_eq_none {sql : String} {core rest : List Char} (hsql : sql.toList = core ++ ' ' :: rest)
    (hcore : IsCore core)
    (hnone : ∀ behind, ofWords? ((blankWords core).map upper ++ behind) = none) :
    of? sql = none := by
  rcases words_of_core hsql hcore (isSetOff_blank rest) with ⟨behind, hwords⟩
  rw [of?, hwords, hnone]

theorem of?_savepoint (name : String) : of? ("SAVEPOINT " ++ name) = none := by
  have hsql : ("SAVEPOINT " ++ name).toList = "SAVEPOINT".toList ++ ' ' :: name.toList := by simp
  exact of?_eq_none hsql (by decide) fun _ => rfl

theorem of?_release (name : String) : of? ("RELEASE SAVEPOINT " ++ name) = none := by
  have hsql : ("RELEASE SAVEPOINT " ++ name).toList =
      "RELEASE SAVEPOINT".toList ++ ' ' :: name.toList := by simp
  exact of?_eq_none hsql (by decide) fun _ => rfl

theorem of?_rollbackTo (name : String) : of? ("ROLLBACK TO SAVEPOINT " ++ name) = none := by
  have hsql : ("ROLLBACK TO SAVEPOINT " ++ name).toList =
      "ROLLBACK TO SAVEPOINT".toList ++ ' ' :: name.toList := by simp
  exact of?_eq_none hsql (by decide) fun _ => rfl

end Control

/-! ## What a harness sends -/

namespace Harness

variable {σ : Type} {h : Harness σ} {sql : String}

theorem redirect_other (hactive : h.active = true) (hsql : Control.of? sql = none) :
    h.redirect sql = (some sql, h) := by
  simp [redirect, hactive, hsql]

theorem redirect_begin (hactive : h.active = true) (hsql : Control.of? sql = some .begin) :
    h.redirect sql = (some ("SAVEPOINT " ++ ("t" ++ toString (h.counter + 1))),
      { h with
        counter := h.counter + 1
        savepoints := ("t" ++ toString (h.counter + 1)) :: h.savepoints }) := by
  simp [redirect, hactive, hsql]

theorem redirect_commit (hactive : h.active = true) (hsql : Control.of? sql = some .commit) :
    h.redirect sql =
      match h.savepoints with
      | [] => (none, h)
      | name :: rest => (some ("RELEASE SAVEPOINT " ++ name), { h with savepoints := rest }) := by
  cases hsavepoints : h.savepoints <;> simp [redirect, hactive, hsql, hsavepoints]

theorem redirect_rollback (hactive : h.active = true) (hsql : Control.of? sql = some .rollback) :
    h.redirect sql =
      match h.savepoints with
      | [] => (none, h)
      | name :: rest =>
          (some ("ROLLBACK TO SAVEPOINT " ++ name), { h with savepoints := rest }) := by
  cases hsavepoints : h.savepoints <;> simp [redirect, hactive, hsql, hsavepoints]

end Harness
end ParamSql
