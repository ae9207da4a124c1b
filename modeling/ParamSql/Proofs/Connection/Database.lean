import ParamSql.Proofs.Connection.Control

/-!
# Database — transactions and savepoints where they are carried out

A database has a store that is committed, and at most one open transaction with a store of its own
and a stack of savepoints, each with the store as it was.  The commands are those of PostgreSQL: a
released savepoint goes with the later ones, and one that is rolled back to stays while the later
ones go.

* `TransactionCommand`, `Dialect` — the commands, and how a database reads them in statements;
* `Engine` — what other statements do to a store;
* `Database`, `Database.driver` — a database, and the connection to it;
* `Dialect.plain`, `Engine.journal` — a dialect in which commands are written in upper case, and a
  store.
-/

namespace ParamSql

/-! ## Commands -/

/-- A statement that controls transactions, as a database understands it. -/
inductive TransactionCommand
  | begin
  | commit
  | rollback
  | savepoint (name : String)
  | release (name : String)
  | rollbackTo (name : String)
  deriving DecidableEq, Repr

/-- A letter and a number, which is a name in every dialect. -/
def IsPlainName (name : String) : Prop :=
  ∃ (letter : Char) (k : Nat), letter.isLower = true ∧
    name = String.singleton letter ++ toString k

theorem Transaction.isPlainName_nameAt (k : Nat) : IsPlainName (nameAt k) :=
  ⟨'s', k, by decide, rfl⟩

/-- How a database reads statements: which of them control transactions is its own affair, except
that it knows those that are written in the usual way. -/
structure Dialect where
  command? : String → Option TransactionCommand
  command?_begin : ∀ options : TransactionOptions, command? options.sql = some .begin
  command?_commit : command? "COMMIT" = some .commit
  command?_rollback : command? "ROLLBACK" = some .rollback
  command?_savepoint : ∀ name, IsPlainName name →
    command? ("SAVEPOINT " ++ name) = some (.savepoint name)
  command?_release : ∀ name, IsPlainName name →
    command? ("RELEASE SAVEPOINT " ++ name) = some (.release name)
  command?_rollbackTo : ∀ name, IsPlainName name →
    command? ("ROLLBACK TO SAVEPOINT " ++ name) = some (.rollbackTo name)

/-! ## Stores -/

/-- What statements that do not control transactions do: they have a reply and change the store, or
they fail and leave it as it is. -/
abbrev Engine (S : Type) := Call → S → Except Error (Reply × S)

namespace Engine

variable {S : Type}

/-- The store behind a statement. -/
def apply (engine : Engine S) (s : S) (c : Call) : S :=
  match engine c s with
  | .ok (_, s') => s'
  | .error _ => s

/-- The store behind statements, one after the other. -/
def applyAll (engine : Engine S) (cs : List Call) (s : S) : S :=
  cs.foldl engine.apply s

@[simp] theorem applyAll_nil (engine : Engine S) (s : S) : engine.applyAll [] s = s := rfl

@[simp] theorem applyAll_cons (engine : Engine S) (c : Call) (cs : List Call) (s : S) :
    engine.applyAll (c :: cs) s = engine.applyAll cs (engine.apply s c) := rfl

theorem applyAll_append (engine : Engine S) (cs cs' : List Call) (s : S) :
    engine.applyAll (cs ++ cs') s = engine.applyAll cs' (engine.applyAll cs s) :=
  List.foldl_append

end Engine

/-- The savepoints of a transaction with the stores at them, the latest first. -/
abbrev Savepoints (S : Type) := List (String × S)

/-- The store at the latest savepoint of a name, and the savepoints that are earlier. -/
def Savepoints.seek {S : Type} (name : String) : Savepoints S → Option (S × Savepoints S)
  | [] => none
  | (n, s) :: earlier => if n = name then some (s, earlier) else seek name earlier

/-- An open transaction: the store as it sees it, and its savepoints. -/
structure OpenTransaction (S : Type) where
  store : S
  savepoints : Savepoints S

/-- A committed store, and the transaction that is open. -/
structure Database (S : Type) where
  committed : S
  transaction : Option (OpenTransaction S)

namespace Database

variable {S : Type}

/-- A database in which no transaction is open. -/
def idle (s : S) : Database S :=
  ⟨s, none⟩

/-- A database with an open transaction. -/
def busy (committed store : S) (savepoints : Savepoints S) : Database S :=
  ⟨committed, some ⟨store, savepoints⟩⟩

/-- The failure of a command that is for transactions only. -/
def outside : Error :=
  .query (.server "25P01" "there is no transaction in progress")

/-- The failure of a command for a savepoint that is not there. -/
def missing : Error :=
  .query (.server "3B001" "savepoint does not exist")

/-- Carries out a command. A transaction is not begun twice, and none that is not open is ended, but
neither is a failure. -/
def obey : TransactionCommand → Database S → Except Error Reply × Database S
  | .begin, db =>
      match db.transaction with
      | none => (.ok .empty, busy db.committed db.committed [])
      | some _ => (.ok .empty, db)
  | .commit, db =>
      match db.transaction with
      | none => (.ok .empty, db)
      | some t => (.ok .empty, idle t.store)
  | .rollback, db => (.ok .empty, idle db.committed)
  | .savepoint name, db =>
      match db.transaction with
      | none => (.error outside, db)
      | some t => (.ok .empty, busy db.committed t.store ((name, t.store) :: t.savepoints))
  | .release name, db =>
      match db.transaction with
      | none => (.error outside, db)
      | some t =>
          match t.savepoints.seek name with
          | none => (.error missing, db)
          | some (_, earlier) => (.ok .empty, busy db.committed t.store earlier)
  | .rollbackTo name, db =>
      match db.transaction with
      | none => (.error outside, db)
      | some t =>
          match t.savepoints.seek name with
          | none => (.error missing, db)
          | some (s, earlier) => (.ok .empty, busy db.committed s ((name, s) :: earlier))

/-- Carries out another statement, in the open transaction if there is one. -/
def execute (engine : Engine S) (c : Call) (db : Database S) : Except Error Reply × Database S :=
  match db.transaction with
  | none =>
      match engine c db.committed with
      | .ok (reply, s) => (.ok reply, idle s)
      | .error e => (.error e, db)
  | some t =>
      match engine c t.store with
      | .ok (reply, s) => (.ok reply, busy db.committed s t.savepoints)
      | .error e => (.error e, db)

/-- The connection to a database. What is open is lost when the connection is closed. -/
def driver (dialect : Dialect) (engine : Engine S) : Driver (Database S) where
  query c db :=
    match dialect.command? c.sql with
    | some command => db.obey command
    | none => db.execute engine c
  close db := (.ok (), idle db.committed)
  trace _ db := db

/-! ## What statements do in an open transaction -/

section Busy

variable {dialect : Dialect} {engine : Engine S} {committed store : S} {savepoints : Savepoints S}

theorem trace_eq (e : Event) (db : Database S) : (driver dialect engine).trace e db = db := rfl

theorem query_of_command {c : Call} {command : TransactionCommand}
    (h : dialect.command? c.sql = some command) (db : Database S) :
    (driver dialect engine).query c db = db.obey command := by
  simp only [driver, h]

/-- The store that another statement leaves, whether or not it fails. -/
theorem query_of_none {c : Call} (h : dialect.command? c.sql = none) :
    ((driver dialect engine).query c (busy committed store savepoints)).2 =
      busy committed (engine.apply store c) savepoints := by
  simp only [driver, h, execute, busy, Engine.apply]
  cases engine c store with
  | ok result => rfl
  | error e => rfl

end Busy

/-- A savepoint is found behind later ones of other names. -/
theorem seek_append {name : String} {later : Savepoints S} (h : ∀ sp ∈ later, sp.1 ≠ name) (s : S)
    (earlier : Savepoints S) :
    (later ++ (name, s) :: earlier).seek name = some (s, earlier) := by
  induction later with
  | nil => simp [Savepoints.seek]
  | cons sp later ih =>
      rcases List.forall_mem_cons.1 h with ⟨hsp, hlater⟩
      simp only [List.cons_append, Savepoints.seek, if_neg hsp]
      exact ih hlater

end Database

/-! ## Examples of a database -/

/-- The store that remembers the statements which have changed it. -/
def Engine.journal : Engine (List String) := fun c s => .ok (.empty, s ++ [c.sql])

namespace Dialect

open Text

/-- The command of words. -/
def ofWords? : List String → Option TransactionCommand
  | "BEGIN" :: _ => some .begin
  | ["COMMIT"] => some .commit
  | ["ROLLBACK"] => some .rollback
  | ["SAVEPOINT", name] => some (.savepoint name)
  | ["RELEASE", "SAVEPOINT", name] => some (.release name)
  | ["ROLLBACK", "TO", "SAVEPOINT", name] => some (.rollbackTo name)
  | _ => none

/-- The words of a statement. -/
def words (sql : String) : List String :=
  (blankWords sql.toList).map String.ofList

theorem isWord_of_isPlainName {name : String} (h : IsPlainName name) : IsWord name.toList := by
  rcases h with ⟨letter, k, hlower, rfl⟩
  have hrange : 97 ≤ letter.toNat ∧ letter.toNat ≤ 122 := by
    have hbounds : ('a' ≤ letter && letter ≤ 'z') = true := hlower
    simpa [Char.le_def, UInt32.le_iff_toNat_le] using hbounds
  refine isWord_numbered ?_ k
  intro c hc
  have hletter : c = letter := by simpa using hc
  rw [hletter]
  exact isBlank_eq_false (by omega) (by omega)

/-- A plain name behind a verb is one word. -/
theorem words_of_isPlainName {sql name : String} (verb : String) (h : IsPlainName name)
    (hsql : sql.toList = verb.toList ++ ' ' :: name.toList) :
    words sql = words verb ++ [name] := by
  have hblank : ∀ c ∈ [' '], isBlank c = true := List.forall_mem_singleton.2 (by decide)
  calc
    words sql
        = (blankWords (verb.toList ++ ' ' :: name.toList)).map String.ofList := by
          rw [words, hsql]
    _ = words verb ++ (blankWords ([' '] ++ name.toList)).map String.ofList := by
          rw [blankWords_append_of_blank (Control.isSetOff_blank _), List.map_append]
          rfl
    _ = words verb ++ [name] := by
          rw [blankWords_blanks hblank, blankWords_word (isWord_of_isPlainName h)]
          simp

/-- The dialect that knows commands in upper case. -/
def plain : Dialect where
  command? sql := ofWords? (words sql)
  command?_begin options := by
    rcases Control.exists_options options with ⟨rest, hsql, hrest⟩
    rw [words, hsql, blankWords_append_of_blank hrest, List.map_append]
    rfl
  command?_commit := by decide
  command?_rollback := by decide
  command?_savepoint name h := by
    rw [words_of_isPlainName "SAVEPOINT" h (by simp)]
    rfl
  command?_release name h := by
    rw [words_of_isPlainName "RELEASE SAVEPOINT" h (by simp)]
    rfl
  command?_rollbackTo name h := by
    rw [words_of_isPlainName "ROLLBACK TO SAVEPOINT" h (by simp)]
    rfl

end Dialect
end ParamSql
