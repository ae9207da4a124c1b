import ParamSql.Proofs.Connection.Bracketing
import ParamSql.Proofs.Connection.Database

/-!
# Atomicity — nested transactions take effect as a whole or not at all

On a database, a savepoint that has been rolled back to stays while the transaction has forgotten
it, so that the two stacks differ. What is left there has names that have been given out and is
above all that was there before; the savepoint of a block is therefore found when the block ends.

* `Closes.leaves`, `Closes.ends` — the store and the savepoints behind the end of a nested
  transaction, and behind that of a whole one;
* `Body.Takes.leaves` — the store and the savepoints behind a course, by induction on it;
* `Transaction.run_atomic` — the store behind a whole transaction.
-/

namespace ParamSql

open Database

variable {S α : Type} {dialect : Dialect} {engine : Engine S} {committed store : S}
  {savepoints : Savepoints S}

/-- The body sends no statement that controls transactions. -/
def Body.IsOrdinary (dialect : Dialect) (body : Body α) : Prop :=
  body.Sends fun c => dialect.command? c.sql = none

/-- A whole transaction inside another one is begun by a statement that controls transactions. -/
theorem Body.not_isOrdinary_separate {β : Type} {options : TransactionOptions} {inner : Body β}
    {next : Outcome β → Body α} : ¬ (Body.separate options inner next).IsOrdinary dialect := by
  intro hordinary
  have hbegin : dialect.command? options.sql = none := hordinary.1
  rw [dialect.command?_begin] at hbegin
  cases hbegin

/-- `db.LeftBy k n committed store savepoints`: a transaction is still open; above the savepoints
there are only later ones, which have names between the `k`-th and the `n`-th. -/
def Database.LeftBy (db : Database S) (k n : Nat) (committed store : S)
    (savepoints : Savepoints S) : Prop :=
  ∃ later : Savepoints S, db = busy committed store (later ++ savepoints) ∧
    ∀ sp ∈ later, ∃ i, k < i ∧ i ≤ n ∧ sp.1 = Transaction.nameAt i

/-- The savepoint of a block is found behind those that have been named after it. -/
theorem Database.seek_nameAt {k n : Nat} {later : Savepoints S}
    (hlater : ∀ sp ∈ later, ∃ i, k < i ∧ i ≤ n ∧ sp.1 = Transaction.nameAt i) (store : S)
    (savepoints : Savepoints S) :
    (later ++ (Transaction.nameAt k, store) :: savepoints).seek (Transaction.nameAt k) =
      some (store, savepoints) := by
  refine seek_append ?_ store savepoints
  intro sp hsp heq
  rcases hlater sp hsp with ⟨i, hi, _, hname⟩
  have hsame : i = k := Transaction.nameAt_injective (hname.symm.trans heq)
  omega

/-- What is left above the old savepoints when a block has ended and others have followed it. -/
theorem Database.LeftBy.behind_block {db : Database S} {k n m : Nat} {store' : S}
    {above later : Savepoints S} (h : db.LeftBy n m committed store' (above ++ savepoints))
    (hlater : ∀ sp ∈ later, ∃ i, k + 1 < i ∧ i ≤ n ∧ sp.1 = Transaction.nameAt i)
    (habove : ∀ sp ∈ above, sp ∈ (Transaction.nameAt (k + 1), store) :: later) (hk : k + 1 ≤ n)
    (hn : n ≤ m) : db.LeftBy k m committed store' savepoints := by
  rcases h with ⟨later', rfl, hlater'⟩
  refine ⟨later' ++ above, by rw [List.append_assoc], fun sp hsp => ?_⟩
  -- what is above has been opened behind the block, or is left of it
  rcases List.mem_append.1 hsp with hsp | hsp
  · rcases hlater' sp hsp with ⟨i, hlow, hhigh, hname⟩
    exact ⟨i, by omega, by omega, hname⟩
  · rcases List.mem_cons.1 (habove sp hsp) with rfl | hsp
    · exact ⟨k + 1, by omega, by omega, rfl⟩
    · rcases hlater sp hsp with ⟨i, hlow, hhigh, hname⟩
      exact ⟨i, by omega, by omega, hname⟩

/-- The names that are given out by a block and behind it. -/
theorem Course.add_length_names_block (k : Nat) (name : String) (opened : Reply)
    (inner rest : Course) (ending : BlockEnd) :
    k + (Course.block (.savepoint name) opened inner ending rest).names.length =
      k + 1 + inner.names.length + rest.names.length := by
  simp only [names, List.length_cons, List.length_append]
  omega

/-- The first turn of a run on a database. -/
theorem Database.leads_cons {x : Turn} {xs : List Turn} {db db' : Database S}
    (h : (driver dialect engine).Leads db (x :: xs) db') :
    x.reply = ((driver dialect engine).query x.call db).1 ∧
      (driver dialect engine).Leads ((driver dialect engine).query x.call db).2 xs db' :=
  h.cons_inv Database.trace_eq

/-- The first turn of a run, if it is a command. -/
theorem Database.leads_command {x : Turn} {xs : List Turn} {db db' : Database S}
    {command : TransactionCommand} (hcommand : dialect.command? x.call.sql = some command)
    (h : (driver dialect engine).Leads db (x :: xs) db') :
    x.reply = (db.obey command).1 ∧ (driver dialect engine).Leads (db.obey command).2 xs db' := by
  have hfirst := leads_cons h
  rwa [query_of_command hcommand] at hfirst

theorem Database.leads_nil {db db' : Database S} (h : (driver dialect engine).Leads db [] db') :
    db' = db :=
  h.eq_of_nil Database.trace_eq

/-- What the end of a block leaves: the savepoint of the block has been found behind what was opened
in it, and the store is as it was before the block if the block has failed. -/
theorem Closes.leaves {ended closed : Outcome α} {ending : BlockEnd}
    (h : Closes ended ending closed) {name : String} (hname : IsPlainName name) {inside : S}
    {later : Savepoints S} {db : Database S}
    (hfound : (later ++ (name, store) :: savepoints).seek name = some (store, savepoints))
    (hleads : (driver dialect engine).Leads
      (busy committed inside (later ++ (name, store) :: savepoints))
      (ending.turns (.savepoint name)) db) :
    ∃ above : Savepoints S,
      db = busy committed (if ending.isFailure then store else inside) (above ++ savepoints) ∧
        ∀ sp ∈ above, sp ∈ (name, store) :: later := by
  have hrelease :
      (busy committed inside (later ++ (name, store) :: savepoints)).obey (.release name) =
      (.ok .empty, busy committed inside savepoints) := by
    simp only [obey, busy, hfound]
  have hrollback : (busy committed inside (later ++ (name, store) :: savepoints)).obey
      (.rollbackTo name) = (.ok .empty, busy committed store ((name, store) :: savepoints)) := by
    simp only [obey, busy, hfound]
  cases h with
  | kept a reply =>
      have hrest := (leads_command (dialect.command?_release name hname) hleads).2
      rw [hrelease] at hrest
      exact ⟨[], leads_nil hrest, by simp⟩
  | notKept a e =>
      -- the savepoint is there, so that it can be released
      have hreply := (leads_command (dialect.command?_release name hname) hleads).1
      rw [hrelease] at hreply
      cases hreply
  | undone e reply =>
      have hrest := (leads_command (dialect.command?_rollbackTo name hname) hleads).2
      rw [hrollback] at hrest
      exact ⟨[(name, store)], leads_nil hrest, by simp⟩
  | notUndone e rollback =>
      have hreply := (leads_command (dialect.command?_rollbackTo name hname) hleads).1
      rw [hrollback] at hreply
      cases hreply
  | left =>
      refine ⟨later ++ [(name, store)], ?_, ?_⟩
      · rw [leads_nil hleads]
        simp [BlockEnd.isFailure]
      · intro sp hsp
        simpa [or_comm] using hsp

/-- What the end of a whole transaction leaves. -/
theorem Closes.ends {ended closed : Outcome α} {ending : BlockEnd} (h : Closes ended ending closed)
    {options : TransactionOptions} {inside : S} {db : Database S}
    (hleads : (driver dialect engine).Leads (busy committed inside savepoints)
      (ending.turns (.begin options)) db) :
    (∀ a, closed = .done a → db = idle inside) ∧ ∀ e, closed = .failed e → db = idle committed := by
  cases h with
  | kept a reply =>
      have hrest := (leads_command dialect.command?_commit hleads).2
      exact ⟨fun _ _ => leads_nil hrest, by simp⟩
  | notKept a e =>
      have hreply := (leads_command dialect.command?_commit hleads).1
      cases hreply
  | undone e reply =>
      have hrest := (leads_command dialect.command?_rollback hleads).2
      exact ⟨by simp, fun _ _ => leads_nil hrest⟩
  | notUndone e rollback =>
      have hreply := (leads_command dialect.command?_rollback hleads).1
      cases hreply
  | left => exact ⟨by simp, by simp⟩

/-- What a course leaves of a database with an open transaction. -/
theorem Body.Takes.leaves {body : Body α} {enclosing : List String} {k : Nat} {course : Course}
    {outcome : Outcome α} (h : body.Takes enclosing k course outcome) :
    body.IsOrdinary dialect → ∀ {store : S} {savepoints : Savepoints S} {db : Database S},
      (driver dialect engine).Leads (busy committed store savepoints) course.turns db →
      db.LeftBy k (k + course.names.length) committed (engine.applyAll course.kept store)
        savepoints := by
  -- by induction on the course, from any store and savepoints on
  induction h with
  | ended outcome =>
      intro _ store savepoints db hleads
      exact ⟨[], leads_nil hleads, by simp⟩
  | @call α enclosing k c next rest outcome reply _ ih =>
      intro hordinary store savepoints db hleads
      rcases leads_cons hleads with ⟨_, hrest⟩
      rw [query_of_none hordinary.1] at hrest
      exact ih (hordinary.2 reply) hrest
  | look _ ih =>
      intro hordinary store savepoints db hleads
      exact ih (hordinary _) hleads
  | @nestedRefused α β enclosing k inner next rest outcome e _ ih =>
      intro _ store savepoints db hleads
      -- a savepoint can always be opened in an open transaction
      have hopens := dialect.command?_savepoint _ (Transaction.isPlainName_nameAt (k + 1))
      have hreply := (leads_command hopens hleads).1
      cases hreply
  | @nested α β enclosing k inner next course rest ended closed ending outcome opened _ hcloses _
      ihInner ihRest =>
      intro hordinary store savepoints db hleads
      rcases hleads.split with ⟨behind, hblock, hrest⟩
      let name : String := Transaction.nameAt (k + 1)
      have hname : IsPlainName name := Transaction.isPlainName_nameAt (k + 1)
      have hblock := (leads_command (dialect.command?_savepoint name hname) hblock).2
      rcases hblock.split with ⟨inside, hinner, hclosing⟩
      rcases ihInner hordinary.1 hinner with ⟨later, rfl, hlater⟩
      -- whatever is left of the body, the savepoint of the block is still there
      have hfound := seek_nameAt hlater store savepoints
      rcases hcloses.leaves hname hfound hclosing with
        ⟨above, rfl, habove⟩
      have hstore : (if ending.isFailure then store else engine.applyAll course.kept store) =
          engine.applyAll (if ending.isFailure then [] else course.kept) store := by
        cases ending.isFailure <;> rfl
      have hbehind := ihRest (hordinary.2 _) hrest
      rw [hstore, ← Engine.applyAll_append] at hbehind
      rw [Course.add_length_names_block, Course.kept]
      exact hbehind.behind_block hlater habove (by omega) (by omega)
  | separateRefused => exact fun hordinary => absurd hordinary Body.not_isOrdinary_separate
  | separate => exact fun hordinary => absurd hordinary Body.not_isOrdinary_separate

namespace Transaction

/-- What a transaction leaves of a database, if it sends no statement that controls transactions
apart from its own verbs and those of its nested transactions. If it comes to a result, then the
committed store is what the statements of its course make of the store in their order, those left
out that stand in a nested transaction which has come to an error; if it comes to an error, then the
store is as it was before. No transaction stays open. -/
theorem run_atomic (dialect : Dialect) (engine : Engine S) (options : TransactionOptions)
    (body : Body α) (hordinary : body.IsOrdinary dialect) (store : S) :
    let d := (Database.driver dialect engine).watched
    let result := run d options (body.run d) (.fresh (idle store))
    ∃ opened course ended ending, body.Takes [] 0 course ended ∧ Closes ended ending result.1 ∧
      result.2.turns =
        ⟨⟨options.sql, []⟩, .ok opened⟩ :: (course.turns ++ ending.turns (.begin options)) ∧
      (∀ a, result.1 = .done a → result.2.connection = idle (engine.applyAll course.kept store)) ∧
      ∀ e, result.1 = .failed e → result.2.connection = idle store := by
  intro d result
  have hbegin := dialect.command?_begin options
  rcases exists_course d options body (.fresh (idle store)) with ⟨e, w, hrefused, _⟩ |
    ⟨opened, course, ended, ending, closed, begun, inside, w, htakes, hcloses, hopened, hcourse,
      hclosing, hrun⟩
  · -- a transaction can always be begun where none is open
    have hreply := (leads_command hbegin hrefused.unwatched).1
    cases hreply
  · have houtcome : result.1 = closed := congrArg Prod.fst hrun
    have hleft : result.2 = w := congrArg Prod.snd hrun
    have hopen : begun.connection = busy store store [] :=
      leads_nil (leads_command hbegin hopened.unwatched).2
    have hinside := hcourse.unwatched
    rw [hopen] at hinside
    rcases htakes.leaves hordinary hinside with ⟨later, hbusy, _⟩
    have hended := hclosing.unwatched
    rw [hbusy] at hended
    refine ⟨opened, course, ended, ending, htakes, houtcome ▸ hcloses, ?turns, ?done, ?failed⟩
    case turns =>
      rw [hleft]
      exact (hopened.trans (hcourse.trans hclosing)).turns_eq
    case done =>
      intro a hdone
      rw [hleft]
      exact (hcloses.ends hended).1 a (houtcome ▸ hdone)
    case failed =>
      intro e hfailed
      rw [hleft]
      exact (hcloses.ends hended).2 e (houtcome ▸ hfailed)

/-- Two entries; the first is given up for an error that goes no further. -/
def entries : Body Unit :=
  .nested (.call ⟨"INSERT INTO entry VALUES (1)", []⟩ fun _ => .ended (.failed .noRow))
    fun refused =>
    match (refused : Outcome Unit) with
    | .failed _ =>
        .nested (.call ⟨"INSERT INTO entry VALUES (2)", []⟩ fun _ => .ended (.done ())) .ended
    | _ => .ended refused

theorem entries_isOrdinary : entries.IsOrdinary .plain := by
  refine ⟨⟨by decide, fun _ => trivial⟩, ?_⟩
  intro refused
  cases refused with
  | failed e => exact ⟨⟨by decide, fun _ => trivial⟩, fun _ => trivial⟩
  | done a => trivial
  | abandoned => trivial

theorem run_atomic_entries :
    entries.IsOrdinary .plain ∧ ∃ course ended, entries.Takes [] 0 course ended ∧
      Engine.journal.applyAll course.kept [] = ["INSERT INTO entry VALUES (2)"] := by
  refine ⟨entries_isOrdinary, ?_⟩
  rcases run_atomic .plain .journal {} entries entries_isOrdinary [] with
    ⟨_, course, ended, _, htakes, _, _, hdone, _⟩
  refine ⟨course, ended, htakes, ?_⟩
  have hleft :
      idle ["INSERT INTO entry VALUES (2)"] = idle (Engine.journal.applyAll course.kept []) :=
    hdone () rfl
  injection hleft.symm

end Transaction
end ParamSql
