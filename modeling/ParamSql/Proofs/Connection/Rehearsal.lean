import ParamSql.Proofs.Connection.Client
import ParamSql.Proofs.Connection.Control
import ParamSql.Proofs.Connection.Database

/-!
# Rehearsal — transactions that leave nothing behind

What a harness sends depends on what has been said since its start. Which transaction a statement
belongs to is said by brackets; that the harness finds it on its stack is what is proved.

* `Balanced`, `Ongoing` — lists of statements whose transactions are all ended, and the transactions
  that a list of statements has left open;
* `Forwards`, `Relayed` — what is sent in the place of a statement, and of statements in order;
* `Harness.Stands` — a harness that knows the open transactions, and keeps knowing them;
* `Harness.rehearse` — a client between the start of a harness and its rollback;
* `Harness.rehearses` — what is sent, and what is left behind: nothing.
-/

namespace ParamSql

/-! ## The transactions of statements -/

/-- The statement begins a transaction. -/
def Call.Begins (c : Call) : Prop :=
  Control.of? c.sql = some .begin

instance (c : Call) : Decidable c.Begins :=
  inferInstanceAs (Decidable (_ = _))

/-- The statement ends a transaction. -/
def Call.Ends (c : Call) : Prop :=
  Control.of? c.sql = some .commit ∨ Control.of? c.sql = some .rollback

/-- How many transactions have been begun. -/
def begun (cs : List Call) : Nat :=
  cs.countP fun c => decide c.Begins

/-- Every transaction that is begun in the statements is ended in them, and no other one is. -/
inductive Balanced : List Call → Prop
  | nil : Balanced []
  | other {c : Call} {rest : List Call} :
      Control.of? c.sql = none → Balanced rest → Balanced (c :: rest)
  | block {b e : Call} {inner rest : List Call} :
      b.Begins → Balanced inner → e.Ends → Balanced rest → Balanced (b :: (inner ++ e :: rest))

/-- The numbers of the transactions that the statements have begun and not ended, the innermost
first. The end of a transaction that has not been begun does not count. -/
inductive Ongoing : List Call → List Nat → Prop
  | none : Ongoing [] []
  | begins {past : List Call} {numbers : List Nat} {b : Call} :
      Ongoing past numbers → b.Begins → Ongoing (past ++ [b]) ((begun past + 1) :: numbers)
  | balanced {past cs : List Call} {numbers : List Nat} :
      Ongoing past numbers → Balanced cs → Ongoing (past ++ cs) numbers
  | stray {past : List Call} {e : Call} : Ongoing past [] → e.Ends → Ongoing (past ++ [e]) []

theorem Balanced.append {cs cs' : List Call} (h : Balanced cs) (h' : Balanced cs') :
    Balanced (cs ++ cs') := by
  induction h with
  | nil => exact h'
  | other hc _ ih => exact .other hc ih
  | block hb hinner he _ _ ih =>
      rw [List.cons_append, List.append_assoc, List.cons_append]
      exact .block hb hinner he ih

/-- The end of a transaction ends the innermost one. -/
theorem Ongoing.ends {past cs : List Call} {e : Call} {i : Nat} {numbers : List Nat}
    (h : Ongoing past (i :: numbers)) (hcs : Balanced cs) (he : e.Ends) :
    Ongoing (past ++ (cs ++ [e])) numbers := by
  generalize hall : i :: numbers = all at h
  -- on the way back to the beginning of the innermost transaction, `cs` takes in what is behind it
  induction h generalizing cs with
  | none => cases hall
  | @begins past numbers b hpast hb _ =>
      cases hall
      have hblock : Balanced ([b] ++ (cs ++ [e])) := .block hb hcs he .nil
      rw [List.append_assoc]
      exact hpast.balanced hblock
  | @balanced past cs' numbers _ hcs' ih =>
      have hlonger := ih (hcs'.append hcs) hall
      rwa [List.append_assoc, ← List.append_assoc cs']
  | stray _ _ _ => cases hall

/-- Brackets read from the left: the numbers of the open transactions, and how many have been
begun. -/
def advance (s : List Nat × Nat) (c : Call) : List Nat × Nat :=
  match Control.of? c.sql with
  | none => s
  | some .begin => ((s.2 + 1) :: s.1, s.2 + 1)
  | some _ => (s.1.tail, s.2)

theorem advance_begins {c : Call} (h : c.Begins) (s : List Nat × Nat) :
    advance s c = ((s.2 + 1) :: s.1, s.2 + 1) := by
  rw [advance, h]

theorem advance_ends {c : Call} (h : c.Ends) (s : List Nat × Nat) :
    advance s c = (s.1.tail, s.2) := by
  rcases h with h | h <;> rw [advance, h]

theorem Call.Ends.not_begins {c : Call} (h : c.Ends) : ¬ c.Begins := by
  intro hb
  rcases h with h | h <;> rw [Call.Begins, h] at hb <;> cases hb

theorem begun_append (cs cs' : List Call) : begun (cs ++ cs') = begun cs + begun cs' :=
  List.countP_append

/-- Balanced statements leave the transactions before them open. -/
theorem Balanced.foldl_advance {cs : List Call} (h : Balanced cs) (s : List Nat × Nat) :
    cs.foldl advance s = (s.1, s.2 + begun cs) := by
  induction h generalizing s with
  | nil => rfl
  | @other c rest hc _ ih =>
      have hbegins : ¬ c.Begins := by simp [Call.Begins, hc]
      have hstays : advance s c = s := by rw [advance, hc]
      rw [List.foldl_cons, hstays, ih, begun, begun,
        List.countP_cons_of_neg (by simpa using hbegins)]
  | @block b e inner rest hb _ he _ ihInner ihRest =>
      have hcount : begun (b :: (inner ++ e :: rest)) = 1 + begun inner + begun rest := by
        simp [begun, hb, he.not_begins]
        omega
      calc (b :: (inner ++ e :: rest)).foldl advance s
          = rest.foldl advance (advance (inner.foldl advance (advance s b)) e) := by
            rw [List.foldl_cons, List.foldl_append, List.foldl_cons]
        _ = rest.foldl advance (s.1, s.2 + 1 + begun inner) := by
            rw [advance_begins hb, ihInner, advance_ends he, List.tail_cons]
        _ = (s.1, s.2 + 1 + begun inner + begun rest) := ihRest _
        _ = (s.1, s.2 + begun (b :: (inner ++ e :: rest))) := by
            rw [hcount, ← Nat.add_assoc, ← Nat.add_assoc]

theorem begun_append_of_not_begins {c : Call} (hc : ¬ c.Begins) (past : List Call) :
    begun (past ++ [c]) = begun past := by
  simp [begun, hc]

/-- The transactions that are open are found by reading from the left. -/
theorem Ongoing.foldl_advance {past : List Call} {numbers : List Nat} (h : Ongoing past numbers) :
    past.foldl advance ([], 0) = (numbers, begun past) := by
  induction h with
  | none => rfl
  | begins _ hb ih =>
      rw [List.foldl_append, ih, begun_append]
      simp [advance_begins hb, begun, hb]
  | balanced _ hcs ih => rw [List.foldl_append, ih, hcs.foldl_advance, begun_append]
  | stray _ he ih =>
      rw [List.foldl_append, ih, begun_append_of_not_begins he.not_begins]
      simp [advance_ends he]

/-- Which transactions are open is a matter of the statements alone. -/
theorem Ongoing.unique {past : List Call} {numbers numbers' : List Nat} (h : Ongoing past numbers)
    (h' : Ongoing past numbers') : numbers = numbers' :=
  congrArg Prod.fst (h.foldl_advance.symm.trans h'.foldl_advance)

/-! ## What is sent in the place of a statement -/

/-- The name of the savepoint that stands for the `n`-th transaction. -/
def Harness.nameAt (n : Nat) : String :=
  "t" ++ toString n

/-- `Forwards past x xs`: behind the statements of the past, the turns `xs` of the connection stand
for the turn `x` of the client. -/
inductive Forwards (past : List Call) : Turn → List Turn → Prop
  | unchanged {x : Turn} : Control.of? x.call.sql = none → Forwards past x [x]
  /-- The `n`-th transaction becomes the savepoint with the number `n`. -/
  | begins {c : Call} (reply : Except Error Reply) : c.Begins →
      Forwards past ⟨c, reply⟩
        [⟨⟨"SAVEPOINT " ++ Harness.nameAt (begun past + 1), c.params⟩, reply⟩]
  | commits {c : Call} {i : Nat} {numbers : List Nat} (reply : Except Error Reply) :
      Control.of? c.sql = some .commit → Ongoing past (i :: numbers) →
      Forwards past ⟨c, reply⟩ [⟨⟨"RELEASE SAVEPOINT " ++ Harness.nameAt i, c.params⟩, reply⟩]
  | rollsBack {c : Call} {i : Nat} {numbers : List Nat} (reply : Except Error Reply) :
      Control.of? c.sql = some .rollback → Ongoing past (i :: numbers) →
      Forwards past ⟨c, reply⟩ [⟨⟨"ROLLBACK TO SAVEPOINT " ++ Harness.nameAt i, c.params⟩, reply⟩]
  /-- The end of no transaction is answered without rows. -/
  | drops {c : Call} : c.Ends → Ongoing past [] → Forwards past ⟨c, .ok .empty⟩ []

/-- What is sent for the turns of a client, one after the other. -/
inductive Relayed : List Call → List Turn → List Turn → Prop
  | nil {past : List Call} : Relayed past [] []
  | cons {past : List Call} {x : Turn} {xs ys zs : List Turn} :
      Forwards past x zs → Relayed (past ++ [x.call]) xs ys → Relayed past (x :: xs) (zs ++ ys)

theorem Forwards.of?_eq_none {past : List Call} {x : Turn} {zs : List Turn}
    (h : Forwards past x zs) :
    ∀ z ∈ zs, Control.of? z.call.sql = none := by
  cases h with
  | unchanged hx => exact List.forall_mem_singleton.2 hx
  | begins reply _ => exact List.forall_mem_singleton.2 (Control.of?_savepoint _)
  | commits reply _ _ => exact List.forall_mem_singleton.2 (Control.of?_release _)
  | rollsBack reply _ _ => exact List.forall_mem_singleton.2 (Control.of?_rollbackTo _)
  | drops _ _ => simp

/-- No transaction is ended by what is sent. -/
theorem Relayed.of?_eq_none {past : List Call} {xs ys : List Turn} (h : Relayed past xs ys) :
    ∀ y ∈ ys, Control.of? y.call.sql = none := by
  induction h with
  | nil => simp
  | cons hx _ ih => exact List.forall_mem_append.2 ⟨hx.of?_eq_none, ih⟩

/-! ## The harness -/

namespace Harness

variable {σ : Type} {d : Driver σ} {h h' : Harness σ} {past : List Call}

/-- Behind the statements of the past, the harness has the savepoints of the open transactions. -/
structure Stands (h : Harness σ) (past : List Call) : Prop where
  active : h.active = true
  counter_eq : h.counter = begun past
  ongoing : ∃ numbers, Ongoing past numbers ∧ h.savepoints = numbers.map nameAt

theorem Stands.exists_depth (hstands : h.Stands past) :
    ∃ numbers, Ongoing past numbers ∧ h.depth = numbers.length := by
  rcases hstands.ongoing with ⟨numbers, hongoing, hsavepoints⟩
  exact ⟨numbers, hongoing, by simp [depth, hsavepoints]⟩

/-- What is sent for a statement, if anything is, leads to the connection behind it. -/
theorem leads_of_redirect {c : Call} {sql? : Option String} {h' : Harness σ}
    (hredirect : h.redirect c.sql = (sql?, h')) (hconnection : h'.connection = h.connection) :
    d.Leads h.connection
      (sql?.toList.map fun sql => ⟨⟨sql, c.params⟩, (d.harnessed.query c h).1⟩)
      (d.harnessed.query c h).2.connection := by
  cases sql? with
  | some sql =>
      have hquery : d.harnessed.query c h = h'.onConnection (d.query ⟨sql, c.params⟩) := by
        simp only [Driver.harnessed, hredirect]
      rw [hquery, onConnection, hconnection]
      exact .single _ _
  | none =>
      -- that nothing is sent is reported
      simp only [Driver.harnessed, hredirect, hconnection]
      exact .reported _ _

/-- A statement leaves the harness as it is when it is redirected, apart from the connection. -/
theorem Stands.of_redirect {c : Call} {sql? : Option String} {h' : Harness σ}
    (hredirect : h.redirect c.sql = (sql?, h')) (hstands : h'.Stands past) :
    (d.harnessed.query c h).2.Stands past := by
  cases sql? with
  | some sql =>
      simp only [Driver.harnessed, hredirect]
      exact ⟨hstands.active, hstands.counter_eq, hstands.ongoing⟩
  | none =>
      simp only [Driver.harnessed, hredirect]
      exact ⟨hstands.active, hstands.counter_eq, hstands.ongoing⟩

/-- The innermost transaction is ended. -/
theorem Stands.ended {c : Call} {i : Nat} {numbers : List Nat} (hstands : h.Stands past)
    (hc : c.Ends) (hongoing : Ongoing past (i :: numbers)) :
    Stands { h with savepoints := numbers.map nameAt } (past ++ [c]) := by
  have hcounter : h.counter = begun (past ++ [c]) := by
    rw [begun_append_of_not_begins hc.not_begins, hstands.counter_eq]
  exact ⟨hstands.active, hcounter, numbers, hongoing.ends .nil hc, rfl⟩

/-- The end of no transaction is answered and not sent. -/
theorem Stands.query_stray {c : Call} (hstands : h.Stands past) (hc : c.Ends)
    (hongoing : Ongoing past []) (hsavepoints : h.savepoints = []) :
    Forwards past ⟨c, (d.harnessed.query c h).1⟩ [] ∧
      d.Leads h.connection [] (d.harnessed.query c h).2.connection ∧
      (d.harnessed.query c h).2.Stands (past ++ [c]) := by
  have hredirect : h.redirect c.sql = (none, h) := by
    rcases hc with hc | hc
    · rw [redirect_commit hstands.active hc, hsavepoints]
    · rw [redirect_rollback hstands.active hc, hsavepoints]
  have hquery : d.harnessed.query c h =
      (.ok .empty, { h with connection := d.trace (.verbIgnored c.sql) h.connection }) := by
    simp only [Driver.harnessed, hredirect]
  have hcounter : h.counter = begun (past ++ [c]) := by
    rw [begun_append_of_not_begins hc.not_begins, hstands.counter_eq]
  rw [hquery]
  exact ⟨.drops hc hongoing, .reported _ _, hstands.active, hcounter, [], hongoing.stray hc,
    hsavepoints⟩

/-- A harness that knows the open transactions sends what it ought to, and knows them behind every
statement. -/
theorem Stands.query (hstands : h.Stands past) (c : Call) : ∃ zs,
    Forwards past ⟨c, (d.harnessed.query c h).1⟩ zs ∧
      d.Leads h.connection zs (d.harnessed.query c h).2.connection ∧
      (d.harnessed.query c h).2.Stands (past ++ [c]) := by
  have hactive : h.active = true := hstands.active
  have hcounter : h.counter = begun past := hstands.counter_eq
  rcases hstands.ongoing with ⟨numbers, hongoing, hsavepoints⟩
  -- the harness sees in a statement what `Ongoing` sees in it
  cases hc : Control.of? c.sql with
  | none =>
      have hbegins : ¬ c.Begins := by simp [Call.Begins, hc]
      have hbalanced : Balanced [c] := .other hc .nil
      have hredirect : h.redirect c.sql = (some c.sql, h) := redirect_other hactive hc
      have hkept : h.Stands (past ++ [c]) :=
        ⟨hactive, by rw [begun_append_of_not_begins hbegins, hcounter], numbers,
          hongoing.balanced hbalanced, hsavepoints⟩
      exact ⟨_, .unchanged hc, leads_of_redirect hredirect rfl, .of_redirect hredirect hkept⟩
  | some control =>
      cases control with
      | begin =>
          have hbegun : begun (past ++ [c]) = begun past + 1 := by
            simp [begun, show c.Begins from hc]
          have hredirect : h.redirect c.sql = (some ("SAVEPOINT " ++ nameAt (begun past + 1)),
              { h with
                counter := begun past + 1
                savepoints := nameAt (begun past + 1) :: h.savepoints }) := by
            rw [redirect_begin hactive hc, hcounter, nameAt]
          refine ⟨_, .begins _ hc, leads_of_redirect hredirect rfl, .of_redirect hredirect ?_⟩
          refine ⟨hactive, hbegun.symm, (begun past + 1) :: numbers, hongoing.begins hc, ?_⟩
          simp [hsavepoints]
      | commit =>
          cases numbers with
          | nil => exact ⟨[], hstands.query_stray (.inl hc) hongoing hsavepoints⟩
          | cons i numbers =>
              have hredirect : h.redirect c.sql = (some ("RELEASE SAVEPOINT " ++ nameAt i),
                  { h with savepoints := numbers.map nameAt }) := by
                rw [redirect_commit hactive hc, hsavepoints]
                rfl
              exact ⟨_, .commits _ hc hongoing, leads_of_redirect hredirect rfl,
                .of_redirect hredirect (hstands.ended (.inl hc) hongoing)⟩
      | rollback =>
          cases numbers with
          | nil => exact ⟨[], hstands.query_stray (.inr hc) hongoing hsavepoints⟩
          | cons i numbers =>
              have hredirect : h.redirect c.sql = (some ("ROLLBACK TO SAVEPOINT " ++ nameAt i),
                  { h with savepoints := numbers.map nameAt }) := by
                rw [redirect_rollback hactive hc, hsavepoints]
                rfl
              exact ⟨_, .rollsBack _ hc hongoing, leads_of_redirect hredirect rfl,
                .of_redirect hredirect (hstands.ended (.inr hc) hongoing)⟩

/-- What is sent for a run inside the harness. -/
theorem Stands.leads {xs : List Turn} (hstands : h.Stands past) (hrun : d.harnessed.Leads h xs h') :
    ∃ ys, Relayed past xs ys ∧ d.Leads h.connection ys h'.connection ∧
      h'.Stands (past ++ xs.map Turn.call) := by
  induction hrun generalizing past with
  | refl h => exact ⟨[], .nil, .refl _, by simpa using hstands⟩
  | query c _ ih =>
      rcases hstands.query (d := d) c with ⟨zs, hforwards, hfirst, hnext⟩
      rcases ih hnext with ⟨ys, hrelayed, hrest, hlast⟩
      refine ⟨zs ++ ys, .cons hforwards hrelayed, hfirst.trans hrest, ?_⟩
      simpa using hlast
  | report e _ ih =>
      -- a report changes the connection only
      rcases ih ⟨hstands.active, hstands.counter_eq, hstands.ongoing⟩ with
        ⟨ys, hrelayed, hrest, hlast⟩
      exact ⟨ys, hrelayed, .report e hrest, hlast⟩

/-- A harness that has been started knows that no transaction is open. -/
theorem stands_of_start {h₀ : Harness σ} (hstart : h₀.start d = (.ok (), h)) : h.Stands [] := by
  unfold start at hstart
  split at hstart
  · cases hstart
  · split at hstart
    · cases hstart
    · cases hstart
      exact ⟨rfl, rfl, [], .none, rfl⟩

end Harness

/-! ## Databases -/

section Databases

open Database

variable {S : Type} {dialect : Dialect} {engine : Engine S} {committed : S}

/-- The statement does not end the transaction of a database. -/
def Call.Spares (dialect : Dialect) (c : Call) : Prop :=
  dialect.command? c.sql ≠ some .commit ∧ dialect.command? c.sql ≠ some .rollback

/-- If the statement ends the transaction of a database, then a harness knows what it is. -/
def Call.IsKnown (dialect : Dialect) (c : Call) : Prop :=
  Control.of? c.sql = none → c.Spares dialect

theorem Call.isKnown_of_eq {c : Call} {control : Control} (h : Control.of? c.sql = some control) :
    c.IsKnown dialect := by
  intro hnone
  rw [h] at hnone
  cases hnone

/-- A transaction is open, and nothing has been committed in it. -/
def Database.IsOpen (committed : S) (db : Database S) : Prop :=
  ∃ store savepoints, db = busy committed store savepoints

/-- Only a commit or a rollback ends a transaction, whether or not the statement fails. -/
theorem Database.IsOpen.query {db : Database S} (h : db.IsOpen committed) {c : Call}
    (hc : c.Spares dialect) : ((driver dialect engine).query c db).2.IsOpen committed := by
  rcases h with ⟨store, savepoints, rfl⟩
  cases hcommand : dialect.command? c.sql with
  | none => exact ⟨_, _, query_of_none hcommand⟩
  | some command =>
      rw [query_of_command hcommand]
      cases command with
      | begin => exact ⟨store, savepoints, rfl⟩
      | commit => exact absurd hcommand hc.1
      | rollback => exact absurd hcommand hc.2
      | savepoint name => exact ⟨store, _, rfl⟩
      | release name =>
          simp only [obey, busy]
          cases savepoints.seek name with
          | none => exact ⟨store, savepoints, rfl⟩
          | some found => exact ⟨store, found.2, rfl⟩
      | rollbackTo name =>
          simp only [obey, busy]
          cases savepoints.seek name with
          | none => exact ⟨store, savepoints, rfl⟩
          | some found => exact ⟨found.1, _, rfl⟩

theorem Harness.isPlainName_nameAt (n : Nat) : IsPlainName (nameAt n) :=
  ⟨'t', n, by decide, rfl⟩

theorem Call.spares_savepoint {name : String} (h : IsPlainName name) (params : List Value) :
    Call.Spares dialect ⟨"SAVEPOINT " ++ name, params⟩ := by
  simp [Call.Spares, dialect.command?_savepoint name h]

theorem Call.spares_release {name : String} (h : IsPlainName name) (params : List Value) :
    Call.Spares dialect ⟨"RELEASE SAVEPOINT " ++ name, params⟩ := by
  simp [Call.Spares, dialect.command?_release name h]

theorem Call.spares_rollbackTo {name : String} (h : IsPlainName name) (params : List Value) :
    Call.Spares dialect ⟨"ROLLBACK TO SAVEPOINT " ++ name, params⟩ := by
  simp [Call.Spares, dialect.command?_rollbackTo name h]

/-- A harness knows the statements of transactions, and those of savepoints end none. -/
theorem allowsTransactions_isKnown : AllowsTransactions (Call.IsKnown dialect) := by
  refine ⟨fun options => ⟨?_, ?_, ?_⟩, fun k => ⟨?_, ?_, ?_⟩⟩
  · exact Call.isKnown_of_eq (Control.of?_begin options)
  · exact Call.isKnown_of_eq Control.of?_commit
  · exact Call.isKnown_of_eq Control.of?_rollback
  · exact fun _ => Call.spares_savepoint (Transaction.isPlainName_nameAt k) _
  · exact fun _ => Call.spares_release (Transaction.isPlainName_nameAt k) _
  · exact fun _ => Call.spares_rollbackTo (Transaction.isPlainName_nameAt k) _

theorem Forwards.spares {past : List Call} {x : Turn} {zs : List Turn} (h : Forwards past x zs)
    (hx : x.call.IsKnown dialect) : ∀ z ∈ zs, z.call.Spares dialect := by
  cases h with
  | unchanged hnone => exact List.forall_mem_singleton.2 (hx hnone)
  | begins reply _ =>
      exact List.forall_mem_singleton.2 (Call.spares_savepoint (Harness.isPlainName_nameAt _) _)
  | commits reply _ _ =>
      exact List.forall_mem_singleton.2 (Call.spares_release (Harness.isPlainName_nameAt _) _)
  | rollsBack reply _ _ =>
      exact List.forall_mem_singleton.2 (Call.spares_rollbackTo (Harness.isPlainName_nameAt _) _)
  | drops _ _ => simp

/-- What is sent does not end the transaction of the database. -/
theorem Relayed.spares {past : List Call} {xs ys : List Turn} (h : Relayed past xs ys) :
    (∀ x ∈ xs, x.call.IsKnown dialect) → ∀ y ∈ ys, y.call.Spares dialect := by
  induction h with
  | nil => simp
  | cons hx _ ih =>
      intro hknown
      rcases List.forall_mem_cons.1 hknown with ⟨hfirst, hrest⟩
      exact List.forall_mem_append.2 ⟨hx.spares hfirst, ih hrest⟩

end Databases

/-! ## Rehearsals -/

namespace Harness

/-- Starts the harness, runs a client in it and rolls it back. -/
def rehearse {σ : Type} (d : Driver σ) (client : Client) (h : Harness σ) :
    Except Error Unit × Harness σ :=
  match h.start d with
  | (.error e, h) => (.error e, h)
  | (.ok _, h) => (client.run d.harnessed h).rollback d

/-- One rehearsal after the other, up to one that fails. -/
def rehearseAll {σ : Type} (d : Driver σ) : List Client → Harness σ → Except Error Unit × Harness σ
  | [], h => (.ok (), h)
  | client :: clients, h =>
      match rehearse d client h with
      | (.error e, h) => (.error e, h)
      | (.ok _, h) => rehearseAll d clients h

section Databases

open Database

variable {S : Type} {dialect : Dialect} {store : S}

/-- The harness is not active, and no transaction of the database is open. -/
def Rests (store : S) (h : Harness (Database S)) : Prop :=
  h.active = false ∧ h.connection = idle store

/-- A rehearsal leaves the database as it was. -/
theorem Rests.rehearse (engine : Engine S) {h : Harness (Database S)} (hrests : h.Rests store)
    {client : Client}
    (hclient : client.Sends (Call.IsKnown dialect)) :
    ∃ h', Harness.rehearse (driver dialect engine) client h = (.ok (), h') ∧ h'.Rests store := by
  let d : Driver (Database S) := driver dialect engine
  let started : Harness (Database S) := ⟨true, [], 0, busy store store []⟩
  have hstart : h.start d = (.ok (), started) := by
    have hbegin : d.query ⟨"BEGIN", []⟩ (idle store) = (.ok .empty, busy store store []) := by
      rw [query_of_command (dialect.command?_begin {})]
      rfl
    simp [start, hrests.1, onConnection, hrests.2, hbegin, started]
  rcases client.exists_leads d.harnessed allowsTransactions_isKnown hclient started with
    ⟨xs, hrun, hknown⟩
  rcases (stands_of_start hstart).leads hrun with ⟨ys, hrelayed, hleads, hstands⟩
  -- nothing that is sent ends the transaction that the start has begun
  have hopen : (client.run d.harnessed started).connection.IsOpen store :=
    hleads.invariant (fun c db hc hdb => hdb.query hc) (fun e db hdb => hdb)
      (hrelayed.spares hknown) ⟨store, [], rfl⟩
  rcases hopen with ⟨now, savepoints, hconnection⟩
  have hrollback :
      d.query ⟨"ROLLBACK", []⟩ (busy store now savepoints) = (.ok .empty, idle store) := by
    rw [query_of_command dialect.command?_rollback]
    rfl
  let last : Harness (Database S) := client.run d.harnessed started
  have hactive : last.active = true := hstands.active
  have hended : last.rollback d = (.ok (), ⟨false, [], last.counter, idle store⟩) := by
    simp [rollback, hactive, onConnection, last, hconnection, hrollback]
  refine ⟨⟨false, [], last.counter, idle store⟩, ?_, rfl, rfl⟩
  calc
    Harness.rehearse d client h = last.rollback d := by simp only [Harness.rehearse, hstart, last]
    _ = _ := hended

/-- So do any number of them. -/
theorem Rests.rehearseAll (engine : Engine S) (clients : List Client)
    (hclients : ∀ client ∈ clients, client.Sends (Call.IsKnown dialect)) :
    ∀ {h : Harness (Database S)}, h.Rests store →
      ∃ h', Harness.rehearseAll (driver dialect engine) clients h = (.ok (), h') ∧
        h'.Rests store := by
  induction clients with
  | nil => exact fun {h} hrests => ⟨h, rfl, hrests⟩
  | cons client clients ih =>
      intro h hrests
      rcases List.forall_mem_cons.1 hclients with ⟨hclient, hrest⟩
      rcases hrests.rehearse engine hclient with ⟨h', hfirst, hrests'⟩
      rcases ih hrest hrests' with ⟨h'', hnext, hlast⟩
      exact ⟨h'', by simp only [Harness.rehearseAll, hfirst, hnext], hlast⟩

end Databases

/-- **A rehearsal is faithful and leaves nothing behind.** While a harness is active, whatever the
driver answers, what is sent to it for the statements of a client is these statements in their
order, with the `i`-th BEGIN replaced by the savepoint `ti`, the end of a transaction by the end of
the savepoint of the innermost one that is open, and the end of no transaction left out and answered
without rows; so that no statement is sent which ends a transaction. At any time the depth of the
harness is the number of the open transactions. On a database whose transactions are ended by no
other statement of the clients, any number of rehearsals leave the store as it was. -/
theorem rehearses :
    (∀ {σ : Type} (d : Driver σ) (h₀ h : Harness (Watched σ)),
      h₀.start d.watched = (.ok (), h) → ∀ client : Client,
        let w := client.run d.watched.harnessed.watched (.fresh h)
        (∃ sent, w.connection.connection.turns = h.connection.turns ++ sent ∧
          Relayed [] w.turns sent ∧ ∀ x ∈ sent, Control.of? x.call.sql = none) ∧
        (∀ before x, before ++ [x] <+: w.log → x.2.active = true ∧
          ∃ numbers, Ongoing ((before ++ [x]).map fun y => y.1.call) numbers ∧
            x.2.depth = numbers.length) ∧
        w.connection.active = true ∧
          ∃ numbers, Ongoing (w.turns.map Turn.call) numbers ∧
            w.connection.depth = numbers.length) ∧
    ∀ {S : Type} (dialect : Dialect) (engine : Engine S) (clients : List Client),
      (∀ client ∈ clients, client.Sends (Call.IsKnown dialect)) →
      ∀ (store : S) (h : Harness (Database S)), h.Rests store →
        ∃ h', rehearseAll (Database.driver dialect engine) clients h = (.ok (), h') ∧
          h'.Rests store := by
  refine ⟨?relayed, ?discarded⟩
  case relayed =>
    intro σ d h₀ h hstart client w
    have hstands : h.Stands [] := stands_of_start hstart
    -- the client is a run on the harness, and this is a run on the connection
    rcases client.exists_leads d.watched.harnessed.watched (.of_forall fun _ => trivial)
      (client.sends_of_forall fun _ => trivial) (.fresh h) with ⟨xs, hrun, _⟩
    have hremembers := hrun.remembers
    refine ⟨?sent, ?past, ?now⟩
    case sent =>
      rcases hstands.leads hremembers.now with ⟨ys, hrelayed, hleads, _⟩
      exact ⟨ys, hleads.turns_eq, hrelayed, hrelayed.of?_eq_none⟩
    case past =>
      -- what has been said up to a state in the log is a run of its own
      intro before x hprefix
      rcases hstands.leads (hremembers.past before x hprefix) with ⟨_, _, _, hbehind⟩
      have hdepth := hbehind.exists_depth
      rw [List.nil_append, List.map_map] at hdepth
      exact ⟨hbehind.active, hdepth⟩
    case now =>
      rcases hstands.leads hremembers.now with ⟨_, _, _, hbehind⟩
      exact ⟨hbehind.active, by simpa using hbehind.exists_depth⟩
  case discarded =>
    intro S dialect engine clients hclients store h hrests
    exact hrests.rehearseAll engine clients hclients

/-- A transaction with a nested one in it, a COMMIT too many, and an entry outside of
transactions. -/
def bookkeeping : Client :=
  .transaction {}
    (.nested (.call ⟨"INSERT INTO entry VALUES (1)", []⟩ fun _ => .ended (.done ()))
      .ended : Body Unit)
    fun _ => .call ⟨"commit;", []⟩ fun _ =>
      .call ⟨"INSERT INTO entry VALUES (2)", []⟩ fun _ => .ended

theorem bookkeeping_sends : bookkeeping.Sends (Call.IsKnown .plain) := by
  have hentry : ∀ sql ∈ ["INSERT INTO entry VALUES (1)", "INSERT INTO entry VALUES (2)", "commit;"],
      Control.of? sql = none →
        Dialect.plain.command? sql ≠ some .commit ∧
        Dialect.plain.command? sql ≠ some .rollback := by
    decide
  refine ⟨⟨⟨hentry _ (by simp), fun _ => trivial⟩, fun _ => trivial⟩, fun _ => ?_⟩
  exact ⟨hentry _ (by simp), fun _ => ⟨hentry _ (by simp), fun _ => trivial⟩⟩

theorem rehearses_bookkeeping :
    let d := Database.driver .plain .journal
    let h : Harness (Watched (Database (List String))) := ⟨false, [], 0, .fresh (Database.idle [])⟩
    (h.start d.watched).1 = .ok () ∧
      (∃ sent,
        Relayed []
          (bookkeeping.run d.watched.harnessed.watched (.fresh (h.start d.watched).2)).turns
          sent ∧
        sent.map (fun x => x.call.sql) = ["SAVEPOINT t1", "SAVEPOINT s1",
          "INSERT INTO entry VALUES (1)", "RELEASE SAVEPOINT s1", "RELEASE SAVEPOINT t1",
          "INSERT INTO entry VALUES (2)"]) ∧
      bookkeeping.Sends (Call.IsKnown .plain) ∧
      ∃ h', rehearseAll d [bookkeeping, bookkeeping] ⟨false, [], 0, Database.idle []⟩ =
        (.ok (), h') ∧
        h'.connection = Database.idle [] := by
  intro d h
  refine ⟨rfl, ?sent, bookkeeping_sends, ?discarded⟩
  case sent =>
    rcases rehearses.1 d h (h.start d.watched).2 rfl bookkeeping
      with ⟨⟨sent, hturns, hrelayed, _⟩, _⟩
    let sql : Turn → String := fun x => x.call.sql
    let w := bookkeeping.run d.watched.harnessed.watched (.fresh (h.start d.watched).2)
    have hstarted : (h.start d.watched).2.connection.turns.map sql = ["BEGIN"] := by decide +kernel
    have hall : w.connection.connection.turns.map sql = ["BEGIN", "SAVEPOINT t1", "SAVEPOINT s1",
        "INSERT INTO entry VALUES (1)", "RELEASE SAVEPOINT s1", "RELEASE SAVEPOINT t1",
        "INSERT INTO entry VALUES (2)"] := by decide +kernel
    have hsplit : w.connection.connection.turns.map sql = "BEGIN" :: sent.map sql := by
      rw [hturns, List.map_append, hstarted, List.singleton_append]
    rw [hsplit] at hall
    exact ⟨sent, hrelayed, (List.cons.inj hall).2⟩
  case discarded =>
    rcases rehearses.2 .plain .journal [bookkeeping, bookkeeping] (by simp [bookkeeping_sends]) []
      ⟨false, [], 0, Database.idle []⟩ ⟨rfl, rfl⟩ with ⟨h', hall, hrests⟩
    exact ⟨h', hall, hrests.2⟩

end Harness
end ParamSql
