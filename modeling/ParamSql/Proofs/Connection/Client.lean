import ParamSql.Proofs.Connection.Bracketing

/-!
# Client — a program that works on a connection

A client sends statements and runs bodies in transactions, one after the other, and decides after
every answer what it does next.

* `Client`, `Client.run` — clients, and what they make of a connection;
* `Opening.Allowed P` — the statements that open and close a block have a property;
* `Body.Takes.forall_turns` — so have all statements of a course, by induction on it;
* `Client.exists_leads` — a client is a run of the driver, with statements of the property only.
-/

namespace ParamSql

/-- A program on a connection. -/
inductive Client : Type 1
  | ended
  /-- Sends a statement. -/
  | call (c : Call) (next : Except Error Reply → Client)
  /-- Runs a body in a transaction. -/
  | transaction {α : Type} (options : TransactionOptions) (body : Body α)
      (next : Outcome α → Client)

namespace Client

/-- What a client leaves of a connection. -/
def run {σ : Type} (d : Driver σ) : Client → σ → σ
  | .ended, s => s
  | .call c next, s =>
      let (reply, s) := d.query c s
      (next reply).run d s
  | .transaction options body next, s =>
      let (outcome, s) := Transaction.run d options (body.run d) s
      (next outcome).run d s

/-- Whether all statements that a client may send by itself have a property. -/
def Sends (P : Call → Prop) : Client → Prop
  | .ended => True
  | .call c next => P c ∧ ∀ reply, (next reply).Sends P
  | .transaction _ body next => body.Sends P ∧ ∀ outcome, (next outcome).Sends P

end Client

variable {P : Call → Prop}

/-! ## The statements of transactions -/

/-- The statements that open and close a block have a property. -/
structure Opening.Allowed (P : Call → Prop) (opening : Opening) : Prop where
  opens : P ⟨opening.sql, []⟩
  keeps : P ⟨opening.keepSql, []⟩
  undoes : P ⟨opening.undoSql, []⟩

/-- The statements of all transactions and of the savepoints in them have a property. -/
structure AllowsTransactions (P : Call → Prop) : Prop where
  begin : ∀ options, (Opening.begin options).Allowed P
  savepoint : ∀ k, (Opening.savepoint (Transaction.nameAt k)).Allowed P

theorem Opening.Allowed.forall_ending {opening : Opening} (h : opening.Allowed P)
    (ending : BlockEnd) :
    ∀ x ∈ ending.turns opening, P x.call := by
  cases ending with
  | kept reply => exact List.forall_mem_singleton.2 h.keeps
  | undone reply => exact List.forall_mem_singleton.2 h.undoes
  | left => simp [BlockEnd.turns]

/-- The turns of a block. -/
theorem Opening.Allowed.forall_block {opening : Opening} (h : opening.Allowed P) (opened : Reply)
    {inner : List Turn} (hinner : ∀ x ∈ inner, P x.call) (ending : BlockEnd) :
    ∀ x ∈ ⟨⟨opening.sql, []⟩, .ok opened⟩ :: (inner ++ ending.turns opening), P x.call :=
  List.forall_mem_cons.2 ⟨h.opens, List.forall_mem_append.2 ⟨hinner, h.forall_ending ending⟩⟩

/-- The statements of a course are those of its body and those of its blocks. -/
theorem Body.Takes.forall_turns {α : Type} {body : Body α} {enclosing : List String} {k : Nat}
    {course : Course} {outcome : Outcome α} (hallows : AllowsTransactions P)
    (h : body.Takes enclosing k course outcome) : body.Sends P → ∀ x ∈ course.turns, P x.call := by
  induction h with
  | ended outcome => simp [Course.turns]
  | call reply _ ih =>
      intro hsends
      exact List.forall_mem_cons.2 ⟨hsends.1, ih (hsends.2 reply)⟩
  | look _ ih =>
      intro hsends
      exact ih (hsends _)
  | nestedRefused e _ ih =>
      intro hsends
      exact List.forall_mem_cons.2 ⟨(hallows.savepoint _).opens, ih (hsends.2 _)⟩
  | nested opened _ _ _ ihInner ihRest =>
      intro hsends
      exact List.forall_mem_append.2
        ⟨(hallows.savepoint _).forall_block opened (ihInner hsends.1) _,
        ihRest (hsends.2 _)⟩
  | separateRefused e _ ih =>
      intro hsends
      exact List.forall_mem_cons.2 ⟨hsends.1, ih (hsends.2.2 _)⟩
  | separate opened _ _ _ ihInner ihRest =>
      intro hsends
      exact List.forall_mem_append.2 ⟨(hallows.begin _).forall_block opened (ihInner hsends.2.1) _,
        ihRest (hsends.2.2 _)⟩

/-! ## What all statements have -/

theorem AllowsTransactions.of_forall (h : ∀ c, P c) : AllowsTransactions P :=
  ⟨fun _ => ⟨h _, h _, h _⟩, fun _ => ⟨h _, h _, h _⟩⟩

theorem Body.sends_of_forall (h : ∀ c, P c) {α : Type} (body : Body α) : body.Sends P := by
  induction body with
  | ended outcome => trivial
  | call c next ih => exact ⟨h c, ih⟩
  | look next ih => exact ih
  | nested inner next ihInner ihNext => exact ⟨ihInner, ihNext⟩
  | separate options inner next ihInner ihNext => exact ⟨h _, ihInner, ihNext⟩

theorem Client.sends_of_forall (h : ∀ c, P c) (client : Client) : client.Sends P := by
  induction client with
  | ended => trivial
  | call c next ih => exact ⟨h c, ih⟩
  | transaction options body next ih => exact ⟨body.sends_of_forall h, ih⟩

/-! ## Clients as runs -/

section Runs

variable {σ : Type} (d : Driver σ)

/-- A transaction is a run of the driver. -/
theorem Transaction.exists_leads {α : Type} (hallows : AllowsTransactions P)
    (options : TransactionOptions) {body : Body α} (hsends : body.Sends P) (s : σ) :
    ∃ xs, d.Leads s xs (run d options (body.run d) s).2 ∧ ∀ x ∈ xs, P x.call := by
  have hallowed : (Opening.begin options).Allowed P := hallows.begin options
  -- either the transaction is not begun, or its turns are those of a block
  rcases exists_course d options body s with ⟨e, s', hrefused, hrun⟩ |
    ⟨opened, course, ended, ending, closed, begun, inside, s', htakes, _, hopened, hcourse,
      hclosing, hrun⟩
  · rw [hrun]
    exact ⟨_, hrefused, List.forall_mem_singleton.2 hallowed.opens⟩
  · rw [hrun]
    exact ⟨_, hopened.trans (hcourse.trans hclosing),
      hallowed.forall_block opened (htakes.forall_turns hallows hsends) ending⟩

/-- A client is a run of the driver. -/
theorem Client.exists_leads (hallows : AllowsTransactions P) (client : Client) :
    client.Sends P → ∀ s, ∃ xs, d.Leads s xs (client.run d s) ∧ ∀ x ∈ xs, P x.call := by
  induction client with
  | ended =>
      intro _ s
      exact ⟨[], .refl s, by simp⟩
  | call c next ih =>
      intro hsends s
      rcases ih _ (hsends.2 _) (d.query c s).2 with ⟨xs, hleads, hcalls⟩
      exact ⟨_, .query c hleads, List.forall_mem_cons.2 ⟨hsends.1, hcalls⟩⟩
  | transaction options body next ih =>
      intro hsends s
      rcases Transaction.exists_leads d hallows options hsends.1 s with ⟨xs, hfirst, hxs⟩
      rcases ih _ (hsends.2 _) (Transaction.run d options (body.run d) s).2 with ⟨ys, hrest, hys⟩
      exact ⟨xs ++ ys, hfirst.trans hrest, List.forall_mem_append.2 ⟨hxs, hys⟩⟩

end Runs
end ParamSql
