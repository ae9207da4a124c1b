import Mathlib.Data.List.Induction
import ParamSql.Connection.Recorder
import ParamSql.Proofs.Connection.Rehearsal

/-!
# Failures — a harness on a connection that fails

Any call of the connection may fail. What a harness has done is told by its deeds: each step with
what has reached the connection for it, and the answer to it. The state of the harness is a matter
of what has been attempted, whether or not it has succeeded.

* `HarnessStep`, `Contact`, `Deed` — what can be done with a harness, and what has been done;
* `Harness.performAll` — steps one after the other, with the deeds;
* `OpenSince`, `StaysOpen` — the outer transaction has been opened, and it has not been ended since;
* `Deed.Follows` — what reaches the connection for a step, by the deeds before it;
* `Harness.Tracks` — the harness knows what has been attempted, and keeps knowing it;
* `Harness.tracks_failures` — the same for whole runs, and what is left of it when calls succeed.
-/

namespace ParamSql

/-! ## Deeds -/

/-- What can be done with a harness. -/
inductive HarnessStep
  | start
  | rollback
  /-- Ends the harness and its connection. -/
  | finish
  /-- Closes the harness as a driver. -/
  | close
  | statement (c : Call)

/-- What reaches a connection: a statement, which has a reply, or the end of the connection. -/
inductive Contact
  | turn (x : Turn)
  | closing (result : Except Error Unit)

/-- A connection with what has reached it. -/
structure Observed (σ : Type) where
  contacts : List Contact := []
  connection : σ

/-- The driver that observes what reaches it. -/
def Driver.observed {σ : Type} (d : Driver σ) : Driver (Observed σ) where
  query c o :=
    let (reply, s) := d.query c o.connection
    (reply, ⟨o.contacts ++ [.turn ⟨c, reply⟩], s⟩)
  close o :=
    let (result, s) := d.close o.connection
    (result, ⟨o.contacts ++ [.closing result], s⟩)
  trace e o := { o with connection := d.trace e o.connection }

theorem Driver.Leads.contacts_eq {σ : Type} {d : Driver σ} {o o' : Observed σ} {xs : List Turn}
    (h : d.observed.Leads o xs o') : o'.contacts = o.contacts ++ xs.map .turn := by
  induction h with
  | refl o => simp
  | query c _ ih =>
      rw [ih]
      simp [observed]
  | report e _ ih => exact ih

/-- An answer that says only whether something has succeeded. -/
def withoutRows {α : Type} (result : Except Error α) : Except Error Reply :=
  result.map fun _ => .empty

/-- A step with what has reached the connection for it, and the answer to it. -/
structure Deed where
  step : HarnessStep
  contacts : List Contact
  answer : Except Error Reply

namespace Harness

variable {σ : Type}

/-- One step, with the answer to it. -/
def act (d : Driver σ) (h : Harness σ) : HarnessStep → Except Error Reply × Harness σ
  | .start => ((h.start d).1 |> withoutRows, (h.start d).2)
  | .rollback => ((h.rollback d).1 |> withoutRows, (h.rollback d).2)
  | .finish => ((h.finish d).1 |> withoutRows, (h.finish d).2)
  | .close => ((d.harnessed.close h).1 |> withoutRows, (d.harnessed.close h).2)
  | .statement c => d.harnessed.query c h

/-- A harness in the same state on another connection. -/
def onto {τ : Type} (h : Harness σ) (s : τ) : Harness τ :=
  ⟨h.active, h.savepoints, h.counter, s⟩

/-- Does a step and observes the connection. -/
def perform (d : Driver σ) (h : Harness σ) (s : HarnessStep) : Deed × Harness σ :=
  let (answer, h') := (h.onto ⟨[], h.connection⟩).act d.observed s
  (⟨s, h'.connection.contacts, answer⟩, h'.onto h'.connection.connection)

/-- What is sent in the place of a statement is no matter of the connection. -/
theorem redirect_onto {τ : Type} (h : Harness σ) (s : τ) (sql : String) :
    (h.onto s).redirect sql = ((h.redirect sql).1, (h.redirect sql).2.onto s) := by
  rcases h with ⟨active, savepoints, counter, connection⟩
  cases active with
  | false => rfl
  | true =>
      simp only [redirect, onto]
      cases Control.of? sql with
      | none => rfl
      | some control => cases control <;> cases savepoints <;> rfl

theorem connection_redirect (h : Harness σ) (sql : String) :
    (h.redirect sql).2.connection = h.connection :=
  congrArg (fun x => x.2.connection) (h.redirect_onto h.connection sql)

/-- Observing makes no difference. -/
theorem perform_eq (d : Driver σ) (h : Harness σ) (s : HarnessStep) :
    ((h.perform d s).1.answer, (h.perform d s).2) = h.act d s := by
  rcases h with ⟨active, savepoints, counter, connection⟩
  -- only a call of the connection has to be looked at, and its reply is the same with an observer
  cases s with
  | start =>
      cases active with
      | true => rfl
      | false =>
          simp only [perform, act, start, onto, onConnection, Driver.observed, Bool.false_eq_true,
            if_false]
          cases (d.query ⟨"BEGIN", []⟩ connection).1 <;> rfl
  | rollback =>
      cases active with
      | false => rfl
      | true =>
          simp only [perform, act, rollback, onto, onConnection, Driver.observed, if_true]
          cases (d.query ⟨"ROLLBACK", []⟩ connection).1 <;> rfl
  | finish =>
      cases active with
      | false => rfl
      | true =>
          simp only [perform, act, finish, rollback, onto, onConnection, Driver.observed, if_true]
          cases (d.query ⟨"ROLLBACK", []⟩ connection).1 <;> rfl
  | close =>
      cases active with
      | false => rfl
      | true =>
          simp only [perform, act, rollback, onto, onConnection, Driver.observed, Driver.harnessed,
            if_true]
          cases (d.query ⟨"ROLLBACK", []⟩ connection).1 <;> rfl
  | statement c =>
      -- what is to be sent is chosen before the connection is asked for it
      rcases hredirect : redirect ⟨active, savepoints, counter, connection⟩ c.sql with ⟨sql?, h'⟩
      have hconnection : h'.connection = connection := by
        have hkept := connection_redirect ⟨active, savepoints, counter, connection⟩ c.sql
        rwa [hredirect] at hkept
      simp only [perform, act, Driver.harnessed, redirect_onto, hredirect]
      cases sql? <;> simp [onto, onConnection, Driver.observed, hconnection]

/-- Does steps one after the other, and tells the deeds. -/
def performAll (d : Driver σ) : List HarnessStep → Harness σ → List Deed × Harness σ
  | [], h => ([], h)
  | s :: steps, h =>
      let (x, h) := h.perform d s
      let (xs, h) := performAll d steps h
      (x :: xs, h)

end Harness

/-! ## What has been attempted -/

namespace Deed

/-- The outer transaction is opened. -/
def Opens (x : Deed) : Prop :=
  x.step = .start ∧ ∃ reply, x.contacts = [.turn ⟨⟨"BEGIN", []⟩, .ok reply⟩]

/-- The outer transaction is to be rolled back, with this reply. -/
def RollsBack (x : Deed) (reply : Except Error Reply) : Prop :=
  (x.step = .rollback ∨ x.step = .finish ∨ x.step = .close) ∧
    .turn ⟨⟨"ROLLBACK", []⟩, reply⟩ ∈ x.contacts

/-- The outer transaction is to be rolled back, whether or not it succeeds. -/
def AttemptsRollback (x : Deed) : Prop :=
  ∃ reply, x.RollsBack reply

/-- The outer transaction is rolled back. -/
def RolledBack (x : Deed) : Prop :=
  ∃ reply, x.RollsBack (.ok reply)

theorem not_opens_of_ending {x : Deed}
    (hx : x.step = .rollback ∨ x.step = .finish ∨ x.step = .close) :
    ¬ x.Opens := by
  intro hopens
  rw [hopens.1] at hx
  simp at hx

/-- The statement of a deed, if it is one. -/
def call? (x : Deed) : Option Call :=
  match x.step with
  | .statement c => some c
  | _ => none

/-- A transaction is to be begun inside the outer one, and that fails. -/
def FailsToBegin (x : Deed) : Prop :=
  ∃ c e, x.step = .statement c ∧ c.Begins ∧ x.answer = .error e

/-- The statement of a deed, unless it has failed to begin a transaction. -/
def standing? (x : Deed) : Option Call :=
  match x.step, x.answer with
  | .statement c, .ok _ => some c
  | .statement c, .error _ => if c.Begins then none else some c
  | _, _ => none

theorem standing?_cases (x : Deed) :
    (x.standing? = x.call? ∧ ¬ x.FailsToBegin) ∨
      (x.FailsToBegin ∧ x.standing? = none ∧ ∃ c, c.Begins ∧ x.call? = some c) := by
  rcases x with ⟨step, contacts, answer⟩
  cases step with
  | statement c =>
      cases answer with
      | ok reply => exact .inl ⟨rfl, by rintro ⟨_, _, _, _, h⟩; cases h⟩
      | error e =>
          by_cases hc : c.Begins
          · exact .inr ⟨⟨c, e, rfl, hc, rfl⟩, by simp only [standing?, if_pos hc], c, hc, rfl⟩
          · refine .inl ⟨by simp only [standing?, call?, if_neg hc], ?_⟩
            rintro ⟨_, _, h, hbegins, _⟩
            cases h
            exact hc hbegins
  | start => exact .inl ⟨rfl, by rintro ⟨_, _, h, _⟩; cases h⟩
  | rollback => exact .inl ⟨rfl, by rintro ⟨_, _, h, _⟩; cases h⟩
  | finish => exact .inl ⟨rfl, by rintro ⟨_, _, h, _⟩; cases h⟩
  | close => exact .inl ⟨rfl, by rintro ⟨_, _, h, _⟩; cases h⟩

end Deed

/-- Behind the deeds of the past, the outer transaction is open: it has been opened, and none of the
deeds since then is one of those that end it. -/
def OpenSince (ends : Deed → Prop) (past since : List Deed) : Prop :=
  ∃ before x, past = before ++ x :: since ∧ x.Opens ∧ ∀ y ∈ since, ¬ ends y

/-- The outer transaction is open. -/
def StaysOpen (ends : Deed → Prop) (past : List Deed) : Prop :=
  ∃ since, OpenSince ends past since

/-! ## Transactions that have not begun -/

theorem exists_ongoing (cs : List Call) : ∃ numbers, Ongoing cs numbers := by
  induction cs using List.reverseRecOn with
  | nil => exact ⟨[], .none⟩
  | append_singleton past c ih =>
      rcases ih with ⟨numbers, hongoing⟩
      -- a statement begins a transaction, ends the innermost one if there is one, or does neither
      by_cases hbegins : c.Begins
      · exact ⟨_, hongoing.begins hbegins⟩
      · by_cases hends : c.Ends
        · cases numbers with
          | nil => exact ⟨[], hongoing.stray hends⟩
          | cons i numbers => exact ⟨numbers, hongoing.ends .nil hends⟩
        · have hnone : Control.of? c.sql = none := by
            cases hc : Control.of? c.sql with
            | none => rfl
            | some control => cases control <;> simp [Call.Begins, Call.Ends, hc] at hbegins hends
          exact ⟨numbers, hongoing.balanced (.other hnone .nil)⟩

theorem length_advance_mono {s s' : List Nat × Nat} (h : s'.1.length ≤ s.1.length) (c : Call) :
    (advance s' c).1.length ≤ (advance s c).1.length := by
  simp only [advance]
  cases Control.of? c.sql with
  | none => exact h
  | some control => cases control <;> simp <;> omega

theorem length_foldl_standing_le (since : List Deed) {s s' : List Nat × Nat}
    (h : s'.1.length ≤ s.1.length) :
    ((since.filterMap Deed.standing?).foldl advance s').1.length ≤
      ((since.filterMap Deed.call?).foldl advance s).1.length := by
  -- by induction on the deeds, from any two states of which the second one is not deeper
  induction since generalizing s s' with
  | nil => exact h
  | cons x since ih =>
      rcases x.standing?_cases with ⟨hsame, _⟩ | ⟨_, hnone, c, hc, hcall⟩
      · cases hcall : x.call? with
        | none =>
            rw [List.filterMap_cons_none (hsame.trans hcall), List.filterMap_cons_none hcall]
            exact ih h
        | some c =>
            rw [List.filterMap_cons_some (hsame.trans hcall), List.filterMap_cons_some hcall,
              List.foldl_cons, List.foldl_cons]
            exact ih (length_advance_mono h c)
      · rw [List.filterMap_cons_none hnone, List.filterMap_cons_some hcall, List.foldl_cons]
        refine ih ?_
        rw [advance_begins hc, List.length_cons]
        exact h.trans (Nat.le_succ _)

/-- Without the statements that have failed to begin a transaction, no more transactions are
open. -/
theorem Ongoing.standing_le {since : List Deed} {numbers standing : List Nat}
    (h : Ongoing (since.filterMap Deed.call?) numbers)
    (h' : Ongoing (since.filterMap Deed.standing?) standing) :
    standing.length ≤ numbers.length := by
  have hle := length_foldl_standing_le since (Nat.le_refl ([], 0).1.length)
  rwa [h.foldl_advance, h'.foldl_advance] at hle

section Openings

variable {ends : Deed → Prop} {past since : List Deed} {x : Deed}

theorem not_staysOpen_nil : ¬ StaysOpen ends [] := by
  rintro ⟨since, before, x, hpast, _⟩
  simp at hpast

theorem OpenSince.opened (hx : x.Opens) : OpenSince ends (past ++ [x]) [] :=
  ⟨past, x, rfl, hx, by simp⟩

theorem OpenSince.concat (h : OpenSince ends past since) (hx : ¬ ends x) :
    OpenSince ends (past ++ [x]) (since ++ [x]) := by
  rcases h with ⟨before, y, rfl, hy, hsince⟩
  refine ⟨before, y, by simp, hy, ?_⟩
  simpa [or_imp, forall_and] using ⟨hsince, hx⟩

/-- The last deed opens the outer transaction or leaves it open. -/
theorem staysOpen_concat :
    StaysOpen ends (past ++ [x]) ↔ x.Opens ∨ (StaysOpen ends past ∧ ¬ ends x) := by
  constructor
  · rintro ⟨since, before, y, hpast, hy, hsince⟩
    -- the deed that opens is the last one, or there is another one behind it
    rcases List.eq_nil_or_concat' since with rfl | ⟨since', z, rfl⟩
    · rcases List.append_inj' hpast rfl with ⟨_, hlast⟩
      exact .inl (List.singleton_inj.1 hlast ▸ hy)
    · rw [← List.cons_append, ← List.append_assoc] at hpast
      rcases List.append_inj' hpast rfl with ⟨hbefore, hlast⟩
      rcases List.singleton_inj.1 hlast
      exact .inr
        ⟨⟨since', before, y, hbefore, hy, fun w hw => hsince w (List.mem_append_left _ hw)⟩,
        hsince x (by simp)⟩
  · rintro (hx | ⟨⟨since, hsince⟩, hx⟩)
    · exact ⟨[], .opened hx⟩
    · exact ⟨since ++ [x], hsince.concat hx⟩

end Openings

/-! ## What reaches the connection -/

/-- `Deed.Follows past x`: behind the deeds of the past, `x` is what a harness does. -/
inductive Deed.Follows (past : List Deed) : Deed → Prop
  | refused : StaysOpen AttemptsRollback past → Follows past ⟨.start, [], .error .alreadyStarted⟩
  | starts (reply : Except Error Reply) : ¬ StaysOpen AttemptsRollback past →
      Follows past ⟨.start, [.turn ⟨⟨"BEGIN", []⟩, reply⟩], withoutRows reply⟩
  | rollsBack (reply : Except Error Reply) : StaysOpen AttemptsRollback past →
      Follows past ⟨.rollback, [.turn ⟨⟨"ROLLBACK", []⟩, reply⟩], withoutRows reply⟩
  | rests : ¬ StaysOpen AttemptsRollback past → Follows past ⟨.rollback, [], .ok .empty⟩
  /-- The connection is closed in any case. -/
  | finishes (reply : Except Error Reply) (closed : Except Error Unit) :
      StaysOpen AttemptsRollback past →
      Follows past ⟨.finish, [.turn ⟨⟨"ROLLBACK", []⟩, reply⟩, .closing closed],
        reply.bind fun _ => withoutRows closed⟩
  | closes (reply : Reply) (closed : Except Error Unit) : StaysOpen AttemptsRollback past →
      Follows past
        ⟨.close, [.turn ⟨⟨"ROLLBACK", []⟩, .ok reply⟩, .closing closed], withoutRows closed⟩
  /-- The connection is not closed, as the rollback has failed. -/
  | breaksOff (e : Error) : StaysOpen AttemptsRollback past →
      Follows past ⟨.close, [.turn ⟨⟨"ROLLBACK", []⟩, .error e⟩], .error e⟩
  | hangsUp {s : HarnessStep} (closed : Except Error Unit) : s = .finish ∨ s = .close →
      ¬ StaysOpen AttemptsRollback past → Follows past ⟨s, [.closing closed], withoutRows closed⟩
  | forwards {since : List Deed} {c : Call} {reply : Except Error Reply} {zs : List Turn} :
      OpenSince AttemptsRollback past since → Forwards (since.filterMap call?) ⟨c, reply⟩ zs →
      Follows past ⟨.statement c, zs.map .turn, reply⟩
  | passes (c : Call) (reply : Except Error Reply) : ¬ StaysOpen AttemptsRollback past →
      Follows past ⟨.statement c, [.turn ⟨c, reply⟩], reply⟩

/-- To close a harness as a driver leaves the connection open when the rollback fails. -/
theorem Deed.Follows.closing_iff {past : List Deed} {x : Deed} (hx : x.Follows past)
    (hs : x.step = .finish ∨ x.step = .close) :
    (∃ result, .closing result ∈ x.contacts) ↔
      x.step = .finish ∨ ∀ e, ¬ x.RollsBack (.error e) := by
  cases hx with
  | finishes reply closed _ => exact iff_of_true ⟨closed, by simp⟩ (.inl rfl)
  | closes reply closed _ =>
      exact iff_of_true ⟨closed, by simp⟩ (.inr fun e he => by simpa using he.2)
  | breaksOff e _ =>
      -- the connection is closed behind the rollback, if that succeeds
      refine iff_of_false (by simp) ?_
      rintro (hfinish | hnone)
      · cases hfinish
      · exact hnone e ⟨.inr (.inr rfl), by simp⟩
  | hangsUp closed _ _ =>
      exact iff_of_true ⟨closed, by simp⟩ (.inr fun e he => by simpa using he.2)
  | _ => simp at hs

/-! ## The harness -/

namespace Harness

variable {σ : Type} {d : Driver σ} {h : Harness σ} {past : List Deed}

/-- The harness knows what has been attempted: it has the savepoints of the open transactions while
the outer one is open, and none otherwise. -/
inductive Tracks (past : List Deed) (h : Harness σ) : Prop
  | held {since : List Deed} : OpenSince Deed.AttemptsRollback past since →
      h.Stands (since.filterMap Deed.call?) → Tracks past h
  | released : ¬ StaysOpen Deed.AttemptsRollback past → h.active = false → h.savepoints = [] →
      Tracks past h

/-- Nothing is opened, and the outer transaction is not open behind the step either. -/
theorem Tracks.of_released {x : Deed} {h' : Harness σ} (hopens : ¬ x.Opens)
    (hended : StaysOpen Deed.AttemptsRollback past → x.AttemptsRollback)
    (hactive : h'.active = false)
    (hsavepoints : h'.savepoints = []) : Tracks (past ++ [x]) h' := by
  refine .released ?_ hactive hsavepoints
  -- a transaction that stays open has been opened by the deed or before it
  rw [staysOpen_concat]
  rintro (hx | ⟨hstays, hx⟩)
  · exact hopens hx
  · exact hx (hended hstays)

/-- What a start does, when the outer transaction is not open. -/
theorem perform_start (hactive : h.active = false) : ∃ reply s, h.perform d .start =
    (⟨.start, [.turn ⟨⟨"BEGIN", []⟩, reply⟩], withoutRows reply⟩,
      match reply with
      | .ok _ => ⟨true, [], 0, s⟩
      | .error _ => { h with connection := s }) := by
  rcases h with ⟨active, savepoints, counter, connection⟩
  cases hactive
  refine ⟨(d.query ⟨"BEGIN", []⟩ connection).1, (d.query ⟨"BEGIN", []⟩ connection).2, ?_⟩
  simp only [perform, act, start, onto, onConnection, Driver.observed, Bool.false_eq_true, if_false]
  cases (d.query ⟨"BEGIN", []⟩ connection).1 <;> rfl

/-- The outer transaction is taken to be ended before the connection is told. -/
theorem rollback_of_active (hactive : h.active = true) : ∃ reply s,
    (h.onto ⟨[], h.connection⟩).rollback d.observed = (reply.map fun _ => (),
      ⟨false, [], h.counter, ⟨[.turn ⟨⟨"ROLLBACK", []⟩, reply⟩], s⟩⟩) := by
  rcases h with ⟨active, savepoints, counter, connection⟩
  cases hactive
  refine ⟨(d.query ⟨"ROLLBACK", []⟩ connection).1, (d.query ⟨"ROLLBACK", []⟩ connection).2, ?_⟩
  simp only [rollback, onto, onConnection, Driver.observed, if_true]
  cases (d.query ⟨"ROLLBACK", []⟩ connection).1 <;> rfl

theorem rollback_of_not_active (hactive : h.active = false) :
    (h.onto (⟨[], h.connection⟩ : Observed σ)).rollback d.observed =
      (.ok (), ⟨false, [], h.counter, ⟨[], h.connection⟩⟩) := by
  rcases h with ⟨active, savepoints, counter, connection⟩
  cases hactive
  rfl

/-- A step that ends the outer transaction, while it is open. The harness takes it to be ended,
whatever the connection replies. -/
theorem perform_ending {s : HarnessStep} (hs : s = .rollback ∨ s = .finish ∨ s = .close)
    (hactive : h.active = true) (hstays : StaysOpen Deed.AttemptsRollback past) :
    (h.perform d s).1.Follows past ∧ (h.perform d s).1.AttemptsRollback ∧
      (h.perform d s).2.active = false ∧ (h.perform d s).2.savepoints = [] := by
  rcases rollback_of_active (d := d) hactive with ⟨reply, s', hrollback⟩
  have hattempts : ∀ contacts answer, .turn ⟨⟨"ROLLBACK", []⟩, reply⟩ ∈ contacts →
      (Deed.mk s contacts answer).AttemptsRollback := fun contacts answer hmem => ⟨reply, hs, hmem⟩
  rcases hs with rfl | rfl | rfl
  · have hperform : h.perform d .rollback =
        (⟨.rollback, [.turn ⟨⟨"ROLLBACK", []⟩, reply⟩], withoutRows reply⟩,
          ⟨false, [], h.counter, s'⟩) := by
      simp only [perform, act, hrollback]
      cases reply <;> rfl
    rw [hperform]
    exact ⟨.rollsBack reply hstays, hattempts _ _ (by simp), rfl, rfl⟩
  · have hperform : h.perform d .finish =
        (⟨.finish, [.turn ⟨⟨"ROLLBACK", []⟩, reply⟩, .closing (d.close s').1],
          reply.bind fun _ => withoutRows (d.close s').1⟩,
          ⟨false, [], h.counter, (d.close s').2⟩) := by
      simp only [perform, act, finish, hrollback]
      cases reply <;> rfl
    rw [hperform]
    exact ⟨.finishes reply _ hstays, hattempts _ _ (by simp), rfl, rfl⟩
  -- the driver closes its connection only behind a rollback that has succeeded
  · cases reply with
    | ok reply =>
        have hperform : h.perform d .close =
            (⟨.close, [.turn ⟨⟨"ROLLBACK", []⟩, .ok reply⟩, .closing (d.close s').1],
              withoutRows (d.close s').1⟩,
              ⟨false, [], h.counter, (d.close s').2⟩) := by
          simp only [perform, act, Driver.harnessed, hrollback]
          rfl
        rw [hperform]
        exact ⟨.closes reply _ hstays, hattempts _ _ (by simp), rfl, rfl⟩
    | error e =>
        have hperform : h.perform d .close =
            (⟨.close, [.turn ⟨⟨"ROLLBACK", []⟩, .error e⟩], .error e⟩,
              ⟨false, [], h.counter, s'⟩) := by
          simp only [perform, act, Driver.harnessed, hrollback]
          rfl
        rw [hperform]
        exact ⟨.breaksOff e hstays, hattempts _ _ (by simp), rfl, rfl⟩

/-- The same steps, while the outer transaction is not open. -/
theorem perform_ending_idle {s : HarnessStep} (hs : s = .rollback ∨ s = .finish ∨ s = .close)
    (hactive : h.active = false) (hstays : ¬ StaysOpen Deed.AttemptsRollback past) :
    (h.perform d s).1.Follows past ∧
      (h.perform d s).2.active = false ∧ (h.perform d s).2.savepoints = [] := by
  have hrollback := rollback_of_not_active (d := d) hactive
  rcases hs with rfl | rfl | rfl
  · have hperform : h.perform d .rollback =
        (⟨.rollback, [], .ok .empty⟩, ⟨false, [], h.counter, h.connection⟩) := by
      simp only [perform, act, hrollback]
      rfl
    rw [hperform]
    exact ⟨.rests hstays, rfl, rfl⟩
  · have hperform : h.perform d .finish =
        (⟨.finish, [.closing (d.close h.connection).1], withoutRows (d.close h.connection).1⟩,
          ⟨false, [], h.counter, (d.close h.connection).2⟩) := by
      simp only [perform, act, finish, hrollback]
      rfl
    rw [hperform]
    exact ⟨.hangsUp _ (.inl rfl) hstays, rfl, rfl⟩
  · have hperform : h.perform d .close =
        (⟨.close, [.closing (d.close h.connection).1], withoutRows (d.close h.connection).1⟩,
          ⟨false, [], h.counter, (d.close h.connection).2⟩) := by
      simp only [perform, act, Driver.harnessed, hrollback]
      rfl
    rw [hperform]
    exact ⟨.hangsUp _ (.inr rfl) hstays, rfl, rfl⟩

/-- While the outer transaction is not open, a statement is passed on as it is. -/
theorem perform_statement_idle (hactive : h.active = false) (c : Call) : ∃ reply s,
    h.perform d (.statement c) =
      (⟨.statement c, [.turn ⟨c, reply⟩], reply⟩, { h with connection := s }) := by
  rcases h with ⟨active, savepoints, counter, connection⟩
  cases hactive
  exact ⟨(d.query c connection).1, (d.query c connection).2, rfl⟩

/-- Every step keeps what the harness knows, and does what is to be done. -/
theorem Tracks.perform (htracks : h.Tracks past) (s : HarnessStep) :
    (h.perform d s).1.Follows past ∧ (h.perform d s).2.Tracks (past ++ [(h.perform d s).1]) := by
  cases htracks with
  | @held since hsince hstands =>
      have hactive : h.active = true := hstands.active
      have hstays : StaysOpen Deed.AttemptsRollback past := ⟨since, hsince⟩
      have hending : s = .rollback ∨ s = .finish ∨ s = .close → (h.perform d s).1.Follows past ∧
          (h.perform d s).2.Tracks (past ++ [(h.perform d s).1]) := by
        intro hs
        rcases perform_ending (d := d) hs hactive hstays with ⟨hfollows, hattempts, hended, hnone⟩
        exact ⟨hfollows,
          .of_released (Deed.not_opens_of_ending hs) (fun _ => hattempts) hended hnone⟩
      cases s with
      | rollback => exact hending (.inl rfl)
      | finish => exact hending (.inr (.inl rfl))
      | close => exact hending (.inr (.inr rfl))
      | start =>
          have hperform : h.perform d .start = (⟨.start, [], .error .alreadyStarted⟩, h) := by
            rcases h with ⟨active, savepoints, counter, connection⟩
            cases hactive
            rfl
          rw [hperform]
          refine ⟨.refused hstays, .held (hsince.concat ?_) ?_⟩
          · rintro ⟨reply, hs, _⟩
            simp at hs
          · have hnone : [⟨.start, [], .error .alreadyStarted⟩].filterMap Deed.call? = [] := rfl
            rwa [List.filterMap_append, hnone, List.append_nil]
      | statement c =>
          -- observed or not, the harness stands behind the statements since the transaction was
          -- opened
          have hstands' :
              (h.onto (⟨[], h.connection⟩ : Observed σ)).Stands (since.filterMap Deed.call?) :=
            ⟨hstands.active, hstands.counter_eq, hstands.ongoing⟩
          rcases hstands'.query (d := d.observed) c with ⟨zs, hforwards, hleads, hbehind⟩
          have hcontacts :
              (d.observed.harnessed.query c (h.onto ⟨[], h.connection⟩)).2.connection.contacts =
              zs.map .turn := hleads.contacts_eq
          have hdeed : (h.perform d (.statement c)).1 = ⟨.statement c, zs.map .turn,
              (d.observed.harnessed.query c (h.onto ⟨[], h.connection⟩)).1⟩ := by
            rw [← hcontacts]
            rfl
          refine ⟨hdeed ▸ .forwards hsince hforwards, .held (hsince.concat ?_) ?_⟩
          · rintro ⟨reply, hs, _⟩
            simp [Harness.perform] at hs
          · rw [List.filterMap_append]
            exact ⟨hbehind.active, hbehind.counter_eq, hbehind.ongoing⟩
  | released hstays hactive hsavepoints =>
      have hending : s = .rollback ∨ s = .finish ∨ s = .close → (h.perform d s).1.Follows past ∧
          (h.perform d s).2.Tracks (past ++ [(h.perform d s).1]) := by
        intro hs
        rcases perform_ending_idle (d := d) hs hactive hstays with ⟨hfollows, hended, hnone⟩
        exact ⟨hfollows,
          .of_released (Deed.not_opens_of_ending hs) (fun hopen => absurd hopen hstays)
          hended hnone⟩
      cases s with
      | rollback => exact hending (.inl rfl)
      | finish => exact hending (.inr (.inl rfl))
      | close => exact hending (.inr (.inr rfl))
      | start =>
          rcases perform_start (d := d) hactive with ⟨reply, s, hperform⟩
          rw [hperform]
          refine ⟨.starts reply hstays, ?_⟩
          cases reply with
          | ok reply =>
              -- the outer transaction has just been opened, and nothing has happened in it
              exact .held (.opened ⟨rfl, reply, rfl⟩) ⟨rfl, rfl, [], .none, rfl⟩
          | error e =>
              refine .of_released ?_ (fun hopen => absurd hopen hstays) hactive hsavepoints
              rintro ⟨_, reply, hcontacts⟩
              simp at hcontacts
      | statement c =>
          rcases perform_statement_idle (d := d) hactive c with ⟨reply, s, hperform⟩
          rw [hperform]
          refine ⟨.passes c reply hstays,
            .of_released ?_ (fun hopen => absurd hopen hstays) hactive hsavepoints⟩
          rintro ⟨hstart, _⟩
          simp at hstart

/-! ## Runs -/

theorem performAll_snd (d : Driver σ) (steps : List HarnessStep) (h : Harness σ) :
    (h.performAll d steps).2 = steps.foldl (fun h s => (h.act d s).2) h := by
  induction steps generalizing h with
  | nil => rfl
  | cons s steps ih =>
      have hstep : (h.perform d s).2 = (h.act d s).2 := congrArg Prod.snd (h.perform_eq d s)
      rw [List.foldl_cons, ← hstep]
      exact ih (h.perform d s).2

theorem Tracks.performAll (htracks : h.Tracks past) (steps : List HarnessStep) :
    (∀ before x, before ++ [x] <+: (h.performAll d steps).1 → x.Follows (past ++ before)) ∧
      (h.performAll d steps).2.Tracks (past ++ (h.performAll d steps).1) := by
  induction steps generalizing h past with
  | nil =>
      refine ⟨?_, by simpa [Harness.performAll] using htracks⟩
      intro before x hprefix
      simp [Harness.performAll] at hprefix
  | cons s steps ih =>
      rcases htracks.perform (d := d) s with ⟨hfollows, hnext⟩
      rcases ih hnext with ⟨hrest, hlast⟩
      refine ⟨?_, by simpa [Harness.performAll] using hlast⟩
      intro before x hprefix
      -- the deed is the first one of the run, or one of the rest, which follows on this step
      cases before with
      | nil =>
          have hx : x = (h.perform d s).1 := by
            simpa [Harness.performAll] using hprefix
          simpa [hx] using hfollows
      | cons y before =>
          have hboth : y = (h.perform d s).1 ∧
              before ++ [x] <+: ((h.perform d s).2.performAll d steps).1 := by
            simpa [Harness.performAll, List.cons_prefix_cons] using hprefix
          simpa [hboth.1] using hrest before x hboth.2

theorem Tracks.active_iff (htracks : h.Tracks past) :
    h.active = true ↔ StaysOpen Deed.AttemptsRollback past := by
  cases htracks with
  | held hsince hstands => exact iff_of_true hstands.active ⟨_, hsince⟩
  | released hstays hactive _ => exact iff_of_false (by simp [hactive]) hstays

theorem Tracks.exists_depth (htracks : h.Tracks past) (hactive : h.active = true) :
    ∃ since numbers, OpenSince Deed.AttemptsRollback past since ∧
      Ongoing (since.filterMap Deed.call?) numbers ∧ h.depth = numbers.length := by
  cases htracks with
  | @held since hsince hstands =>
      rcases hstands.exists_depth with ⟨numbers, hongoing, hdepth⟩
      exact ⟨since, numbers, hsince, hongoing, hdepth⟩
  | released _ hended _ => simp [hended] at hactive

theorem Tracks.depth_eq_zero (htracks : h.Tracks past) (hactive : h.active = false) :
    h.depth = 0 := by
  cases htracks with
  | held _ hstands => simp [hstands.active] at hactive
  | released _ _ hsavepoints => simp [depth, hsavepoints]

/-- **What a harness knows when calls of the connection fail.** Whatever steps are taken, and
whatever the connection replies: what reaches it for each step follows from the deeds before it. The
outer transaction counts as open from a BEGIN that has succeeded to the next attempt to roll it
back, whether or not that succeeds. The depth is the number of the transactions that it has been
attempted to begin since then and to which no end has been sent. So the depth is at least the number
of those that have begun, and just that number if every attempt to begin one has succeeded; and a
harness that is active is in a transaction that has not been rolled back, and the converse holds if
no rollback has failed. To finish the harness closes the connection in any case; to close it as a
driver does so just if the rollback does not fail. -/
theorem tracks_failures {σ : Type} (d : Driver σ) (s : σ) (steps : List HarnessStep) :
    let deeds := (performAll d steps ⟨false, [], 0, s⟩).1
    let h := (performAll d steps ⟨false, [], 0, s⟩).2
    h = steps.foldl (fun h s => (h.act d s).2) ⟨false, [], 0, s⟩ ∧
    (∀ before x, before ++ [x] <+: deeds → x.Follows before) ∧
    (h.active = true ↔ StaysOpen Deed.AttemptsRollback deeds) ∧
    ((h.active = true → StaysOpen Deed.RolledBack deeds) ∧
      ((∀ x ∈ deeds, ∀ e, ¬ x.RollsBack (.error e)) →
        StaysOpen Deed.RolledBack deeds → h.active = true)) ∧
    (h.active = false → h.depth = 0) ∧
    (h.active = true → ∃ since numbers standing, OpenSince Deed.AttemptsRollback deeds since ∧
      Ongoing (since.filterMap Deed.call?) numbers ∧ h.depth = numbers.length ∧
      Ongoing (since.filterMap Deed.standing?) standing ∧ standing.length ≤ h.depth ∧
      ((∀ x ∈ since, ¬ x.FailsToBegin) → standing.length = h.depth)) ∧
    (∀ x ∈ deeds, x.step = .finish ∨ x.step = .close →
      ((∃ result, .closing result ∈ x.contacts) ↔
        x.step = .finish ∨ ∀ e, ¬ x.RollsBack (.error e))) := by
  intro deeds h
  -- a harness that has not been started knows of nothing, as nothing has happened
  have hfresh : Tracks [] (⟨false, [], 0, s⟩ : Harness σ) := .released not_staysOpen_nil rfl rfl
  rcases hfresh.performAll (d := d) steps with ⟨hfollows, htracks⟩
  simp only [List.nil_append] at hfollows htracks
  refine ⟨performAll_snd d steps _, hfollows, htracks.active_iff, ⟨?sound, ?complete⟩,
    htracks.depth_eq_zero, ?depth, ?closing⟩
  case sound =>
    intro hactive
    -- a rollback that has succeeded has been attempted
    rcases htracks.active_iff.1 hactive with ⟨since, before, x, hdeeds, hopens, hsince⟩
    exact ⟨since, before, x, hdeeds, hopens, fun y hy hended => hsince y hy ⟨_, hended.choose_spec⟩⟩
  case complete =>
    rintro hnone ⟨since, before, x, hdeeds, hopens, hsince⟩
    refine htracks.active_iff.2 ⟨since, before, x, hdeeds, hopens, ?_⟩
    rintro y hy ⟨reply, hreply⟩
    -- a rollback that has not succeeded has failed, and none does
    cases reply with
    | ok reply => exact hsince y hy ⟨reply, hreply⟩
    | error e =>
        have hy' : y ∈ deeds := by
          rw [show deeds = before ++ x :: since from hdeeds]
          simp [hy]
        exact hnone y hy' e hreply
  case depth =>
    intro hactive
    rcases htracks.exists_depth hactive with ⟨since, numbers, hsince, hongoing, hdepth⟩
    rcases exists_ongoing (since.filterMap Deed.standing?) with ⟨standing, hstanding⟩
    refine ⟨since, numbers, standing, hsince, hongoing, hdepth, hstanding, ?_, ?_⟩
    · exact hdepth ▸ hongoing.standing_le hstanding
    · intro hbegun
      -- where no attempt to begin has failed, every statement is left standing
      have hsame : since.filterMap Deed.standing? = since.filterMap Deed.call? :=
        List.filterMap_congr fun x hx =>
          (x.standing?_cases.resolve_right fun hfails => hbegun x hx hfails.1).1
      rw [hdepth, hongoing.unique (hsame ▸ hstanding)]
  case closing =>
    intro x hx
    rcases List.append_of_mem hx with ⟨before, behind, hdeeds⟩
    have hprefix : before ++ [x] <+: deeds := ⟨behind, by simp [hdeeds]⟩
    exact (hfollows before x hprefix).closing_iff

/-- A connection that fails at the first savepoint and at the rollback. -/
def failing : Recorder where
  scripts := [⟨"SAVEPOINT t1", .fail "no memory"⟩, ⟨"ROLLBACK", .fail "gone"⟩]

/-- A transaction that does not begin is counted, and its end is sent; a rollback that fails ends
the outer transaction for the harness, and the connection stays open. -/
theorem failing_lost_track :
    let steps : List HarnessStep :=
      [.start, .statement ⟨"BEGIN", []⟩, .statement ⟨"COMMIT", []⟩, .close]
    let begun := performAll Recorder.driver (steps.take 2) ⟨false, [], 0, failing⟩
    let closed := performAll Recorder.driver steps ⟨false, [], 0, failing⟩
    (begun.2.depth = 1 ∧ begun.1.filterMap Deed.standing? = []) ∧
      (closed.2.connection.calls.map fun c => c.sql) =
        ["BEGIN", "SAVEPOINT t1", "RELEASE SAVEPOINT t1", "ROLLBACK"] ∧
      (closed.2.active = false ∧ StaysOpen Deed.RolledBack closed.1) ∧
      closed.2.connection.closed = false := by
  intro steps begun closed
  have hdeeds : closed.1 = [⟨.start, [.turn ⟨⟨"BEGIN", []⟩, .ok .empty⟩], .ok .empty⟩,
      ⟨.statement ⟨"BEGIN", []⟩, [.turn ⟨⟨"SAVEPOINT t1", []⟩, .error (.driver "no memory")⟩],
        .error (.driver "no memory")⟩,
      ⟨.statement ⟨"COMMIT", []⟩,
        [.turn ⟨⟨"RELEASE SAVEPOINT t1", []⟩, .error (.driver "no memory")⟩],
        .error (.driver "no memory")⟩,
      ⟨.close, [.turn ⟨⟨"ROLLBACK", []⟩, .error (.driver "gone")⟩], .error (.driver "gone")⟩] := rfl
  refine ⟨⟨rfl, rfl⟩, rfl, ⟨rfl, ?_⟩, rfl⟩
  refine ⟨_, [], _, hdeeds, ⟨rfl, .empty, rfl⟩, ?_⟩
  rintro y hy ⟨reply, hreply⟩
  simp only [List.mem_cons, List.not_mem_nil, or_false] at hy
  rcases hy with rfl | rfl | rfl <;> simp [Deed.RollsBack] at hreply

end Harness
end ParamSql
