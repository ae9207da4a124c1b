import ParamSql.Proofs.Connection.Failures
import ParamSql.Query.Change
import ParamSql.Query.Table

/-!
# Fetch — one statement, and two ways to its result

A query is sent as one statement.  Its reply is brought into the form that the query asks for, or it
is read as the caller asks for it.  Where both ask for the same, they get the same:

* `Fetch.run_observed` — what reaches the connection when a query is fetched, and what becomes of
  the reply;
* `Reading.form?` — the form that is asked for by a way of reading rows and untyped values;
* `Reply.failure?` — what is wrong with a reply for a form;
* `Reply.agrees` — the reading of a reply and its form are the same result, or fail for the same
  replies with errors of the same kind;
* `Fetch.takes_one_turn_and_agrees` — whatever is fetched and from whatever connection.
-/

namespace ParamSql

/-! ## One statement -/

namespace Fetch

variable {σ : Type}

/-- What reaches the connection: nothing if the query cannot be compiled, and otherwise just its
statement. An error of the connection is the answer, and a reply is read. -/
theorem run_observed (d : Driver σ) (f : Fetch) (o : Observed σ) :
    (∀ fault, f.query.compile f.options = .error fault →
      f.run d.observed o = (.error (.compile fault), o)) ∧
    ∀ c, f.query.compile f.options = .ok c →
      ∃ reply s, d.query ⟨c.sql, c.params⟩ o.connection = (reply, s) ∧
        (f.run d.observed o).2 = ⟨o.contacts ++ [.turn ⟨⟨c.sql, c.params⟩, reply⟩], s⟩ ∧
        (∀ e, reply = .error e → (f.run d.observed o).1 = .error e) ∧
        ∀ r, reply = .ok r → (f.run d.observed o).1 = r.readAs f.query.shape f.reading := by
  refine ⟨?refused, ?sent⟩
  case refused =>
    intro fault h
    simp only [run, h]
  case sent =>
    intro c h
    refine ⟨_, _, rfl, ?_, ?_, ?_⟩
    · simp only [run, h, Driver.observed]
    · intro e he
      simp only [run, h, Driver.observed, he]
      rfl
    · intro r hr
      simp only [run, h, Driver.observed, hr]
      rfl

/-- Observing makes no difference. -/
theorem run_unobserved (d : Driver σ) (f : Fetch) (o : Observed σ) :
    f.run d o.connection = ((f.run d.observed o).1, (f.run d.observed o).2.connection) := by
  -- the statement is compiled before the connection is reached, so both runs split alike
  unfold run
  cases f.query.compile f.options with
  | error fault => rfl
  | ok c => rfl

end Fetch

/-! ## Two ways to a result -/

/-- The form that is asked for by a way of reading. There is none for typed values and for objects,
and none that discards the rows. -/
def Reading.form? : Reading → Option Shape
  | .all => some .all
  | .one => some .one
  | .opt => some .oneOptional
  | .value .any => some .value
  | .valueOpt .any => some .valueOptional
  | .pluck .any => some .pluck
  | .execute => some .rowCount
  | _ => none

/-- What has been read, as it is delivered in a form. -/
def Fetched.result? : Fetched → Option Result
  | .rows rs => some (.rows rs)
  | .row r => some (.row r)
  | .optionalRow r => some (.optionalRow r)
  | .value .any x => some (.value x)
  | .optionalValue .any x => some (.optionalValue x)
  | .values .any xs => some (.values xs)
  | .rowCount n => some (.rowCount n)
  | _ => none

/-- What is wrong with a reply for a form: there is no row where one is needed, or a row from which
a value is needed has none. -/
def Reply.failure? (r : Reply) : Shape → Option ErrorKind
  | .one => if r.rows.isEmpty then some .notFound else none
  | .value =>
      match r.rows with
      | [] => some .notFound
      | row :: _ => if row.values.isEmpty then some .decode else none
  | .valueOptional => if r.rows.head?.any (·.values.isEmpty) then some .decode else none
  | .pluck => if r.rows.any (·.values.isEmpty) then some .decode else none
  | _ => none

/-- What the caller has read and what is delivered in a form are the same, or both are errors of a
kind. -/
inductive Agrees : Option ErrorKind → Except Error Fetched → Except Error Result → Prop
  | delivered {x : Fetched} {y : Result} : x.result? = some y → Agrees none (.ok x) (.ok y)
  | failed {e e' : Error} {kind : ErrorKind} :
      e.kind = kind → e'.kind = kind → Agrees (some kind) (.error e) (.error e')

namespace Row

/-- The first value of a row, whichever way it is looked up. -/
theorem first_cases (r : Row) :
    (∃ v, r.values.isEmpty = false ∧ r.readAt 0 .any = .ok v ∧ r.first = .ok v) ∨
    ∃ e e', r.values.isEmpty = true ∧ r.readAt 0 .any = .error e ∧ r.first = .error e' ∧
      e.kind = .decode ∧ e'.kind = .decode := by
  unfold readAt first
  cases r.values with
  | nil => exact .inr ⟨_, _, rfl, rfl, rfl, rfl, rfl⟩
  | cons v vs => exact .inl ⟨v, rfl, rfl, rfl⟩

/-- The first values of rows.  The first row without values decides about all of them. -/
theorem firsts_cases (rs : List Row) :
    (∃ vs, rs.any (·.values.isEmpty) = false ∧
      (rs.mapM fun row => row.readAt 0 .any) = .ok vs ∧ rs.mapM first = .ok vs) ∨
    ∃ e e', rs.any (·.values.isEmpty) = true ∧
      (rs.mapM fun row => row.readAt 0 .any) = .error e ∧ rs.mapM first = .error e' ∧
      e.kind = .decode ∧ e'.kind = .decode := by
  -- the members are read in turn, and the first that has no value ends both readings
  induction rs with
  | nil => exact .inl ⟨[], rfl, rfl, rfl⟩
  | cons r rs ih =>
      simp only [List.any_cons, List.mapM_cons]
      rcases r.first_cases with ⟨v, hv, hread, hfirst⟩ | ⟨e, e', hnone, hread, hfirst, he, he'⟩
      -- the first row has a value, and the others decide
      · rw [hv, hread, hfirst]
        rcases ih with ⟨vs, hvs, hreads, hfirsts⟩ | ⟨e, e', hnone, hreads, hfirsts, he, he'⟩
        · exact .inl ⟨v :: vs, hvs, by rw [hreads]; rfl, by rw [hfirsts]; rfl⟩
        · exact .inr ⟨e, e', hnone, by rw [hreads]; rfl, by rw [hfirsts]; rfl, he, he'⟩
      · rw [hnone, hread, hfirst]
        exact .inr ⟨e, e', rfl, rfl, rfl, he, he'⟩

end Row

namespace Reply

/-- A reply that is read in a form agrees with the reply delivered in it. -/
theorem agrees (r : Reply) (shape : Shape) {reading : Reading} {form : Shape}
    (h : reading.form? = some form) :
    Agrees (r.failure? form) (r.readAs shape reading) (r.shaped form) := by
  rcases r with ⟨rows, count⟩
  -- one case for each way of reading that has a form; only those that take values can fail on a row
  unfold Reading.form? at h
  split at h <;> cases h
  case h_1 => exact .delivered rfl
  case h_2 =>
    cases rows with
    | nil => exact .failed rfl rfl
    | cons row rows => exact .delivered rfl
  case h_3 => exact .delivered rfl
  case h_4 =>
    cases rows with
    | nil => exact .failed rfl rfl
    | cons row rows =>
        rcases row.first_cases with ⟨v, hv, hread, hfirst⟩ | ⟨e, e', hnone, hread, hfirst, he, he'⟩
        · simp only [failure?, readAs, shaped, Reply.first, Except.bind, hv, hread, hfirst]
          exact .delivered rfl
        · simp only [failure?, readAs, shaped, Reply.first, Except.bind, hnone, hread, hfirst]
          exact .failed he he'
  case h_5 =>
    cases rows with
    | nil => exact .delivered rfl
    | cons row rows =>
        rcases row.first_cases with ⟨v, hv, hread, hfirst⟩ | ⟨e, e', hnone, hread, hfirst, he, he'⟩
        · simp only [failure?, readAs, shaped, List.head?_cons, Option.any_some, hv, hread, hfirst]
          exact .delivered rfl
        · simp only [failure?, readAs, shaped, List.head?_cons, Option.any_some, hnone, hread,
            hfirst]
          exact .failed he he'
  case h_6 =>
    rcases Row.firsts_cases rows with ⟨vs, hvs, hreads, hfirsts⟩ |
      ⟨e, e', hnone, hreads, hfirsts, he, he'⟩
    · simp only [failure?, readAs, shaped, hvs, hreads, hfirsts]
      exact .delivered rfl
    · simp only [failure?, readAs, shaped, hnone, hreads, hfirsts]
      exact .failed he he'
  case h_7 => exact .delivered rfl

/-- In the form of the query, a reply is read as it is delivered. -/
theorem readAs_run (r : Reply) (shape : Shape) :
    r.readAs shape .run = (r.shaped shape).map .result := rfl

end Reply

/-! ## Fetching -/

/-- Whatever is fetched, the connection is given nothing if the query cannot be compiled, and
otherwise one statement, which is that of the query with its values; its error is the answer.  A
reply is read as the query or the caller asks for it, and where both ask for the same, both get the
same values or errors of the same kind, which are those of a missing row and of a missing value. -/
theorem Fetch.takes_one_turn_and_agrees :
    (∀ (σ : Type) (d : Driver σ) (f : Fetch) (s : σ) (answer : Except Error Fetched)
        (o : Observed σ), f.run d.observed ⟨[], s⟩ = (answer, o) →
      f.run d s = (answer, o.connection) ∧
      (∀ fault, f.query.compile f.options = .error fault →
        answer = .error (.compile fault) ∧ o = ⟨[], s⟩) ∧
      ∀ c, f.query.compile f.options = .ok c →
        ∃ reply, d.query ⟨c.sql, c.params⟩ s = (reply, o.connection) ∧
          o.contacts = [.turn ⟨⟨c.sql, c.params⟩, reply⟩] ∧
          (∀ e, reply = .error e → answer = .error e) ∧
          ∀ r, reply = .ok r → answer = r.readAs f.query.shape f.reading) ∧
    ∀ (r : Reply) (shape : Shape),
      r.readAs shape .run = (r.shaped shape).map .result ∧
      ∀ reading form, reading.form? = some form →
        Agrees (r.failure? form) (r.readAs shape reading) (r.shaped form) := by
  refine ⟨?sent, ?read⟩
  case sent =>
    intro σ d f s answer o h
    rcases f.run_observed d ⟨[], s⟩ with ⟨hrefused, hsent⟩
    -- observing a run does not change it, and the contacts are those of the observed run
    refine ⟨?_, ?_, ?_⟩
    · rw [f.run_unobserved d ⟨[], s⟩, h]
    · intro fault hfault
      exact Prod.mk.inj (h.symm.trans (hrefused fault hfault))
    · intro c hc
      obtain ⟨reply, s', hreply, hobserved, herror, hok⟩ := hsent c hc
      rw [h] at hobserved herror hok
      obtain rfl : o = ⟨[.turn ⟨⟨c.sql, c.params⟩, reply⟩], s'⟩ := hobserved
      exact ⟨reply, hreply, rfl, herror, hok⟩
  case read =>
    intro r shape
    exact ⟨r.readAs_run shape, fun reading form h => r.agrees shape h⟩

/-- A connection that gives the same reply to every statement. -/
def Driver.answering (r : Reply) : Driver Unit where
  query _ s := (.ok r, s)
  close s := (.ok (), s)
  trace _ s := s

/-- The amount of an order. -/
def Fetch.amountOfOrder : Fetch where
  query := ((Table.named "order").query.filter (.compare "id" .eq (.value (.int 7)))).get "amount"
  reading := .value .any

/-- All orders are removed, which has to be stated. -/
def Fetch.removeOrders : Fetch where
  query := (Table.named "order").query.delete true
  reading := .execute

/-- A row that has no values is of no use for an amount, whichever way it is asked for. -/
theorem Fetch.takes_one_turn_and_agrees_amountOfOrder :
    (∃ c o, amountOfOrder.query.compile {} = .ok c ∧
      amountOfOrder.run (Driver.answering ⟨[⟨["amount"], []⟩], 1⟩).observed ⟨[], ()⟩ =
        (.error (.decode "amount" (.noColumnAt 0)), o) ∧
      o.contacts = [.turn ⟨⟨c.sql, c.params⟩, .ok ⟨[⟨["amount"], []⟩], 1⟩⟩]) ∧
    (∃ o, removeOrders.run (Driver.answering .empty).observed ⟨[], ()⟩ =
        (.error (.compile (.unguarded .delete)), o) ∧ o.contacts = []) ∧
    Agrees (some .decode) (Reply.readAs ⟨[⟨["amount"], []⟩], 1⟩ .value (.value .any))
      (Reply.shaped ⟨[⟨["amount"], []⟩], 1⟩ .value) := by
  rcases takes_one_turn_and_agrees with ⟨hsent, hread⟩
  refine ⟨?answered, ?refused, ?alike⟩
  case answered =>
    obtain ⟨-, -, hcompiled⟩ :=
      hsent Unit (.answering ⟨[⟨["amount"], []⟩], 1⟩) amountOfOrder () _ _ rfl
    obtain ⟨reply, hreply, hcontacts, -, -⟩ := hcompiled _ rfl
    obtain rfl : Except.ok _ = reply := congrArg Prod.fst hreply
    exact ⟨_, _, rfl, rfl, hcontacts⟩
  case refused =>
    obtain ⟨-, hrefused, -⟩ := hsent Unit (.answering .empty) removeOrders () _ _ rfl
    obtain ⟨-, ho⟩ := hrefused (.unguarded .delete) rfl
    exact ⟨_, rfl, congrArg Observed.contacts ho⟩
  case alike => exact (hread ⟨[⟨["amount"], []⟩], 1⟩ .value).2 (.value .any) .value rfl

end ParamSql
