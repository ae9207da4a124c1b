import Mathlib.Data.List.Nodup
import ParamSql.Proofs.Connection.Body
import ParamSql.Proofs.Text.Numbered

/-!
# Bracketing — every block that is opened is closed

Whatever a driver answers, a body takes one of its courses, and the savepoints that are open are
those of the nested transactions around it, before a nested transaction as behind it.

* `Transaction.Numbered t` — the open savepoints have names that have been given out;
* `Transaction.exists_verb`, `Transaction.exists_savepoint` — what a verb and the opening of a
  savepoint send, and what they change;
* `Transaction.exists_nested`, `Transaction.exists_run` — what is sent around a body;
* `Body.exists_follows` — a body in a transaction takes a course, by induction on the body;
* `Transaction.exists_course` — what a transaction sends, its body included;
* `Transaction.run_bracketed` — the turns of a whole transaction.
-/

namespace ParamSql
namespace Transaction

variable {σ α : Type} {t : Transaction σ}

/-! ## Names -/

theorem nameAt_injective {i j : Nat} (h : nameAt i = nameAt j) : i = j :=
  Text.eq_of_numbered h

/-- The open savepoints have names that have been given out. -/
def Numbered (t : Transaction σ) : Prop :=
  ∀ name ∈ t.savepoints, ∃ k, k ≤ t.counter ∧ name = nameAt k

/-- The next name is not the name of an open savepoint. -/
theorem Numbered.next_notMem (h : t.Numbered) : nameAt (t.counter + 1) ∉ t.savepoints := by
  intro hmem
  rcases h _ hmem with ⟨k, hk, hname⟩
  have heq : t.counter + 1 = k := nameAt_injective hname
  omega

theorem Numbered.mono {counter : Nat} (h : t.Numbered) (hle : t.counter ≤ counter) (s : σ) :
    Numbered ⟨t.savepoints, counter, s⟩ := by
  intro name hname
  rcases h name hname with ⟨k, hk, heq⟩
  exact ⟨k, Nat.le_trans hk hle, heq⟩

theorem Numbered.congr {t' : Transaction σ} (h : t.Numbered)
    (hsavepoints : t'.savepoints = t.savepoints) (hcounter : t'.counter = t.counter) :
    t'.Numbered := by
  rwa [Numbered, hsavepoints, hcounter]

/-- No savepoint is open in a transaction that has just been begun. -/
theorem numbered_begun (s : σ) : Numbered ⟨[], 0, s⟩ := by
  intro name hname
  cases hname

/-- The next name may be that of an open savepoint when it has been given out. -/
theorem Numbered.next (h : t.Numbered) (s : σ) :
    Numbered ⟨t.savepoints ++ [nameAt (t.counter + 1)], t.counter + 1, s⟩ := by
  intro name hname
  rcases List.mem_append.1 hname with hold | hnew
  · exact h.mono (Nat.le_succ _) s name hold
  · exact ⟨t.counter + 1, Nat.le_refl _, List.mem_singleton.1 hnew⟩

/-- Forgetting the last savepoint leaves those before it. -/
theorem forget_append {name : String} {enclosing : List String} (h : name ∉ enclosing)
    (counter : Nat) (s : σ) :
    forget name ⟨enclosing ++ [name], counter, s⟩ = ⟨enclosing, counter, s⟩ := by
  have hall : ∀ n ∈ enclosing, decide (n ≠ name) = true := by
    intro n hn
    exact decide_eq_true fun heq => h (heq ▸ hn)
  unfold forget
  rw [List.takeWhile_append_of_pos hall]
  simp

/-! ## Verbs -/

variable (d : Driver σ)

/-- A verb is one turn, and nothing but the connection changes. -/
theorem exists_verb (sql : String) (t : Transaction σ) : ∃ reply s,
    d.Leads t.connection [⟨⟨sql, []⟩, reply⟩] s ∧
      verb d sql t = (reply.map fun _ => (), { t with connection := s }) := by
  let reported : σ := d.trace (.verb sql t.savepoints.length) t.connection
  refine ⟨(d.query ⟨sql, []⟩ reported).1, (d.query ⟨sql, []⟩ reported).2,
    .report _ (.single _ reported), ?_⟩
  have hpair : (report d (.verb sql t.savepoints.length) t).onConnection (d.query ⟨sql, []⟩) =
      ((d.query ⟨sql, []⟩ reported).1,
        { t with connection := (d.query ⟨sql, []⟩ reported).2 }) := rfl
  simp only [verb, hpair]
  cases (d.query ⟨sql, []⟩ reported).1 with
  | ok reply => rfl
  | error e => rfl

/-- A savepoint is opened under the next name, which is used up; it is open if the verb succeeds. -/
theorem exists_savepoint (ht : t.Numbered) : ∃ reply s,
    d.Leads t.connection [⟨⟨"SAVEPOINT " ++ nameAt (t.counter + 1), []⟩, reply⟩] s ∧
      t.savepoint d =
        match reply with
        | .ok _ => (.ok (nameAt (t.counter + 1)),
            ⟨t.savepoints ++ [nameAt (t.counter + 1)], t.counter + 1, s⟩)
        | .error e => (.error e, ⟨t.savepoints, t.counter + 1, s⟩) := by
  let named : Transaction σ :=
    ⟨t.savepoints ++ [nameAt (t.counter + 1)], t.counter + 1, t.connection⟩
  rcases exists_verb d ("SAVEPOINT " ++ nameAt (t.counter + 1)) named with
    ⟨reply, s, hleads, hverb⟩
  refine ⟨reply, s, hleads, ?_⟩
  simp only [named, nameAt] at hverb
  simp only [Transaction.savepoint, hverb]
  cases reply with
  | ok reply => rfl
  | error e =>
      have hforget := forget_append ht.next_notMem (t.counter + 1) s
      simp only [nameAt] at hforget
      simp only [Except.map, hforget]

/-- Keeping what has been done since the last savepoint takes one verb. -/
theorem exists_release {name : String} {enclosing : List String} (h : name ∉ enclosing)
    (counter : Nat) (s : σ) : ∃ reply s',
    d.Leads s [⟨⟨"RELEASE SAVEPOINT " ++ name, []⟩, reply⟩] s' ∧
      release d name ⟨enclosing ++ [name], counter, s⟩ =
        (reply.map fun _ => (), ⟨enclosing, counter, s'⟩) := by
  rcases exists_verb d ("RELEASE SAVEPOINT " ++ name) ⟨enclosing ++ [name], counter, s⟩ with
    ⟨reply, s', hleads, hverb⟩
  refine ⟨reply, s', hleads, ?_⟩
  simp only [release, hverb, forget_append h]

/-- Undoing what has been done since the last savepoint takes one verb. -/
theorem exists_rollbackTo {name : String} {enclosing : List String} (h : name ∉ enclosing)
    (counter : Nat) (s : σ) : ∃ reply s',
    d.Leads s [⟨⟨"ROLLBACK TO SAVEPOINT " ++ name, []⟩, reply⟩] s' ∧
      rollbackTo d name ⟨enclosing ++ [name], counter, s⟩ =
        (reply.map fun _ => (), ⟨enclosing, counter, s'⟩) := by
  rcases exists_verb d ("ROLLBACK TO SAVEPOINT " ++ name) ⟨enclosing ++ [name], counter, s⟩ with
    ⟨reply, s', hleads, hverb⟩
  refine ⟨reply, s', hleads, ?_⟩
  simp only [rollbackTo, hverb, forget_append h]

/-- What is left of the error of a body is decided by the reply to the verb that undoes it. -/
theorem exists_afterRollback (e : Error) (reply : Except Error Reply) (t : Transaction σ) :
    ∃ left s, d.Leads t.connection [] s ∧
      Closes (.failed e : Outcome α) (.undone reply) (.failed left) ∧
      afterRollback d e (reply.map fun _ => (), t) = (left, { t with connection := s }) := by
  cases reply with
  | ok reply => exact ⟨e, t.connection, .refl _, .undone e reply, rfl⟩
  | error rollback =>
      exact ⟨.abort e rollback, d.trace (.rollbackFailed e rollback) t.connection, .reported _ _,
        .notUndone e rollback, rfl⟩

/-! ## Blocks -/

/-- What a nested transaction sends around its body. -/
theorem exists_nested (ht : t.Numbered) (body : Transaction σ → Outcome α × Transaction σ) :
    (∃ e s, d.Leads t.connection
        [⟨⟨"SAVEPOINT " ++ nameAt (t.counter + 1), []⟩, .error e⟩] s ∧
      nested d body t = (.failed e, ⟨t.savepoints, t.counter + 1, s⟩)) ∨
    ∃ opened s, d.Leads t.connection
        [⟨⟨"SAVEPOINT " ++ nameAt (t.counter + 1), []⟩, .ok opened⟩] s ∧
      ∀ ended inside, body ⟨t.savepoints ++ [nameAt (t.counter + 1)], t.counter + 1, s⟩ =
          (ended, inside) →
        inside.savepoints = t.savepoints ++ [nameAt (t.counter + 1)] →
        ∃ ending closed s', Closes ended ending closed ∧
          d.Leads inside.connection (ending.turns (.savepoint (nameAt (t.counter + 1)))) s' ∧
          nested d body t = (closed, ⟨t.savepoints, inside.counter, s'⟩) := by
  rcases exists_savepoint d ht with ⟨reply, s, hleads, hsavepoint⟩
  cases reply with
  | error e =>
      refine .inl ⟨e, s, hleads, ?_⟩
      simp only [nested, hsavepoint]
  | ok opened =>
      refine .inr ⟨opened, s, hleads, ?_⟩
      -- the body leaves the savepoint as the innermost one, so that just this one is ended
      rintro ended ⟨savepoints, counter, inner⟩ hbody rfl
      cases ended with
      | done a =>
          rcases exists_release d ht.next_notMem counter inner with ⟨reply, s', hkeep, hrelease⟩
          cases reply with
          | ok reply =>
              refine ⟨.kept (.ok reply), .done a, s', .kept a reply, hkeep, ?_⟩
              simp only [nested, hsavepoint, hbody, hrelease, Except.map]
          | error e =>
              refine ⟨.kept (.error e), .failed e, s', .notKept a e, hkeep, ?_⟩
              simp only [nested, hsavepoint, hbody, hrelease, Except.map]
      | failed e =>
          rcases exists_rollbackTo d ht.next_notMem counter
            (d.trace (.savepointFailed (nameAt (t.counter + 1)) e) inner) with
            ⟨reply, s', hundo, hrollback⟩
          rcases exists_afterRollback (α := α) d e reply ⟨t.savepoints, counter, s'⟩ with
            ⟨left, s'', hafter, hcloses, hleft⟩
          refine ⟨.undone reply, .failed left, s'', hcloses, .report _ (hundo.trans hafter), ?_⟩
          simp only [nested, hsavepoint, hbody, report, hrollback, hleft]
      | abandoned =>
          refine ⟨.left, .abandoned, d.trace (.savepointDropped (nameAt (t.counter + 1))) inner,
            .left, .reported _ inner, ?_⟩
          simp only [nested, hsavepoint, hbody, dropSavepoint, report, forget_append ht.next_notMem]

/-- What a transaction sends around its body. -/
theorem exists_run (options : TransactionOptions)
    (body : Transaction σ → Outcome α × Transaction σ) (s : σ) :
    (∃ e s', d.Leads s [⟨⟨options.sql, []⟩, .error e⟩] s' ∧
      run d options body s = (.failed e, s')) ∨
    ∃ opened s', d.Leads s [⟨⟨options.sql, []⟩, .ok opened⟩] s' ∧
      ∀ ended inside, body ⟨[], 0, s'⟩ = (ended, inside) →
        ∃ ending closed s'', Closes ended ending closed ∧
          d.Leads inside.connection (ending.turns (.begin options)) s'' ∧
          run d options body s = (closed, s'') := by
  rcases exists_verb d options.sql ⟨[], 0, s⟩ with ⟨reply, s', hleads, hbegin⟩
  cases reply with
  | error e =>
      refine .inl ⟨e, s', hleads, ?_⟩
      simp only [run, begin, hbegin, Except.map]
  | ok opened =>
      refine .inr ⟨opened, s', hleads, ?_⟩
      intro ended inside hbody
      cases ended with
      | done a =>
          rcases exists_verb d "COMMIT" inside with ⟨reply, s'', hcommit, hverb⟩
          cases reply with
          | ok reply =>
              refine ⟨.kept (.ok reply), .done a, s'', .kept a reply, hcommit, ?_⟩
              simp only [run, begin, hbegin, hbody, commit, hverb, Except.map]
          | error e =>
              refine ⟨.kept (.error e), .failed e, s'', .notKept a e, hcommit, ?_⟩
              simp only [run, begin, hbegin, hbody, commit, hverb, Except.map]
      | failed e =>
          rcases exists_verb d "ROLLBACK" (report d (.bodyFailed e) inside) with
            ⟨reply, s'', hundo, hverb⟩
          rcases exists_afterRollback (α := α) d e reply
            { report d (.bodyFailed e) inside with connection := s'' } with
            ⟨left, s''', hafter, hcloses, hleft⟩
          refine ⟨.undone reply, .failed left, s''', hcloses, .report _ (hundo.trans hafter), ?_⟩
          simp only [run, begin, hbegin, hbody, rollback, hverb, Except.map] at hleft ⊢
          simp only [hleft]
      | abandoned =>
          refine ⟨.left, .abandoned, d.trace .transactionDropped inside.connection, .left,
            .reported _ _, ?_⟩
          simp only [run, begin, hbegin, hbody, drop, report, Except.map]

end Transaction

/-! ## Bodies -/

namespace Body

/-- A body that is run in an open transaction takes a course to its outcome: the turns of the course
lead to the connection that is left, the open savepoints are the same as before, and as many names
have been given out as there are in the course. -/
structure Follows {σ α : Type} (body : Body α) (d : Driver σ) (t : Transaction σ) (course : Course)
    (outcome : Outcome α) (s : σ) : Prop where
  takes : body.Takes t.savepoints t.counter course outcome
  leads : d.Leads t.connection course.turns s
  run_eq : body.run d t = (outcome, ⟨t.savepoints, t.counter + course.names.length, s⟩)

/-- Every body that is run in an open transaction takes a course. -/
theorem exists_follows {α : Type} (body : Body α) : ∀ {σ : Type} (d : Driver σ) (t : Transaction σ),
    t.Numbered → ∃ course outcome s, body.Follows d t course outcome s := by
  -- by induction on the body, for any driver, as a whole transaction runs on the open one
  induction body with
  | ended outcome =>
      intro σ d t _
      exact ⟨.ended, outcome, t.connection, .ended outcome, .refl _, rfl⟩
  | call c next ih =>
      intro σ d t ht
      let s : σ := (d.query c t.connection).2
      -- the reply decides what the body does next
      rcases ih (d.query c t.connection).1 d { t with connection := s } ht with
        ⟨rest, outcome, s', htakes, hleads, hrun⟩
      exact ⟨.call c _ rest, outcome, s', .call _ htakes, .query c hleads, hrun⟩
  | look next ih =>
      intro σ d t ht
      rcases ih t.savepoints d t ht with ⟨rest, outcome, s', htakes, hleads, hrun⟩
      exact ⟨rest, outcome, s', .look htakes, hleads, hrun⟩
  | nested inner next ihInner ihNext =>
      intro σ d t ht
      rcases Transaction.exists_nested d ht (inner.run d) with
        ⟨e, s, hrefused, hnested⟩ | ⟨opened, s, hopened, hblock⟩
      · rcases ihNext (.failed e) d ⟨t.savepoints, t.counter + 1, s⟩
          (ht.mono (Nat.le_succ _) s) with ⟨rest, outcome, s', htakes, hleads, hrun⟩
        refine ⟨.refused (.savepoint (Transaction.nameAt (t.counter + 1))) e rest, outcome, s',
          .nestedRefused e htakes, hrefused.trans hleads, ?_⟩
        simp only [run, hnested, hrun, Course.names, List.length_cons]
        simp only [Nat.add_assoc, Nat.add_comm 1]
      · rcases ihInner d ⟨t.savepoints ++ [Transaction.nameAt (t.counter + 1)], t.counter + 1, s⟩
          (ht.next s) with ⟨course, ended, inside, hinner, hcourse, hinnerRun⟩
        rcases hblock ended _ hinnerRun rfl with ⟨ending, closed, s', hcloses, hclosing, hnested⟩
        rcases ihNext closed d ⟨t.savepoints, t.counter + 1 + course.names.length, s'⟩
          (ht.mono (by omega) s') with ⟨rest, outcome, s'', htakes, hleads, hrun⟩
        refine ⟨.block (.savepoint (Transaction.nameAt (t.counter + 1))) opened course ending rest,
          outcome, s'', .nested opened hinner hcloses htakes, ?_, ?_⟩
        · exact (hopened.trans (hcourse.trans hclosing)).trans hleads
        · simp only [run, hnested, hrun, Course.names, List.length_cons, List.length_append]
          simp only [Nat.add_assoc, Nat.add_comm 1]
  | separate options inner next ihInner ihNext =>
      -- the open transaction is the connection of the new one, whose savepoints are its own
      intro σ d t ht
      rcases Transaction.exists_run (Transaction.driver d) options
        (inner.run (Transaction.driver d)) t
        with ⟨e, t', hrefused, hrunInner⟩ | ⟨opened, t', hopened, hblock⟩
      · rcases hrefused.onConnection with ⟨hturn, hsavepoints, hcounter⟩
        rcases ihNext (.failed e) d t' (ht.congr hsavepoints hcounter)
          with ⟨rest, outcome, s', htakes, hleads, hrun⟩
        rw [hsavepoints, hcounter] at htakes hrun
        refine ⟨.refused (.begin options) e rest, outcome, s', .separateRefused e htakes,
          hturn.trans hleads, ?_⟩
        simp only [run, hrunInner, hrun, Course.names]
      · rcases ihInner (Transaction.driver d) ⟨[], 0, t'⟩ (Transaction.numbered_begun t') with
          ⟨course, ended, inside, hinner, hcourse, hinnerRun⟩
        rcases hblock ended _ hinnerRun with ⟨ending, closed, t'', hcloses, hclosing, hrunInner⟩
        rcases (hopened.trans (hcourse.trans hclosing)).onConnection with
          ⟨hturns, hsavepoints, hcounter⟩
        rcases ihNext closed d t'' (ht.congr hsavepoints hcounter) with
          ⟨rest, outcome, s', htakes, hleads, hrun⟩
        rw [hsavepoints, hcounter] at htakes hrun
        refine ⟨.block (.begin options) opened course ending rest, outcome, s',
          .separate opened hinner hcloses htakes, hturns.trans hleads, ?_⟩
        simp only [run, hrunInner, hrun, Course.names]

/-- The names of a course are those that come next, in order. -/
theorem Takes.names_eq {α : Type} {body : Body α} {enclosing : List String} {k : Nat}
    {course : Course} {outcome : Outcome α} (h : body.Takes enclosing k course outcome) :
    course.names = (List.range' (k + 1) course.names.length).map Transaction.nameAt := by
  induction h with
  | ended outcome => rfl
  | call reply _ ih => exact ih
  | look _ ih => exact ih
  | nestedRefused e _ ih =>
      rw [Course.names, List.length_cons, List.range'_succ, List.map_cons, ← ih]
  | @nested α β enclosing k inner next course rest ended closed ending outcome opened _ _ _ ihInner
      ihRest =>
      -- the block has the next name, the names of its body come behind it, and the others behind
      -- those
      have hbehind : k + 1 + course.names.length + 1 = k + 1 + 1 + course.names.length := by omega
      rw [hbehind] at ihRest
      calc Transaction.nameAt (k + 1) :: (course.names ++ rest.names)
          = Transaction.nameAt (k + 1) ::
              ((List.range' (k + 1 + 1) course.names.length).map Transaction.nameAt ++
                (List.range' (k + 1 + 1 + course.names.length) rest.names.length).map
                  Transaction.nameAt) := by
            rw [← ihInner, ← ihRest]
        _ = (List.range' (k + 1) (1 + (course.names.length + rest.names.length))).map
              Transaction.nameAt := by
            rw [← List.map_append, List.range'_append_1, Nat.add_comm 1, List.range'_succ,
              List.map_cons]
        _ = _ := by rw [Course.names, List.length_cons, List.length_append, Nat.add_comm 1]
  | separateRefused e _ ih => exact ih
  | separate opened _ _ _ _ ih => exact ih

end Body

namespace Transaction

variable {σ α : Type}

/-- What a transaction sends, with the course that its body takes. -/
theorem exists_course (d : Driver σ) (options : TransactionOptions) (body : Body α) (s : σ) :
    (∃ e s', d.Leads s [⟨⟨options.sql, []⟩, .error e⟩] s' ∧
      run d options (body.run d) s = (.failed e, s')) ∨
    ∃ opened course ended ending closed begun inside s',
      body.Takes [] 0 course ended ∧ Closes ended ending closed ∧
      d.Leads s [⟨⟨options.sql, []⟩, .ok opened⟩] begun ∧ d.Leads begun course.turns inside ∧
      d.Leads inside (ending.turns (.begin options)) s' ∧
      run d options (body.run d) s = (closed, s') := by
  rcases exists_run d options (body.run d) s with hrefused | ⟨opened, begun, hopened, hblock⟩
  · exact .inl hrefused
  · rcases body.exists_follows d ⟨[], 0, begun⟩ (numbered_begun begun) with
      ⟨course, ended, inside, htakes, hcourse, hbody⟩
    rcases hblock ended _ hbody with ⟨ending, closed, s', hcloses, hclosing, hrun⟩
    exact .inr ⟨opened, course, ended, ending, closed, begun, inside, s', htakes, hcloses, hopened,
      hcourse, hclosing, hrun⟩

/-- **Transactions are well bracketed.** Whatever the driver answers and whatever the body is,
either the statement that begins the transaction fails, and nothing else is sent; or it is followed
by the turns of a course of the body, and by one COMMIT if the body has come to a result, by one
ROLLBACK if it has come to an error, and by nothing if it was given up. Inside, the `k`-th savepoint
is named for `k`. -/
theorem run_bracketed (d : Driver σ) (options : TransactionOptions) (body : Body α) (s : σ) :
    let result := run d.watched options (body.run d.watched) (.fresh s)
    (∃ e, result.1 = .failed e ∧ result.2.turns = [⟨⟨options.sql, []⟩, .error e⟩]) ∨
      ∃ opened course ended ending, body.Takes [] 0 course ended ∧ Closes ended ending result.1 ∧
        course.names = (List.range' 1 course.names.length).map nameAt ∧ course.names.Nodup ∧
        result.2.turns =
          ⟨⟨options.sql, []⟩, .ok opened⟩ :: (course.turns ++ ending.turns (.begin options)) := by
  intro result
  rcases exists_course d.watched options body (.fresh s) with ⟨e, w, hrefused, hrun⟩ |
    ⟨opened, course, ended, ending, closed, begun, inside, w, htakes, hcloses, hopened, hcourse,
      hclosing, hrun⟩
  · refine .inl ⟨e, congrArg Prod.fst hrun, ?_⟩
    calc
      result.2.turns = w.turns := by rw [congrArg Prod.snd hrun]
      _ = [⟨⟨options.sql, []⟩, .error e⟩] := hrefused.turns_eq
  · have houtcome : result.1 = closed := congrArg Prod.fst hrun
    have hnodup : ((List.range' 1 course.names.length).map nameAt).Nodup :=
      List.Nodup.map (fun _ _ => nameAt_injective) List.nodup_range'
    refine .inr ⟨opened, course, ended, ending, htakes, houtcome ▸ hcloses, htakes.names_eq,
      htakes.names_eq.symm ▸ hnodup, ?_⟩
    calc
      result.2.turns = w.turns := by rw [congrArg Prod.snd hrun]
      _ = _ := (hopened.trans (hcourse.trans hclosing)).turns_eq

end Transaction
end ParamSql
