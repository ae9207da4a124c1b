import ParamSql.Proofs.Connection.Atomicity

/-!
# Undoing — what is left of a nested transaction that has failed

Any call of a connection may fail, before the database has got it or when it has already been
carried out. A nested transaction rolls back to its savepoint when its body fails.  It does not when
its savepoint cannot be released: then nothing else is sent, and what the body has done stays in the
transaction around it.

* `Transaction.nested_closes` — how a nested transaction ends, whatever its body is;
* `Database.Serves`, `Database.Connects` — connections to a database whose calls may fail;
* `Course.Keeps` — the statements of a course that take effect;
* `Body.Takes.keeps` — what a course leaves of a database, by induction on it;
* `Transaction.failed_nested_undone_iff` — a nested transaction that has failed has been rolled back
  just if its body has failed; and what is committed of it.
-/

namespace ParamSql

/-! ## The end of a nested transaction -/

namespace Transaction

variable {σ α : Type} (d : Driver σ)

/-- A nested transaction is closed behind its body, whatever the body has done. -/
theorem nested_closes (body : Transaction σ → Outcome α × Transaction σ) (t : Transaction σ)
    {name : String} {opened : Transaction σ} (hopened : savepoint d t = (.ok name, opened)) :
    ∃ ending, Closes (body opened).1 ending (nested d body t).1 ∧
      d.Leads (body opened).2.connection (ending.turns (.savepoint name))
        (nested d body t).2.connection := by
  cases hbody : body opened with
  | mk ended inside =>
      cases ended with
      | done a =>
          -- only the release can fail then, and nothing is sent behind it
          rcases exists_verb d ("RELEASE SAVEPOINT " ++ name) inside with ⟨reply, s, hleads, hverb⟩
          refine ⟨.kept reply, ?_⟩
          cases reply with
          | ok reply =>
              simp only [nested, hopened, hbody, release, hverb, Except.map]
              exact ⟨.kept a reply, hleads⟩
          | error e =>
              simp only [nested, hopened, hbody, release, hverb, Except.map]
              exact ⟨.notKept a e, hleads⟩
      | failed e =>
          let reported : Transaction σ := report d (.savepointFailed name e) inside
          rcases exists_verb d ("ROLLBACK TO SAVEPOINT " ++ name) reported
            with ⟨reply, s, hleads, hverb⟩
          rcases exists_afterRollback (α := α) d e reply
            (forget name { reported with connection := s }) with
            ⟨left, s', hafter, hcloses, hleft⟩
          refine ⟨.undone reply, ?_⟩
          simp only [nested, hopened, hbody, rollbackTo]
          simp only [reported] at hverb hleft
          simp only [hverb, hleft]
          have hreport : d.Leads inside.connection [] reported.connection := .reported _ _
          exact ⟨hcloses, hreport.trans (hleads.trans hafter)⟩
      | abandoned =>
          refine ⟨.left, ?_⟩
          simp only [nested, hopened, hbody]
          exact ⟨.left, .reported _ _⟩

end Transaction

/-! ## Connections that fail -/

namespace Database

variable {S σ : Type} {dialect : Dialect} {engine : Engine S} {db db' : Database S} {x : Turn}
  {xs : List Turn} {s s' : σ} {d : Driver σ} {view : σ → Database S}

/-- A turn on a database: the statement has been answered by the database, or has not reached it, or
has been carried out though the answer has not come back. -/
inductive Serves (dialect : Dialect) (engine : Engine S) (db : Database S) :
    Turn → Database S → Prop
  | answered (c : Call) :
      Serves dialect engine db ⟨c, ((driver dialect engine).query c db).1⟩
        ((driver dialect engine).query c db).2
  | lost (c : Call) (e : Error) : Serves dialect engine db ⟨c, .error e⟩ db
  | unanswered (c : Call) (e : Error) :
      Serves dialect engine db ⟨c, .error e⟩ ((driver dialect engine).query c db).2

/-- The driver is a connection to the database that is seen in its state.  Its calls may fail. -/
structure Connects (dialect : Dialect) (engine : Engine S) (d : Driver σ) (view : σ → Database S) :
    Prop where
  query : ∀ c s, Serves dialect engine (view s) ⟨c, (d.query c s).1⟩ (view (d.query c s).2)
  trace : ∀ e s, view (d.trace e s) = view s

/-- A connection to a database on which some statements are lost. -/
def losing (dialect : Dialect) (engine : Engine S) (lost : Call → Option Error) :
    Driver (Database S) where
  query c db :=
    match lost c with
    | some e => (.error e, db)
    | none => (driver dialect engine).query c db
  close := (driver dialect engine).close
  trace := (driver dialect engine).trace

theorem connects_losing (dialect : Dialect) (engine : Engine S) (lost : Call → Option Error) :
    Connects dialect engine (losing dialect engine lost) id where
  query c db := by
    have hquery : (losing dialect engine lost).query c db =
        match lost c with
        | some e => (.error e, db)
        | none => (driver dialect engine).query c db := rfl
    rw [hquery]
    cases lost c with
    | none => exact .answered c
    | some e => exact .lost c e
  trace _ _ := rfl

theorem Connects.watched (h : Connects dialect engine d view) :
    Connects dialect engine d.watched fun w => view w.connection where
  query c w := h.query c w.connection
  trace e w := h.trace e w.connection

/-- The database is left as the statement leaves it, or as it was; the latter is a failure. -/
theorem Serves.eq_or (h : Serves dialect engine db x db') :
    db' = ((driver dialect engine).query x.call db).2 ∨ (db' = db ∧ ∃ e, x.reply = .error e) := by
  cases h with
  | answered c => exact .inl rfl
  | lost c e => exact .inr ⟨rfl, e, rfl⟩
  | unanswered c e => exact .inl rfl

theorem Serves.command (h : Serves dialect engine db x db') {command : TransactionCommand}
    (hcommand : dialect.command? x.call.sql = some command) :
    db' = (db.obey command).2 ∨ (db' = db ∧ ∃ e, x.reply = .error e) := by
  have hor := h.eq_or
  rwa [query_of_command hcommand] at hor

theorem Connects.leads_nil (h : Connects dialect engine d view) (hleads : d.Leads s [] s') :
    view s' = view s := by
  -- there may be reports between the turns, which the database does not see
  generalize hxs : ([] : List Turn) = xs at hleads
  induction hleads with
  | refl s => rfl
  | query c _ _ => cases hxs
  | report e _ ih => rw [ih hxs, h.trace]

/-- The first turn of a run on a connection. -/
theorem Connects.leads_cons (h : Connects dialect engine d view) (hleads : d.Leads s (x :: xs) s') :
    ∃ behind, Serves dialect engine (view s) x (view behind) ∧ d.Leads behind xs s' := by
  generalize hys : x :: xs = ys at hleads
  induction hleads with
  | refl s => cases hys
  | query c hrest _ =>
      cases hys
      exact ⟨_, h.query c _, hrest⟩
  | report e _ ih =>
      rcases ih hys with ⟨behind, hserves, hrest⟩
      exact ⟨behind, h.trace e _ ▸ hserves, hrest⟩

/-- A run of one turn. -/
theorem Connects.leads_single (h : Connects dialect engine d view) (hleads : d.Leads s [x] s') :
    Serves dialect engine (view s) x (view s') := by
  rcases h.leads_cons hleads with ⟨behind, hserves, hrest⟩
  rwa [h.leads_nil hrest]

end Database

/-! ## What takes effect -/

/-- `course.Keeps cs`: the statements `cs` of the course may be those that take effect, in order.
Nobody knows of a statement that has failed whether it has been carried out, and just so of a
rollback to a savepoint; without a rollback the statements of a block take effect. -/
inductive Course.Keeps : Course → List Call → Prop
  | ended : Keeps .ended []
  | call {rest : Course} {cs : List Call} (c : Call) (reply : Except Error Reply) :
      rest.Keeps cs → Keeps (.call c reply rest) (c :: cs)
  | lost {rest : Course} {cs : List Call} (c : Call) (e : Error) :
      rest.Keeps cs → Keeps (.call c (.error e) rest) cs
  | refused {rest : Course} {cs : List Call} (opening : Opening) (e : Error) :
      rest.Keeps cs → Keeps (.refused opening e rest) cs
  | block {inner rest : Course} {cs cs' : List Call} (opening : Opening) (opened : Reply)
      (ending : BlockEnd) (hend : ∀ reply, ending ≠ .undone (.ok reply)) :
      inner.Keeps cs → rest.Keeps cs' → Keeps (.block opening opened inner ending rest) (cs ++ cs')
  | undone {inner rest : Course} {cs : List Call} (opening : Opening) (opened : Reply)
      (reply : Except Error Reply) :
      rest.Keeps cs → Keeps (.block opening opened inner (.undone reply) rest) cs

/-- Every block with an error for its outcome has been rolled back. -/
def Course.IsUndone : Course → Prop
  | .ended => True
  | .call _ _ rest => rest.IsUndone
  | .refused _ _ rest => rest.IsUndone
  | .block _ _ inner ending rest =>
      (ending.isFailure = true → ∃ reply, ending = .undone (.ok reply)) ∧ inner.IsUndone ∧
        rest.IsUndone

/-- Where all that has failed has been rolled back, nothing of it takes effect. -/
theorem Course.Keeps.sublist_kept {course : Course} {cs : List Call} (h : course.Keeps cs)
    (hundone : course.IsUndone) : cs.Sublist course.kept := by
  induction h with
  | ended => exact .slnil
  | call c reply _ ih => exact (ih hundone).cons_cons c
  | lost c e _ ih => exact (ih hundone).cons c
  | refused opening e _ ih => exact ih hundone
  | block opening opened ending hend _ _ ihInner ihRest =>
      -- a block that has failed would have been rolled back
      have hkept : ending.isFailure = false := by
        cases hfails : ending.isFailure with
        | false => rfl
        | true =>
            rcases hundone.1 hfails with ⟨reply, rfl⟩
            exact absurd rfl (hend reply)
      rw [Course.kept, hkept]
      exact (ihInner hundone.2.1).append (ihRest hundone.2.2)
  | undone opening opened reply _ ih => exact ih hundone.2.2

section Effects

open Database

variable {S σ α : Type} {dialect : Dialect} {engine : Engine S} {committed store : S}
  {savepoints : Savepoints S} {d : Driver σ} {view : σ → Database S}

/-- What the end of a nested transaction leaves: the store as the body has left it, or as it was at
the savepoint.  The latter is the case if the rollback has been answered, and only if it has been
sent. -/
theorem Closes.settles {ended closed : Outcome α} {ending : BlockEnd}
    (h : Closes ended ending closed) (hconnects : Connects dialect engine d view) {name : String}
    (hname : IsPlainName name) {inside : S} {later : Savepoints S} {s s' : σ}
    (hfound : (later ++ (name, store) :: savepoints).seek name = some (store, savepoints))
    (hview : view s = busy committed inside (later ++ (name, store) :: savepoints))
    (hleads : d.Leads s (ending.turns (.savepoint name)) s') :
    ∃ above : Savepoints S, (∀ sp ∈ above, sp ∈ (name, store) :: later) ∧
      ((view s' = busy committed inside (above ++ savepoints) ∧
          ∀ reply, ending ≠ .undone (.ok reply)) ∨
        (view s' = busy committed store (above ++ savepoints) ∧
          ∃ reply, ending = .undone reply)) := by
  have hsame : ∀ s', view s' = view s → view s' = busy committed inside
      ((later ++ [(name, store)]) ++ savepoints) := by
    intro s' hs'
    rw [hs', hview, List.append_assoc]
    rfl
  have hall : ∀ sp ∈ later ++ [(name, store)], sp ∈ (name, store) :: later := by
    intro sp hsp
    simpa [or_comm] using hsp
  have hrelease : ((view s).obey (.release name)).2 = busy committed inside savepoints := by
    rw [hview]
    simp only [obey, busy, hfound]
  have hrollback : ((view s).obey (.rollbackTo name)).2 =
      busy committed store ((name, store) :: savepoints) := by
    rw [hview]
    simp only [obey, busy, hfound]
  -- the release may have been carried out or not, and the store is the same
  have hreleased : ∀ reply : Except Error Reply,
      d.Leads s [⟨⟨"RELEASE SAVEPOINT " ++ name, []⟩, reply⟩] s' → ∃ above : Savepoints S,
        (∀ sp ∈ above, sp ∈ (name, store) :: later) ∧
          view s' = busy committed inside (above ++ savepoints) := by
    intro reply hturn
    rcases (hconnects.leads_single hturn).command (dialect.command?_release name hname) with
      hdone | ⟨hlost, _⟩
    · exact ⟨[], List.forall_mem_nil _, hdone.trans hrelease⟩
    · exact ⟨_, hall, hsame s' hlost⟩
  cases h with
  | kept a reply =>
      rcases hreleased _ hleads with ⟨above, habove, hs'⟩
      exact ⟨above, habove, .inl ⟨hs', by simp⟩⟩
  | notKept a e =>
      rcases hreleased _ hleads with ⟨above, habove, hs'⟩
      exact ⟨above, habove, .inl ⟨hs', by simp⟩⟩
  | undone e reply =>
      -- the rollback has been answered, so that it has been carried out
      rcases (hconnects.leads_single hleads).command (dialect.command?_rollbackTo name hname) with
        hdone | ⟨_, e, hreply⟩
      · exact ⟨[(name, store)], by simp, .inr ⟨hdone.trans hrollback, _, rfl⟩⟩
      · cases hreply
  | notUndone e rollback =>
      rcases (hconnects.leads_single hleads).command (dialect.command?_rollbackTo name hname) with
        hdone | ⟨hlost, _⟩
      · exact ⟨[(name, store)], by simp, .inr ⟨hdone.trans hrollback, _, rfl⟩⟩
      · exact ⟨_, hall, .inl ⟨hsame s' hlost, by simp⟩⟩
  | left => exact ⟨_, hall, .inl ⟨hsame s' (hconnects.leads_nil hleads), by simp⟩⟩

/-- What a course leaves of a database with an open transaction, if calls may fail. -/
theorem Body.Takes.keeps {body : Body α} {enclosing : List String} {k : Nat} {course : Course}
    {outcome : Outcome α} (h : body.Takes enclosing k course outcome)
    (hconnects : Connects dialect engine d view) :
    body.IsOrdinary dialect → ∀ {store : S} {savepoints : Savepoints S} {s s' : σ},
      view s = busy committed store savepoints → d.Leads s course.turns s' →
      ∃ cs, course.Keeps cs ∧
        (view s').LeftBy k (k + course.names.length) committed (engine.applyAll cs store)
          savepoints := by
  -- by induction on the course; each call of the connection is carried out or lost
  induction h with
  | ended outcome =>
      intro _ store savepoints s s' hview hleads
      exact ⟨[], .ended, [], (hconnects.leads_nil hleads).trans hview, List.forall_mem_nil _⟩
  | @call α enclosing k c next rest outcome reply _ ih =>
      intro hordinary store savepoints s s' hview hleads
      rcases hconnects.leads_cons hleads with ⟨behind, hserves, hrest⟩
      rcases hserves.eq_or with hdone | ⟨hlost, e, rfl⟩
      · rw [hview, query_of_none hordinary.1] at hdone
        rcases ih (hordinary.2 reply) hdone hrest with ⟨cs, hkeeps, hleft⟩
        exact ⟨c :: cs, .call c reply hkeeps, hleft⟩
      · rcases ih (hordinary.2 _) (hlost.trans hview) hrest with ⟨cs, hkeeps, hleft⟩
        exact ⟨cs, .lost c e hkeeps, hleft⟩
  | look _ ih =>
      intro hordinary store savepoints s s' hview hleads
      exact ih (hordinary _) hview hleads
  | @nestedRefused α β enclosing k inner next rest outcome e _ ih =>
      intro hordinary store savepoints s s' hview hleads
      rcases hconnects.leads_cons hleads with ⟨behind, hserves, hrest⟩
      have hopens := dialect.command?_savepoint _ (Transaction.isPlainName_nameAt (k + 1))
      have hnames : (Course.refused (.savepoint (Transaction.nameAt (k + 1))) e rest).names.length =
          1 + rest.names.length := by
        rw [Course.names, List.length_cons, Nat.add_comm]
      rw [hnames, ← Nat.add_assoc]
      -- without a block, there is at most its savepoint to be left
      have hnone :
          ∀ sp ∈ ([] : Savepoints S), ∃ i, k + 1 < i ∧ i ≤ k + 1 ∧ sp.1 = Transaction.nameAt i :=
        List.forall_mem_nil _
      rcases hserves.command hopens with hdone | ⟨hlost, _⟩
      · -- the savepoint has been opened, but nobody knows
        rw [hview] at hdone
        rcases ih (hordinary.2 _) hdone hrest with ⟨cs, hkeeps, hleft⟩
        have hopened : ∀ sp ∈ [(Transaction.nameAt (k + 1), store)],
            sp ∈ [(Transaction.nameAt (k + 1), store)] := fun _ hsp => hsp
        exact ⟨cs, .refused _ e hkeeps, LeftBy.behind_block hleft hnone hopened le_rfl (by omega)⟩
      · rcases ih (hordinary.2 _) (hlost.trans hview) hrest with ⟨cs, hkeeps, hleft⟩
        have hlost : ∀ sp ∈ ([] : Savepoints S), sp ∈ [(Transaction.nameAt (k + 1), store)] :=
          List.forall_mem_nil _
        exact ⟨cs, .refused _ e hkeeps, LeftBy.behind_block hleft hnone hlost le_rfl (by omega)⟩
  | @nested α β enclosing k inner next course rest ended closed ending outcome opened _ hcloses _
      ihInner ihRest =>
      intro hordinary store savepoints s s' hview hleads
      rcases hleads.split with ⟨behind, hblock, hrest⟩
      let name : String := Transaction.nameAt (k + 1)
      have hname : IsPlainName name := Transaction.isPlainName_nameAt (k + 1)
      rcases hconnects.leads_cons hblock with ⟨begun, hserves, hblock⟩
      have hbegun : view begun = busy committed store ((name, store) :: savepoints) := by
        rcases hserves.command (dialect.command?_savepoint name hname) with hdone | ⟨_, e, hreply⟩
        · rw [hdone, hview]
          rfl
        · cases hreply
      rcases hblock.split with ⟨inside, hinner, hclosing⟩
      rcases ihInner hordinary.1 hbegun hinner with ⟨cs, hkeeps, later, hinside, hlater⟩
      have hfound := seek_nameAt hlater store savepoints
      rw [Course.add_length_names_block]
      rcases hcloses.settles hconnects hname hfound hinside hclosing with
        ⟨above, habove, ⟨hbehind, hend⟩ | ⟨hbehind, reply, rfl⟩⟩
      · rcases ihRest (hordinary.2 _) hbehind hrest with ⟨cs', hkeeps', hleft⟩
        refine ⟨cs ++ cs', .block _ opened ending hend hkeeps hkeeps', ?_⟩
        rw [Engine.applyAll_append]
        exact hleft.behind_block hlater habove (by omega) (by omega)
      · rcases ihRest (hordinary.2 _) hbehind hrest with ⟨cs', hkeeps', hleft⟩
        exact ⟨cs', .undone _ opened reply hkeeps',
          hleft.behind_block hlater habove (by omega) (by omega)⟩
  | separateRefused => exact fun hordinary => absurd hordinary Body.not_isOrdinary_separate
  | separate => exact fun hordinary => absurd hordinary Body.not_isOrdinary_separate

end Effects

/-! ## Whole transactions -/

namespace Transaction

open Database

theorem undoSql_ne_keepSql (name : String) :
    "ROLLBACK TO SAVEPOINT " ++ name ≠ "RELEASE SAVEPOINT " ++ name := by
  intro h
  have hletters := congrArg String.toList h
  simp at hletters

/-- **A nested transaction that has failed has been rolled back just if its body has failed.** If a
nested transaction has come to an error though its savepoint has been opened, then a rollback to the
savepoint has been sent behind its body just if that has come to an error; otherwise the savepoint
could not be released, and nothing has been sent behind the release. If the connection is one to a
database, whose calls may fail, then the store that a transaction commits is what the statements
that take effect make of the store: those of a nested transaction that was not rolled back are among
them, though it has come to an error. If all that has failed has been rolled back, nothing of it
takes effect. -/
theorem failed_nested_undone_iff {σ α : Type} (d : Driver σ) :
    (∀ (body : Transaction (Watched σ) → Outcome α × Transaction (Watched σ))
        (t opened : Transaction (Watched σ)) (name : String),
      savepoint d.watched t = (.ok name, opened) → ∀ e, (nested d.watched body t).1 = .failed e →
      let inside := body opened
      let sent := (nested d.watched body t).2.connection.turns
      ((∃ reply,
          sent = inside.2.connection.turns ++ [⟨⟨"ROLLBACK TO SAVEPOINT " ++ name, []⟩, reply⟩]) ↔
        ∃ e', inside.1 = .failed e') ∧
      ((¬ ∃ e', inside.1 = .failed e') →
        sent = inside.2.connection.turns ++ [⟨⟨"RELEASE SAVEPOINT " ++ name, []⟩, .error e⟩])) ∧
    ∀ {S : Type} (dialect : Dialect) (engine : Engine S) (view : σ → Database S),
      Connects dialect engine d view → ∀ (options : TransactionOptions) (body : Body α),
      body.IsOrdinary dialect → ∀ (s : σ) (store : S), view s = idle store → ∀ a,
      let result := run d.watched options (body.run d.watched) (.fresh s)
      result.1 = .done a → ∃ opened committed course cs, body.Takes [] 0 course (.done a) ∧
        result.2.turns = ⟨⟨options.sql, []⟩, .ok opened⟩ ::
          (course.turns ++ [⟨⟨"COMMIT", []⟩, .ok committed⟩]) ∧
        course.Keeps cs ∧ view result.2.connection = idle (engine.applyAll cs store) ∧
        (course.IsUndone → cs.Sublist course.kept) := by
  constructor
  · intro body t opened name hopened e hfailed inside sent
    rcases nested_closes d.watched body t hopened with ⟨ending, hcloses, hleads⟩
    have hsent : sent = inside.2.connection.turns ++ ending.turns (.savepoint name) :=
      hleads.turns_eq
    rw [hfailed] at hcloses
    rw [hsent]
    -- a block comes to an error in three ways, and in one of them its body has not failed
    generalize (body opened).1 = ended at hcloses ⊢
    cases hcloses with
    | notKept a e =>
        refine ⟨iff_of_false ?_ (by simp), fun _ => rfl⟩
        rintro ⟨reply, hturns⟩
        have hsql :=
          congrArg (fun xs => xs.map fun x : Turn => x.call.sql) (List.append_cancel_left hturns)
        exact undoSql_ne_keepSql name (List.cons.inj hsql).1.symm
    | undone e reply => exact ⟨iff_of_true ⟨_, rfl⟩ ⟨_, rfl⟩, fun hnot => absurd ⟨_, rfl⟩ hnot⟩
    | notUndone e rollback =>
        exact ⟨iff_of_true ⟨_, rfl⟩ ⟨_, rfl⟩, fun hnot => absurd ⟨_, rfl⟩ hnot⟩
  · intro S dialect engine view hconnects options body hordinary s store hview a result hdone
    have hwatched := hconnects.watched
    rcases exists_course d.watched options body (.fresh s) with ⟨e, w, _, hrun⟩ |
      ⟨opened, course, ended, ending, closed, begun, inside, w, htakes, hcloses, hopened, hcourse,
        hclosing, hrun⟩
    · -- a transaction that has not begun has no result
      have hfailed : result.1 = .failed e := congrArg Prod.fst hrun
      rw [hfailed] at hdone
      cases hdone
    · obtain rfl : closed = .done a := (congrArg Prod.fst hrun).symm.trans hdone
      have hleft : result.2 = w := congrArg Prod.snd hrun
      cases hcloses with
      | kept a committed =>
          have hbegun : view begun.connection = busy store store [] := by
            rcases (hwatched.leads_single hopened).command (dialect.command?_begin options) with
              hdone | ⟨_, e, hreply⟩
            · rw [hdone]
              show ((view s).obey .begin).2 = _
              rw [hview]
              rfl
            · cases hreply
          rcases htakes.keeps hwatched hordinary hbegun hcourse with ⟨cs, hkeeps, later, hinside, _⟩
          have hcommitted : view w.connection = idle (engine.applyAll cs store) := by
            rcases (hwatched.leads_single hclosing).command dialect.command?_commit with
              hdone | ⟨_, e, hreply⟩
            · rw [hdone, hinside]
              rfl
            · cases hreply
          rw [hleft]
          exact ⟨opened, committed, course, cs, htakes,
            (hopened.trans (hcourse.trans hclosing)).turns_eq, hkeeps, hcommitted,
            hkeeps.sublist_kept⟩

/-- An entry in a nested transaction, and whether that has come to an error. -/
def entryIsRefused : Body Bool :=
  .nested (.call ⟨"INSERT INTO entry VALUES (1)", []⟩ fun _ => .ended (.done ())) fun outcome =>
    match (outcome : Outcome Unit) with
    | .failed _ => .ended (.done true)
    | _ => .ended (.done false)

/-- The connection is lost for the release of the first savepoint. -/
def firstRelease (c : Call) : Option Error :=
  if c.sql = "RELEASE SAVEPOINT s1" then some (.driver "gone") else none

/-- A connection that answers once. -/
def answersOnce : Driver Bool where
  query _ answered := (if answered then .error (.driver "gone") else .ok .empty, true)
  close answered := (.ok (), answered)
  trace _ answered := answered

theorem entryIsRefused_isOrdinary : entryIsRefused.IsOrdinary .plain := by
  refine ⟨⟨by decide, fun _ => trivial⟩, fun outcome => ?_⟩
  cases outcome <;> trivial

theorem failed_nested_undone_iff_entry :
    (∃ course cs, entryIsRefused.Takes [] 0 course (.done true) ∧ course.Keeps cs ∧
      Engine.journal.applyAll cs [] = ["INSERT INTO entry VALUES (1)"]) ∧
    let t : Transaction (Watched Bool) := ⟨[], 0, .fresh false⟩
    (nested answersOnce.watched (fun t => (Outcome.done (), t)) t).2.connection.turns.map
      (·.call.sql) =
      ["SAVEPOINT " ++ nameAt 1, "RELEASE SAVEPOINT " ++ nameAt 1] := by
  constructor
  · rcases (failed_nested_undone_iff (losing .plain .journal firstRelease)).2 .plain .journal id
      (connects_losing _ _ _) {} entryIsRefused entryIsRefused_isOrdinary (idle [])
      [] rfl true rfl with
      ⟨_, _, course, cs, htakes, _, hkeeps, hdb, _⟩
    refine ⟨course, cs, htakes, hkeeps, ?_⟩
    have hleft : idle ["INSERT INTO entry VALUES (1)"] = idle (Engine.journal.applyAll cs []) := hdb
    injection hleft.symm
  · intro t
    have hends := (failed_nested_undone_iff answersOnce).1 (fun t => (Outcome.done (), t)) t _ _ rfl
      (.driver "gone") rfl
    have hsucceeds : ¬ ∃ e, (Outcome.done () : Outcome Unit) = .failed e := by simp
    rw [hends.2 hsucceeds]
    rfl

/-- The release of a savepoint fails, the nested transaction with it, and the entry made in it is
committed: no rollback to the savepoint has been sent. -/
theorem refused_release_commits_entry :
    let d := (losing .plain .journal firstRelease).watched
    let result := run d {} (entryIsRefused.run d) (.fresh (idle []))
    result.1 = .done true ∧
      result.2.turns.map (·.call.sql) = ["BEGIN", "SAVEPOINT s1", "INSERT INTO entry VALUES (1)",
        "RELEASE SAVEPOINT s1", "COMMIT"] ∧
      result.2.connection.committed = ["INSERT INTO entry VALUES (1)"] :=
  ⟨rfl, rfl, rfl⟩

end Transaction
end ParamSql
