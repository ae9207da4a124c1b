import ParamSql.Connection.Transaction

/-!
# Turn — what is said on a connection

A run is a way from one state of a connection to another, by statements that are sent and events
that are reported.

* `Turn` — a statement with the reply to it;
* `Driver.watched` — a driver that remembers its turns, and the state behind each of them;
* `Driver.Leads d s xs s'` — a run of the driver from `s` to `s'` with the turns `xs`;
* `Driver.Leads.invariant` — what every statement and every report keeps, a run keeps;
* `Driver.Leads.turns_eq`, `Driver.Leads.remembers` — a watched driver remembers just the turns of a
  run, and the states on the way.
-/

namespace ParamSql

/-- A statement with the reply to it. -/
structure Turn where
  call : Call
  reply : Except Error Reply

/-- A connection with its turns so far, each with the state that it has left. -/
structure Watched (σ : Type) where
  log : List (Turn × σ) := []
  connection : σ

namespace Watched

variable {σ : Type}

/-- The turns so far. -/
def turns (w : Watched σ) : List Turn :=
  w.log.map Prod.fst

/-- A watched connection on which nothing has been said. -/
def fresh (s : σ) : Watched σ :=
  ⟨[], s⟩

end Watched

namespace Driver

variable {σ : Type}

/-- The driver that remembers its turns. -/
def watched (d : Driver σ) : Driver (Watched σ) where
  query c w :=
    let (reply, s) := d.query c w.connection
    (reply, ⟨w.log ++ [(⟨c, reply⟩, s)], s⟩)
  close w :=
    let (result, s) := d.close w.connection
    (result, { w with connection := s })
  trace e w := { w with connection := d.trace e w.connection }

/-! ## Runs -/

/-- A run of a driver from one state to another, with its turns. -/
inductive Leads (d : Driver σ) : σ → List Turn → σ → Prop
  | refl (s : σ) : Leads d s [] s
  | query (c : Call) {s s' : σ} {xs : List Turn} :
      Leads d (d.query c s).2 xs s' → Leads d s (⟨c, (d.query c s).1⟩ :: xs) s'
  | report (e : Event) {s s' : σ} {xs : List Turn} :
      Leads d (d.trace e s) xs s' → Leads d s xs s'

namespace Leads

variable {d : Driver σ} {s s' s'' : σ} {xs ys : List Turn}

/-- One statement. -/
theorem single (c : Call) (s : σ) : d.Leads s [⟨c, (d.query c s).1⟩] (d.query c s).2 :=
  .query c (.refl _)

/-- One report. -/
theorem reported (e : Event) (s : σ) : d.Leads s [] (d.trace e s) :=
  .report e (.refl _)

theorem trans (h : d.Leads s xs s') (h' : d.Leads s' ys s'') : d.Leads s (xs ++ ys) s'' := by
  induction h with
  | refl s => exact h'
  | query c _ ih => exact .query c (ih h')
  | report e _ ih => exact .report e (ih h')

/-- A run whose turns are two lists, one behind the other, is made of two runs. -/
theorem split (h : d.Leads s (xs ++ ys) s'') : ∃ s', d.Leads s xs s' ∧ d.Leads s' ys s'' := by
  -- by induction on the run; its turns are generalized, as those of a rest are no such lists
  generalize hzs : xs ++ ys = zs at h
  induction h generalizing xs with
  | refl s =>
      rcases List.append_eq_nil_iff.1 hzs with ⟨rfl, rfl⟩
      exact ⟨s, .refl s, .refl s⟩
  | @query c s s'' zs hrest ih =>
      cases xs with
      | nil =>
          rw [List.nil_append] at hzs
          exact ⟨s, .refl s, hzs ▸ .query c hrest⟩
      | cons x xs =>
          rw [List.cons_append, List.cons.injEq] at hzs
          rcases hzs with ⟨rfl, hzs⟩
          rcases ih hzs with ⟨s', hfirst, hsecond⟩
          exact ⟨s', .query c hfirst, hsecond⟩
  | report e hrest ih =>
      rcases ih hzs with ⟨s', hfirst, hsecond⟩
      exact ⟨s', .report e hfirst, hsecond⟩

/-- What every statement of a run and every report keeps is kept by the run. -/
theorem invariant {I : σ → Prop} {P : Call → Prop} (h : d.Leads s xs s')
    (hquery : ∀ c s, P c → I s → I (d.query c s).2) (hreport : ∀ e s, I s → I (d.trace e s))
    (hcalls : ∀ x ∈ xs, P x.call) (hs : I s) : I s' := by
  induction h with
  | refl s => exact hs
  | query c _ ih =>
      rcases List.forall_mem_cons.1 hcalls with ⟨hc, hrest⟩
      exact ih hrest (hquery c _ hc hs)
  | report e _ ih => exact ih hcalls (hreport e _ hs)

/-! ## Watched runs -/

theorem turns_eq {w w' : Watched σ} (h : d.watched.Leads w xs w') :
    w'.turns = w.turns ++ xs := by
  induction h with
  | refl w => simp
  | query c _ ih =>
      rw [ih]
      simp [watched, Watched.turns]
  | report e _ ih => exact ih

/-- A watched run is a run. -/
theorem unwatched {w w' : Watched σ} (h : d.watched.Leads w xs w') :
    d.Leads w.connection xs w'.connection := by
  induction h with
  | refl w => exact .refl _
  | query c _ ih => exact .query c ih
  | report e _ ih => exact .report e ih

/-! ## Runs inside a transaction -/

/-- A run of an open transaction is a run on its connection, and leaves its savepoints alone. -/
theorem onConnection {t t' : Transaction σ} (h : (Transaction.driver d).Leads t xs t') :
    d.Leads t.connection xs t'.connection ∧ t'.savepoints = t.savepoints ∧
      t'.counter = t.counter := by
  induction h with
  | refl t => exact ⟨.refl _, rfl, rfl⟩
  | query c _ ih => exact ⟨.query c ih.1, ih.2⟩
  | report e _ ih => exact ⟨.report e ih.1, ih.2⟩

/-! ## Drivers that do not heed reports -/

theorem eq_of_nil (hsilent : ∀ e s, d.trace e s = s) (h : d.Leads s [] s') : s' = s := by
  generalize hxs : ([] : List Turn) = xs at h
  induction h with
  | refl s => rfl
  | query c _ _ => cases hxs
  | report e _ ih => rw [ih hxs, hsilent]

/-- The first turn of a run. -/
theorem cons_inv {x : Turn} (hsilent : ∀ e s, d.trace e s = s) (h : d.Leads s (x :: xs) s') :
    x.reply = (d.query x.call s).1 ∧ d.Leads (d.query x.call s).2 xs s' := by
  generalize hys : x :: xs = ys at h
  induction h with
  | refl s => cases hys
  | query c hrest _ =>
      cases hys
      exact ⟨rfl, hrest⟩
  | report e _ ih =>
      have hrest := ih hys
      rwa [hsilent] at hrest

end Leads

/-! ## What a watched driver remembers -/

/-- A watched connection is where its turns have led from a state, and every state in its log is
where the turns up to it have led. -/
structure Remembers (d : Driver σ) (s : σ) (w : Watched σ) : Prop where
  now : d.Leads s w.turns w.connection
  past : ∀ before x, before ++ [x] <+: w.log → d.Leads s ((before ++ [x]).map Prod.fst) x.2

variable {d : Driver σ} {xs : List Turn}

theorem Remembers.query {s : σ} {w : Watched σ} (h : d.Remembers s w) (c : Call) :
    d.Remembers s (d.watched.query c w).2 := by
  have hnow : d.Leads s (d.watched.query c w).2.turns (d.query c w.connection).2 := by
    have hturns : (d.watched.query c w).2.turns =
        w.turns ++ [⟨c, (d.query c w.connection).1⟩] := List.map_append
    rw [hturns]
    exact h.now.trans (.single c w.connection)
  refine ⟨hnow, ?_⟩
  intro before x hprefix
  -- the last entry is the state that has just been reached
  rcases List.prefix_concat_iff.1 hprefix with heq | hold
  · rcases List.append_inj' heq rfl with ⟨rfl, hx⟩
    rcases List.singleton_inj.1 hx
    exact hnow
  · exact h.past before x hold

/-- A watched driver remembers what has led from the state before it. -/
theorem Leads.remembers {s : σ} {w : Watched σ} (h : d.watched.Leads (.fresh s) xs w) :
    d.Remembers s w := by
  have hfresh : d.Remembers s (.fresh s) := by
    refine ⟨.refl s, ?_⟩
    intro before x hprefix
    simp [Watched.fresh] at hprefix
  have hreport : ∀ e w, d.Remembers s w → d.Remembers s (d.watched.trace e w) := by
    intro e w hw
    have hnow := hw.now.trans (.reported e w.connection)
    rw [List.append_nil] at hnow
    exact ⟨hnow, hw.past⟩
  have hquery : ∀ c w, True → d.Remembers s w → d.Remembers s (d.watched.query c w).2 :=
    fun c w _ hw => hw.query c
  exact h.invariant hquery hreport (fun _ _ => trivial) hfresh

end Driver
end ParamSql
