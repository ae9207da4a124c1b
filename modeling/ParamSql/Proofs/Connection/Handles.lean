import Mathlib.Data.List.Induction
import Mathlib.Data.List.Nodup
import Mathlib.Data.List.TakeWhile
import ParamSql.Proofs.Connection.Bracketing
import ParamSql.Proofs.Connection.Database

/-!
# Handles — savepoints that are opened and ended by hand

Several savepoints of a transaction can be held at once, and they are ended in any order.  The
transaction counts those that it takes to be open, the server has a stack of its own, and a
savepoint that is dropped is forgotten by the transaction with all savepoints inside it, while the
server keeps them.

* `HandleStep`, `Holding`, `Holding.runAll` — what is done with savepoints by hand, and what it
  leads to;
* `Database.live` — the savepoints on the stack of a database;
* `Holding.InStep` — the savepoints that are counted are on the stack, in the same order;
* `Holding.Undercuts` — a step that ends a forgotten savepoint below one that is counted;
* `Holding.inStep_step_iff` — the only steps that lead out of step;
* `Transaction.savepoints_in_step_iff` — the same for whole runs.
-/

namespace ParamSql

/-! ## Lists without repetitions -/

section Lists

variable {α : Type} {x y : α} {xs ys : List α}

theorem pair_sublist_iff (hx : x ∉ xs) : [x, y].Sublist (xs ++ x :: ys) ↔ y ∈ ys := by
  constructor
  · intro h
    rcases List.sublist_append_iff.1 h with ⟨front, back, hsplit, hfront, hback⟩
    cases front with
    | nil =>
        rw [List.nil_append] at hsplit
        rw [← hsplit, List.cons_sublist_cons] at hback
        exact List.singleton_sublist.1 hback
    | cons z front =>
        rw [List.cons_append, List.cons.injEq] at hsplit
        exact absurd (hsplit.1 ▸ hfront.subset List.mem_cons_self) hx
  · intro h
    exact ((List.singleton_sublist.2 h).cons_cons x).trans (List.sublist_append_right xs _)

theorem pair_sublist_left (hy : y ∈ xs) : [y, x].Sublist (xs ++ x :: ys) :=
  (List.singleton_sublist.2 hy).append ((List.nil_sublist ys).cons_cons x)

/-- A list without repetitions has no two elements in both orders. -/
theorem not_pair_sublist_swap (hxs : xs.Nodup) (h : [x, y].Sublist xs) : ¬ [y, x].Sublist xs := by
  intro h'
  rcases List.eq_append_cons_of_mem (h'.subset List.mem_cons_self) with ⟨front, back, rfl, hfront⟩
  have hx : x ∈ back := (pair_sublist_iff hfront).1 h'
  -- the list has y first and x behind it, so that y would have to be behind x once more
  rcases List.append_of_mem hx with ⟨between, behind, rfl⟩
  have hall : (front ++ y :: between ++ x :: behind).Nodup := by simpa using hxs
  have hbefore : x ∉ front ++ y :: between := fun hmem =>
    (List.nodup_append'.1 hall).2.2 hmem List.mem_cons_self
  have hbehind : y ∈ behind := by
    rw [← pair_sublist_iff hbefore]
    simpa using h
  have hy : y ∈ front ++ y :: between := by simp
  exact (List.nodup_append'.1 hall).2.2 hy (List.mem_cons_of_mem x hbehind)

variable [DecidableEq α]

theorem notMem_takeWhile_ne (x : α) (xs : List α) : x ∉ xs.takeWhile fun z => z ≠ x := by
  intro h
  simpa using List.mem_takeWhile_imp h

theorem takeWhile_ne_of_notMem (hx : x ∉ xs) : (xs.takeWhile fun z => z ≠ x) = xs := by
  rw [List.takeWhile_eq_self_iff]
  intro z hz
  exact decide_eq_true fun heq => hx (heq ▸ hz)

theorem takeWhile_ne_append (hx : x ∉ xs) (ys : List α) :
    ((xs ++ x :: ys).takeWhile fun z => z ≠ x) = xs := by
  rw [List.takeWhile_append_of_pos]
  · simp
  · intro z hz
    exact decide_eq_true fun heq => hx (heq ▸ hz)

/-- What stands in a list without repetitions and nowhere behind an element stands before it. -/
theorem sublist_takeWhile_ne_iff (hys : ys.Nodup) (h : xs.Sublist ys) (hx : x ∉ xs) :
    xs.Sublist (ys.takeWhile fun z => z ≠ x) ↔ ∀ y ∈ xs, ¬ [x, y].Sublist ys := by
  by_cases hmem : x ∈ ys
  · rcases List.eq_append_cons_of_mem hmem with ⟨front, back, rfl, hfront⟩
    rw [takeWhile_ne_append hfront]
    have hdisjoint := (List.nodup_append'.1 hys).2.2
    constructor
    · intro hsublist y hy hpair
      exact hdisjoint (hsublist.subset hy)
        (List.mem_cons_of_mem x ((pair_sublist_iff hfront).1 hpair))
    · intro hall
      rcases List.sublist_append_iff.1 h with ⟨left, right, rfl, hleft, hright⟩
      -- nothing is taken from the part that is cut off
      have hnone : right = [] := by
        refine List.eq_nil_iff_forall_not_mem.2 fun y hy => ?_
        have hy' : y ∈ left ++ right := List.mem_append_right left hy
        rcases List.mem_cons.1 (hright.subset hy) with rfl | hback
        · exact hx hy'
        · exact hall y hy' ((pair_sublist_iff hfront).2 hback)
      rwa [hnone, List.append_nil]
  · rw [takeWhile_ne_of_notMem hmem]
    exact iff_of_true h fun y _ hpair => hmem (hpair.subset List.mem_cons_self)

theorem pair_sublist_of_mem_takeWhile (hx : x ∈ xs) (hy : y ∈ xs.takeWhile fun z => z ≠ x) :
    [y, x].Sublist xs := by
  rcases List.eq_append_cons_of_mem hx with ⟨front, back, rfl, hfront⟩
  rw [takeWhile_ne_append hfront] at hy
  exact pair_sublist_left hy

/-- An element that is cut off stands behind the one at which the list is cut. -/
theorem mem_takeWhile_or_pair_sublist (hy : y ∈ xs) (hne : y ≠ x) :
    (y ∈ xs.takeWhile fun z => z ≠ x) ∨ [x, y].Sublist xs := by
  by_cases hx : x ∈ xs
  · rcases List.eq_append_cons_of_mem hx with ⟨front, back, rfl, hfront⟩
    rw [takeWhile_ne_append hfront, pair_sublist_iff hfront]
    simpa [hne] using hy
  · rw [takeWhile_ne_of_notMem hx]
    exact .inl hy

/-- Two lists of which one is a part of the other are cut at an element, and the element itself may
stay in the longer one. The shorter one is still a part, unless the element stands in the longer one
only and before something that stands in both. -/
theorem takeWhile_ne_sublist_iff (hys : ys.Nodup) (h : xs.Sublist ys) {above : List α}
    (habove : above.Sublist [x]) :
    (xs.takeWhile fun z => z ≠ x).Sublist ((ys.takeWhile fun z => z ≠ x) ++ above) ↔
      ¬ (x ∉ xs ∧ ∃ y ∈ xs, [x, y].Sublist ys) := by
  have hnone : x ∉ xs.takeWhile fun z => z ≠ x := notMem_takeWhile_ne x xs
  have hshort : (xs.takeWhile fun z => z ≠ x).Sublist ys := (List.takeWhile_sublist _).trans h
  calc
    (xs.takeWhile fun z => z ≠ x).Sublist ((ys.takeWhile fun z => z ≠ x) ++ above)
        ↔ (xs.takeWhile fun z => z ≠ x).Sublist (ys.takeWhile fun z => z ≠ x) := by
          -- the element itself is not in the shorter one, so that it does not matter if it stays
          refine ⟨fun hcut => ?_, fun hcut => hcut.trans (List.sublist_append_left _ _)⟩
          rcases List.sublist_append_iff.1 hcut with ⟨left, right, hsplit, hleft, hright⟩
          cases hcase : right with
          | nil => rwa [hsplit, hcase, List.append_nil]
          | cons z right' =>
              have hz : z = x := List.mem_singleton.1
                (habove.subset (hright.subset (hcase ▸ List.mem_cons_self)))
              rw [hsplit, hcase, hz] at hnone
              exact absurd (List.mem_append_right _ List.mem_cons_self) hnone
    _ ↔ ∀ y ∈ xs.takeWhile fun z => z ≠ x, ¬ [x, y].Sublist ys :=
          sublist_takeWhile_ne_iff hys hshort hnone
    _ ↔ ¬ (x ∉ xs ∧ ∃ y ∈ xs, [x, y].Sublist ys) := by
          by_cases hx : x ∈ xs
          · -- what stands before the element in the one list stands before it in the other
            refine iff_of_true (fun y hy hpair => ?_) fun hnot => hnot.1 hx
            exact not_pair_sublist_swap hys hpair ((pair_sublist_of_mem_takeWhile hx hy).trans h)
          · rw [takeWhile_ne_of_notMem hx]
            simp [hx]

end Lists

/-! ## Savepoints on the stack of a database -/

namespace Database

variable {S : Type} {dialect : Dialect} {engine : Engine S} {committed store : S}
  {savepoints : Savepoints S} {name : String}

/-- The names of the savepoints of the open transaction, the outermost first. -/
def live (db : Database S) : List String :=
  match db.transaction with
  | none => []
  | some t => (t.savepoints.map Prod.fst).reverse

theorem live_busy (committed store : S) (savepoints : Savepoints S) :
    (busy committed store savepoints).live = (savepoints.map Prod.fst).reverse := rfl

theorem seek_eq_none (h : name ∉ (savepoints.map Prod.fst).reverse) :
    savepoints.seek name = none := by
  induction savepoints with
  | nil => rfl
  | cons sp savepoints ih =>
      simp only [List.map_cons, List.reverse_cons, List.mem_append, not_or, List.mem_singleton] at h
      rw [Savepoints.seek, if_neg (Ne.symm h.2), ih h.1]

/-- A savepoint on the stack is found, with those that are outside of it. -/
theorem exists_seek {name : String} (hnodup : ((savepoints.map Prod.fst).reverse).Nodup)
    (h : name ∈ (savepoints.map Prod.fst).reverse) : ∃ s earlier,
      savepoints.seek name = some (s, earlier) ∧
        (earlier.map Prod.fst).reverse =
          (savepoints.map Prod.fst).reverse.takeWhile fun n => n ≠ name := by
  rcases List.mem_map.1 (List.mem_reverse.1 h) with ⟨⟨n, s⟩, hmem, hname⟩
  have hn : n = name := hname
  subst hn
  rcases List.append_of_mem hmem with ⟨later, earlier, rfl⟩
  simp only [List.map_append, List.map_cons, List.nodup_reverse] at hnodup
  rw [List.nodup_append', List.nodup_cons] at hnodup
  -- neither the savepoints inside of this one nor those outside of it have its name
  rcases hnodup with ⟨_, ⟨hearlier, _⟩, hlater⟩
  refine ⟨s, earlier, seek_append ?_ s earlier, ?_⟩
  · intro sp hsp heq
    exact hlater (List.mem_map_of_mem hsp) (heq ▸ List.mem_cons_self)
  · have hsplit : ((later ++ (n, s) :: earlier).map Prod.fst).reverse =
        (earlier.map Prod.fst).reverse ++ n :: (later.map Prod.fst).reverse := by simp
    rw [hsplit, takeWhile_ne_append (by simpa using hearlier)]

/-- What the two commands that end a savepoint leave of the stack: what is outside of the savepoint,
and at most the savepoint itself. -/
theorem live_ending {command : TransactionCommand}
    (hnodup : (busy committed store savepoints).live.Nodup)
    (hcommand : command = .release name ∨ command = .rollbackTo name) :
    ∃ store' savepoints' above,
      ((busy committed store savepoints).obey command).2 = busy committed store' savepoints' ∧
        List.Sublist above [name] ∧ (busy committed store' savepoints').live =
          ((busy committed store savepoints).live.takeWhile fun n => n ≠ name) ++ above := by
  simp only [live_busy] at hnodup ⊢
  by_cases h : name ∈ (savepoints.map Prod.fst).reverse
  · rcases exists_seek hnodup h with ⟨s, earlier, hseek, hearlier⟩
    rcases hcommand with rfl | rfl
    · refine ⟨store, earlier, [], by simp only [obey, busy, hseek], List.nil_sublist _, ?_⟩
      rw [hearlier, List.append_nil]
    · refine ⟨s, (name, s) :: earlier, [name], by simp only [obey, busy, hseek], .refl _, ?_⟩
      rw [← hearlier, List.map_cons, List.reverse_cons]
  · have hseek : savepoints.seek name = none := seek_eq_none h
    refine ⟨store, savepoints, [], ?_, List.nil_sublist _, ?_⟩
    · rcases hcommand with rfl | rfl <;> simp only [obey, busy, hseek]
    · rw [takeWhile_ne_of_notMem h, List.append_nil]

/-- A verb that is a command of the database. -/
theorem verb_of_command {sql : String} {command : TransactionCommand}
    (h : dialect.command? sql = some command) (t : Transaction (Database S)) :
    Transaction.verb (driver dialect engine) sql t =
      ((t.connection.obey command).1.map fun _ => (),
        { t with connection := (t.connection.obey command).2 }) := by
  have hquery : (driver dialect engine).query ⟨sql, []⟩ t.connection = t.connection.obey command :=
    query_of_command h _
  simp only [Transaction.verb, Transaction.report, trace_eq, Transaction.onConnection, hquery]
  cases (t.connection.obey command).1 <;> rfl

end Database

/-- A savepoint is opened under the next name, if the verb succeeds. -/
theorem Transaction.savepoint_of_verb {σ : Type} {d : Driver σ} {t t' : Transaction σ}
    (h : verb d ("SAVEPOINT " ++ nameAt (t.counter + 1))
      ⟨t.savepoints ++ [nameAt (t.counter + 1)], t.counter + 1, t.connection⟩ = (.ok (), t')) :
    t.savepoint d = (.ok (nameAt (t.counter + 1)), t') := by
  simp only [nameAt] at h
  simp only [Transaction.savepoint, nameAt, h]

/-! ## Savepoints in the hands of a client -/

/-- What is done with savepoints by hand. The three ways to end one use up its handle. -/
inductive HandleStep
  | savepoint
  | release (name : String)
  | rollbackTo (name : String)
  | drop (name : String)
  deriving DecidableEq, Repr

/-- An open transaction with the savepoints that are held, in the order in which they were
opened. -/
structure Holding (σ : Type) where
  handles : List String
  transaction : Transaction σ

namespace Holding

variable {σ : Type}

/-- Uses up a handle, if it is held. -/
def spend (name : String) (f : Transaction σ → Transaction σ) (g : Holding σ) : Holding σ :=
  if name ∈ g.handles then ⟨g.handles.erase name, f g.transaction⟩ else g

/-- Does one step. -/
def step (d : Driver σ) (g : Holding σ) : HandleStep → Holding σ
  | .savepoint =>
      match g.transaction.savepoint d with
      | (.ok name, t) => ⟨g.handles ++ [name], t⟩
      | (.error _, t) => ⟨g.handles, t⟩
  | .release name => g.spend name fun t => (Transaction.release d name t).2
  | .rollbackTo name => g.spend name fun t => (Transaction.rollbackTo d name t).2
  | .drop name => g.spend name (Transaction.dropSavepoint d name)

/-- Does steps one after the other. -/
def runAll (d : Driver σ) (steps : List HandleStep) (g : Holding σ) : Holding σ :=
  steps.foldl (step d) g

theorem runAll_concat (d : Driver σ) (steps : List HandleStep) (s : HandleStep) (g : Holding σ) :
    runAll d (steps ++ [s]) g = (runAll d steps g).step d s := by
  simp [runAll]

/-- The savepoints that the transaction takes to be open. -/
def counted (g : Holding σ) : List String :=
  g.transaction.savepoints

variable {S : Type}

/-- The savepoints on the server. -/
def live (g : Holding (Database S)) : List String :=
  g.transaction.connection.live

/-- The savepoints that are counted are savepoints on the server, in the same order. -/
def InStep (g : Holding (Database S)) : Prop :=
  g.counted.Sublist g.live

instance (g : Holding (Database S)) : Decidable g.InStep :=
  inferInstanceAs (Decidable (List.Sublist _ _))

/-- A savepoint is held that the transaction has forgotten and the server has not, and inside of
which there is one that is counted. -/
def Underlies (g : Holding (Database S)) (name : String) : Prop :=
  name ∈ g.handles ∧ name ∉ g.counted ∧ ∃ inner ∈ g.counted, [name, inner].Sublist g.live

/-- The step ends a savepoint that underlies one which is counted. -/
def Undercuts (g : Holding (Database S)) : HandleStep → Prop
  | .savepoint => False
  | .release name => g.Underlies name
  | .rollbackTo name => g.Underlies name
  | .drop _ => False

/-! ## One step -/

/-- What shows of a holding whose transaction is open. -/
structure Shows (g : Holding (Database S)) (handles counted live : List String) (counter : Nat) :
    Prop where
  isOpen : ∃ committed store savepoints, g.transaction.connection = .busy committed store savepoints
  handles_eq : g.handles = handles
  counted_eq : g.counted = counted
  live_eq : g.live = live
  counter_eq : g.transaction.counter = counter

/-- The savepoints of a transaction that has been begun on a database have names of their own, which
have been given out. -/
structure Sound (g : Holding (Database S)) : Prop where
  isOpen : ∃ committed store savepoints, g.transaction.connection = .busy committed store savepoints
  live_nodup : g.live.Nodup
  handles_nodup : g.handles.Nodup
  numbered : ∀ name ∈ g.live ++ g.handles, ∃ k, k ≤ g.transaction.counter ∧
    name = Transaction.nameAt k

variable {dialect : Dialect} {engine : Engine S} {g : Holding (Database S)} {name : String}

theorem Sound.isPlainName (h : g.Sound) (hname : name ∈ g.handles) : IsPlainName name := by
  rcases h.numbered name (List.mem_append_right _ hname) with ⟨k, _, rfl⟩
  exact Transaction.isPlainName_nameAt k

theorem Sound.next_notMem (h : g.Sound) :
    Transaction.nameAt (g.transaction.counter + 1) ∉ g.live ++ g.handles := by
  intro hmem
  rcases h.numbered _ hmem with ⟨k, hk, hname⟩
  have hsame : g.transaction.counter + 1 = k := Transaction.nameAt_injective hname
  omega

/-- A savepoint is opened on both sides. -/
theorem Sound.shows_savepoint (h : g.Sound) :
    let new := Transaction.nameAt (g.transaction.counter + 1)
    (g.step (Database.driver dialect engine) .savepoint).Shows (g.handles ++ [new])
      (g.counted ++ [new]) (g.live ++ [new]) (g.transaction.counter + 1) := by
  intro new
  rcases h.isOpen with ⟨committed, store, savepoints, hopen⟩
  let named : Transaction (Database S) :=
    ⟨g.transaction.savepoints ++ [new], g.transaction.counter + 1, g.transaction.connection⟩
  have hverb : Transaction.verb (Database.driver dialect engine) ("SAVEPOINT " ++ new) named =
      (.ok (), { named with
        connection := .busy committed store ((new, store) :: savepoints) }) := by
    rw [Database.verb_of_command
      (dialect.command?_savepoint new (Transaction.isPlainName_nameAt _)), hopen]
    rfl
  have hsavepoint : g.transaction.savepoint (Database.driver dialect engine) =
      (.ok new, { named with
        connection := .busy committed store ((new, store) :: savepoints) }) := by
    rw [Transaction.savepoint_of_verb hverb]
  have hstep : g.step (Database.driver dialect engine) .savepoint = ⟨g.handles ++ [new],
      { named with connection := .busy committed store ((new, store) :: savepoints) }⟩ := by
    rw [step, hsavepoint]
  rw [hstep]
  refine ⟨⟨_, _, _, rfl⟩, rfl, rfl, ?_, rfl⟩
  simp [live, hopen, Database.live_busy]

/-- A savepoint that is released or rolled back to is ended on both sides; on the server it may stay
itself. -/
theorem Sound.shows_ending (h : g.Sound) (hname : name ∈ g.handles) {s : HandleStep}
    (hs : s = .release name ∨ s = .rollbackTo name) : ∃ above : List String,
    above.Sublist [name] ∧ (g.step (Database.driver dialect engine) s).Shows (g.handles.erase name)
      (g.counted.takeWhile fun n => n ≠ name) ((g.live.takeWhile fun n => n ≠ name) ++ above)
      g.transaction.counter := by
  let d : Driver (Database S) := Database.driver dialect engine
  rcases h.isOpen with ⟨committed, store, savepoints, hopen⟩
  -- the two verbs differ in their command only
  have hcommand : ∃ (sql : String) (command : TransactionCommand),
      dialect.command? sql = some command ∧ (command = .release name ∨ command = .rollbackTo name) ∧
        g.step d s = ⟨g.handles.erase name,
          Transaction.forget name (Transaction.verb d sql g.transaction).2⟩ := by
    rcases hs with rfl | rfl
    · exact ⟨_, _, dialect.command?_release name (h.isPlainName hname), .inl rfl, if_pos hname⟩
    · exact ⟨_, _, dialect.command?_rollbackTo name (h.isPlainName hname), .inr rfl, if_pos hname⟩
  rcases hcommand with ⟨sql, command, hdialect, hcommand, hstep⟩
  have hnodup : (Database.busy committed store savepoints).live.Nodup := hopen ▸ h.live_nodup
  rcases Database.live_ending hnodup hcommand with
    ⟨store', savepoints', above, hobey, habove, hlive⟩
  rw [hstep, Database.verb_of_command hdialect, hopen, hobey]
  refine ⟨above, habove, ⟨_, _, _, rfl⟩, rfl, rfl, ?_, rfl⟩
  have hbefore : g.live = (Database.busy committed store savepoints).live :=
    congrArg Database.live hopen
  rw [hbefore]
  exact hlive

/-- A savepoint that is dropped is forgotten, and the server is told nothing. -/
theorem Sound.shows_drop (h : g.Sound) (hname : name ∈ g.handles) :
    (g.step (Database.driver dialect engine) (.drop name)).Shows (g.handles.erase name)
      (g.counted.takeWhile fun n => n ≠ name) g.live g.transaction.counter := by
  have hstep : g.step (Database.driver dialect engine) (.drop name) =
      ⟨g.handles.erase name, Transaction.forget name g.transaction⟩ := if_pos hname
  rw [hstep]
  exact ⟨h.isOpen, rfl, rfl, rfl, rfl⟩

variable (dialect engine) in
/-- What a step does: a savepoint is opened, one that is held is ended, one that is held is dropped,
or nothing is done, as the savepoint is not held. -/
theorem Sound.step_cases (h : g.Sound) (s : HandleStep) :
    let g' := g.step (Database.driver dialect engine) s
    let new := Transaction.nameAt (g.transaction.counter + 1)
    (s = .savepoint ∧ g'.Shows (g.handles ++ [new]) (g.counted ++ [new]) (g.live ++ [new])
      (g.transaction.counter + 1)) ∨
    (∃ name ∈ g.handles, (s = .release name ∨ s = .rollbackTo name) ∧ ∃ above : List String,
      above.Sublist [name] ∧ g'.Shows (g.handles.erase name)
        (g.counted.takeWhile fun n => n ≠ name) ((g.live.takeWhile fun n => n ≠ name) ++ above)
        g.transaction.counter) ∨
    (∃ name ∈ g.handles, s = .drop name ∧ g'.Shows (g.handles.erase name)
      (g.counted.takeWhile fun n => n ≠ name) g.live g.transaction.counter) ∨
    (g' = g ∧ ¬ g.Undercuts s) := by
  intro g' new
  cases s with
  | savepoint => exact .inl ⟨rfl, h.shows_savepoint⟩
  | release name =>
      by_cases hname : name ∈ g.handles
      · exact .inr (.inl ⟨name, hname, .inl rfl, h.shows_ending hname (.inl rfl)⟩)
      · exact .inr (.inr (.inr ⟨if_neg hname, fun hunder => hname hunder.1⟩))
  | rollbackTo name =>
      by_cases hname : name ∈ g.handles
      · exact .inr (.inl ⟨name, hname, .inr rfl, h.shows_ending hname (.inr rfl)⟩)
      · exact .inr (.inr (.inr ⟨if_neg hname, fun hunder => hname hunder.1⟩))
  | drop name =>
      by_cases hname : name ∈ g.handles
      · exact .inr (.inr (.inl ⟨name, hname, rfl, h.shows_drop hname⟩))
      · exact .inr (.inr (.inr ⟨if_neg hname, id⟩))

theorem Shows.sound {handles counted live : List String} {counter : Nat}
    (h : g.Shows handles counted live counter) (hlive : live.Nodup) (hhandles : handles.Nodup)
    (hnumbered : ∀ name ∈ live ++ handles, ∃ k, k ≤ counter ∧ name = Transaction.nameAt k) :
    g.Sound :=
  ⟨h.isOpen, h.live_eq ▸ hlive, h.handles_eq ▸ hhandles,
    by rw [h.live_eq, h.handles_eq, h.counter_eq]; exact hnumbered⟩

theorem Shows.inStep_iff {handles counted live : List String} {counter : Nat}
    (h : g.Shows handles counted live counter) : g.InStep ↔ counted.Sublist live := by
  rw [InStep, h.counted_eq, h.live_eq]

/-- The names stay apart. -/
theorem Sound.step (h : g.Sound) (s : HandleStep) :
    (g.step (Database.driver dialect engine) s).Sound := by
  rcases h.step_cases dialect engine s with
    ⟨_, hshows⟩ | ⟨name, hname, _, above, habove, hshows⟩ | ⟨name, hname, _, hshows⟩ | ⟨hidle, _⟩
  · -- the next name has not been given out yet
    have hnew := h.next_notMem
    rw [List.mem_append, not_or] at hnew
    refine hshows.sound ?_ ?_ ?_
    · exact h.live_nodup.append (List.nodup_singleton _) (by simpa using hnew.1)
    · exact h.handles_nodup.append (List.nodup_singleton _) (by simpa using hnew.2)
    · intro n hn
      by_cases hold : n ∈ g.live ++ g.handles
      · rcases h.numbered n hold with ⟨k, hk, heq⟩
        exact ⟨k, by omega, heq⟩
      · refine ⟨g.transaction.counter + 1, Nat.le_refl _, ?_⟩
        simp only [List.mem_append, List.mem_singleton, not_or] at hn hold
        tauto
  · refine hshows.sound ?_ (h.handles_nodup.erase _) ?_
    · refine (h.live_nodup.sublist (List.takeWhile_sublist _)).append
        ((List.nodup_singleton name).sublist habove) ?_
      intro n hn hn'
      rcases List.mem_singleton.1 (habove.subset hn')
      exact notMem_takeWhile_ne _ _ hn
    · intro n hn
      refine h.numbered n ?_
      simp only [List.mem_append] at hn ⊢
      rcases hn with (hn | hn) | hn
      · exact .inl ((List.takeWhile_sublist _).subset hn)
      · exact .inr (List.mem_singleton.1 (habove.subset hn) ▸ hname)
      · exact .inr (List.mem_of_mem_erase hn)
  · refine hshows.sound h.live_nodup (h.handles_nodup.erase _) ?_
    intro n hn
    refine h.numbered n ?_
    rcases List.mem_append.1 hn with hn | hn
    · exact List.mem_append_left _ hn
    · exact List.mem_append_right _ (List.mem_of_mem_erase hn)
  · rw [hidle]
    exact h

/-- Only a step that undercuts a savepoint leads out of step. -/
theorem Sound.inStep_step_iff (h : g.Sound) (hin : g.InStep) (s : HandleStep) :
    (g.step (Database.driver dialect engine) s).InStep ↔ ¬ g.Undercuts s := by
  rcases h.step_cases dialect engine s with
    ⟨rfl, hshows⟩ | ⟨name, hname, hs, above, habove, hshows⟩ | ⟨name, _, rfl, hshows⟩ |
      ⟨hidle, hnot⟩
  · rw [hshows.inStep_iff]
    exact iff_of_true (hin.append (.refl _)) id
  · -- both lists are cut at the savepoint, which is what undercutting is about
    rw [hshows.inStep_iff, takeWhile_ne_sublist_iff h.live_nodup hin habove]
    rcases hs with rfl | rfl <;> simp [Undercuts, Underlies, hname]
  · rw [hshows.inStep_iff]
    exact iff_of_true ((List.takeWhile_sublist _).trans hin) id
  · rw [hidle]
    exact iff_of_true hin hnot

/-! ## Savepoints that are dropped in order -/

/-- The savepoints that are counted are held, and those that are held and still on the server are
counted. -/
structure Orderly (g : Holding (Database S)) : Prop where
  counted_held : g.counted.Sublist g.handles
  live_counted : ∀ name ∈ g.handles, name ∈ g.live → name ∈ g.counted

theorem Shows.orderly {handles counted live : List String} {counter : Nat}
    (h : g.Shows handles counted live counter) (hheld : counted.Sublist handles)
    (hcounted : ∀ name ∈ handles, name ∈ live → name ∈ counted) : g.Orderly :=
  ⟨by rwa [h.counted_eq, h.handles_eq], by rwa [h.counted_eq, h.handles_eq, h.live_eq]⟩

/-- The step does not drop a savepoint while one that was opened after it is held. -/
def DropsLast (g : Holding (Database S)) : HandleStep → Prop
  | .drop name => name ∈ g.handles → g.handles.getLast? = some name
  | _ => True

theorem Orderly.not_undercuts (h : g.Orderly) (s : HandleStep) : ¬ g.Undercuts s := by
  have hnone : ∀ name, ¬ g.Underlies name := by
    intro name hunder
    rcases hunder with ⟨hheld, hforgotten, inner, _, hpair⟩
    exact hforgotten (h.live_counted name hheld (hpair.subset List.mem_cons_self))
  cases s with
  | savepoint => exact id
  | release name => exact hnone name
  | rollbackTo name => exact hnone name
  | drop name => exact id

theorem takeWhile_sublist_erase {handles counted : List String} (h : counted.Sublist handles)
    (name : String) : (counted.takeWhile fun n => n ≠ name).Sublist (handles.erase name) := by
  have hcut : (counted.takeWhile fun n => n ≠ name).Sublist handles :=
    (List.takeWhile_sublist _).trans h
  have herased := hcut.erase name
  rwa [List.erase_of_not_mem (notMem_takeWhile_ne name counted)] at herased

theorem Orderly.step (h : g.Orderly) (hsound : g.Sound) (hin : g.InStep) {s : HandleStep}
    (hs : g.DropsLast s) : (g.step (Database.driver dialect engine) s).Orderly := by
  rcases hsound.step_cases dialect engine s with
    ⟨_, hshows⟩ | ⟨name, hname, _, above, habove, hshows⟩ | ⟨name, hname, rfl, hshows⟩ | ⟨hidle, _⟩
  · refine hshows.orderly (h.counted_held.append (.refl _)) fun n hheld hlive => ?_
    rw [List.mem_append] at hheld hlive ⊢
    rcases hheld with hheld | hnew
    · exact hlive.imp_left (h.live_counted n hheld)
    · exact .inr hnew
  · refine hshows.orderly (takeWhile_sublist_erase h.counted_held name) fun n hheld hlive => ?_
    rw [hsound.handles_nodup.mem_erase_iff] at hheld
    rw [List.mem_append] at hlive
    have houtside : n ∈ g.live.takeWhile fun z => z ≠ name :=
      hlive.resolve_right fun habove' => hheld.1 (List.mem_singleton.1 (habove.subset habove'))
    have hlive' : n ∈ g.live := (List.takeWhile_sublist _).subset houtside
    have hwithin := mem_takeWhile_or_pair_sublist (h.live_counted n hheld.2 hlive') hheld.1
    refine hwithin.resolve_right ?_
    -- what is counted inside of the savepoint is inside of it on the server too
    intro hpair
    have hpair' := hpair.trans hin
    exact not_pair_sublist_swap hsound.live_nodup hpair'
      (pair_sublist_of_mem_takeWhile (hpair'.subset List.mem_cons_self) houtside)
  · refine hshows.orderly (takeWhile_sublist_erase h.counted_held name) fun n hheld hlive => ?_
    rw [hsound.handles_nodup.mem_erase_iff] at hheld
    refine (mem_takeWhile_or_pair_sublist (h.live_counted n hheld.2 hlive) hheld.1).resolve_right ?_
    -- what is counted is held in the same order, and nothing is held behind the one that is dropped
    intro hpair
    rcases List.getLast?_eq_some_iff.1 (hs hname) with ⟨before, hhandles⟩
    have hnotBefore : name ∉ before := by
      have hnodup := hhandles ▸ hsound.handles_nodup
      intro hmem
      exact (List.nodup_append'.1 hnodup).2.2 hmem List.mem_cons_self
    have hpair' := hpair.trans (hhandles ▸ h.counted_held)
    exact List.not_mem_nil ((pair_sublist_iff hnotBefore).1 hpair')
  · rw [hidle]
    exact h

/-! ## Runs -/

/-- A transaction that has been begun, and of which no savepoint is held. -/
def begun {σ : Type} (d : Driver σ) (options : TransactionOptions) (s : σ) : Holding σ :=
  ⟨[], (Transaction.begin d options s).2⟩

theorem begun_shows (dialect : Dialect) (engine : Engine S) (options : TransactionOptions)
    (store : S) :
    (begun (Database.driver dialect engine) options (.idle store)).Shows [] [] [] 0 := by
  have hbegun : begun (Database.driver dialect engine) options (.idle store) =
      ⟨[], [], 0, .busy store store []⟩ := by
    rw [begun, Transaction.begin, Database.verb_of_command (dialect.command?_begin options)]
    rfl
  rw [hbegun]
  exact ⟨⟨_, _, _, rfl⟩, rfl, rfl, rfl, rfl⟩

theorem Sound.runAll (h : g.Sound) (steps : List HandleStep) :
    (g.runAll (Database.driver dialect engine) steps).Sound := by
  induction steps generalizing g with
  | nil => exact h
  | cons s steps ih => exact ih (h.step s)

/-- A run is in step throughout just if none of its steps undercuts a savepoint. -/
theorem Sound.forall_inStep_iff (h : g.Sound) (hin : g.InStep) (steps : List HandleStep) :
    (∀ before, before <+: steps → (g.runAll (Database.driver dialect engine) before).InStep) ↔
      ∀ before s, before ++ [s] <+: steps →
        ¬ (g.runAll (Database.driver dialect engine) before).Undercuts s := by
  have hstep : ∀ before s, (g.runAll (Database.driver dialect engine) before).InStep →
      ((g.runAll (Database.driver dialect engine) (before ++ [s])).InStep ↔
        ¬ (g.runAll (Database.driver dialect engine) before).Undercuts s) := by
    intro before s hbefore
    rw [runAll_concat]
    exact (h.runAll before).inStep_step_iff hbefore s
  constructor
  · intro hall before s hprefix
    have hbefore := hall before ((List.prefix_append before [s]).trans hprefix)
    exact (hstep before s hbefore).1 (hall _ hprefix)
  · intro hnone before
    -- the longer the run, the last step decides
    induction before using List.reverseRecOn with
    | nil => exact fun _ => hin
    | append_singleton before s ih =>
        intro hprefix
        have hbefore := ih ((List.prefix_append before [s]).trans hprefix)
        exact (hstep before s hbefore).2 (hnone before s hprefix)

/-- A run in which savepoints are dropped in order is in step throughout. -/
theorem Orderly.forall_inStep (h : g.Orderly) (hsound : g.Sound) (hin : g.InStep)
    {steps : List HandleStep} (hdrops : ∀ before s, before ++ [s] <+: steps →
      (g.runAll (Database.driver dialect engine) before).DropsLast s) :
    ∀ before, before <+: steps → (g.runAll (Database.driver dialect engine) before).InStep := by
  have hboth : ∀ before, before <+: steps →
      (g.runAll (Database.driver dialect engine) before).Orderly ∧
        (g.runAll (Database.driver dialect engine) before).InStep := by
    intro before
    induction before using List.reverseRecOn with
    | nil => exact fun _ => ⟨h, hin⟩
    | append_singleton before s ih =>
        intro hprefix
        rcases ih ((List.prefix_append before [s]).trans hprefix) with ⟨horderly, hbefore⟩
        have hbehind : (g.runAll (Database.driver dialect engine) before).Sound :=
          hsound.runAll before
        rw [runAll_concat]
        exact ⟨horderly.step hbehind hbefore (hdrops before s hprefix),
          (hbehind.inStep_step_iff hbefore s).2 (horderly.not_undercuts s)⟩
  exact fun before hprefix => (hboth before hprefix).2

end Holding

/-- **When savepoints stay in step with the server.** Whatever is done by hand with the savepoints
of a transaction that is open on a database, and in whatever order: the savepoints that the
transaction counts are savepoints on the server's stack, in its order, as long as no savepoint is
released or rolled back to which the transaction has forgotten, which is still on the server, and
inside of which there is one that is counted. Such a step, and no other, leads out of step. No two
savepoints on the server ever have the same name. In particular all savepoints stay in step if none
is dropped while one that was opened after it is held. -/
theorem Transaction.savepoints_in_step_iff {S : Type} (dialect : Dialect) (engine : Engine S)
    (options : TransactionOptions) (store : S) (steps : List HandleStep) :
    let d := Database.driver dialect engine
    let behind := fun before => Holding.runAll d before (.begun d options (.idle store))
    ((∀ before, before <+: steps → (behind before).InStep) ↔
      ∀ before s, before ++ [s] <+: steps → ¬ (behind before).Undercuts s) ∧
    (∀ before, before <+: steps → (behind before).live.Nodup) ∧
    ((∀ before s, before ++ [s] <+: steps → (behind before).DropsLast s) →
      ∀ before, before <+: steps → (behind before).InStep) := by
  intro d behind
  have hshows : (Holding.begun d options (.idle store)).Shows [] [] [] 0 :=
    Holding.begun_shows dialect engine options store
  have hsound : (Holding.begun d options (.idle store)).Sound :=
    hshows.sound List.nodup_nil List.nodup_nil (by simp)
  have hin : (Holding.begun d options (.idle store)).InStep := hshows.inStep_iff.2 (.refl [])
  have horderly : (Holding.begun d options (.idle store)).Orderly :=
    hshows.orderly (.refl []) (List.forall_mem_nil _)
  refine ⟨hsound.forall_inStep_iff hin steps, ?_,
    fun hdrops => horderly.forall_inStep hsound hin hdrops⟩
  exact fun before _ => (hsound.runAll before).live_nodup

/-- A savepoint is dropped below one that is still held, a third one is opened, and the one that is
held is released. -/
def droppedBelow : List HandleStep :=
  [.savepoint, .savepoint, .drop "s1", .savepoint, .release "s2"]

/-- The third savepoint is counted, and has gone with the second one. -/
theorem droppedBelow_out_of_step :
    let d := Database.driver .plain .journal
    let g := Holding.runAll d droppedBelow (.begun d {} (.idle []))
    g.counted = ["s3"] ∧ g.live = ["s1"] ∧ ¬ g.InStep := by
  decide +kernel

end ParamSql
