import ParamSql.Proofs.Sql.Rendered
import ParamSql.Query.Rows
import ParamSql.Query.Table

/-!
# Values — nothing but the parameters depends on the values

The functions that write statements never look at a value.  If all values that a query binds are
exchanged for others, the same text is compiled, or the same fault is reported, and the parameters
are exchanged place by place:

* `Revaluation.at` — what becomes of a parameter, which may be a number of rows;
* `Lexeme.revalue` — lexemes with other values, where the value behind LIMIT or OFFSET is a number
  of rows;
* `Correspondence.exchanging` — statements with other values are written with other values;
* `Query.compile_revalue` — so are whole queries.
-/

namespace ParamSql

/-- What a parameter is exchanged for. -/
def Revaluation.at (r : Revaluation) : Bool → Value → Value
  | true, .int n => .int (r.count n)
  | _, v => r.value v

/-! ## Lexemes -/

namespace Lexeme

variable {r : Revaluation}

/-- Whether a number of rows stands behind a lexeme. -/
def counts : Lexeme → Bool
  | .fixed s => bounds.contains s
  | _ => false

/-- Whether a number of rows stands behind some lexemes; if there are none, they do not matter. -/
def countsBehind (ahead : Bool) (ls : List Lexeme) : Bool :=
  ls.foldl (fun _ l => l.counts) ahead

/-- The lexemes with other values; the first one may be a number of rows. -/
def revalue (r : Revaluation) : Bool → List Lexeme → List Lexeme
  | _, [] => []
  | counted, .bind v :: ls => .bind (r.at counted v) :: revalue r false ls
  | _, l :: ls => l :: revalue r l.counts ls

/-- Which of the values of some lexemes are numbers of rows. -/
def counted : Bool → List Lexeme → List Bool
  | _, [] => []
  | isCount, .bind _ :: ls => isCount :: counted false ls
  | _, l :: ls => counted l.counts ls

theorem revalue_append (r : Revaluation) (ahead : Bool) (ls ms : List Lexeme) :
    revalue r ahead (ls ++ ms) = revalue r ahead ls ++ revalue r (countsBehind ahead ls) ms := by
  induction ls generalizing ahead with
  | nil => rfl
  | cons l ls ih => cases l <;> exact congrArg (_ :: ·) (ih _)

theorem countsBehind_append (ahead : Bool) (ls ms : List Lexeme) :
    countsBehind ahead (ls ++ ms) = countsBehind (countsBehind ahead ls) ms :=
  List.foldl_append ..

/-- Lexemes that neither bind values nor announce them stay as they are. -/
theorem revalue_of_quiet {ls : List Lexeme} (h : ∀ l ∈ ls, l.counts = false ∧ ∀ v, l ≠ .bind v) :
    revalue r false ls = ls ∧ countsBehind false ls = false := by
  induction ls with
  | nil => exact ⟨rfl, rfl⟩
  | cons l ls ih =>
      obtain ⟨⟨hcounts, hbind⟩, hrest⟩ := List.forall_mem_cons.1 h
      rcases ih hrest with ⟨hrevalue, hbehind⟩
      have hsplit : revalue r false (l :: ls) = l :: revalue r l.counts ls := by
        cases l with
        | bind v => exact absurd rfl (hbind v)
        | _ => rfl
      rw [hsplit, hcounts, hrevalue]
      refine ⟨rfl, ?_⟩
      rwa [countsBehind, List.foldl_cons, hcounts]

/-- The values of a fragment are no numbers of rows. -/
theorem revalue_pieces (r : Revaluation) (ps : List Piece) :
    revalue r false (ps.map ofPiece) = (ps.map (Piece.revalue r)).map ofPiece ∧
      countsBehind false (ps.map ofPiece) = false := by
  induction ps with
  | nil => exact ⟨rfl, rfl⟩
  | cons p ps ih => cases p <;> exact ⟨congrArg (_ :: ·) ih.1, ih.2⟩

/-- The text has no part in the exchange. -/
theorem text_revalue (r : Revaluation) (ls : List Lexeme) :
    text (revalue r false ls) = text ls := by
  -- for any text that has been written before, since a lexeme is written behind it
  have hwritten : ∀ (ahead : Bool) (done : String × Nat) (ls : List Lexeme),
      ((revalue r ahead ls).map piece).foldl Piece.writeAfter done =
        (ls.map piece).foldl Piece.writeAfter done := by
    intro ahead done ls
    induction ls generalizing ahead done with
    | nil => rfl
    | cons l ls ih => cases l <;> exact ih _ _
  exact congrArg Prod.fst (hwritten false ("", 0) ls)

theorem length_counted (ahead : Bool) (ls : List Lexeme) :
    (counted ahead ls).length = (params ls).length := by
  induction ls generalizing ahead with
  | nil => rfl
  | cons l ls ih =>
      cases l with
      | bind v => exact congrArg (· + 1) (ih _)
      | _ => exact ih _

/-- The parameters are exchanged place by place. -/
theorem params_revalue (r : Revaluation) (ahead : Bool) (ls : List Lexeme) :
    params (revalue r ahead ls) = List.zipWith r.at (counted ahead ls) (params ls) := by
  induction ls generalizing ahead with
  | nil => rfl
  | cons l ls ih =>
      cases l with
      | bind v => exact congrArg (r.at ahead v :: ·) (ih _)
      | _ => exact ih _

end Lexeme

/-! ## Renderings -/

namespace Rendering

/-- The second rendering is the first one with other values, and nothing behind it is a number of
rows. -/
structure Exchanged (r : Revaluation) (x y : Rendering (List Lexeme)) : Prop where
  result : y.result = x.result.map (Lexeme.revalue r false)
  settled : ∀ ls, x.result = .ok ls → Lexeme.countsBehind false ls = false

variable {r : Revaluation} {x x' y y' : Rendering (List Lexeme)}

theorem Exchanged.lexemes {ls ms : List Lexeme}
    (h : Lexeme.revalue r false ls = ms ∧ Lexeme.countsBehind false ls = false) :
    Exchanged r (.lexemes ls) (.lexemes ms) where
  result := by
    rw [result_lexemes, result_lexemes, ofLexemes_self, ofLexemes_self, ← h.1]
    rfl
  settled ls' hls' := by
    rw [result_lexemes, ofLexemes_self] at hls'
    cases hls'
    exact h.2

theorem Exchanged.fault (f : CompileFault) : Exchanged r (.fault f) (.fault f) where
  result := rfl
  settled ls h := by cases h

theorem Exchanged.append (h : Exchanged r x y) (h' : Exchanged r x' y') :
    Exchanged r (x ++ x') (y ++ y') where
  result := by
    -- the first fault is the same, because both parts fail together with theirs
    cases hx : x.result with
    | error f =>
        have hy : y.result = .error f := by rw [h.result, hx]; rfl
        rw [result_append_error _ hx, result_append_error _ hy]
        rfl
    | ok ls =>
        have hy : y.result = .ok (Lexeme.revalue r false ls) := by rw [h.result, hx]; rfl
        cases hx' : x'.result with
        | error f =>
            have hy' : y'.result = .error f := by rw [h'.result, hx']; rfl
            rw [result_append_ok_error hx hx', result_append_ok_error hy hy']
            rfl
        | ok ms =>
            have hy' : y'.result = .ok (Lexeme.revalue r false ms) := by rw [h'.result, hx']; rfl
            rw [result_append_ok hx hx', result_append_ok hy hy']
            -- the second part does not stand behind LIMIT or OFFSET
            have hsplit := Lexeme.revalue_append r false ls ms
            rw [h.settled ls hx] at hsplit
            exact congrArg Except.ok hsplit.symm
  settled ls hls := by
    rcases result_append_eq_ok hls with ⟨before, behind, hbefore, hbehind, rfl⟩
    calc
      Lexeme.countsBehind false (before ++ behind)
          = Lexeme.countsBehind (Lexeme.countsBehind false before) behind :=
            Lexeme.countsBehind_append ..
      _ = Lexeme.countsBehind false behind := by rw [h.settled before hbefore]
      _ = false := h'.settled behind hbehind

theorem Exchanged.fixed {s : String} (hs : bounds.contains s = false) :
    Exchanged r (.fixed s) (.fixed s) :=
  .lexemes (Lexeme.revalue_of_quiet (by simpa [Lexeme.counts] using hs))

theorem Exchanged.name (s : String) : Exchanged r (.name s) (.name s) := by
  unfold Rendering.name
  cases Identifier.of s with
  | error f => exact .fault _
  | ok i => exact .lexemes (Lexeme.revalue_of_quiet (by simp [Lexeme.counts]))

theorem Exchanged.path (s : String) : Exchanged r (.path s) (.path s) := by
  unfold Rendering.path
  cases Path.of s with
  | error f => exact .fault _
  | ok p =>
      have hdot : bounds.contains "." = false := by decide +kernel
      exact .lexemes (Lexeme.revalue_of_quiet
        (Path.forall_mem_lexemes ⟨hdot, nofun⟩ fun _ _ => ⟨rfl, nofun⟩))

end Rendering

/-! ## Statements -/

theorem bounds_disjoint :
    ∀ s ∈ starters ++ openers ++ closers ++ constants ++ [".", ".*"],
      bounds.contains s = false := by
  decide +kernel

/-- Statements with other values are written with other values. -/
def Correspondence.exchanging (r : Revaluation) :
    Correspondence Query (List Lexeme) (List Lexeme) where
  values := r
  names _ := True
  paths _ := True
  fragments _ := True
  free _ := Rendering.Exchanged r
  begun _ := Rendering.Exchanged r
  led _ := Rendering.Exchanged r
  led_of_free h := h
  led_of_begun h := h
  nothing := .lexemes ⟨rfl, rfl⟩
  fault _ := .fault
  begun_fault _ := .fault
  append := .append
  begun_append := .append
  led_append := .append
  starting hs h := .append (.fixed (bounds_disjoint _ (by simp [hs]))) h
  opening hs h := .append (.fixed (bounds_disjoint _ (by simp [hs]))) h
  closing hs := .fixed (bounds_disjoint _ (by simp [hs]))
  constant hs := .fixed (bounds_disjoint _ (by simp [hs]))
  bind v := .lexemes ⟨rfl, rfl⟩
  bound {s} hs n := by
    have hcounts : Lexeme.counts (.fixed s) = true := List.contains_iff_mem.2 hs
    have hvalues : Lexeme.revalue r false [.fixed s, .bind (.int n)] =
        [.fixed s, .bind (.int (r.count n))] := by
      simp [Lexeme.revalue, hcounts, Revaluation.at]
    exact .lexemes ⟨hvalues, rfl⟩
  fragment {f} _ := by
    rw [Rendering.fragment, Rendering.fragment, f.pieces_revalue]
    exact .lexemes (Lexeme.revalue_pieces r _)
  name _ := .name _
  physical _ _ := .name _
  path _ := .path _
  column _ h := .append (.path _) (.append (.fixed (bounds_disjoint _ (by simp))) h)
  star _ := .append (.path _) (.fixed (bounds_disjoint _ (by simp)))
  path_of_name h := h
  qualified _ _ := trivial
  parsed _ := ⟨fun _ _ => trivial, trivial⟩

namespace Query

theorem isGuarded_revalue (r : Revaluation) (q : Query) :
    (q.revalue r).isGuarded = q.isGuarded := by
  simp [isGuarded, (exchanges_revalue r).dependents, Function.comp_def]

theorem compile_of_error {q : Query} {options : CompileOptions} {f : CompileFault}
    (h : (q.rendered options.naming : Rendering (List Lexeme)).result = .error f) :
    q.compile options = .error f := by
  rw [compile, h]
  rfl

theorem compile_of_ok {q : Query} {options : CompileOptions} {ls : List Lexeme}
    (h : (q.rendered options.naming : Rendering (List Lexeme)).result = .ok ls) :
    q.compile options =
      if (Lexeme.params ls).length ≤ options.maxParams then
        .ok ⟨Lexeme.text ls, Lexeme.params ls, q.isGuarded⟩
      else .error (.tooManyParams (Lexeme.params ls).length options.maxParams) := by
  rw [compile, h]
  rfl

/-- What is compiled does not depend on the values.  With other values everywhere in the query, the
same fault is reported, or the same text is compiled and the parameters are exchanged place by
place; which of them are numbers of rows depends on the query alone. -/
theorem compile_revalue (q : Query) (options : CompileOptions) :
    ∃ counted : List Bool,
      (∀ compiled, q.compile options = .ok compiled → counted.length = compiled.params.length) ∧
      ∀ r : Revaluation, (q.revalue r).compile options =
        (q.compile options).map fun compiled =>
          { compiled with params := List.zipWith r.at counted compiled.params } := by
  -- the same statements correspond, in which only values are exchanged
  have hrendered (r : Revaluation) :
      ((q.revalue r).rendered options.naming : Rendering (List Lexeme)).result =
        (q.rendered options.naming).result.map (Lexeme.revalue r false) :=
    ((Correspondence.exchanging r).rendered (exchanges_revalue r) (fun h => h) (fun _ => .name _)
      options.naming fun i _ => by cases i <;> trivial).result
  cases hresult : (q.rendered options.naming : Rendering (List Lexeme)).result with
  | error f =>
      have hfault := compile_of_error hresult
      refine ⟨[], fun compiled h => ?_, fun r => ?_⟩
      · rw [hfault] at h
        cases h
      · have hother := hrendered r
        rw [hresult] at hother
        rw [hfault, compile_of_error hother]
        rfl
  | ok ls =>
      have hcompile := compile_of_ok hresult
      refine ⟨Lexeme.counted false ls, fun compiled h => ?_, fun r => ?_⟩
      · rw [hcompile] at h
        split at h
        · cases h
          exact Lexeme.length_counted false ls
        · cases h
      · have hother := hrendered r
        rw [hresult] at hother
        have hlength : (Lexeme.params (Lexeme.revalue r false ls)).length =
            (Lexeme.params ls).length := by
          rw [Lexeme.params_revalue, List.length_zipWith, Lexeme.length_counted, Nat.min_self]
        -- as many values are bound, so that the limit is exceeded by both or by none
        rw [hcompile, compile_of_ok hother, hlength]
        split
        · rw [Lexeme.text_revalue, Lexeme.params_revalue, isGuarded_revalue]
          rfl
        · rfl

/-- Orders of a customer, at most some, with placeholders in the condition, in a fragment and behind
LIMIT. -/
def recentOrders (customer since : Value) (most : Int64) : Query :=
  (((Table.named "order").query.filter (Condition.compare "customer" .eq (.value customer))).filter
    (.atom (.fragment ((Fragment.ofText "at > ").bind since)))).limit most

example : (recentOrders (.text "ann") (.int 7) 3).revalue ⟨fun _ => .null, fun n => n + 1⟩ =
    recentOrders .null .null 4 := rfl

end Query
end ParamSql
