import ParamSql.Proofs.Sql.Rendered

/-!
# Agreement — one statement written to two outputs

What the functions that write statements make of one statement on two outputs is related whenever
the relation is respected by the few ways in which parts are made and put together.  An agreement is
such a relation.  It is simpler than a correspondence: the values are the same on both sides, and
names and values may stand next to anything.  A fragment of the caller may begin with anything, so
that a part that is `led` must stand behind a fixed text, and only a part that is `free` may stand
anywhere.

* `Agreement Q ω ω'` — a relation between renderings to `ω` and to `ω'`, graded by the list of the
  inner queries that stand in them, which all writers respect;
* `Agreement.correspondence` — it is a correspondence;
* `Agreement.statement`, `Agreement.chainOf`, `Agreement.rendered` — statements, chains and whole
  queries are related.
-/

namespace ParamSql

/-- A relation between what is written to two outputs, for parts in which the queries of a list
stand, and the names and fragments that it is about. -/
structure Agreement (Q ω ω' : Type) [Output ω] [Output ω'] where
  names : String → Prop
  fragments : Fragment → Prop
  free : List Q → Rendering ω → Rendering ω' → Prop
  led : List Q → Rendering ω → Rendering ω' → Prop
  -- what may stand anywhere may stand behind a fixed text
  led_of_free : ∀ {l x y}, free l x y → led l x y
  nothing : free [] .nothing .nothing
  fault : ∀ l f, free l (.fault f) (.fault f)
  -- a fixed text leads what stands behind it
  behind : ∀ {s l x y}, s ∈ vocabulary → led l x y → free l (.fixed s ++ x) (.fixed s ++ y)
  append : ∀ {l m x x' y y'}, free l x y → free m x' y' → free (l ++ m) (x ++ x') (y ++ y')
  led_append : ∀ {l m x x' y y'}, led l x y → free m x' y' → led (l ++ m) (x ++ x') (y ++ y')
  bind : ∀ v, free [] (.bind v) (.bind v)
  fragment : ∀ {f}, fragments f → led [] (.fragment f) (.fragment f)
  name : ∀ {s}, names s → free [] (.name s) (.name s)
  path : ∀ {s}, names s → free [] (.path s) (.path s)
  -- names are made from other names, which have to stay among those it is about
  physical : ∀ {s} (n : Naming), names s → names (n.physical s)
  qualified : ∀ {s t}, names s → names t → names (s ++ "." ++ t)
  parsed : ∀ {s}, names s → (∀ t ∈ (ColumnRef.parse s).table, names t) ∧
    names (ColumnRef.parse s).name

/-- Where a text may be anything, so may the parts of the reference that is read from it. -/
theorem ColumnRef.parsed_anything {s : String} :
    True → (∀ t ∈ (ColumnRef.parse s).table, True) ∧ True :=
  fun _ => ⟨fun _ _ => trivial, trivial⟩

namespace Agreement

variable {Q ω ω' : Type} [Output ω] [Output ω'] (A : Agreement Q ω ω')

/-- What the caller supplies is something that the relation is about; an inner query is written to
the two outputs by `ρ` and by `ρ'`. -/
def Admits (ρ : Q → Rendering ω) (ρ' : Q → Rendering ω') : Ingredient Q → Prop
  | .name s => A.names s
  | .fragment f => A.fragments f
  | .query q => A.free [q] (ρ q) (ρ' q)

/-- The names and fragments that the relation is about. -/
def Supports {ω ω' : Type} [Output ω] [Output ω'] (A : Agreement Query ω ω') :
    Ingredient Query → Prop
  | .name s => A.names s
  | .fragment f => A.fragments f
  | .query _ => True

variable [LawfulOutput ω] [LawfulOutput ω']

variable {A} in
theorem fixed {s : String} (hs : s ∈ vocabulary) : A.free [] (.fixed s) (.fixed s) := by
  -- a text is a text with nothing behind it
  simpa using A.behind hs (A.led_of_free A.nothing)

/-- An agreement is a correspondence in which nothing is exchanged, and in which what begins with a
text of its own is free. -/
def correspondence : Correspondence Q ω ω' where
  values := .same
  names := A.names
  paths := A.names
  fragments := A.fragments
  free := A.free
  begun := A.free
  led := A.led
  led_of_free := A.led_of_free
  led_of_begun := A.led_of_free
  nothing := A.nothing
  fault := A.fault
  begun_fault := A.fault
  append := A.append
  begun_append := A.append
  led_append := A.led_append
  starting hs h := A.behind (starters_subset hs) h
  opening hs h := A.behind (openers_subset hs) h
  closing hs := fixed (closers_subset hs)
  constant hs := A.led_of_free (fixed (constants_subset hs))
  bind v := A.led_of_free (A.bind v)
  bound hs _ := A.behind (bounds_subset hs) (A.led_of_free (A.bind _))
  fragment h := by simpa using A.fragment h
  name h := A.led_of_free (A.name h)
  physical n h := A.led_of_free (A.name (A.physical n h))
  path h := A.led_of_free (A.path h)
  column hs h := A.led_append (A.led_of_free (A.path hs)) (A.behind (by simp [vocabulary]) h)
  star hs := A.led_append (A.led_of_free (A.path hs)) (fixed (by simp [vocabulary]))
  path_of_name h := h
  qualified := A.qualified
  parsed := A.parsed

variable {A}

/-- A statement respects agreements, and its subqueries are the queries that stand in it. -/
theorem statement {c : Clauses Q} {ρ : Q → Rendering ω} {ρ' : Q → Rendering ω'}
    (h : ∀ i ∈ c.ingredients, A.Admits ρ ρ' i) (naming : Naming) (inCte : Bool) :
    A.free c.subqueries ((c.map ρ).statement naming inCte) ((c.map ρ').statement naming inCte) := by
  have hadmits : ∀ i ∈ c.ingredients, A.correspondence.Admits ρ ρ' i := by
    intro i hi
    cases i <;> exact h _ hi
  have hstatement := Correspondence.statement hadmits naming inCte
  rwa [correspondence, Clauses.revalue_same] at hstatement

/-- Chains are related if their statements are. -/
theorem chainOf (queries : Clauses Query → List Q) {write : Clauses Query → Rendering ω}
    {write' : Clauses Query → Rendering ω'} {q : Query}
    (halias : ∀ index, A.names (Aliases.nameAt index))
    (h : ∀ member ∈ q.namedMembers,
      A.free (queries member.2) (write member.2) (write' member.2)) :
    A.free (q.namedMembers.flatMap fun member => queries member.2) (q.chainOf write)
      (q.chainOf write') :=
  Correspondence.chainOf (C := A.correspondence) queries
    (fun index => A.led_of_free (A.name (halias index))) h

/-- Whole queries are related as soon as what they supply is supported. -/
theorem rendered {ω ω' : Type} [Output ω] [Output ω'] [LawfulOutput ω] [LawfulOutput ω']
    {A : Agreement Query ω ω'} (huniform : ∀ {l m x y}, A.free l x y → A.free m x y)
    (halias : ∀ index, A.names (Aliases.nameAt index)) (naming : Naming) {q : Query}
    (h : ∀ i, q.Supplies i → A.Supports i) :
    A.free [q] (q.rendered naming) (q.rendered naming) := by
  have hsupports : ∀ i, q.Supplies i → A.correspondence.Supports i := by
    intro i hi
    cases i <;> exact h _ hi
  exact Correspondence.rendered (C := A.correspondence) Query.exchanges_id huniform
    (fun index => A.led_of_free (A.name (halias index))) naming hsupports

end Agreement
end ParamSql
