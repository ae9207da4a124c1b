import ParamSql.Proofs.Sql.Outline

/-!
# Qualified — what is written for a column

A column is written behind the names that qualify it, with a dot behind each of them; its own name,
or a star, comes last.

* `Path.dotted` — the names of a path, ahead of what they qualify;
* `Columns.Qualifies` — the path that a reference is qualified by;
* `Columns.column_eq_ok`, `Columns.star_eq_ok` — the two forms of a reference.
-/

namespace ParamSql

/-! ## Qualifiers -/

namespace Path

/-- The names of a path, with a dot behind each of them. -/
def dotted (p : Path) : List Lexeme :=
  p.flatMap fun i => [.name i, .fixed "."]

theorem lexemes_dot {p : Path} (h : p ≠ []) : p.lexemes ++ [.fixed "."] = p.dotted := by
  unfold lexemes
  induction p with
  | nil => exact absurd rfl h
  | cons i p ih =>
      cases p with
      | nil => rfl
      | cons j p =>
          have hrest := ih (by simp)
          rw [List.map_cons, List.map_cons, List.intersperse_cons_cons, List.cons_append,
            List.cons_append, ← List.map_cons, hrest]
          rfl

/-- The names that qualify something are known from what is written. -/
theorem dotted_inj {p q : Path} (h : p.dotted = q.dotted) : p = q := by
  induction p generalizing q with
  | nil =>
      cases q with
      | nil => rfl
      | cons j q => simp [dotted] at h
  | cons i p ih =>
      cases q with
      | nil => simp [dotted] at h
      | cons j q =>
          obtain ⟨rfl, hrest⟩ : i = j ∧ dotted p = dotted q := by simpa [dotted] using h
          rw [ih hrest]

/-- The texts of a path are the parts of the text that it is read from. -/
theorem parts_of {s : String} {p : Path} (h : of s = .ok p) :
    p.map (·.text.toList) = Text.splitOn '.' s.toList := by
  have hparts := forall₂_parts h
  clear h
  generalize Text.splitOn '.' s.toList = parts at hparts
  induction hparts with
  | nil => rfl
  | cons hpart _ ih => rw [List.map_cons, ih, hpart, String.toList_ofList]

end Path

/-- A text names no table exactly if all of it is read as the column. -/
theorem ColumnRef.parse_name_eq_iff (s : String) : (parse s).name = s ↔ (parse s).table = none := by
  unfold parse
  split
  case h_1 table name hsplit =>
    split
    · simp
    · simp only [reduceCtorEq, iff_false]
      intro hname
      -- the part behind the dot is shorter than the whole
      have hlength := congrArg List.length (Text.eq_of_splitLast? hsplit)
      rw [← hname] at hlength
      simp at hlength
      omega
  case h_2 => simp

/-! ## References -/

namespace Columns

variable {cs : Columns} {r : ColumnRef} {ls : List Lexeme}

/-- A reference is qualified by its own table, or else by that of the statement. -/
def Qualifies (cs : Columns) (r : ColumnRef) (p : Path) : Prop :=
  match r.table.or cs.qualifier with
  | some table => Path.of table = .ok p
  | none => p = []

theorem qualified_eq_ok (h : (cs.reference r : Rendering (List Lexeme)).result = .ok ls) :
    ∃ p last, cs.Qualifies r p ∧ ls = p.dotted ++ last ∧
      (if r.isStar then .fixed "*" else cs.target r.name : Rendering _).result = .ok last := by
  unfold reference at h
  unfold Qualifies
  cases htable : r.table.or cs.qualifier with
  | none =>
      rw [htable] at h
      exact ⟨[], ls, rfl, rfl, h⟩
  | some table =>
      rw [htable] at h
      obtain ⟨front, last, hfront, hlast, rfl⟩ := Rendering.result_append_eq_ok h
      obtain ⟨path, dot, hpath, hdot, rfl⟩ := Rendering.result_append_eq_ok hfront
      obtain ⟨p, hp, rfl⟩ := Rendering.path_eq_ok hpath
      obtain rfl : [.fixed "."] = dot := Except.ok.inj hdot
      refine ⟨p, last, hp, ?_, hlast⟩
      rw [← Path.lexemes_dot (Path.ne_nil hp)]
      rfl

/-- A column is written under its physical name. -/
theorem column_eq_ok (hr : r.isStar = false)
    (h : (cs.reference r : Rendering (List Lexeme)).result = .ok ls) :
    ∃ p i, cs.Qualifies r p ∧ i.text = cs.naming.physical r.name ∧
      ls = p.dotted ++ [.name i] := by
  obtain ⟨p, last, hp, rfl, hlast⟩ := qualified_eq_ok h
  rw [hr] at hlast
  obtain ⟨i, hi, rfl⟩ := Rendering.name_eq_ok hlast
  exact ⟨p, i, hp, Identifier.text_of hi, rfl⟩

theorem star_eq_ok (hr : r.isStar = true)
    (h : (cs.reference r : Rendering (List Lexeme)).result = .ok ls) :
    ∃ p, cs.Qualifies r p ∧ ls = p.dotted ++ [.fixed "*"] := by
  obtain ⟨p, last, hp, rfl, hlast⟩ := qualified_eq_ok h
  rw [hr] at hlast
  obtain rfl : [.fixed "*"] = last := Except.ok.inj hlast
  exact ⟨p, hp, rfl⟩

end Columns
end ParamSql
