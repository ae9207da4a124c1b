import Mathlib.Data.List.Induction
import ParamSql.Sql.Statement

/-!
# History — what becomes of the assignments to a record

A record is made by assignments one after another.  It keeps the last one to every column, in the
place of the first one, and an insertion lists the columns of its records where they come first.

* `Record.ofHistory`, `lastAssigned?` — the record of some assignments, and the last of them to a
  column;
* `Record.get?_ofHistory` — the record has the last value that is assigned to a column;
* `Record.columns_ofHistory` — it has every column once, in the order of their first assignments;
* `Clauses.recordColumns_ofHistory` — and so have the columns of an insertion.
-/

namespace ParamSql

/-! ## First appearances -/

section FirstAppearances

variable {α : Type} [BEq α] [LawfulBEq α]

theorem eraseDups_concat (as : List α) (a : α) :
    (as ++ [a]).eraseDups = if a ∈ as then as.eraseDups else as.eraseDups ++ [a] := by
  rw [List.eraseDups_append]
  by_cases ha : a ∈ as <;> simp [List.removeAll, ha, List.eraseDups_cons]

theorem nodup_eraseDups (as : List α) : as.eraseDups.Nodup := by
  -- from the left to the right, as the entries appear
  induction as using List.reverseRecOn with
  | nil => exact List.nodup_nil
  | append_singleton as a ih =>
      rw [eraseDups_concat]
      split
      · exact ih
      · rename_i ha
        exact List.nodup_append.2 ⟨ih, by simp, by grind [List.mem_eraseDups]⟩

/-- A repetition does not come to count by what stands around it. -/
theorem eraseDups_append_congr {as bs : List α} (h : as.eraseDups = bs.eraseDups) (cs : List α) :
    (as ++ cs).eraseDups = (bs ++ cs).eraseDups := by
  -- what has appeared in one of the two has appeared in the other
  have hmem : ∀ a, a ∈ as ↔ a ∈ bs := fun a => by
    rw [← List.mem_eraseDups, h, List.mem_eraseDups]
  have hrest : cs.removeAll as = cs.removeAll bs := by
    simp only [List.removeAll]
    exact List.filter_congr fun a _ => by simp [hmem]
  rw [List.eraseDups_append, List.eraseDups_append, h, hrest]

theorem eraseDups_eraseDups (as : List α) : as.eraseDups.eraseDups = as.eraseDups := by
  induction as using List.reverseRecOn with
  | nil => rfl
  | append_singleton as a ih =>
      rw [eraseDups_concat]
      split
      · exact ih
      · rename_i ha
        rw [eraseDups_concat, if_neg (by simpa using ha), ih]

theorem eraseDups_append_eraseDups (as bs : List α) :
    (as ++ bs.eraseDups).eraseDups = (as ++ bs).eraseDups := by
  induction bs using List.reverseRecOn with
  | nil => rfl
  | append_singleton bs b ih =>
      rw [eraseDups_concat, ← List.append_assoc, eraseDups_concat (as ++ bs)]
      -- an entry that has appeared already is left out on both sides
      by_cases hb : b ∈ bs
      · simp [hb, ih]
      · rw [if_neg hb, ← List.append_assoc, eraseDups_concat, ih]
        simp [hb]

theorem eraseDups_flatMap {β : Type} (f : β → List α) (bs : List β) :
    (bs.flatMap fun b => (f b).eraseDups).eraseDups = (bs.flatMap f).eraseDups := by
  induction bs with
  | nil => rfl
  | cons b bs ih =>
      calc ((f b).eraseDups ++ bs.flatMap fun b => (f b).eraseDups).eraseDups
          = (f b ++ bs.flatMap fun b => (f b).eraseDups).eraseDups :=
            eraseDups_append_congr (eraseDups_eraseDups _) _
        _ = (f b ++ (bs.flatMap fun b => (f b).eraseDups).eraseDups).eraseDups :=
            (eraseDups_append_eraseDups _ _).symm
        _ = (f b ++ bs.flatMap f).eraseDups := by rw [ih, eraseDups_append_eraseDups]

end FirstAppearances

/-! ## Records -/

namespace Keyed

variable {α : Type} (key : α → String)

theorem map_put (a : α) (entries : List α) :
    (put key a entries).map key =
      if key a ∈ entries.map key then entries.map key else entries.map key ++ [key a] := by
  induction entries with
  | nil => rfl
  | cons b entries ih =>
      unfold put
      -- the key is that of the first entry, or it has to be looked for behind it
      by_cases hb : key b = key a
      · simp [hb]
      · simp only [hb, if_false, List.map_cons, ih, List.mem_cons, Ne.symm hb, false_or]
        split <;> rfl

/-- An entry that is put is found, and so are those of the other keys. -/
theorem find?_put (a : α) (entries : List α) (k : String) :
    find? key k (put key a entries) = if key a = k then some a else find? key k entries := by
  induction entries with
  | nil => simp [put, find?, List.find?_singleton]
  | cons b entries ih =>
      simp only [find?] at ih ⊢
      by_cases hb : key b = key a
      · by_cases hk : key a = k <;> simp [put, hb, hk]
      · rw [put, if_neg hb, List.find?_cons, List.find?_cons, ih]
        by_cases hk : key b = k
        · simp [hk, show ¬ key a = k from fun h => hb (hk.trans h.symm)]
        · simp [hk]

end Keyed

variable {Q : Type}

/-- The last value that is assigned to a column. -/
def lastAssigned? (history : List (String × SetValue Q)) (column : String) : Option (SetValue Q) :=
  (history.reverse.find? (·.1 = column)).map Prod.snd

theorem lastAssigned?_concat (history : List (String × SetValue Q)) (a : String × SetValue Q)
    (column : String) :
    lastAssigned? (history ++ [a]) column =
      if a.1 = column then some a.2 else lastAssigned? history column := by
  by_cases ha : a.1 = column <;> simp [lastAssigned?, ha]

/-- A column without a last assignment has none at all. -/
theorem lastAssigned?_eq_none_iff {history : List (String × SetValue Q)} {column : String} :
    lastAssigned? history column = none ↔ column ∉ history.map Prod.fst := by
  simp [lastAssigned?, List.find?_eq_none]
  grind

namespace Record

/-- The record that is made by assignments one after another. -/
def ofHistory (history : List (String × SetValue Q)) : Record Q :=
  history.foldl (fun r a => r.assign a.1 a.2) empty

theorem ofHistory_concat (history : List (String × SetValue Q)) (a : String × SetValue Q) :
    ofHistory (history ++ [a]) = (ofHistory history).assign a.1 a.2 := by
  simp [ofHistory]

theorem columns_assign (r : Record Q) (column : String) (value : SetValue Q) :
    (r.assign column value).columns =
      if column ∈ r.columns then r.columns else r.columns ++ [column] :=
  Keyed.map_put Assignment.column ⟨column, value⟩ r.assignments

theorem get?_assign (r : Record Q) (column : String) (value : SetValue Q) (k : String) :
    (r.assign column value).get? k = if column = k then some value else r.get? k := by
  rw [get?, assign, Keyed.find?_put]
  by_cases hk : column = k <;> simp [hk, get?]

/-- A record has every column once, where it is assigned to first. -/
theorem columns_ofHistory (history : List (String × SetValue Q)) :
    (ofHistory history).columns = (history.map Prod.fst).eraseDups := by
  -- the last assignment is added to a record that has all the others
  induction history using List.reverseRecOn with
  | nil => rfl
  | append_singleton history a ih =>
      rw [ofHistory_concat, columns_assign, ih, List.map_append, List.map_singleton,
        eraseDups_concat]
      simp only [List.mem_eraseDups]

/-- A record has the last value that is assigned to a column. -/
theorem get?_ofHistory (history : List (String × SetValue Q)) (column : String) :
    (ofHistory history).get? column = lastAssigned? history column := by
  induction history using List.reverseRecOn with
  | nil => rfl
  | append_singleton history a ih =>
      rw [ofHistory_concat, get?_assign, ih, lastAssigned?_concat]

end Record

namespace Clauses

/-- The columns of an insertion are those of its records, each one where it comes first. -/
theorem recordColumns_eq (rs : List (Record Q)) :
    recordColumns rs = (rs.flatMap Record.columns).eraseDups := by
  unfold recordColumns
  -- columns are collected from the left to the right, like appearances
  induction rs.flatMap Record.columns using List.reverseRecOn with
  | nil => rfl
  | append_singleton columns c ih =>
      rw [List.foldl_append, ih, eraseDups_concat]
      simp only [List.foldl_cons, List.foldl_nil, List.mem_eraseDups]

theorem recordColumns_ofHistory (histories : List (List (String × SetValue Q))) :
    recordColumns (histories.map Record.ofHistory) =
      (histories.flatMap (List.map Prod.fst)).eraseDups := by
  rw [recordColumns_eq, List.flatMap_map]
  simp only [Record.columns_ofHistory]
  exact eraseDups_flatMap _ _

end Clauses
end ParamSql
