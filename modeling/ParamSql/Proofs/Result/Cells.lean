import Mathlib.Data.List.Induction
import Mathlib.Data.List.Nodup
import ParamSql.Result.Reply

/-!
# Cells — the values of a row under a name

Several columns of a row may have one name, and there need not be as many values as columns.  A cell
is looked up under the first column of a name, whereas the object of a row keeps the last one.

* `Row.cells r column` — the values under a name, in order;
* `Row.get?_eq_head?`, `Row.member?_toJson` — the first of them is looked up, and the last one is in
  the object;
* `Row.Agrees` — both are the same in JSON;
* `Row.toJson_agrees_iff` — what the object of a row says of its cells, and what is read of either.
-/

namespace ParamSql

/-! ## Members of objects -/

/-- The values of some pairs under a key, in order. -/
def valuesUnder {α : Type} (key : String) (pairs : List (String × α)) : List α :=
  (pairs.filter fun pair => pair.1 = key).map Prod.snd

namespace Json

theorem lookup_cons_eq_ite (member : String × Json) (members : List (String × Json))
    (key : String) :
    (member :: members).lookup key =
      if key = member.1 then some member.2 else members.lookup key := by
  rcases member with ⟨key', value⟩
  rw [List.lookup_cons]
  by_cases hkey : key = key'
  · simp [hkey]
  · simp [hkey, beq_eq_false_iff_ne.2 hkey]

/-- A member that is put is found, and so are those of the other keys. -/
theorem lookup_insert (key : String) (value : Json) (members : List (String × Json)) (k : String) :
    (insert key value members).lookup k = if k = key then some value else members.lookup k := by
  induction members with
  | nil => rw [insert, lookup_cons_eq_ite]
  | cons member members ih =>
      rcases member with ⟨key', value'⟩
      unfold insert
      split
      · rw [lookup_cons_eq_ite]
      · split
        · -- the older member of the key is replaced
          rename_i hkey
          subst hkey
          simp only [lookup_cons_eq_ite]
          split <;> rfl
        · rename_i hkey
          simp only [lookup_cons_eq_ite, ih]
          by_cases hk : k = key'
          · rw [if_pos hk, if_pos hk, if_neg fun h => hkey (h.symm.trans hk)]
          · rw [if_neg hk, if_neg hk]

/-- Of the members with one key the last is kept. -/
theorem member?_ofMembers (members : List (String × Json)) (key : String) :
    (ofMembers members).member? key = (valuesUnder key members).getLast? := by
  -- from the left to the right, as the members are put
  induction members using List.reverseRecOn with
  | nil => rfl
  | append_singleton members member ih =>
      simp only [ofMembers, member?, List.foldl_append, List.foldl_cons, List.foldl_nil] at ih ⊢
      rw [lookup_insert, ih]
      by_cases hkey : key = member.1
      · simp [valuesUnder, hkey]
      · simp [valuesUnder, hkey, Ne.symm hkey]

end Json

/-! ## Cells -/

namespace Row

variable {r : Row} {column : String}

/-- The values under a name, in order. A column without a value has no cell, nor has a value without
a column. -/
def cells (r : Row) (column : String) : List Value :=
  valuesUnder column (r.columns.zip r.values)

/-- The first cell is the one that is looked up. -/
theorem get?_eq_head? (r : Row) (column : String) : r.get? column = (r.cells column).head? := by
  rcases r with ⟨columns, values⟩
  simp only [get?, cells]
  induction columns generalizing values with
  | nil => simp [valuesUnder]
  | cons c columns ih =>
      -- the first column has the name, or the rest of the row decides, as far as there are values
      rw [List.idxOf?_cons]
      by_cases hc : c = column
      · cases values <;> simp [valuesUnder, hc]
      · cases values with
        | nil => simp [valuesUnder]
        | cons v values =>
            have hrest := ih values
            simp only [List.zip_cons_cons, valuesUnder, List.filter_cons, hc, decide_false,
              if_false, Bool.false_eq_true, beq_iff_eq] at hrest ⊢
            rw [← hrest]
            cases List.idxOf? column columns <;> simp

/-- The last cell is the one in the object. -/
theorem member?_toJson (r : Row) (column : String) :
    r.toJson.member? column = ((r.cells column).getLast?).map Value.toJson := by
  rw [toJson, Json.member?_ofMembers, cells]
  simp only [valuesUnder, List.filter_map, List.map_map, ← List.getLast?_map]
  rfl

/-- The first cell under a name and the last one are the same in JSON. -/
def Agrees (r : Row) (column : String) : Prop :=
  ∀ first last, (r.cells column).head? = some first → (r.cells column).getLast? = some last →
    last.toJson = first.toJson

theorem member?_toJson_eq_iff :
    r.toJson.member? column = (r.get? column).map Value.toJson ↔ r.Agrees column := by
  rw [member?_toJson, get?_eq_head?, Agrees]
  cases hcells : r.cells column with
  | nil => simp
  | cons v vs => simp [List.getLast?_cons]

theorem cells_eq_nil (h : column ∉ r.columns) : r.cells column = [] := by
  rw [cells, valuesUnder, List.map_eq_nil_iff, List.filter_eq_nil_iff]
  rintro ⟨c, v⟩ hcell hc
  obtain rfl : c = column := of_decide_eq_true hc
  exact h (List.of_mem_zip hcell).1

/-- A name that no two columns share has one cell at most. -/
theorem length_cells_le (h : r.columns.Nodup) (column : String) : (r.cells column).length ≤ 1 := by
  rcases r with ⟨columns, values⟩
  -- the name of the first column comes back in none of the others
  induction columns generalizing values with
  | nil => simp [cells, valuesUnder]
  | cons c columns ih =>
      rcases List.nodup_cons.1 h with ⟨hnew, hrest⟩
      cases values with
      | nil => simp [cells, valuesUnder]
      | cons v values =>
          by_cases hc : c = column
          · have hnone : cells ⟨columns, values⟩ column = [] := cells_eq_nil (hc ▸ hnew)
            simp only [cells, valuesUnder] at hnone
            simp [cells, valuesUnder, hc, hnone]
          · have hcells := ih values hrest
            simpa [cells, valuesUnder, hc] using hcells

theorem agrees_of_nodup (h : r.columns.Nodup) (column : String) : r.Agrees column := by
  intro first last hfirst hlast
  have hlength := length_cells_le h column
  -- with no cell or one, the first and the last cannot be different
  match hcells : r.cells column with
  | [] =>
      rw [hcells] at hfirst
      cases hfirst
  | [v] =>
      rw [hcells] at hfirst hlast
      cases hfirst
      cases hlast
      rfl
  | _ :: _ :: _ =>
      rw [hcells] at hlength
      simp at hlength

/-! ## What is read of a row -/

/-- A user is read of the last cells under two names. -/
theorem readUser_eq_ok_iff {u : User} :
    r.readUser = .ok u ↔
      (((r.cells "id").getLast?.map Value.toJson).bind int64? = some u.id ∧
        text? ((r.cells "name").getLast?.map Value.toJson) = some u.name) := by
  unfold readUser
  simp only [member?_toJson]
  rcases u with ⟨id, name⟩
  split
  · rename_i hid hname
    simp [hid, hname]
  · rename_i hnone
    simp only [reduceCtorEq, false_iff]
    rintro ⟨hid, hname⟩
    exact hnone _ _ hid hname

/-- **What the object of a row says of its cells.** The object has a member for just those names
under which a cell is looked up. The member is the JSON form of that cell just if the last cell
under the name is the same in JSON as the first one, and so always if no two columns have one name.
Typed access reads the first cell; a record that is read of the object, and the objects that a query
is fetched as, have the last one. -/
theorem toJson_agrees_iff (r : Row) :
    (∀ column,
      ((r.toJson.member? column).isSome ↔ (r.get? column).isSome) ∧
      (r.toJson.member? column = (r.get? column).map Value.toJson ↔ r.Agrees column) ∧
      r.get? column = (r.cells column).head? ∧
      r.toJson.member? column = (r.cells column).getLast?.map Value.toJson ∧
      ∀ t, r.read column t =
        match (r.cells column).head? with
        | some v => (t.read v).mapError (.decode column)
        | none => .error (.decode column .noSuchColumn)) ∧
    (r.columns.Nodup → ∀ column, r.Agrees column) ∧
    (∀ u, r.readUser = .ok u ↔
      (((r.cells "id").getLast?.map Value.toJson).bind int64? = some u.id ∧
        text? ((r.cells "name").getLast?.map Value.toJson) = some u.name)) ∧
    ∀ (rest : List Row) (count : Nat) (shape : Shape),
      (Reply.mk (r :: rest) count).readAs shape .oneJson = .ok (.object r.toJson) ∧
      (Reply.mk (r :: rest) count).readAs shape .allJson =
        .ok (.objects (r.toJson :: rest.map Row.toJson)) := by
  refine ⟨fun column => ⟨?_, member?_toJson_eq_iff, r.get?_eq_head? column,
      r.member?_toJson column, ?_⟩,
    agrees_of_nodup, fun u => readUser_eq_ok_iff, fun rest count shape => ⟨rfl, rfl⟩⟩
  · rw [member?_toJson, get?_eq_head?]
    cases r.cells column <;> simp
  · intro t
    cases hcell : (r.cells column).head? <;> simp [read, get?_eq_head?, hcell]

theorem toJson_agrees_iff_order :
    let order := Row.ofPairs [("id", .int 1), ("total", .int 20)]
    order.columns.Nodup ∧ order.toJson.member? "total" = (order.get? "total").map Value.toJson := by
  intro order
  have hnames : order.columns.Nodup := by decide
  rcases toJson_agrees_iff order with ⟨hcells, hagrees, -⟩
  exact ⟨hnames, (hcells "total").2.1.2 (hagrees hnames "total")⟩

/-- An order joined with its customer: both have an identifier. -/
def orderWithCustomer : Row :=
  .ofPairs [("id", .int 1), ("total", .int 20), ("id", .int 2)]

/-- The identifier of the order is looked up, and that of the customer is in the object. -/
theorem orderWithCustomer_disagrees :
    orderWithCustomer.get? "id" = some (.int 1) ∧
      orderWithCustomer.toJson.member? "id" = some (.int 2) ∧
      ¬ ∀ (r : Row) (column : String),
        r.toJson.member? column = (r.get? column).map Value.toJson := by
  have hfirst : orderWithCustomer.get? "id" = some (.int 1) := rfl
  have hlast : orderWithCustomer.toJson.member? "id" = some (.int 2) := rfl
  refine ⟨hfirst, hlast, fun h => ?_⟩
  have hsame := h orderWithCustomer "id"
  rw [hfirst, hlast] at hsame
  simp [Value.toJson] at hsame

end Row
end ParamSql
