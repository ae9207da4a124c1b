import ParamSql.Proofs.Text.Characters
import ParamSql.Value.Cell

/-!
# Typed — elements of types, as values and back

An element of a type is bound as a value, and a value is read as an element of a type.  Absence is
null, whatever it is the absence of: an option inside of an option, or of arbitrary values, cannot
be told from what it is in.  There is nothing else that gets lost.

* `CellType.isDefinite` — no element of a type is bound as null;
* `CellType.isUnambiguous` — null stands for one thing only, wherever there is an option in a type;
* `CellType.readsBack_iff` — these are the types whose elements are read back;
* `Text.mapM_eq_error_iff` — the first item of a list that cannot be read decides;
* `CellType.values_read_back` — both in one.
-/

namespace ParamSql

/-! ## Lists -/

namespace Text

/-- What cannot be made of all members of a list fails for the first member that it cannot be made
of. -/
theorem mapM_eq_error_iff {ε α β : Type} {f : α → Except ε β} {as : List α} {e : ε} :
    as.mapM f = .error e ↔ ∃ before a behind, as = before ++ a :: behind ∧
      (∀ b ∈ before, ∃ c, f b = .ok c) ∧ f a = .error e := by
  constructor
  · intro h
    induction as with
    | nil => cases h
    | cons a as ih =>
        rw [List.mapM_cons] at h
        -- the first member decides if it fails, and otherwise the failure is behind it
        cases ha : f a with
        | error e' =>
            rw [ha] at h
            obtain rfl : e' = e := Except.error.inj h
            exact ⟨[], a, as, rfl, by simp, ha⟩
        | ok b =>
            rw [ha] at h
            cases has : as.mapM f with
            | ok bs =>
                rw [has] at h
                cases h
            | error e' =>
                rw [has] at h
                obtain rfl : e' = e := Except.error.inj h
                obtain ⟨before, a', behind, rfl, hbefore, ha'⟩ := ih has
                exact ⟨a :: before, a', behind, rfl,
                  List.forall_mem_cons.2 ⟨⟨b, ha⟩, hbefore⟩, ha'⟩
  · rintro ⟨before, a, behind, rfl, hbefore, ha⟩
    obtain ⟨bs, hbs⟩ := exists_mapM_iff.2 hbefore
    rw [List.mapM_append, hbs, List.mapM_cons, ha]
    rfl

end Text

namespace CellType

variable {t : CellType}

/-! ## Null -/

/-- No element of a type is bound as null. -/
def isDefinite : CellType → Bool
  | .any => false
  | .option _ => false
  | _ => true

theorem isDefinite_iff : t.isDefinite = true ↔ ∀ x, t.write x ≠ .null := by
  cases t with
  | any => exact ⟨nofun, fun h => absurd rfl (h Value.null)⟩
  | option t => exact ⟨nofun, fun h => absurd rfl (h none)⟩
  | bool | int64 | int32 | float | text | json | uuid | timestamp | list =>
      simp [isDefinite, write]

/-- Null stands for one thing only: what may be absent is no option itself, and no arbitrary
value. -/
def isUnambiguous : CellType → Bool
  | .option t => t.isDefinite && t.isUnambiguous
  | .list t => t.isUnambiguous
  | _ => true

/-! ## Reading back -/

/-- Each element of a type is read back from the value that it is bound as. -/
def ReadsBack (t : CellType) : Prop :=
  ∀ x, t.read (t.write x) = .ok x

theorem readsBack_int32 : int32.ReadsBack := by
  intro (n : Int32)
  have hlow : Int32.minValue.toInt ≤ n.toInt := n.minValue_le_toInt
  have hhigh : n.toInt ≤ Int32.maxValue.toInt := n.toInt_le
  change readInt32 (.int (Int32.toInt64 n)) = .ok n
  simp only [readInt32, readInt64, bind, Except.bind, Int32.toInt_toInt64, hlow, hhigh,
    decide_true, Bool.and_self, if_true, Int32.ofInt_toInt, pure, Except.pure]

theorem readsBack_list_iff : (list t).ReadsBack ↔ t.ReadsBack := by
  -- an item is read back by itself exactly if it is in a list
  have hlist : ∀ xs : List t.Denote, (list t).read ((list t).write xs) = .ok xs ↔
      ∀ x ∈ xs, t.read (t.write x) = .ok x := by
    intro xs
    change (xs.map t.write).mapM t.read = .ok xs ↔ _
    rw [Text.mapM_eq_ok_iff, List.forall₂_map_left_iff, List.forall₂_same]
  constructor
  · intro h x
    exact (hlist [x]).1 (h [x]) x List.mem_cons_self
  · intro h xs
    exact (hlist xs).2 fun x _ => h x

theorem read_option {v : Value} (h : v ≠ .null) : (option t).read v = (t.read v).map some := by
  cases v with
  | null => exact absurd rfl h
  | bool | int | float | text | bytes | json | uuid | timestamp | array => rfl

theorem readsBack_option_iff : (option t).ReadsBack ↔ t.isDefinite = true ∧ t.ReadsBack := by
  rw [isDefinite_iff]
  -- some element is read back exactly if it is in its own type, unless it is bound as null
  have hsome : ∀ x, t.write x ≠ .null →
      ((option t).read ((option t).write (some x)) = .ok (some x) ↔
        t.read (t.write x) = .ok x) := by
    intro x hx
    change (option t).read (t.write x) = .ok (some x) ↔ _
    rw [read_option hx]
    cases t.read (t.write x) with
    | error e => exact ⟨nofun, nofun⟩
    | ok y =>
        refine ⟨fun h => ?_, fun h => Except.ok.inj h ▸ rfl⟩
        exact congrArg Except.ok (Option.some.inj (Except.ok.inj h))
  constructor
  · intro h
    have hnull : ∀ x, t.write x ≠ .null := by
      intro x hx
      have hread : (option t).read (t.write x) = .ok (some x) := h (some x)
      rw [hx] at hread
      cases hread
    exact ⟨hnull, fun x => (hsome x (hnull x)).1 (h (some x))⟩
  · rintro ⟨hnull, h⟩ x
    cases x with
    | none => rfl
    | some x => exact (hsome x (hnull x)).2 (h x)

theorem readsBack_iff : t.ReadsBack ↔ t.isUnambiguous = true := by
  induction t with
  | any | bool | int64 | float | text | json | uuid | timestamp =>
      exact ⟨fun _ => rfl, fun _ _ => rfl⟩
  | int32 => exact ⟨fun _ => rfl, fun _ => readsBack_int32⟩
  | list t ih => exact readsBack_list_iff.trans ih
  | option t ih => rw [readsBack_option_iff, ih, isUnambiguous, Bool.and_eq_true]

/-- An element is read back from the value it is bound as in exactly those types in which no option
is directly in an option, or of arbitrary values; so it is in every list, at any depth, of what may
be absent.  A list is read exactly if each of its items is, and fails as the first item that is
not. -/
theorem values_read_back (t : CellType) :
    ((∀ x, t.read (t.write x) = .ok x) ↔ t.isUnambiguous = true) ∧
      (∀ vs xs, (list t).read (.array vs) = .ok xs ↔
        List.Forall₂ (fun v x => t.read v = .ok x) vs xs) ∧
      (∀ vs, (∃ xs, (list t).read (.array vs) = .ok xs) ↔ ∀ v ∈ vs, ∃ x, t.read v = .ok x) ∧
      ∀ vs fault, (list t).read (.array vs) = .error fault ↔
        ∃ before v behind, vs = before ++ v :: behind ∧ (∀ u ∈ before, ∃ x, t.read u = .ok x) ∧
          t.read v = .error fault := by
  refine ⟨readsBack_iff, ?readAs, ?reads, ?fails⟩
  case readAs => exact fun vs xs => Text.mapM_eq_ok_iff
  case reads => exact fun vs => Text.exists_mapM_iff
  case fails => exact fun vs fault => Text.mapM_eq_error_iff

example : isUnambiguous (.list (.list (.option (.list (.option .int32))))) = true := rfl

end CellType
end ParamSql
