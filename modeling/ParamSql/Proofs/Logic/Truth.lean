import ParamSql.Proofs.Logic.Formula

/-!
# Truth — formulas with three truth values

Null is compared as well, so that a condition is true, false or unknown:

* `Truth` — the truth values, with `Truth.and`, `Truth.or` and `Truth.not`;
* `Truth.conjunction`, `Truth.disjunction` — of any number of truth values;
* `Formula.value ρ f` — the value of a formula whose atoms have the values `ρ`;
* `Formula.prune f` — the formula without the groups that have no atoms.
-/

namespace ParamSql

/-- A truth value of a condition. -/
inductive Truth
  | no
  | unknown
  | yes
  deriving DecidableEq, Repr

namespace Truth

def and : Truth → Truth → Truth
  | .no, _ => .no
  | _, .no => .no
  | .yes, .yes => .yes
  | _, _ => .unknown

def or : Truth → Truth → Truth
  | .yes, _ => .yes
  | _, .yes => .yes
  | .no, .no => .no
  | _, _ => .unknown

def not : Truth → Truth
  | .no => .yes
  | .unknown => .unknown
  | .yes => .no

theorem and_assoc (u v w : Truth) : (u.and v).and w = u.and (v.and w) := by
  cases u <;> cases v <;> cases w <;> rfl

theorem or_assoc (u v w : Truth) : (u.or v).or w = u.or (v.or w) := by
  cases u <;> cases v <;> cases w <;> rfl

@[simp]
theorem yes_and (u : Truth) : yes.and u = u := by
  cases u <;> rfl

@[simp]
theorem and_yes (u : Truth) : u.and yes = u := by
  cases u <;> rfl

@[simp]
theorem no_and (u : Truth) : no.and u = no := rfl

@[simp]
theorem no_or (u : Truth) : no.or u = u := by
  cases u <;> rfl

@[simp]
theorem or_no (u : Truth) : u.or no = u := by
  cases u <;> rfl

@[simp]
theorem yes_or (u : Truth) : yes.or u = yes := rfl

@[simp]
theorem or_yes (u : Truth) : u.or yes = yes := by
  cases u <;> rfl

/-- Whether all of some conditions hold. -/
def conjunction (us : List Truth) : Truth :=
  us.foldr and yes

/-- Whether any of some conditions holds. -/
def disjunction (us : List Truth) : Truth :=
  us.foldr or no

@[simp]
theorem conjunction_nil : conjunction [] = yes := rfl

@[simp]
theorem conjunction_cons (u : Truth) (us : List Truth) :
    conjunction (u :: us) = u.and (conjunction us) := rfl

@[simp]
theorem disjunction_nil : disjunction [] = no := rfl

@[simp]
theorem disjunction_cons (u : Truth) (us : List Truth) :
    disjunction (u :: us) = u.or (disjunction us) := rfl

/-- Nothing but true conditions. -/
@[simp]
theorem conjunction_replicate_yes (n : Nat) : conjunction (List.replicate n yes) = yes := by
  induction n with
  | zero => rfl
  | succ n ih => rw [List.replicate_succ, conjunction_cons, ih, yes_and]

/-- Nothing but false conditions. -/
@[simp]
theorem disjunction_replicate_no (n : Nat) : disjunction (List.replicate n no) = no := by
  induction n with
  | zero => rfl
  | succ n ih => rw [List.replicate_succ, disjunction_cons, ih, no_or]

theorem disjunction_append (us vs : List Truth) :
    disjunction (us ++ vs) = (disjunction us).or (disjunction vs) := by
  induction us with
  | nil =>
      simp
  | cons u us ih =>
      simp [ih, or_assoc]

theorem disjunction_flatten (uss : List (List Truth)) :
    disjunction uss.flatten = disjunction (uss.map disjunction) := by
  -- the lists one after the other, since OR does not care how they are grouped
  induction uss with
  | nil => rfl
  | cons us uss ih =>
      simp [disjunction_append, ih]

end Truth

namespace Formula

variable {α β : Type}

mutual
/-- The value of a formula whose atoms have given values. -/
def value (ρ : α → Truth) : Formula α → Truth
  | .atom a => ρ a
  | .not f => (f.value ρ).not
  | .all fs => .conjunction (values ρ fs)
  | .any fs => .disjunction (values ρ fs)

/-- The values of formulas. -/
def values (ρ : α → Truth) : List (Formula α) → List Truth
  | [] => []
  | f :: fs => f.value ρ :: values ρ fs
end

@[simp]
theorem values_eq_map (ρ : α → Truth) (fs : List (Formula α)) :
    values ρ fs = fs.map (value ρ) := by
  induction fs with
  | nil => rfl
  | cons f fs ih =>
      simp [values, ih]

mutual
/-- The formula without the groups that have no atoms. -/
def prune : Formula α → Formula α
  | .atom a => .atom a
  | .not f => .not f.prune
  | .all fs => .all (pruneMembers fs)
  | .any fs => .any (pruneMembers fs)

/-- The members of a group that have atoms, without the groups in them that have none. -/
def pruneMembers : List (Formula α) → List (Formula α)
  | [] => []
  | f :: fs => if f.isEmpty then pruneMembers fs else f.prune :: pruneMembers fs
end

@[simp]
theorem pruneMembers_eq (fs : List (Formula α)) :
    pruneMembers fs = (written fs).map prune := by
  induction fs with
  | nil => rfl
  | cons f fs ih =>
      cases hf : f.isEmpty <;> simp [pruneMembers, written, hf, ih]

/-- The value of a conjunction is that of its members that have atoms. -/
theorem value_prune_all (ρ : α → Truth) (fs : List (Formula α)) :
    (all fs).prune.value ρ = .conjunction ((written fs).map fun f => f.prune.value ρ) := by
  simp [prune, value, Function.comp_def]

/-- The value of a disjunction is that of its members that have atoms. -/
theorem value_prune_any (ρ : α → Truth) (fs : List (Formula α)) :
    (any fs).prune.value ρ = .disjunction ((written fs).map fun f => f.prune.value ρ) := by
  simp [prune, value, Function.comp_def]

end Formula
end ParamSql
