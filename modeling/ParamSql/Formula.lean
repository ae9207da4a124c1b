/-!
# Formula — trees of AND, OR and NOT

A formula combines atoms of any type. Groups may be empty, and a group without atoms is no
condition at all: it is left out wherever the formula is written.

- `Formula`, `Formula.isEmpty`: the trees, and those without atoms.
- `Formula.marks`: a formula as a sequence of atoms, connectives and brackets. NOT binds more
  tightly than AND and AND more tightly than OR, so that a group needs brackets only inside a group
  of the other kind.
- `Formula.conjuncts`: the members of a conjunction.
-/

namespace ParamSql

/-- Atoms combined by AND, OR and NOT. -/
inductive Formula (α : Type)
  | atom (a : α)
  | not (f : Formula α)
  | all (fs : List (Formula α))
  | any (fs : List (Formula α))
  deriving Repr, Inhabited

/-- An atom, a connective or a bracket of a written formula. -/
inductive Mark (α : Type)
  | atom (a : α)
  | and
  | or
  | notOpen
  | opening
  | closing
  deriving Repr

namespace Formula

variable {α : Type}

/-! ## Empty formulas -/

mutual
/-- Whether a formula has no atoms. -/
def isEmpty : Formula α → Bool
  | .atom _ => false
  | .not f => f.isEmpty
  | .all fs => areEmpty fs
  | .any fs => areEmpty fs

/-- Whether no formula of a list has atoms. -/
def areEmpty : List (Formula α) → Bool
  | [] => true
  | f :: fs => f.isEmpty && areEmpty fs
end

/-! ## Written form -/

/-- Whether a formula is a disjunction, which has to stand in brackets inside a conjunction. -/
def isAny : Formula α → Bool
  | .any _ => true
  | _ => false

/-- Whether a formula is a conjunction, which is put in brackets inside a disjunction. -/
def isAll : Formula α → Bool
  | .all _ => true
  | _ => false

/-- Marks in brackets, if they need them. -/
def bracketed (needed : Bool) (marks : List (Mark α)) : List (Mark α) :=
  if needed then .opening :: marks ++ [.closing] else marks

mutual
/-- The formula as a sequence of marks. -/
def marks : Formula α → List (Mark α)
  | .atom a => [.atom a]
  | .not f => .notOpen :: f.marks ++ [.closing]
  | .all fs => [Mark.and].intercalate (conjuncts fs)
  | .any fs => [Mark.or].intercalate (disjuncts fs)

/-- The members of a conjunction that have atoms. -/
def conjuncts : List (Formula α) → List (List (Mark α))
  | [] => []
  | f :: fs => if f.isEmpty then conjuncts fs else bracketed f.isAny f.marks :: conjuncts fs

/-- The members of a disjunction that have atoms. -/
def disjuncts : List (Formula α) → List (List (Mark α))
  | [] => []
  | f :: fs => if f.isEmpty then disjuncts fs else bracketed f.isAll f.marks :: disjuncts fs
end

end Formula
end ParamSql
