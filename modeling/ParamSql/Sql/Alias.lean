/-!
# Alias — names for appended statements

Generated names are `q`, `q2`, `q3` and so on. A name that is in use is passed over.

- `Aliases`: the names in use, and how far the sequence has been used up.
- `Aliases.next`: the next name that is not in use.
-/

namespace ParamSql

/-- The names in use, and the index of the name that was generated last. -/
structure Aliases where
  last : Nat
  used : List String
  deriving Repr

namespace Aliases

def empty : Aliases := ⟨0, []⟩

/-- The name with an index, counted from 1. -/
def nameAt (index : Nat) : String :=
  if index = 1 then "q" else "q" ++ toString index

/-- Keeps a name from being generated. -/
def reserve (a : Aliases) (name : String) : Aliases :=
  { a with used := name :: a.used }

def isUsed (a : Aliases) (name : String) : Bool :=
  a.used.contains name

/-- The first index from `index` on whose name is not in use, if it is among the next `tries`, and
otherwise the one behind those. -/
def firstFree (used : List String) : Nat → Nat → Nat
  | 0, index => index
  | tries + 1, index =>
      if used.contains (nameAt index) then firstFree used tries (index + 1) else index

/-- The next name. Names in use are as many as there are, so that no more indices have to be
tried. -/
def next (a : Aliases) : String × Aliases :=
  let index := firstFree a.used a.used.length (a.last + 1)
  (nameAt index, ⟨index, nameAt index :: a.used⟩)

/-- The next `n` names. -/
def generate (a : Aliases) : Nat → List String
  | 0 => []
  | n + 1 => a.next.1 :: a.next.2.generate n

end Aliases
end ParamSql
