/-!
# Keyed — lists whose entries have a key

No two entries of such a list have one key. There are two ways to put an entry in the place of an
older one of its key.

- `Keyed.put`: the new entry takes the place of the older one.
- `Keyed.putLast`: the older entry is removed and the new one comes last.
- `Keyed.remove`, `Keyed.find?`: removal and look-up by key.
-/

namespace ParamSql
namespace Keyed

variable {α : Type} (key : α → String)

/-- Puts an entry in the place of the first one of its key, or last if there is none. -/
def put (a : α) : List α → List α
  | [] => [a]
  | b :: bs => if key b = key a then a :: bs else b :: put a bs

/-- The entries of other keys. -/
def remove (k : String) (entries : List α) : List α :=
  entries.filter fun b => key b ≠ k

/-- Puts an entry last, in the place of any other of its key. -/
def putLast (a : α) (entries : List α) : List α :=
  remove key (key a) entries ++ [a]

/-- The first entry of a key. -/
def find? (k : String) (entries : List α) : Option α :=
  entries.find? fun b => key b = k

end Keyed
end ParamSql
