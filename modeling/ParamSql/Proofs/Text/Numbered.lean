import Mathlib.Data.Nat.Digits.Defs
import ParamSql.Text.Split

/-!
# Numbered — names that end in a number

* `Text.eq_of_numbered` — names with one beginning tell their numbers.
-/

namespace ParamSql
namespace Text

theorem toList_numbered (beginning : String) (k : Nat) :
    (beginning ++ toString k).toList = beginning.toList ++ Nat.toDigits 10 k := by
  simp

/-- No two numbers have one name. -/
theorem eq_of_numbered {beginning : String} {i j : Nat}
    (h : beginning ++ toString i = beginning ++ toString j) : i = j := by
  have hdigits : Nat.toDigits 10 i = Nat.toDigits 10 j := by
    have hlist := congrArg String.toList h
    simpa only [toList_numbered, List.append_cancel_left_eq] using hlist
  calc
    i = Nat.ofDigitChars 10 (Nat.toDigits 10 i) 0 := by simp
    _ = Nat.ofDigitChars 10 (Nat.toDigits 10 j) 0 := by rw [hdigits]
    _ = j := by simp

end Text
end ParamSql
