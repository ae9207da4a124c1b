import ParamSql.Proofs.Number.Precision

/-!
# Misreading — the bits of a double, read as an integer

The bits of a double make an integer in two's complement, and it is not the number of the double,
unless that is zero.

* `Binary64.magnitude_double_place` — the number of a pattern, without a fraction;
* `Binary64.eq_zero_of_magnitude_eq`, `Binary64.magnitude_ne_complement` — no pattern but zero
  stands for itself, and none for its complement;
* `Binary64.eq_zero_of_value?_eq_bits` — only zero is read as what it is.
-/

namespace ParamSql
namespace Binary64

/-! ## Patterns that stand for themselves -/

/-- The number of a pattern whose exponent is none below zero is an integer, and the others become
one by a power of two. -/
theorem magnitude_double_place {k m : Nat} (hm : m < 2 * 2 ^ 52) (hk : k = 0 ∨ 2 ^ 52 ≤ m) :
    binary64.magnitude (k * 2 ^ 52 + m) * 2 ^ (1074 - k) = (m * 2 ^ (k - 1074) : Nat) := by
  have hplace : binary64.magnitude (k * 2 ^ 52 + m) = m * 2 ^ ((-1074 : Int) + k) :=
    BinaryFormat.magnitude_place (f := binary64) hm.le hk
  rw [hplace]
  -- the exponent of the unit is -1074, so the power of two is on one side or on the other
  rcases Nat.le_total k 1074 with hle | hge
  · have hexponent : (-1074 : Int) + k = -((1074 - k : Nat) : Int) := by omega
    rw [hexponent, Nat.sub_eq_zero_of_le hle, zpow_neg, zpow_natCast]
    push_cast
    field_simp
  · have hexponent : (-1074 : Int) + k = ((k - 1074 : Nat) : Int) := by omega
    rw [hexponent, Nat.sub_eq_zero_of_le hge, zpow_natCast]
    push_cast
    ring

/-- A number of units that is a multiple of a full significand. -/
theorem multiple_bounds {units unit m factor : Nat} (hfull : unit ≤ m) (hm : m < 2 * unit)
    (hfactor : 0 < factor) (h : units * unit = m * factor) :
    factor ≤ units ∧ units < 2 * factor := by
  have hunit : 0 < unit := by omega
  constructor
  · refine Nat.le_of_mul_le_mul_right ?_ hunit
    rw [h, Nat.mul_comm m]
    exact Nat.mul_le_mul_left factor hfull
  · refine Nat.lt_of_mul_lt_mul_right (a := unit) ?_
    calc
      units * unit = factor * m := by rw [h, Nat.mul_comm]
      _ < factor * (2 * unit) := Nat.mul_lt_mul_of_pos_left hm hfactor
      _ = 2 * factor * unit := by ring

/-- Powers of two that are less than twice each other are the same. -/
theorem exponent_eq {d e : Nat} (hd : 2 ^ d < 2 * 2 ^ e) (he : 2 ^ e < 2 * 2 ^ d) : e = d := by
  rw [← pow_succ', Nat.pow_lt_pow_iff_right (by decide)] at hd he
  omega

/-- No pattern but zero stands for itself: at each exponent but one, its number is too small or too
large, and at that one the significand would have to be a multiple of a third. -/
theorem eq_zero_of_magnitude_eq {p : Nat} (hp : p < binary64.infinity)
    (h : binary64.magnitude p = (p : ℚ)) : p = 0 := by
  rcases binary64.exists_place p with ⟨k, m, rfl, hm, hk⟩
  rw [show binary64.unit = 2 ^ 52 from rfl] at hm hk h hp ⊢
  rw [show binary64.infinity = 2047 * 2 ^ 52 from rfl] at hp
  have hsame : (k * 2 ^ 52 + m) * 2 ^ (1074 - k) = m * 2 ^ (k - 1074) := by
    have hplace := magnitude_double_place hm hk
    rw [h] at hplace
    exact_mod_cast hplace
  rcases Nat.lt_trichotomy k 1074 with hless | rfl | hgreater
  · -- the number is at most half of the pattern
    have hdouble : (k * 2 ^ 52 + m) * 2 ≤ (k * 2 ^ 52 + m) * 2 ^ (1074 - k) :=
      Nat.mul_le_mul_left _ (Nat.le_self_pow (by omega) 2)
    rw [hsame, Nat.sub_eq_zero_of_le hless.le, pow_zero, Nat.mul_one] at hdouble
    by_contra hne
    omega
  · omega
  · rw [Nat.sub_eq_zero_of_le hgreater.le, pow_zero, Nat.mul_one] at hsame
    have hpower : 2 ≤ 2 ^ (k - 1074) := Nat.le_self_pow (by omega) 2
    have hunits : k * 2 ^ 52 = m * (2 ^ (k - 1074) - 1) := by
      rw [Nat.mul_sub, ← hsame, Nat.mul_one, Nat.add_sub_cancel]
    rcases multiple_bounds (hk.resolve_left (by omega)) hm (by omega) hunits with ⟨hlow, hhigh⟩
    -- the exponent lies between the power and its double, which it does for one power only
    have hexponent : k - 1074 = 10 := exponent_eq (by omega) (by omega)
    -- there 1084 times the unit would be 1023 times the significand
    rw [hexponent, Nat.eq_add_of_sub_eq hgreater.le hexponent] at hsame
    exfalso
    omega

/-- No pattern stands for what is missing from it to the sign bit, for the same reasons. -/
theorem magnitude_ne_complement {p : Nat} (hp : p < binary64.infinity) :
    binary64.magnitude p ≠ ((2 ^ 63 - p : Nat) : ℚ) := by
  intro h
  rcases binary64.exists_place p with ⟨k, m, rfl, hm, hk⟩
  rw [show binary64.unit = 2 ^ 52 from rfl] at hm hk h hp
  rw [show binary64.infinity = 2047 * 2 ^ 52 from rfl] at hp
  have hsame : (2 ^ 63 - (k * 2 ^ 52 + m)) * 2 ^ (1074 - k) = m * 2 ^ (k - 1074) := by
    have hplace := magnitude_double_place hm hk
    rw [h] at hplace
    exact_mod_cast hplace
  rcases Nat.lt_or_ge 1074 k |>.symm with hle | hgreater
  · -- what is missing is more than a significand
    have hone : 2 ^ 63 - (k * 2 ^ 52 + m) ≤ (2 ^ 63 - (k * 2 ^ 52 + m)) * 2 ^ (1074 - k) :=
      Nat.le_mul_of_pos_right _ (Nat.two_pow_pos _)
    rw [hsame, Nat.sub_eq_zero_of_le hle, pow_zero, Nat.mul_one] at hone
    omega
  · rw [Nat.sub_eq_zero_of_le hgreater.le, pow_zero, Nat.mul_one] at hsame
    have hunits : (2048 - k) * 2 ^ 52 = m * (2 ^ (k - 1074) + 1) := by
      rw [Nat.mul_succ, ← hsame]
      omega
    rcases multiple_bounds (hk.resolve_left (by omega)) hm (Nat.succ_pos _) hunits
      with ⟨hlow, hhigh⟩
    -- what is missing falls as the power rises, so that again only one power is left
    have hlt : k - 1074 < 2 ^ (k - 1074) := Nat.lt_two_pow_self
    have hexponent : k - 1074 = 9 := exponent_eq (by omega) (by omega)
    rw [hexponent, Nat.eq_add_of_sub_eq hgreater.le hexponent] at hunits
    omega

/-! ## Two's complement -/

/-- The bits of no double but zero, read as an integer in two's complement, are the number that the
double stands for. -/
theorem eq_zero_of_value?_eq_bits {x : Binary64}
    (hx : x.value? = some (((x.bits.toNat : Int).bmod (2 ^ 64) : Int) : ℚ)) : x = ⟨0⟩ := by
  have hfinite : x.isFinite = true := isFinite_of_value? hx
  have hpattern : x.pattern < binary64.infinity := by simpa [isFinite] using hfinite
  have hlt := x.pattern_lt
  rw [value?, if_pos hfinite, Option.some.injEq, x.toNat_bits] at hx
  cases hsign : x.isNegative with
  | false =>
      rw [hsign] at hx
      have hbits : ((x.pattern : Int)).bmod (2 ^ 64) = x.pattern :=
        Int.bmod_eq_of_le (by omega) (by omega)
      simp only [Bool.false_eq_true, if_false, hbits, Int.cast_natCast] at hx
      have hzero : x.pattern = 0 := eq_zero_of_magnitude_eq hpattern hx
      exact eq_of_pattern hsign hzero
  | true =>
      rw [hsign] at hx
      have hbits : ((2 ^ 63 + x.pattern : Nat) : Int).bmod (2 ^ 64) =
          -((2 ^ 63 - x.pattern : Nat) : Int) := by
        have hwrapped : ((2 ^ 63 + x.pattern : Nat) : Int) - (2 ^ 64 : Nat) =
            -((2 ^ 63 - x.pattern : Nat) : Int) := by omega
        rw [← Int.sub_bmod_right, hwrapped]
        exact Int.bmod_eq_of_le (by omega) (by omega)
      simp only [if_true, hbits, Int.cast_neg, Int.cast_natCast, neg_inj] at hx
      exact absurd hx (magnitude_ne_complement hpattern)

end Binary64
end ParamSql
