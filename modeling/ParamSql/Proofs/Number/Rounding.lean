import Mathlib.Algebra.Order.Field.Power
import Mathlib.Algebra.Order.Field.Rat
import Mathlib.Order.Monotone.Basic
import Mathlib.Tactic.FieldSimp
import Mathlib.Tactic.Linarith
import Mathlib.Tactic.Positivity
import Mathlib.Tactic.Ring
import ParamSql.Number.Binary

/-!
# Rounding — the pattern nearest to a quotient

The patterns of a format are in the order of the numbers that they stand for. What rounding finds is
a pattern whose number is nearest; so a number that has a pattern is not changed by it.

* `BinaryFormat.magnitude` — the number that an unsigned pattern stands for;
* `BinaryFormat.magnitude_strictMono` — a greater pattern stands for a greater number;
* `roundHalfEven_nearest`, `BinaryFormat.exponentFor_spec` — the two steps of rounding;
* `BinaryFormat.round_nearest`, `BinaryFormat.round_magnitude` — what is rounded is nearest, and
  what can be written is not changed.
-/

namespace ParamSql
namespace BinaryFormat

variable {f : BinaryFormat}

/-! ## The numbers of patterns -/

/-- The number that an unsigned pattern stands for. The pattern of infinity stands for the number
behind the greatest finite one, with the same distance from it as the one before. -/
def magnitude (f : BinaryFormat) (pattern : Nat) : ℚ :=
  (f.parts pattern).1 * 2 ^ (f.parts pattern).2

/-- The least significand with the full precision. -/
def unit (f : BinaryFormat) : Nat :=
  2 ^ (f.precision - 1)

theorem unit_pos (f : BinaryFormat) : 0 < f.unit :=
  Nat.two_pow_pos _

/-- A pattern is a number of units and a significand, which is full unless there are no units. -/
theorem exists_place (f : BinaryFormat) (pattern : Nat) : ∃ k m, pattern = k * f.unit + m ∧
    m < 2 * f.unit ∧ (k = 0 ∨ f.unit ≤ m) := by
  have hunit : 0 < f.unit := f.unit_pos
  have hdiv : f.unit * (pattern / f.unit) + pattern % f.unit = pattern := Nat.div_add_mod _ _
  have hmod : pattern % f.unit < f.unit := Nat.mod_lt _ hunit
  -- without an exponent the pattern is the significand, and otherwise a leading one is added to it
  cases hfield : pattern / f.unit with
  | zero =>
      rw [hfield] at hdiv
      exact ⟨0, pattern, by omega, by omega, .inl rfl⟩
  | succ k =>
      rw [hfield, Nat.mul_succ, Nat.mul_comm] at hdiv
      exact ⟨k, pattern % f.unit + f.unit, by omega, by omega, .inr (by omega)⟩

theorem parts_place {k m : Nat} (hm : m < 2 * f.unit) (hk : k = 0 ∨ f.unit ≤ m) :
    f.parts (k * f.unit + m) = (m, f.least + k) := by
  have hunit : 0 < f.unit := f.unit_pos
  have hparts : f.parts (k * f.unit + m) =
      if (k * f.unit + m) / f.unit = 0 then ((k * f.unit + m) % f.unit, f.least)
      else ((k * f.unit + m) % f.unit + f.unit,
        f.least + (((k * f.unit + m) / f.unit : Nat) : Int) - 1) := rfl
  rw [hparts]
  rcases Nat.lt_or_ge m f.unit with hsmall | hfull
  · have hzero : k = 0 := hk.resolve_right (by omega)
    subst hzero
    simp [Nat.div_eq_of_lt hsmall, Nat.mod_eq_of_lt hsmall]
  · have hsplit : k * f.unit + m = (m - f.unit) + (k + 1) * f.unit := by
      rw [Nat.succ_mul]
      omega
    have hrest : m - f.unit < f.unit := by omega
    have hdiv : (k * f.unit + m) / f.unit = k + 1 := by
      rw [hsplit, Nat.add_mul_div_right _ _ hunit, Nat.div_eq_of_lt hrest, Nat.zero_add]
    have hmod : (k * f.unit + m) % f.unit = m - f.unit := by
      rw [hsplit, Nat.add_mul_mod_self_right, Nat.mod_eq_of_lt hrest]
    rw [hdiv, hmod, if_neg (Nat.succ_ne_zero k), Nat.sub_add_cancel hfull]
    have hexponent : f.least + ((k + 1 : Nat) : Int) - 1 = f.least + k := by omega
    rw [hexponent]

/-- The number of a pattern; a significand may also be carried into the next place. -/
theorem magnitude_place {k m : Nat} (hm : m ≤ 2 * f.unit) (hk : k = 0 ∨ f.unit ≤ m) :
    f.magnitude (k * f.unit + m) = m * 2 ^ (f.least + k) := by
  rcases Nat.lt_or_eq_of_le hm with hlt | rfl
  · rw [magnitude, parts_place hlt hk]
  -- a full carry is a unit more, and half of the significand
  · have hcarry : k * f.unit + 2 * f.unit = (k + 1) * f.unit + f.unit := by ring
    have hunit := f.unit_pos
    rw [hcarry, magnitude, parts_place (by omega) (.inr (Nat.le_refl _))]
    have hexponent : f.least + ((k + 1 : Nat) : Int) = f.least + k + 1 := by push_cast; ring
    rw [hexponent, zpow_add_one₀ two_ne_zero]
    push_cast
    ring

@[simp]
theorem magnitude_zero (f : BinaryFormat) : f.magnitude 0 = 0 := by
  have hplace := magnitude_place (f := f) (Nat.zero_le (2 * f.unit)) (.inl rfl)
  simpa using hplace

theorem magnitude_lt_succ (f : BinaryFormat) (pattern : Nat) :
    f.magnitude pattern < f.magnitude (pattern + 1) := by
  -- the pattern behind it stands for one more in the last place
  rcases f.exists_place pattern with ⟨k, m, rfl, hm, hk⟩
  rw [magnitude_place hm.le hk, Nat.add_assoc, magnitude_place hm (hk.imp_right Nat.le_succ_of_le)]
  have hpower : (0 : ℚ) < 2 ^ (f.least + k) := zpow_pos two_pos _
  push_cast
  linarith [add_mul (m : ℚ) 1 (2 ^ (f.least + k))]

/-- A greater pattern stands for a greater number. -/
theorem magnitude_strictMono (f : BinaryFormat) : StrictMono f.magnitude :=
  strictMono_nat_of_lt_succ f.magnitude_lt_succ

theorem magnitude_nonneg (f : BinaryFormat) (pattern : Nat) : 0 ≤ f.magnitude pattern := by
  rw [← f.magnitude_zero]
  exact f.magnitude_strictMono.monotone (Nat.zero_le _)

theorem ratio_snd_pos (f : BinaryFormat) (pattern : Nat) : 0 < (f.ratio pattern).2 := by
  simp only [ratio]
  split
  · exact Nat.one_pos
  · exact Nat.two_pow_pos _

/-- The quotient of a pattern is its number. -/
theorem ratio_eq_magnitude (f : BinaryFormat) (pattern : Nat) :
    ((f.ratio pattern).1 : ℚ) / (f.ratio pattern).2 = f.magnitude pattern := by
  rw [magnitude, ratio]
  rcases f.parts pattern with ⟨m, e⟩
  by_cases he : 0 ≤ e
  · lift e to Nat using he
    simp
  · rcases Int.exists_eq_neg_ofNat (Int.le_of_not_le he) with ⟨n, rfl⟩
    simp only [he, if_false]
    simp [div_eq_mul_inv]

end BinaryFormat

/-! ## The steps of rounding -/

theorem abs_roundHalfEven_sub_le {num den : Nat} (hden : 0 < den) :
    |(roundHalfEven num den : ℚ) - num / den| ≤ 1 / 2 := by
  have hden' : (0 : ℚ) < den := Nat.cast_pos.2 hden
  have hsplit : (num : ℚ) / den = (num / den : Nat) + (num % den : Nat) / den := by
    have hnum : ((den * (num / den) + num % den : Nat) : ℚ) = num := by rw [Nat.div_add_mod]
    rw [← hnum]
    push_cast
    field_simp
  have hrest : (0 : ℚ) ≤ (num % den : Nat) / den := by positivity
  have hrest' : ((num % den : Nat) / den : ℚ) < 1 := by
    rw [div_lt_one hden']
    exact_mod_cast Nat.mod_lt num hden
  -- rounded down the remainder is at most half, and rounded up at least
  have hdown (hle : 2 * (num % den) ≤ den) : |((num / den : Nat) : ℚ) - num / den| ≤ 1 / 2 := by
    have hhalf : ((num % den : Nat) / den : ℚ) ≤ 1 / 2 := by
      rw [div_le_div_iff₀ hden' two_pos]
      exact_mod_cast (by omega : num % den * 2 ≤ 1 * den)
    rw [hsplit, abs_le]
    constructor <;> linarith
  have hup (hle : den ≤ 2 * (num % den)) : |((num / den + 1 : Nat) : ℚ) - num / den| ≤ 1 / 2 := by
    have hhalf : (1 / 2 : ℚ) ≤ (num % den : Nat) / den := by
      rw [div_le_div_iff₀ two_pos hden']
      exact_mod_cast (by omega : 1 * den ≤ num % den * 2)
    rw [hsplit, abs_le]
    push_cast
    constructor <;> linarith
  simp only [roundHalfEven]
  split
  · exact hdown (by omega)
  · split
    · exact hup (by omega)
    · rcases Nat.mod_two_eq_zero_or_one (num / den) with heven | hodd
      · rw [heven]
        exact hdown (by omega)
      · rw [hodd]
        exact hup (by omega)

/-- No natural number is nearer to a quotient than the rounded one. -/
theorem roundHalfEven_nearest {num den : Nat} (hden : 0 < den) (m : Nat) :
    |(roundHalfEven num den : ℚ) - num / den| ≤ |(m : ℚ) - num / den| := by
  -- any other number is apart from the rounded one by one, and this is within a half
  by_cases hm : m = roundHalfEven num den
  · rw [hm]
  · have hapart : (1 : ℚ) ≤ |(m : ℚ) - roundHalfEven num den| := by
      have hne : ((m : Int) - roundHalfEven num den) ≠ 0 := by omega
      exact_mod_cast Int.one_le_abs hne
    have htriangle : |(m : ℚ) - roundHalfEven num den| ≤
        |(m : ℚ) - num / den| + |(roundHalfEven num den : ℚ) - num / den| := by
      rw [abs_sub_comm (roundHalfEven num den : ℚ)]
      exact abs_sub_le _ _ _
    have hnear : |(roundHalfEven num den : ℚ) - num / den| ≤ 1 / 2 := abs_roundHalfEven_sub_le hden
    linarith

theorem scaleBinary_snd_pos {num den : Nat} (hden : 0 < den) (e : Int) :
    0 < (scaleBinary num den e).2 := by
  simp only [scaleBinary]
  split
  · exact Nat.mul_pos hden (Nat.two_pow_pos _)
  · exact hden

theorem scaleBinary_eq (num den : Nat) (e : Int) :
    ((scaleBinary num den e).1 : ℚ) / (scaleBinary num den e).2 = num / den / 2 ^ e := by
  by_cases he : 0 ≤ e
  · simp only [scaleBinary, he, if_true]
    lift e to Nat using he
    simp [div_div]
  · rcases Int.exists_eq_neg_ofNat (Int.le_of_not_le he) with ⟨n, rfl⟩
    simp only [scaleBinary, he, if_false]
    simp [mul_div_right_comm]

namespace BinaryFormat

theorem two_mul_unit {f : BinaryFormat} (hf : 0 < f.precision) :
    (2 : ℚ) * f.unit = 2 ^ (f.precision : Int) := by
  rw [zpow_natCast, unit]
  push_cast
  rw [← pow_succ', Nat.sub_add_cancel hf]

/-- A positive quotient between two powers of two, by the digits of its two numbers. -/
theorem quotient_bounds {num den : Nat} (hnum : 0 < num) (hden : 0 < den) :
    (2 : ℚ) ^ ((num.log2 : Int) - den.log2 - 1) ≤ num / den ∧
      (num / den : ℚ) < 2 ^ ((num.log2 : Int) - den.log2 + 1) := by
  have hden' : (0 : ℚ) < den := Nat.cast_pos.2 hden
  have hnumLow : (2 : ℚ) ^ num.log2 ≤ num := by exact_mod_cast Nat.log2_self_le hnum.ne'
  have hnumHigh : (num : ℚ) < 2 ^ (num.log2 + 1) := by exact_mod_cast Nat.lt_log2_self
  have hdenLow : (2 : ℚ) ^ den.log2 ≤ den := by exact_mod_cast Nat.log2_self_le hden.ne'
  have hdenHigh : (den : ℚ) < 2 ^ (den.log2 + 1) := by exact_mod_cast Nat.lt_log2_self
  constructor
  · calc
      (2 : ℚ) ^ ((num.log2 : Int) - den.log2 - 1) = 2 ^ num.log2 / 2 ^ (den.log2 + 1) := by
        rw [sub_sub, zpow_sub₀ two_ne_zero]
        norm_cast
      _ ≤ num / den := div_le_div₀ (by positivity) hnumLow hden' hdenHigh.le
  · calc
      (num / den : ℚ) < 2 ^ (num.log2 + 1) / 2 ^ den.log2 :=
        div_lt_div₀ hnumHigh hdenLow (by positivity) (by positivity)
      _ = 2 ^ ((num.log2 : Int) - den.log2 + 1) := by
        rw [sub_add_eq_add_sub, zpow_sub₀ two_ne_zero]
        norm_cast

/-- Before the least exponent is minded, the quotient has just as many digits as the format. -/
theorem exists_exact_exponent {f : BinaryFormat} (hf : 0 < f.precision) {num den : Nat}
    (hnum : 0 < num) (hden : 0 < den) : ∃ exact : Int, f.exponentFor num den = max exact f.least ∧
      f.unit * 2 ^ exact ≤ (num / den : ℚ) ∧ (num / den : ℚ) < 2 * f.unit * 2 ^ exact := by
  -- the digits of the two numbers give the exponent up to one
  let guess : Int := (num.log2 : Int) - (den.log2 : Int) - (f.precision : Int)
  let scaled : Nat × Nat := scaleBinary num den guess
  rcases quotient_bounds hnum hden with ⟨hlow, hhigh⟩
  have htop (e : Int) : (2 : ℚ) * f.unit * 2 ^ e = 2 ^ ((f.precision : Int) + e) := by
    rw [two_mul_unit hf, zpow_add₀ two_ne_zero]
  have hbottom (e : Int) : (f.unit : ℚ) * 2 ^ e = 2 ^ ((f.precision : Int) + (e - 1)) := by
    rw [← htop, zpow_sub_one₀ two_ne_zero]
    ring
  have hdefinition : f.exponentFor num den =
      max (if scaled.2 * 2 ^ f.precision ≤ scaled.1 then guess + 1 else guess) f.least := rfl
  have hscaled : scaled.2 * 2 ^ f.precision ≤ scaled.1 ↔
      2 * f.unit * 2 ^ guess ≤ (num / den : ℚ) := by
    have hpos : (0 : ℚ) < scaled.2 := Nat.cast_pos.2 (scaleBinary_snd_pos hden guess)
    have hpower : (0 : ℚ) < 2 ^ guess := zpow_pos two_pos _
    calc
      scaled.2 * 2 ^ f.precision ≤ scaled.1 ↔ (2 : ℚ) ^ f.precision * scaled.2 ≤ scaled.1 := by
        rw [Nat.mul_comm]
        exact_mod_cast Iff.rfl
      _ ↔ (2 : ℚ) ^ f.precision ≤ scaled.1 / scaled.2 := (le_div_iff₀ hpos).symm
      _ ↔ (2 : ℚ) ^ f.precision ≤ num / den / 2 ^ guess := by rw [scaleBinary_eq]
      _ ↔ 2 * f.unit * 2 ^ guess ≤ (num / den : ℚ) := by
        rw [le_div_iff₀ hpower, two_mul_unit hf, zpow_natCast]
  by_cases hmany : scaled.2 * 2 ^ f.precision ≤ scaled.1
  · rw [if_pos hmany] at hdefinition
    refine ⟨guess + 1, hdefinition, ?_, ?_⟩
    · rw [hbottom, add_sub_cancel_right, ← htop]
      exact hscaled.1 hmany
    · rw [htop]
      exact hhigh.trans_eq (congrArg _ (by ring))
  · rw [if_neg hmany] at hdefinition
    refine ⟨guess, hdefinition, ?_, lt_of_not_ge fun hle => hmany (hscaled.2 hle)⟩
    rw [hbottom]
    exact le_of_eq_of_le (congrArg _ (by ring)) hlow

/-- The exponent that is chosen: the quotient has no more digits before the last place than the
format has, and just as many unless the place is the least one. -/
theorem exponentFor_spec {f : BinaryFormat} (hf : 0 < f.precision) {num den : Nat} (hnum : 0 < num)
    (hden : 0 < den) : ∃ k : Nat, f.exponentFor num den = f.least + k ∧
      (num / den : ℚ) < 2 * f.unit * 2 ^ (f.least + k) ∧
      (k = 0 ∨ f.unit * 2 ^ (f.least + k) ≤ (num / den : ℚ)) := by
  rcases exists_exact_exponent hf hnum hden with ⟨exact, hexponent, hlow, hhigh⟩
  -- a place below the least one is not there, so that the least one is taken
  rcases Int.lt_or_le exact f.least with hless | hle
  · refine ⟨0, by simp [hexponent, hless.le], ?_, .inl rfl⟩
    refine hhigh.trans_le (mul_le_mul_of_nonneg_left ?_ (by positivity))
    exact zpow_le_zpow_right₀ one_le_two (by simpa using hless.le)
  · refine ⟨(exact - f.least).toNat, ?_, ?_, .inr ?_⟩
    all_goals rw [show f.least + ((exact - f.least).toNat : Int) = exact by omega]
    · rw [hexponent, max_eq_left hle]
    · exact hhigh
    · exact hlow

/-! ## Rounding -/

/-- What rounding finds before it minds infinity: the significand that is nearest in the place that
has been chosen. -/
theorem round_eq_place {f : BinaryFormat} (hf : 0 < f.precision) {num den : Nat} (hnum : 0 < num)
    (hden : 0 < den) : ∃ k m : Nat, f.round num den = min (k * f.unit + m) f.infinity ∧
      m ≤ 2 * f.unit ∧ (k = 0 ∨ f.unit ≤ m) ∧
      (num / den : ℚ) < 2 * f.unit * 2 ^ (f.least + k) ∧
      (k = 0 ∨ f.unit * 2 ^ (f.least + k) ≤ (num / den : ℚ)) ∧
      ∀ m' : Nat, |(m : ℚ) * 2 ^ (f.least + k) - num / den| ≤
        |(m' : ℚ) * 2 ^ (f.least + k) - num / den| := by
  rcases exponentFor_spec hf hnum hden with ⟨k, hexponent, hhigh, hlow⟩
  let scaled : Nat × Nat := scaleBinary num den (f.least + k)
  let m : Nat := roundHalfEven scaled.1 scaled.2
  have hround : f.round num den = min (k * f.unit + m) f.infinity := by
    have hdefinition : f.round num den =
        if num = 0 then 0
        else min ((f.exponentFor num den - f.least).toNat * f.unit +
          roundHalfEven (scaleBinary num den (f.exponentFor num den)).1
            (scaleBinary num den (f.exponentFor num den)).2) f.infinity := rfl
    rw [hdefinition, if_neg hnum.ne', hexponent, add_sub_cancel_left, Int.toNat_natCast]
  have hpower : (0 : ℚ) < 2 ^ (f.least + k) := zpow_pos two_pos _
  have hscaled : (num / den : ℚ) = scaled.1 / scaled.2 * 2 ^ (f.least + k) := by
    rw [scaleBinary_eq, div_mul_cancel₀ _ hpower.ne']
  have hnearest : ∀ m' : Nat, |(m : ℚ) - scaled.1 / scaled.2| ≤ |(m' : ℚ) - scaled.1 / scaled.2| :=
    roundHalfEven_nearest (scaleBinary_snd_pos hden _)
  rw [hscaled, mul_lt_mul_iff_of_pos_right hpower] at hhigh
  rw [hscaled, mul_le_mul_iff_of_pos_right hpower] at hlow
  refine ⟨k, m, hround, ?_, ?_, ?_, ?_, fun m' => ?_⟩
  · -- a significand above the range would be farther away than its upper end
    by_contra habove
    have habove' : (2 * f.unit : ℚ) < m := by exact_mod_cast Nat.lt_of_not_le habove
    have hend := hnearest (2 * f.unit)
    push_cast at hend
    rw [abs_of_pos (sub_pos.2 hhigh), abs_of_pos (by linarith)] at hend
    linarith
  · refine hlow.imp_right fun hle => ?_
    by_contra hbelow
    have hbelow' : (m : ℚ) < f.unit := by exact_mod_cast Nat.lt_of_not_le hbelow
    have hend := hnearest f.unit
    rw [abs_of_nonpos (sub_nonpos.2 hle), abs_of_neg (by linarith)] at hend
    linarith
  · rw [hscaled]
    exact mul_lt_mul_of_pos_right hhigh hpower
  · rw [hscaled]
    exact hlow.imp_right fun hle => mul_le_mul_of_nonneg_right hle hpower.le
  · rw [hscaled, ← sub_mul, ← sub_mul, abs_mul, abs_mul]
    exact mul_le_mul_of_nonneg_right (hnearest m') (abs_nonneg _)

/-- A pattern whose number is on the other side of another one is farther away. -/
theorem abs_sub_le_of_between {x y z : ℚ} (h : z ≤ y ∧ y ≤ x ∨ x ≤ y ∧ y ≤ z) :
    |y - x| ≤ |z - x| := by
  rcases h with ⟨hzy, hyx⟩ | ⟨hxy, hyz⟩
  · rw [abs_of_nonpos (by linarith), abs_of_nonpos (by linarith)]
    linarith
  · rw [abs_of_nonneg (by linarith), abs_of_nonneg (by linarith)]
    linarith

/-- The significand that is nearest in its place has the nearest pattern of all: the patterns of the
place are compared by their significands, and the others lie beyond its ends. -/
theorem magnitude_place_nearest {f : BinaryFormat} {x : ℚ} {k m : Nat} (hm : m ≤ 2 * f.unit)
    (hk : k = 0 ∨ f.unit ≤ m) (hhigh : x < 2 * f.unit * 2 ^ (f.least + k))
    (hlow : k = 0 ∨ f.unit * 2 ^ (f.least + k) ≤ x)
    (hnearest : ∀ m' : Nat, |(m : ℚ) * 2 ^ (f.least + k) - x| ≤ |(m' : ℚ) * 2 ^ (f.least + k) - x|)
    (p : Nat) : |f.magnitude (k * f.unit + m) - x| ≤ |f.magnitude p - x| := by
  have hmono : Monotone f.magnitude := f.magnitude_strictMono.monotone
  rw [magnitude_place hm hk]
  rcases Nat.lt_or_ge (k * f.unit + 2 * f.unit) p with habove | hle
  · have hend : f.magnitude (k * f.unit + 2 * f.unit) = (2 * f.unit : Nat) * 2 ^ (f.least + k) :=
      magnitude_place (Nat.le_refl _) (.inr (by omega))
    refine (hnearest (2 * f.unit)).trans ?_
    rw [← hend]
    refine abs_sub_le_of_between (.inr ⟨?_, hmono habove.le⟩)
    rw [hend]
    push_cast
    exact hhigh.le
  · rcases Nat.lt_or_ge p (k * f.unit + if k = 0 then 0 else f.unit) with hbelow | hge
    · -- in the least place there is nothing below
      have hpositive : k ≠ 0 := by
        rintro rfl
        simp at hbelow
      rw [if_neg hpositive] at hbelow
      have hend : f.magnitude (k * f.unit + f.unit) = f.unit * 2 ^ (f.least + k) :=
        magnitude_place (by omega) (.inr (Nat.le_refl _))
      refine (hnearest f.unit).trans ?_
      rw [← hend]
      refine abs_sub_le_of_between (.inl ⟨hmono hbelow.le, ?_⟩)
      rw [hend]
      exact hlow.resolve_left hpositive
    · have hinside : k = 0 ∨ f.unit ≤ p - k * f.unit := by
        rcases Nat.eq_zero_or_pos k with hzero | hpositive
        · exact .inl hzero
        · rw [if_neg hpositive.ne'] at hge
          exact .inr (by omega)
      have hsplit : k * f.unit + (p - k * f.unit) = p := by omega
      have hplace := magnitude_place (f := f) (m := p - k * f.unit) (by omega) hinside
      rw [hsplit] at hplace
      rw [hplace]
      exact hnearest _

/-- **What is rounded is nearest**, infinity being a neighbour like any other. -/
theorem round_nearest {f : BinaryFormat} (hf : 0 < f.precision) {den : Nat} (hden : 0 < den)
    (num : Nat) {pattern : Nat} (hpattern : pattern ≤ f.infinity) :
    |f.magnitude (f.round num den) - num / den| ≤ |f.magnitude pattern - num / den| := by
  rcases Nat.eq_zero_or_pos num with rfl | hnum
  · have hzero : f.round 0 den = 0 := rfl
    simp [hzero]
  rcases round_eq_place hf hnum hden with ⟨k, m, hround, hm, hk, hhigh, hlow, hnearest⟩
  have hmono : Monotone f.magnitude := f.magnitude_strictMono.monotone
  have hfound (p : Nat) :
      |f.magnitude (k * f.unit + m) - num / den| ≤ |f.magnitude p - num / den| :=
    magnitude_place_nearest hm hk hhigh hlow hnearest p
  rw [hround]
  rcases Nat.le_total (k * f.unit + m) f.infinity with hfinite | hoverflow
  · rw [min_eq_left hfinite]
    exact hfound pattern
  · -- infinity stands in for a pattern above it, and all others are below
    rw [min_eq_right hoverflow]
    have hgreater : f.magnitude f.infinity ≤ f.magnitude (k * f.unit + m) := hmono hoverflow
    have hless : f.magnitude pattern ≤ f.magnitude f.infinity := hmono hpattern
    rcases le_total (f.magnitude f.infinity) (num / den) with hle | hge
    · exact abs_sub_le_of_between (.inl ⟨hless, hle⟩)
    · refine le_trans ?_ (hfound pattern)
      exact abs_sub_le_of_between (.inr ⟨hge, hgreater⟩)

/-- What has a pattern is not changed by rounding. -/
theorem round_magnitude {f : BinaryFormat} (hf : 0 < f.precision) {num den pattern : Nat}
    (hden : 0 < den) (hpattern : pattern ≤ f.infinity)
    (hexact : (num / den : ℚ) = f.magnitude pattern) :
    f.round num den = pattern := by
  have hnearest := round_nearest hf hden num hpattern
  rw [hexact, sub_self, abs_zero, abs_nonpos_iff, sub_eq_zero] at hnearest
  exact f.magnitude_strictMono.injective hnearest

end BinaryFormat
end ParamSql
