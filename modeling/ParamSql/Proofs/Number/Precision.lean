import ParamSql.Proofs.Number.Rounding

/-!
# Precision — from double to single precision and back

A number in single precision is also one in double precision. What is rounded to single precision is
the nearest such number, and nothing is rounded that is one already.

* `Binary64.value?` — the number that a double stands for, if it is finite;
* `Binary64.HasSingle`, `Binary64.IsSingle` — a double that stands for the same as a pattern in
  single precision;
* `Binary64.nearestSingle_spec` — the pattern that is nearest;
* `Binary64.hasSingle_ofSingle`, `Binary64.ofSingle_toSingle` — what a pattern is widened to, and
  that it is the same number again;
* `Binary64.value?_ofInt` — an integer that has a double becomes that double.
-/

namespace ParamSql
namespace Binary64

/-! ## Signs and patterns -/

theorem pattern_lt (x : Binary64) : x.pattern < 2 ^ 63 :=
  Nat.mod_lt _ (Nat.two_pow_pos 63)

theorem pattern_ofPattern {p : Nat} (hp : p < 2 ^ 63) (negative : Bool) :
    (ofPattern negative p).pattern = p := by
  cases negative <;> simp [ofPattern, pattern] <;> omega

theorem isNegative_ofPattern {p : Nat} (hp : p < 2 ^ 63) (negative : Bool) :
    (ofPattern negative p).isNegative = negative := by
  cases negative <;> simp [ofPattern, isNegative] <;> omega

theorem toNat_bits (x : Binary64) :
    x.bits.toNat = if x.isNegative then 2 ^ 63 + x.pattern else x.pattern := by
  have hlt : x.bits.toNat < 2 ^ 64 := x.bits.toNat_lt
  simp only [isNegative, pattern, Nat.pow_eq, decide_eq_true_eq]
  split <;> omega

theorem ofPattern_pattern (x : Binary64) : ofPattern x.isNegative x.pattern = x := by
  have hbits := x.toNat_bits
  rw [ofPattern]
  simp only [Nat.pow_eq]
  rw [← hbits, UInt64.ofNat_toNat]

theorem eq_of_pattern {x y : Binary64} (hsign : x.isNegative = y.isNegative)
    (hpattern : x.pattern = y.pattern) : x = y := by
  rw [← x.ofPattern_pattern, ← y.ofPattern_pattern, hsign, hpattern]

/-! ## Values -/

/-- The number that a double stands for, if it is finite. -/
def value? (x : Binary64) : Option ℚ :=
  if x.isFinite then
    some (if x.isNegative then -binary64.magnitude x.pattern else binary64.magnitude x.pattern)
  else none

theorem isFinite_of_value? {x : Binary64} {r : ℚ} (h : x.value? = some r) : x.isFinite = true := by
  by_contra hinfinite
  simp [value?, hinfinite] at h

/-! ## Single precision -/

/-- The double stands for the same number as the unsigned single-precision pattern, its sign
apart. -/
def HasSingle (x : Binary64) (p : Nat) : Prop :=
  (p < binary32.infinity ∧ x.isFinite = true ∧
      binary64.magnitude x.pattern = binary32.magnitude p) ∨
    (p = binary32.infinity ∧ x.pattern = binary64.infinity)

/-- The double has a pattern in single precision. It is no not-a-number. -/
def IsSingle (x : Binary64) : Prop :=
  ∃ p, x.HasSingle p

/-- The unsigned single-precision pattern that a number is rounded to. -/
def nearestSingle (x : Binary64) : Nat :=
  if x.isFinite then binary32.round (binary64.ratio x.pattern).1 (binary64.ratio x.pattern).2
  else binary32.infinity

theorem HasSingle.isNaN_eq_false {x : Binary64} {p : Nat} (h : x.HasSingle p) :
    x.isNaN = false := by
  rcases h with ⟨_, hfinite, _⟩ | ⟨_, hpattern⟩
  · simp only [isFinite, decide_eq_true_eq] at hfinite
    simp only [isNaN, decide_eq_false_iff_not]
    omega
  · simp [isNaN, hpattern]

/-- Doubles with the same pattern in single precision and the same sign are the same. -/
theorem HasSingle.unique {x y : Binary64} {p : Nat} (hx : x.HasSingle p) (hy : y.HasSingle p)
    (hsign : x.isNegative = y.isNegative) : x = y := by
  refine eq_of_pattern hsign ?_
  -- finite patterns are compared by their numbers, and there is one infinity
  rcases hx with ⟨hp, _, hx⟩ | ⟨rfl, hx⟩
  · rcases hy with ⟨_, _, hy⟩ | ⟨rfl, _⟩
    · exact binary64.magnitude_strictMono.injective (hx.trans hy.symm)
    · exact absurd hp (Nat.lt_irrefl _)
  · rcases hy with ⟨hp, _⟩ | ⟨_, hy⟩
    · exact absurd hp (Nat.lt_irrefl _)
    · exact hx.trans hy.symm

theorem round_le (f : BinaryFormat) (num den : Nat) : f.round num den ≤ f.infinity := by
  rw [BinaryFormat.round]
  split
  · exact Nat.zero_le _
  · exact Nat.min_le_right _ _

theorem nearestSingle_le (x : Binary64) : x.nearestSingle ≤ binary32.infinity := by
  rw [nearestSingle]
  split
  · exact round_le _ _ _
  · exact Nat.le_refl _

/-- No pattern of single precision is nearer to a finite number than the one that it is rounded
to. -/
theorem nearestSingle_spec {x : Binary64} (hx : x.isFinite = true) {p : Nat}
    (hp : p ≤ binary32.infinity) :
    |binary32.magnitude x.nearestSingle - binary64.magnitude x.pattern| ≤
      |binary32.magnitude p - binary64.magnitude x.pattern| := by
  have hnearest := BinaryFormat.round_nearest (f := binary32) (by decide)
    (binary64.ratio_snd_pos x.pattern) (binary64.ratio x.pattern).1 hp
  rw [BinaryFormat.ratio_eq_magnitude] at hnearest
  rwa [nearestSingle, if_pos hx]

/-- What has a pattern is rounded to that pattern. -/
theorem HasSingle.nearestSingle_eq {x : Binary64} {p : Nat} (h : x.HasSingle p) :
    x.nearestSingle = p := by
  rcases h with ⟨hp, hfinite, hmagnitude⟩ | ⟨rfl, hpattern⟩
  · rw [nearestSingle, if_pos hfinite]
    refine BinaryFormat.round_magnitude (by decide) (binary64.ratio_snd_pos _) hp.le ?_
    rw [BinaryFormat.ratio_eq_magnitude, hmagnitude]
  · have hinfinite : x.isFinite = false := by simp [isFinite, hpattern]
    simp [nearestSingle, hinfinite]

/-- A significand of single precision is shifted until it is one of double precision. -/
theorem exists_shift {m : Nat} (hpos : 0 < m) (hm : m < 2 * binary32.unit) : ∃ shift ≤ 52,
    binary64.unit ≤ m * 2 ^ shift ∧ m * 2 ^ shift < 2 * binary64.unit := by
  have hlow : 2 ^ m.log2 ≤ m := Nat.log2_self_le hpos.ne'
  have hhigh : m < 2 ^ (m.log2 + 1) := Nat.lt_log2_self
  have hlog : m.log2 < 24 := (Nat.log2_lt hpos.ne').2 hm
  refine ⟨52 - m.log2, Nat.sub_le _ _, ?_, ?_⟩
  · calc
      binary64.unit = 2 ^ m.log2 * 2 ^ (52 - m.log2) := by
        rw [← pow_add, Nat.add_sub_cancel' (by omega)]
        rfl
      _ ≤ m * 2 ^ (52 - m.log2) := Nat.mul_le_mul_right _ hlow
  · calc
      m * 2 ^ (52 - m.log2) < 2 ^ (m.log2 + 1) * 2 ^ (52 - m.log2) :=
        Nat.mul_lt_mul_of_pos_right hhigh (Nat.two_pow_pos _)
      _ = 2 * binary64.unit := by
        rw [← pow_add, show m.log2 + 1 + (52 - m.log2) = 53 by omega]
        rfl

/-- A finite number in single precision is one in double precision. -/
theorem exists_double {p : Nat} (hp : p < binary32.infinity) :
    ∃ q < binary64.infinity, binary64.magnitude q = binary32.magnitude p := by
  rcases binary32.exists_place p with ⟨k, m, rfl, hm, hk⟩
  rw [BinaryFormat.magnitude_place hm.le hk]
  rcases Nat.eq_zero_or_pos m with rfl | hpos
  · exact ⟨0, by decide, by simp⟩
  -- the exponent is lowered by as much as the significand is shifted
  · rcases exists_shift hpos hm with ⟨shift, hshift, hfull, hfits⟩
    refine ⟨(k + (925 - shift)) * binary64.unit + m * 2 ^ shift, ?_, ?_⟩
    · rw [show binary32.unit = 2 ^ 23 from rfl] at hp
      rw [show binary32.infinity = 255 * 2 ^ 23 from rfl] at hp
      rw [show binary64.unit = 2 ^ 52 from rfl] at hfits ⊢
      rw [show binary64.infinity = 2047 * 2 ^ 52 from rfl]
      have hplaces : k + (925 - shift) ≤ 1180 := by omega
      calc
        (k + (925 - shift)) * 2 ^ 52 + m * 2 ^ shift < 1180 * 2 ^ 52 + 2 * 2 ^ 52 :=
          Nat.add_lt_add_of_le_of_lt (Nat.mul_le_mul_right _ hplaces) hfits
        _ ≤ 2047 * 2 ^ 52 := by decide
    · rw [BinaryFormat.magnitude_place hfits.le (.inr hfull)]
      have hexponent : binary64.least + ((k + (925 - shift) : Nat) : Int) =
          binary32.least + k - (shift : Int) := by
        have hleast : binary64.least = binary32.least - 925 := rfl
        omega
      rw [hexponent, zpow_sub₀ two_ne_zero, zpow_natCast]
      push_cast
      field_simp

/-- The bits of a sign and an unsigned single-precision pattern. -/
def singleBits (negative : Bool) (p : Nat) : UInt32 :=
  UInt32.ofNat ((if negative then 2 ^ 31 else 0) + p)

theorem singleBits_sign {p : Nat} (hp : p < 2 ^ 31) (negative : Bool) :
    decide (2 ^ 31 ≤ (singleBits negative p).toNat) = negative := by
  cases negative <;> simp [singleBits] <;> omega

theorem singleBits_mod {p : Nat} (hp : p < 2 ^ 31) (negative : Bool) :
    (singleBits negative p).toNat % 2 ^ 31 = p := by
  cases negative <;> simp [singleBits] <;> omega

/-- The sign stays, and the pattern is the nearest one. -/
theorem toSingle_eq {x : Binary64} (hx : x.isNaN = false) :
    x.toSingle = singleBits x.isNegative x.nearestSingle := by
  cases hfinite : x.isFinite <;> simp [toSingle, singleBits, nearestSingle, hx, hfinite]

/-- A single-precision pattern is widened to the same number. -/
theorem hasSingle_ofSingle {p : Nat} (hp : p ≤ binary32.infinity) (negative : Bool) :
    (ofSingle (singleBits negative p)).isNegative = negative ∧
      (ofSingle (singleBits negative p)).HasSingle p := by
  have hlt : p < 2 ^ 31 := Nat.lt_of_le_of_lt hp (by decide)
  have hdefinition : ofSingle (singleBits negative p) =
      if p < binary32.infinity then
        ofPattern negative (binary64.round (binary32.ratio p).1 (binary32.ratio p).2)
      else infinite negative := by
    simp only [ofSingle, Nat.pow_eq, singleBits_sign hlt, singleBits_mod hlt, Nat.not_lt.2 hp,
      if_false]
  rw [hdefinition]
  split
  case isTrue hfinite =>
    rcases exists_double hfinite with ⟨q, hq, hmagnitude⟩
    have hround : binary64.round (binary32.ratio p).1 (binary32.ratio p).2 = q := by
      refine BinaryFormat.round_magnitude (by decide) (binary32.ratio_snd_pos _) hq.le ?_
      rw [BinaryFormat.ratio_eq_magnitude, hmagnitude]
    have hq' : q < 2 ^ 63 := hq.trans (by decide)
    rw [hround]
    refine ⟨isNegative_ofPattern hq' negative, .inl ⟨hfinite, ?_, ?_⟩⟩
    · simpa [isFinite, pattern_ofPattern hq'] using hq
    · rw [pattern_ofPattern hq', hmagnitude]
  case isFalse hinfinite =>
    have hq' : binary64.infinity < 2 ^ 63 := by decide
    exact ⟨isNegative_ofPattern hq' negative,
      .inr ⟨Nat.le_antisymm hp (Nat.le_of_not_lt hinfinite), pattern_ofPattern hq' negative⟩⟩

/-- What is rounded to single precision and widened again is the nearest number that has a pattern
there. -/
theorem hasSingle_toSingle {x : Binary64} (hx : x.isNaN = false) :
    (ofSingle x.toSingle).isNegative = x.isNegative ∧
    (ofSingle x.toSingle).HasSingle x.nearestSingle := by
  rw [toSingle_eq hx]
  exact hasSingle_ofSingle x.nearestSingle_le x.isNegative

/-- A number that has a pattern in single precision survives it. -/
theorem ofSingle_toSingle {x : Binary64} (hx : x.IsSingle) : ofSingle x.toSingle = x := by
  rcases hx with ⟨p, hp⟩
  rcases hasSingle_toSingle hp.isNaN_eq_false with ⟨hsign, hsame⟩
  rw [hp.nearestSingle_eq] at hsame
  exact hsame.unique hp hsign

/-- A not-a-number stays one, and may lose a part of its payload. -/
theorem isNaN_ofSingle_toSingle {x : Binary64} (hx : x.isNaN = true) :
    (ofSingle x.toSingle).isNaN = true := by
  have hpayload (n : Nat) : n % 2 ^ 22 < 2 ^ 22 := Nat.mod_lt _ (by decide)
  let p : Nat := binary32.infinity + 2 ^ 22 + x.pattern / 2 ^ 29 % 2 ^ 22
  have hlt : p < 2 ^ 31 := by
    calc
      p < binary32.infinity + 2 ^ 22 + 2 ^ 22 := Nat.add_lt_add_left (hpayload _) _
      _ = 2 ^ 31 := by decide
  have hnan : binary32.infinity < p := by
    simp only [p]
    omega
  have hsingle : x.toSingle = singleBits x.isNegative p := by
    simp [toSingle, singleBits, hx, p, Nat.add_assoc]
  have hwide : ofSingle x.toSingle =
      ofPattern x.isNegative (binary64.infinity + 2 ^ 51 + p % 2 ^ 22 * 2 ^ 29) := by
    rw [hsingle]
    simp only [ofSingle, Nat.pow_eq, singleBits_sign hlt, singleBits_mod hlt, hnan, if_true]
  have hlt' : binary64.infinity + 2 ^ 51 + p % 2 ^ 22 * 2 ^ 29 < 2 ^ 63 := by
    calc
      binary64.infinity + 2 ^ 51 + p % 2 ^ 22 * 2 ^ 29
          < binary64.infinity + 2 ^ 51 + 2 ^ 22 * 2 ^ 29 :=
        Nat.add_lt_add_left (Nat.mul_lt_mul_of_pos_right (hpayload p) (by decide)) _
      _ = 2 ^ 63 := by decide
  rw [hwide, isNaN, pattern_ofPattern hlt', decide_eq_true_eq]
  omega

/-! ## Integers -/

/-- An integer that is the number of some double becomes a double with that number. -/
theorem value?_ofInt {n : Int} {x : Binary64} (hx : x.value? = some (n : ℚ)) :
    (ofInt n).value? = some (n : ℚ) := by
  have hfinite : x.isFinite = true := isFinite_of_value? hx
  rw [value?, if_pos hfinite, Option.some.injEq] at hx
  have hmagnitude : binary64.magnitude x.pattern = (n.natAbs : ℚ) := by
    have hnonneg := binary64.magnitude_nonneg x.pattern
    have habs : ((n.natAbs : Nat) : ℚ) = |(n : ℚ)| := by
      rw [← Int.cast_abs, Int.abs_eq_natAbs, Int.cast_natCast]
    rw [habs, ← hx]
    split
    · rw [abs_neg, abs_of_nonneg hnonneg]
    · rw [abs_of_nonneg hnonneg]
  have hpattern : x.pattern < binary64.infinity := by simpa [isFinite] using hfinite
  have hround : binary64.round n.natAbs 1 = x.pattern :=
    BinaryFormat.round_magnitude (by decide) Nat.one_pos hpattern.le (by simp [hmagnitude])
  rw [ofInt, hround, value?, isFinite, isNegative_ofPattern x.pattern_lt,
    pattern_ofPattern x.pattern_lt, hmagnitude, if_pos (decide_eq_true hpattern), Option.some.injEq]
  rcases Int.lt_or_le n 0 with hnegative | hnonneg
  · have hcast : ((n.natAbs : Int) : ℚ) = ((-n : Int) : ℚ) := by congr 1; omega
    rw [Int.cast_natCast] at hcast
    simp [hnegative, hcast]
  · have hcast : ((n.natAbs : Int) : ℚ) = (n : ℚ) := by congr 1; omega
    rw [Int.cast_natCast] at hcast
    simp [Int.not_lt.2 hnonneg, hcast]

end Binary64
end ParamSql
