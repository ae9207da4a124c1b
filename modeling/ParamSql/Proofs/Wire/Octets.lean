import Mathlib.Tactic.Positivity
import Mathlib.Tactic.Ring
import ParamSql.Wire.Decode
import ParamSql.Wire.Encode

/-!
# Octets — what is written is read back

* `Octets.ofBigEndian_bigEndian`, `Octets.ofSignedBigEndian_signedBigEndian` — numbers in octets;
* `Octets.int?_signedBigEndian` — integers as the wire has them;
* `Octets.ofUtf8?_utf8`, `Uuid.ofOctets?_octets` — texts and identifiers;
* `Instant.ofMicros?_micros` — instants by their microseconds, which do not tell a leap second from
  the second behind it;
* `Instant.abs_sub_lt_of_ofMicros?` — they lose less than a microsecond.
-/

namespace ParamSql
namespace Octets

/-! ## Numbers -/

@[simp]
theorem length_bigEndian (width n : Nat) : (bigEndian width n).length = width := by
  induction width with
  | zero => rfl
  | succ width ih => simp [bigEndian, ih]

theorem foldl_octets (octets : List UInt8) (n : Nat) :
    octets.foldl (fun n o => 256 * n + o.toNat) n =
      n * 256 ^ octets.length + ofBigEndian octets := by
  induction octets generalizing n with
  | nil => simp [ofBigEndian]
  | cons o octets ih =>
      -- what has been read so far is shifted by as many octets as are left
      rw [ofBigEndian, List.foldl_cons, List.foldl_cons, ih, ih (256 * 0 + o.toNat),
        List.length_cons, pow_succ]
      ring

@[simp]
theorem ofBigEndian_nil : ofBigEndian [] = 0 := rfl

theorem ofBigEndian_cons (o : UInt8) (octets : List UInt8) :
    ofBigEndian (o :: octets) = o.toNat * 256 ^ octets.length + ofBigEndian octets := by
  rw [ofBigEndian, List.foldl_cons, foldl_octets, Nat.mul_zero, Nat.zero_add]

/-- The octets of a number hold it as far as they reach. -/
theorem ofBigEndian_bigEndian (width n : Nat) :
    ofBigEndian (bigEndian width n) = n % 256 ^ width := by
  induction width with
  | zero => simp [bigEndian, Nat.mod_one]
  | succ width ih =>
      have hfirst : (UInt8.ofNat (n / Nat.pow 256 width)).toNat = n / 256 ^ width % 256 := by simp
      rw [bigEndian, ofBigEndian_cons, length_bigEndian, ih, hfirst, Nat.mod_pow_succ]
      ring

theorem ofBigEndian_bigEndian_of_lt {width n : Nat} (h : n < 256 ^ width) :
    ofBigEndian (bigEndian width n) = n := by
  rw [ofBigEndian_bigEndian, Nat.mod_eq_of_lt h]

@[simp]
theorem length_signedBigEndian (width : Nat) (n : Int) : (signedBigEndian width n).length = width :=
  length_bigEndian _ _

/-- Two's complement wraps around. -/
theorem ofSignedBigEndian_signedBigEndian (width : Nat) (n : Int) :
    ofSignedBigEndian (signedBigEndian width n) = n.bmod (256 ^ width) := by
  -- the remainder that is written is not negative, and it is balanced again when it is read
  have hpos : (0 : Int) < (256 ^ width : Nat) := by positivity
  have hrest : ((n % (256 ^ width : Nat)).toNat : Int) = n % (256 ^ width : Nat) :=
    Int.toNat_of_nonneg (Int.emod_nonneg n hpos.ne')
  have hlt : (n % (256 ^ width : Nat)).toNat < 256 ^ width := by
    have := Int.emod_lt_of_pos n hpos
    omega
  rw [ofSignedBigEndian, length_signedBigEndian, signedBigEndian]
  simp only [Nat.pow_eq]
  rw [ofBigEndian_bigEndian_of_lt hlt, hrest, Int.emod_bmod]

/-- An integer that fits its octets is read back. -/
theorem int?_signedBigEndian {width : Nat} {n : Int} (hwidth : 0 < width)
    (hlow : -(2 ^ (8 * width - 1)) ≤ n) (hhigh : n < 2 ^ (8 * width - 1)) :
    int? width (signedBigEndian width n) = some (.ofInt n) := by
  have hsize : 256 ^ width = 2 * 2 ^ (8 * width - 1) := by
    rw [← pow_succ', show (256 : Nat) = 2 ^ 8 from rfl, ← pow_mul, Nat.sub_add_cancel (by omega)]
  have hlow' : -((2 ^ (8 * width - 1) : Nat) : Int) ≤ n := by exact_mod_cast hlow
  have hhigh' : n < ((2 ^ (8 * width - 1) : Nat) : Int) := by exact_mod_cast hhigh
  have hexact : n.bmod (256 ^ width) = n := by
    rw [hsize]
    exact Int.bmod_eq_of_le (by omega) (by omega)
  rw [int?, if_pos (length_signedBigEndian _ _), ofSignedBigEndian_signedBigEndian, hexact]

/-! ## Texts -/

theorem ofUtf8?_utf8 (s : String) : ofUtf8? (utf8 s) = some s := by
  have hoctets : (⟨(utf8 s).toArray⟩ : ByteArray) = s.toByteArray := by
    simp [utf8, String.toUTF8]
  rw [ofUtf8?, hoctets, String.fromUTF8?, dif_pos s.isValidUTF8]
  rfl

end Octets

/-! ## Identifiers -/

theorem Uuid.ofOctets?_octets (u : Uuid) : Uuid.ofOctets? u.octets = some u := by
  have hlt : u.bits.toNat < 256 ^ 16 := u.bits.isLt
  rw [Uuid.ofOctets?, Uuid.octets, if_pos (Octets.length_bigEndian _ _),
    Octets.ofBigEndian_bigEndian_of_lt hlt, BitVec.ofNat_toNat, BitVec.setWidth_eq]

/-! ## Instants -/

namespace Instant

/-- Nanoseconds since the beginning of 2000. -/
def nanosSince2000 (t : Instant) : Int :=
  (t.seconds - secondsTo2000) * 1000000000 + t.nanos

theorem abs_sub_micros_lt (t : Instant) : |t.nanosSince2000 - 1000 * t.micros| < 1000 := by
  -- the division rounds towards zero, so that what is left over has either sign
  have hsplit : 1000 * t.micros + t.nanosSince2000.tmod 1000 = t.nanosSince2000 :=
    Int.mul_tdiv_add_tmod _ _
  have hrest : t.nanosSince2000 - 1000 * t.micros = t.nanosSince2000.tmod 1000 := by omega
  rw [hrest, abs_lt]
  exact ⟨Int.lt_tmod_of_pos _ (by decide), Int.tmod_lt_of_pos _ (by decide)⟩

theorem micros_bounds (t : Instant) : -(2 ^ 63) ≤ t.micros ∧ t.micros < 2 ^ 63 := by
  have hspec := abs_lt.1 t.abs_sub_micros_lt
  have hfirst := t.first_le
  have hlast := t.le_last
  have hnanos := t.nanos_lt
  simp only [nanosSince2000, secondsTo2000, firstSecond, lastSecond] at *
  omega

theorem ofMicros?_eq_some {n : Int} {t : Instant} (h : ofMicros? n = some t) :
    t.nanosSince2000 = 1000 * n ∧ t.nanos % 1000 = 0 := by
  rw [ofMicros?, of?] at h
  split at h
  · cases h
    have hdiv :
        Int.fdiv (n + secondsTo2000 * 1000000) 1000000 = (n + secondsTo2000 * 1000000) / 1000000 :=
      Int.fdiv_eq_ediv_of_nonneg _ (by decide)
    have hmod :
        Int.fmod (n + secondsTo2000 * 1000000) 1000000 = (n + secondsTo2000 * 1000000) % 1000000 :=
      Int.fmod_eq_emod_of_nonneg _ (by decide)
    simp only [nanosSince2000, hdiv, hmod]
    simp only [secondsTo2000]
    omega
  · cases h

/-- An instant of whole microseconds is read as one in the second that it is counted to: a leap
second is not told from the one behind it. -/
theorem ofMicros?_micros {t : Instant} (h : t.nanos % 1000 = 0) :
    ofMicros? t.micros = of? (t.seconds + (t.nanos / 1000000000 : Nat)) (t.nanos % 1000000000) := by
  have hspec := abs_lt.1 t.abs_sub_micros_lt
  -- what is left over is divisible by a thousand and less than that
  have hexact : 1000 * t.micros = (t.seconds - 946684800) * 1000000000 + t.nanos := by
    simp only [nanosSince2000, secondsTo2000] at hspec
    omega
  have hdiv : Int.fdiv (t.micros + secondsTo2000 * 1000000) 1000000 =
      t.seconds + (t.nanos / 1000000000 : Nat) := by
    rw [Int.fdiv_eq_ediv_of_nonneg _ (by decide), secondsTo2000]
    omega
  have hmod : (Int.fmod (t.micros + secondsTo2000 * 1000000) 1000000).toNat * 1000 =
      t.nanos % 1000000000 := by
    rw [Int.fmod_eq_emod_of_nonneg _ (by decide), secondsTo2000]
    omega
  rw [ofMicros?, hdiv, hmod]

/-- Out of a leap second, this is the instant itself. -/
theorem ofMicros?_micros_of_not_leap {t : Instant} (h : t.nanos % 1000 = 0)
    (hleap : t.isLeap = false) : ofMicros? t.micros = some t := by
  have hnanos : t.nanos < 1000000000 := by simpa [isLeap] using hleap
  rw [ofMicros?_micros h, Nat.div_eq_of_lt hnanos, Nat.mod_eq_of_lt hnanos, Int.natCast_zero,
    Int.add_zero]
  exact dif_pos ⟨.inl hnanos, t.first_le, t.le_last⟩

/-- In a leap second, it is the one in the second behind it. -/
theorem ofMicros?_micros_of_leap {t : Instant} (h : t.nanos % 1000 = 0) (hleap : t.isLeap = true) :
    ofMicros? t.micros = of? (t.seconds + 1) (t.nanos - 1000000000) := by
  have hnanos : 1000000000 ≤ t.nanos := by simpa [isLeap] using hleap
  have hlt := t.nanos_lt
  have hdiv : t.nanos / 1000000000 = 1 := by omega
  have hmod : t.nanos % 1000000000 = t.nanos - 1000000000 := by omega
  rw [ofMicros?_micros h, hdiv, hmod, Int.natCast_one]

/-- Whatever is read of the microseconds of an instant is less than a microsecond away. -/
theorem abs_sub_lt_of_ofMicros? {t t' : Instant} (h : ofMicros? t.micros = some t') :
    t'.nanos % 1000 = 0 ∧ |t.nanosSince2000 - t'.nanosSince2000| < 1000 := by
  rcases ofMicros?_eq_some h with ⟨hmicros, hwhole⟩
  rw [hmicros]
  exact ⟨hwhole, t.abs_sub_micros_lt⟩

end Instant
end ParamSql
