import ParamSql.Proofs.Number.Misreading
import ParamSql.Proofs.Wire.RoundTrip

/-!
# Meaning — what a value is taken for on the other side

A value is sent in the format of its own kind, and read in the format of the type. As nothing else
checks the type, octets of one kind may be read as a value of another one.

* `Value.number?`, `Value.ownTypes` — the number that a value stands for, and the types of its kind;
* `Value.StandsFor` — a value that is as good as another one at a type;
* `ScalarType.mem_ownTypes_of_decode?` — the type decides about the kind of what is read;
* `Value.stands_of_mem_ownTypes`, `Value.StandsFor.kind` — what is read as a type of the value's
  kind stands for it, and what else may;
* `Value.sent_stands_iff` — when a value is taken for what it is.
-/

namespace ParamSql
namespace Value

/-! ## Meanings -/

/-- The number that a value stands for. -/
def number? : Value → Option ℚ
  | .int n => some n.toInt
  | .float x => x.value?
  | _ => none

/-- The types of the value's kind. -/
def ownTypes : Value → List ScalarType
  | .bool _ => [.bool]
  | .int _ => [.int2, .int4, .int8]
  | .float _ => [.float4, .float8]
  | .text _ => [.text, .varchar]
  | .bytes _ => [.bytea]
  | .uuid _ => [.uuid]
  | .timestamp _ => [.timestamp, .timestamptz]
  | _ => []

/-- `StandsFor t v w`: at the type, `w` denotes the same as `v`. -/
inductive StandsFor (t : ScalarType) : Value → Value → Prop
  | same (v : Value) : StandsFor t v v
  | number {v w : Value} {r : ℚ} : v.number? = some r → w.number? = some r → StandsFor t v w
  /-- In single precision a finite number is rounded to the nearest one, infinity being a
  neighbour. -/
  | rounded {x y : Binary64} {p : Nat} : t = .float4 → x.isFinite = true →
      y.isNegative = x.isNegative →
      y.HasSingle p → (∀ q ≤ binary32.infinity,
        |binary32.magnitude p - binary64.magnitude x.pattern| ≤
          |binary32.magnitude q - binary64.magnitude x.pattern|) →
      StandsFor t (.float x) (.float y)
  /-- The payload of a not-a-number does not matter in single precision. -/
  | notANumber {x y : Binary64} : t = .float4 → x.isNaN = true → y.isNaN = true →
      StandsFor t (.float x) (.float y)
  /-- What is below a microsecond is dropped. -/
  | micros {i j : Instant} : t ∈ [ScalarType.timestamp, .timestamptz] → j.nanos % 1000 = 0 →
      |i.nanosSince2000 - j.nanosSince2000| < 1000 → StandsFor t (.timestamp i) (.timestamp j)

end Value

/-! ## What is read -/

namespace ScalarType

variable {t : ScalarType} {octets : List UInt8} {w : Value}

/-- What is read is of the kind of the type. -/
theorem mem_ownTypes_of_decode? (ht : t ∈ parameters) (h : t.decode? octets = some w) :
    t ∈ w.ownTypes := by
  cases t with
  | bool =>
      simp only [decode?] at h
      split at h
      · cases h
        simp [Value.ownTypes]
      · cases h
  | bytea =>
      cases h
      simp [Value.ownTypes]
  | float4 | float8 =>
      simp only [decode?] at h
      split at h
      · cases h
        simp [Value.ownTypes]
      · cases h
  | int2 | int4 | int8 | text | varchar | uuid | timestamp | timestamptz =>
      simp only [decode?, Option.map_eq_some_iff] at h
      rcases h with ⟨_, _, rfl⟩
      simp [Value.ownTypes]
  | _ => simp [parameters] at ht

/-- A cell that has been read has octets that the type accepts. -/
theorem decode?_of_decode (h : (WireType.scalar t).decode (some octets) = .ok w) :
    t.decode? octets = some w := by
  rw [WireType.decode] at h
  split at h
  · cases h
  · simp only [WireType.decodeOctets?] at h
    cases hdecode : t.decode? octets with
    | some v =>
        rw [hdecode] at h
        cases h
        rfl
    | none =>
        rw [hdecode] at h
        cases h

end ScalarType

namespace Value

variable {t : ScalarType} {octets : List UInt8} {v w : Value}

/-! ## Types of the kind of the value -/

/-- A number that is sent in single precision is read as the nearest one. -/
theorem stands_single (x : Binary64) :
    StandsFor .float4 (.float x) (.float (.ofSingle x.toSingle)) := by
  -- a number has a nearest one in single precision, unless it is a not-a-number or infinite already
  cases hnan : x.isNaN with
  | true => exact .notANumber rfl hnan (Binary64.isNaN_ofSingle_toSingle hnan)
  | false =>
      cases hfinite : x.isFinite with
      | true =>
          rcases Binary64.hasSingle_toSingle hnan with ⟨hsign, hsingle⟩
          exact .rounded rfl hfinite hsign hsingle fun q hq =>
            Binary64.nearestSingle_spec hfinite hq
      | false =>
          have hinfinite : x.pattern = binary64.infinity := by
            simp only [Binary64.isNaN, Binary64.isFinite, decide_eq_false_iff_not] at hnan hfinite
            omega
          rw [Binary64.ofSingle_toSingle ⟨binary32.infinity, .inr ⟨rfl, hinfinite⟩⟩]
          exact .same _

/-- An instant is read without what is below a microsecond. -/
theorem stands_timestamp {time : Instant} (ht : t ∈ [ScalarType.timestamp, .timestamptz])
    (h : t.decode? (Octets.signedBigEndian 8 time.micros) = some w) :
    StandsFor t (.timestamp time) w := by
  rw [decode?_micros ht] at h
  obtain ⟨time', htime, rfl⟩ := Option.map_eq_some_iff.1 h
  rcases Instant.abs_sub_lt_of_ofMicros? htime with ⟨hwhole, hnear⟩
  exact .micros ht hwhole hnear

/-- What is read as a type of the value's kind stands for the value. -/
theorem stands_of_mem_ownTypes (hown : t ∈ v.ownTypes)
    (hsent : v.encode (.scalar t) = .ok (some octets)) (hread : t.decode? octets = some w) :
    StandsFor t v w := by
  -- what the type holds exactly is read as the same value
  have hsame (hmatches : v.Matches t) (hnull : v ≠ .null) : StandsFor t v w := by
    obtain ⟨octets', hoctets, hexact⟩ := hmatches.decode?_of_encode hnull hsent
    obtain rfl : octets = octets' := Option.some.inj hoctets
    obtain rfl : w = v := Option.some.inj (hread.symm.trans hexact)
    exact .same _
  cases v with
  | float x =>
      simp only [ownTypes, List.mem_cons, List.not_mem_nil, or_false] at hown
      rcases hown with rfl | rfl
      · cases hsent
        rw [decode?_encodeSingle] at hread
        cases hread
        exact stands_single x
      · exact hsame (.double x) (by simp)
  | timestamp time =>
      cases hsent
      exact stands_timestamp hown hread
  | bool b =>
      rcases List.mem_singleton.1 hown
      exact hsame (.bool b) (by simp)
  | int n => exact hsame (.int n hown) (by simp)
  | text s => exact hsame (.text s hown) (by simp)
  | bytes octets =>
      rcases List.mem_singleton.1 hown
      exact hsame (.bytes octets) (by simp)
  | uuid u =>
      rcases List.mem_singleton.1 hown
      exact hsame (.uuid u) (by simp)
  | null => simp [ownTypes] at hown
  | json j => simp [ownTypes] at hown
  | array items => simp [ownTypes] at hown

/-! ## Types of another kind -/

/-- Whatever stands for a value is of its kind, or both are numbers. -/
theorem StandsFor.kind (h : StandsFor t v w) (hw : t ∈ w.ownTypes) :
    t ∈ v.ownTypes ∨ (∃ n x, v = .int n ∧ w = .float x ∧ x.value? = some (n.toInt : ℚ)) ∨
      ∃ x n, v = .float x ∧ w = .int n ∧ x.value? = some (n.toInt : ℚ) := by
  cases h with
  | same v => exact .inl hw
  -- two values with one number are of one kind, unless one is an integer and the other a double
  | @number v w r hv hw' =>
      cases v with
      | int n =>
          cases hv
          cases w with
          | int m => exact .inl hw
          | float x => exact .inr (.inl ⟨n, x, rfl, rfl, hw'⟩)
          | _ => cases hw'
      | float x =>
          cases w with
          | int n =>
              cases hw'
              exact .inr (.inr ⟨x, n, rfl, rfl, hv⟩)
          | float y => exact .inl hw
          | _ => cases hw'
      | _ => cases hv
  | rounded _ _ _ _ _ => exact .inl hw
  | notANumber _ _ _ => exact .inl hw
  | micros _ _ _ => exact .inl hw

/-- Octets of a double, read as an integer. -/
theorem decode?_int8_encodeDouble (x : Binary64) : ScalarType.int8.decode? (encodeDouble x) =
    some (.int (.ofInt ((x.bits.toNat : Int).bmod (2 ^ 64)))) := by
  have hlt : x.bits.toNat < 256 ^ 8 := x.bits.toNat_lt
  have hlength : (encodeDouble x).length = 8 := Octets.length_bigEndian _ _
  -- eight octets hold all bits of the double, which are read as two's complement
  have hread : Octets.ofSignedBigEndian (encodeDouble x) = (x.bits.toNat : Int).bmod (2 ^ 64) := by
    rw [Octets.ofSignedBigEndian, hlength, encodeDouble, Octets.ofBigEndian_bigEndian_of_lt hlt]
    rfl
  rw [ScalarType.decode?, Octets.int?, if_pos hlength, hread]
  rfl

theorem toInt_ofInt_bmod (n : Int) : (Int64.ofInt (n.bmod (2 ^ 64))).toInt = n.bmod (2 ^ 64) := by
  rw [Int64.toInt_ofInt]
  exact Int.bmod_bmod

/-- An integer stands for a double of which it has the bits only if both are zero. -/
theorem stands_int8_iff {x : Binary64} (h : ScalarType.int8.decode? (encodeDouble x) = some w) :
    StandsFor .int8 (.float x) w ↔ x = ⟨0⟩ := by
  rw [decode?_int8_encodeDouble, Option.some.injEq] at h
  subst h
  constructor
  -- `w` is an integer, so it stands for the double only by having the same number
  · intro hstands
    rcases hstands.kind (by simp [ownTypes]) with hown | ⟨n, y, hv, _⟩ | ⟨y, n, hv, hw, hvalue⟩
    · simp [ownTypes] at hown
    · cases hv
    · cases hv
      rcases Value.int.inj hw
      rw [toInt_ofInt_bmod] at hvalue
      exact Binary64.eq_zero_of_value?_eq_bits hvalue
  · rintro rfl
    have hzero : (⟨0⟩ : Binary64).value? = some 0 := by
      have hpattern : (⟨0⟩ : Binary64).pattern = 0 := by decide
      rw [Binary64.value?, if_pos (by decide), if_neg (by decide), hpattern,
        BinaryFormat.magnitude_zero]
    have hbits : Int64.ofInt (((⟨0⟩ : Binary64).bits.toNat : Int).bmod (2 ^ 64)) = 0 := by decide
    rw [hbits]
    exact .number hzero (by simp [number?])

/-- **When a value is taken for what it is.** What is read of the octets of a value at a type, if
anything is, stands for the value if the type is of the value's kind; or if an integer that is the
number of some double is sent as FLOAT8; or if zero is sent as INT8 with the bits of a double; and
never else. -/
theorem sent_stands_iff (ht : t ∈ ScalarType.parameters)
    (hsent : v.encode (.scalar t) = .ok (some octets))
    (hread : (WireType.scalar t).decode (some octets) = .ok w) :
    StandsFor t v w ↔ t ∈ v.ownTypes ∨
      (t = .float8 ∧ ∃ n, ∃ x : Binary64, v = .int n ∧ x.value? = some (n.toInt : ℚ)) ∨
      (t = .int8 ∧ v = .float ⟨0⟩) := by
  have hoctets : t.decode? octets = some w := ScalarType.decode?_of_decode hread
  have hkind : t ∈ w.ownTypes := ScalarType.mem_ownTypes_of_decode? ht hoctets
  constructor
  -- what is read is of the type's kind, so only the pairs of an integer and a double are left
  · intro hstands
    rcases hstands.kind hkind with hown | ⟨n, x, rfl, rfl, hvalue⟩ | ⟨x, n, rfl, rfl, hvalue⟩
    · exact .inl hown
    · simp only [ownTypes, List.mem_cons, List.not_mem_nil, or_false] at hkind
      rcases hkind with rfl | rfl
      · -- eight octets are not read as four
        cases hsent
        simp [ScalarType.decode?] at hoctets
      · exact .inr (.inl ⟨rfl, n, x, rfl, hvalue⟩)
    · simp only [ownTypes, List.mem_cons, List.not_mem_nil, or_false] at hkind
      rcases hkind with rfl | rfl | rfl
      · cases hsent
        simp [ScalarType.decode?, Octets.int?, encodeDouble] at hoctets
      · cases hsent
        simp [ScalarType.decode?, Octets.int?, encodeDouble] at hoctets
      · cases hsent
        rcases (stands_int8_iff hoctets).1 hstands
        exact .inr (.inr ⟨rfl, rfl⟩)
  · rintro (hown | ⟨rfl, n, x, rfl, hvalue⟩ | ⟨rfl, rfl⟩)
    · exact stands_of_mem_ownTypes hown hsent hoctets
    · cases hsent
      rw [decode?_encodeDouble] at hoctets
      cases hoctets
      exact .number rfl (Binary64.value?_ofInt hvalue)
    · cases hsent
      exact (stands_int8_iff hoctets).2 rfl

theorem sent_stands_iff_three :
    (Value.int 3).encode (.scalar .float8) = .ok (some (encodeDouble (.ofInt 3))) ∧
      (WireType.scalar .float8).decode (some (encodeDouble (.ofInt 3))) = .ok (.float (.ofInt 3)) ∧
      StandsFor .float8 (.int 3) (.float (.ofInt 3)) := by
  have hsent : (Value.int 3).encode (.scalar .float8) = .ok (some (encodeDouble (.ofInt 3))) := rfl
  have hread :
      (WireType.scalar .float8).decode (some (encodeDouble (.ofInt 3))) = .ok (.float (.ofInt 3)) :=
    decode_of_octets (by decide) (decode?_encodeDouble _)
  have hvalue : (Binary64.ofInt 3).value? = some (((3 : Int64).toInt : Int) : ℚ) := by
    have hratio : binary64.ratio (Binary64.ofInt 3).pattern = (3 * 2 ^ 51, 2 ^ 51) := by decide
    have hthree : (3 : Int64).toInt = 3 := by decide
    rw [Binary64.value?, if_pos (by decide), if_neg (by decide), ← BinaryFormat.ratio_eq_magnitude,
      hratio, hthree]
    norm_num
  exact ⟨hsent, hread,
    (sent_stands_iff (by decide) hsent hread).2 (.inr (.inl ⟨rfl, 3, .ofInt 3, rfl, hvalue⟩))⟩

/-- The number one is sent as INT8 with the bits of a double, and an integer between two doubles is
sent as FLOAT8: both are read as other numbers. -/
theorem one_misread :
    (∃ octets, (Value.float (.ofInt 1)).encode (.scalar .int8) = .ok (some octets) ∧
      (WireType.scalar .int8).decode (some octets) = .ok (.int 4607182418800017408) ∧
      ¬ StandsFor .int8 (.float (.ofInt 1)) (.int 4607182418800017408)) ∧
    ∃ octets w, (Value.int 9007199254740993).encode (.scalar .float8) = .ok (some octets) ∧
      (WireType.scalar .float8).decode (some octets) = .ok w ∧
      w.number? = some 9007199254740992 ∧ ¬ StandsFor .float8 (.int 9007199254740993) w := by
  refine ⟨?double, ?integer⟩
  case double =>
    have hbits :
        ScalarType.int8.decode? (encodeDouble (.ofInt 1)) = some (.int 4607182418800017408) := by
      have hint : Int64.ofInt (((Binary64.ofInt 1).bits.toNat : Int).bmod (2 ^ 64)) =
          4607182418800017408 := by decide
      rw [decode?_int8_encodeDouble, hint]
    refine ⟨_, rfl, decode_of_octets (by decide) hbits, ?_⟩
    rw [stands_int8_iff hbits]
    decide
  case integer =>
    let x : Binary64 := .ofInt 9007199254740993
    have hvalue : x.value? = some 9007199254740992 := by
      have hratio : binary64.ratio x.pattern = (2 ^ 53, 1) := by decide
      rw [Binary64.value?, if_pos (by decide), if_neg (by decide),
        ← BinaryFormat.ratio_eq_magnitude, hratio]
      norm_num
    refine ⟨_, .float x, rfl, decode_of_octets (by decide) (decode?_encodeDouble _), hvalue, ?_⟩
    intro hstands
    rcases hstands.kind (by simp [ownTypes]) with hown | ⟨n, y, hv, hw, hy⟩ | ⟨_, _, hv, _⟩
    · simp [ownTypes] at hown
    · rcases Value.int.inj hv
      rcases Value.float.inj hw
      have hsent : (9007199254740993 : Int64).toInt = 9007199254740993 := by decide
      rw [hvalue, Option.some.injEq, hsent] at hy
      norm_num at hy
    · cases hv

end Value
end ParamSql
