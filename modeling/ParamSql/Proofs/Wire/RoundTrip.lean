import ParamSql.Proofs.Number.Precision
import ParamSql.Proofs.Wire.Octets

/-!
# RoundTrip — what is sent comes back

A value that is sent as a type of its own and read as a column of that type is the same value again.
Only leap seconds are not: they are read as the seconds behind them.

* `ScalarType.parameters` — the types of scalar parameters;
* `Value.Matches` — a value with a type of its own, which can hold it exactly;
* `Value.Overflows` — an integer beyond the type as which it is sent;
* `Value.round_trips` — it comes back, and no other value cannot be sent;
* `Value.leap_second_moved` — a leap second that does not come back.
-/

namespace ParamSql

/-- The types of scalar parameters. -/
def ScalarType.parameters : List ScalarType :=
  [.bool, .int2, .int4, .int8, .float4, .float8, .text, .varchar, .bytea, .uuid, .timestamp,
    .timestamptz]

namespace Value

/-- The type is one of the value's own, and holds it exactly unless it is an integer beyond the
type. -/
inductive Matches : Value → ScalarType → Prop
  | null {t : ScalarType} : t ∈ ScalarType.parameters → Matches .null t
  | bool (b : Bool) : Matches (.bool b) .bool
  | int {t : ScalarType} (n : Int64) : t ∈ [ScalarType.int2, .int4, .int8] → Matches (.int n) t
  | double (x : Binary64) : Matches (.float x) .float8
  | single {x : Binary64} : x.IsSingle → Matches (.float x) .float4
  | text {t : ScalarType} (s : String) : t ∈ [ScalarType.text, .varchar] → Matches (.text s) t
  | bytes (octets : List UInt8) : Matches (.bytes octets) .bytea
  | uuid (u : Uuid) : Matches (.uuid u) .uuid
  /-- Nothing below a microsecond is sent, and leap seconds have no microseconds of their own. -/
  | timestamp {t : ScalarType} {time : Instant} : t ∈ [ScalarType.timestamp, .timestamptz] →
      time.nanos % 1000 = 0 → time.isLeap = false → Matches (.timestamp time) t

/-- The value is an integer beyond a type of so many octets. -/
def Exceeds (width : Nat) (n : Int64) : Prop :=
  n.toInt < -(2 ^ (8 * width - 1)) ∨ 2 ^ (8 * width - 1) ≤ n.toInt

/-- The value is an integer beyond the type. -/
def Overflows (t : WireType) : Value → Prop
  | .int n => (t = .scalar .int2 ∧ Exceeds 2 n) ∨ (t = .scalar .int4 ∧ Exceeds 4 n)
  | _ => False

/-! ## Integers -/

theorem not_exceeds_iff {width : Nat} {n : Int64} :
    ¬ Exceeds width n ↔ -(2 ^ (8 * width - 1)) ≤ n.toInt ∧ n.toInt < 2 ^ (8 * width - 1) := by
  rw [Exceeds, not_or, Int.not_lt, Int.not_le]

theorem encodeInt_of_exceeds {width : Nat} {n : Int64} (h : Exceeds width n) :
    encodeInt width n.toInt = .error .outOfRange := by
  rw [encodeInt, if_neg]
  simp only [Nat.pow_eq, Bool.and_eq_true, decide_eq_true_eq]
  push_cast
  rintro ⟨hlow, hhigh⟩
  rcases h with h | h <;> omega

theorem encodeInt_of_not_exceeds {width : Nat} {n : Int64} (h : ¬ Exceeds width n) :
    encodeInt width n.toInt = .ok (Octets.signedBigEndian width n.toInt) := by
  rw [encodeInt, if_pos]
  simp only [Nat.pow_eq, Bool.and_eq_true, decide_eq_true_eq]
  push_cast
  exact not_exceeds_iff.1 h

theorem int?_of_not_exceeds {width : Nat} {n : Int64} (hwidth : 0 < width) (h : ¬ Exceeds width n) :
    Octets.int? width (Octets.signedBigEndian width n.toInt) = some n := by
  obtain ⟨hlow, hhigh⟩ := not_exceeds_iff.1 h
  rw [Octets.int?_signedBigEndian hwidth hlow hhigh, Int64.ofInt_toInt]

theorem not_exceeds_eight (n : Int64) : ¬ Exceeds 8 n :=
  not_exceeds_iff.2 ⟨n.le_toInt, n.toInt_lt⟩

/-! ## Numbers in double and single precision -/

theorem decode?_encodeDouble (x : Binary64) :
    ScalarType.float8.decode? (encodeDouble x) = some (.float x) := by
  have hlt : x.bits.toNat < 256 ^ 8 := x.bits.toNat_lt
  rw [ScalarType.decode?, encodeDouble, if_pos (Octets.length_bigEndian _ _),
    Octets.ofBigEndian_bigEndian_of_lt hlt, UInt64.ofNat_toNat]

theorem decode?_encodeSingle (x : Binary64) :
    ScalarType.float4.decode? (encodeSingle x) = some (.float (.ofSingle x.toSingle)) := by
  have hlt : x.toSingle.toNat < 256 ^ 4 := x.toSingle.toNat_lt
  rw [ScalarType.decode?, encodeSingle, if_pos (Octets.length_bigEndian _ _),
    Octets.ofBigEndian_bigEndian_of_lt hlt, UInt32.ofNat_toNat]

/-! ## Instants -/

/-- The microseconds of an instant fit eight octets, so that they are what is read. -/
theorem decode?_micros {t : ScalarType} (ht : t ∈ [ScalarType.timestamp, .timestamptz])
    (time : Instant) :
    t.decode? (Octets.signedBigEndian 8 time.micros) =
      (Instant.ofMicros? time.micros).map .timestamp := by
  have hmicros : Octets.int? 8 (Octets.signedBigEndian 8 time.micros) = some (.ofInt time.micros) :=
    Octets.int?_signedBigEndian (by decide) time.micros_bounds.1 time.micros_bounds.2
  simp only [List.mem_cons, List.not_mem_nil, or_false] at ht
  rcases ht with rfl | rfl
  all_goals
    rw [ScalarType.decode?, hmicros, Option.bind_some,
      Int64.toInt_ofInt_of_le time.micros_bounds.1 time.micros_bounds.2]

/-- Whatever the type, an instant is sent by its microseconds. -/
theorem encode_timestamp (t : ScalarType) (time : Instant) :
    (Value.timestamp time).encode (.scalar t) =
      .ok (some (Octets.signedBigEndian 8 time.micros)) := by
  cases t <;> rfl

/-! ## Cells -/

theorem isReadable_of_parameters {t : ScalarType} (h : t ∈ ScalarType.parameters) :
    (WireType.scalar t).isReadable = true := by
  revert t
  decide

theorem decode_of_octets {t : ScalarType} (ht : t ∈ ScalarType.parameters) {octets : List UInt8}
    {v : Value} (h : t.decode? octets = some v) :
    (WireType.scalar t).decode (some octets) = .ok v := by
  simp [WireType.decode, isReadable_of_parameters ht, WireType.decodeOctets?, h]

theorem Matches.mem_parameters {v : Value} {t : ScalarType} (h : v.Matches t) :
    t ∈ ScalarType.parameters := by
  cases h with
  | null ht => exact ht
  | int n ht =>
      exact (by decide : ∀ t ∈ [ScalarType.int2, .int4, .int8], t ∈ ScalarType.parameters) _ ht
  | text s ht =>
      exact (by decide : ∀ t ∈ [ScalarType.text, .varchar], t ∈ ScalarType.parameters) _ ht
  | timestamp ht _ _ =>
      exact (by decide : ∀ t ∈ [ScalarType.timestamp, .timestamptz], t ∈ ScalarType.parameters) _ ht
  | _ => decide

/-- The octets of a value that is no null, and what is read of them. -/
theorem Matches.exists_octets {v : Value} {t : ScalarType} (h : v.Matches t) (hnull : v ≠ .null)
    (hfits : ¬ v.Overflows (.scalar t)) :
    ∃ octets, v.encode (.scalar t) = .ok (some octets) ∧ t.decode? octets = some v := by
  cases h with
  | null _ => exact absurd rfl hnull
  | bool b => exact ⟨_, rfl, by cases b <;> rfl⟩
  | int n ht =>
      simp only [List.mem_cons, List.not_mem_nil, or_false] at ht
      simp only [Overflows, WireType.scalar.injEq, not_or, not_and] at hfits
      -- the two narrow types hold an integer that does not exceed them, and the widest one holds
      -- all
      rcases ht with rfl | rfl | rfl
      · have hint2 := hfits.1 rfl
        refine ⟨_, by rw [encode, encodeInt_of_not_exceeds hint2]; rfl, ?_⟩
        rw [ScalarType.decode?, int?_of_not_exceeds (by decide) hint2]
        rfl
      · have hint4 := hfits.2 rfl
        refine ⟨_, by rw [encode, encodeInt_of_not_exceeds hint4]; rfl, ?_⟩
        rw [ScalarType.decode?, int?_of_not_exceeds (by decide) hint4]
        rfl
      · refine ⟨_, rfl, ?_⟩
        rw [ScalarType.decode?, int?_of_not_exceeds (by decide) (not_exceeds_eight n)]
        rfl
  | double x => exact ⟨_, rfl, decode?_encodeDouble x⟩
  | @single x hx =>
      refine ⟨_, rfl, ?_⟩
      rw [decode?_encodeSingle, Binary64.ofSingle_toSingle hx]
  | text s ht =>
      simp only [List.mem_cons, List.not_mem_nil, or_false] at ht
      rcases ht with rfl | rfl
      all_goals
        refine ⟨_, rfl, ?_⟩
        rw [ScalarType.decode?, Octets.ofUtf8?_utf8]
        rfl
  | bytes octets => exact ⟨octets, rfl, rfl⟩
  | uuid u =>
      refine ⟨_, rfl, ?_⟩
      rw [ScalarType.decode?, u.ofOctets?_octets]
      rfl
  | @timestamp t time ht hwhole hleap =>
      have hread : t.decode? (Octets.signedBigEndian 8 time.micros) = some (.timestamp time) := by
        rw [decode?_micros ht, Instant.ofMicros?_micros_of_not_leap hwhole hleap, Option.map_some]
      exact ⟨_, encode_timestamp t time, hread⟩

/-- The width of an integer type decides whether an integer is refused. -/
theorem exists_error_encodeInt_iff (width : Nat) (n : Int64) :
    (∃ e, (encodeInt width n.toInt).map some = .error e) ↔ Exceeds width n := by
  by_cases h : Exceeds width n
  · exact iff_of_true ⟨.outOfRange, by rw [encodeInt_of_exceeds h]; rfl⟩ h
  · refine iff_of_false ?_ h
    rw [encodeInt_of_not_exceeds h]
    rintro ⟨e, he⟩
    cases he

/-- Integers beyond the type are refused, and nothing else is but arrays. -/
theorem encode_eq_error_iff {v : Value} (hv : ∀ items, v ≠ .array items) (t : WireType) :
    (∃ e, v.encode t = .error e) ↔ v.Overflows t := by
  cases v with
  | int n =>
      -- only INT2 and INT4 are narrower than an integer
      by_cases hint2 : t = .scalar .int2
      · subst hint2
        simpa [Overflows, encode] using exists_error_encodeInt_iff 2 n
      · by_cases hint4 : t = .scalar .int4
        · subst hint4
          simpa [Overflows, encode] using exists_error_encodeInt_iff 4 n
        · have hsent : ∃ octets, (Value.int n).encode t = .ok octets := by
            rcases t with t | element
            · cases t <;> first | exact ⟨_, rfl⟩ | contradiction
            · exact ⟨_, rfl⟩
          rcases hsent with ⟨octets, hsent⟩
          simp [hsent, Overflows, hint2, hint4]
  | float x =>
      have hsent : ∃ octets, (Value.float x).encode t = .ok octets := by
        rcases t with t | element
        · cases t <;> exact ⟨_, rfl⟩
        · exact ⟨_, rfl⟩
      rcases hsent with ⟨octets, hsent⟩
      simp [hsent, Overflows]
  | array items => exact absurd rfl (hv items)
  | _ => simp [encode, Overflows]

theorem Matches.ne_array {v : Value} {t : ScalarType} (h : v.Matches t) (items : List Value) :
    v ≠ .array items := by
  rintro rfl
  cases h

/-- A value that has been sent is no integer beyond the type. -/
theorem Matches.not_overflows {v : Value} {t : ScalarType} (h : v.Matches t)
    {cell : Option (List UInt8)} (hsent : v.encode (.scalar t) = .ok cell) :
    ¬ v.Overflows (.scalar t) := by
  intro hoverflows
  obtain ⟨e, he⟩ := (encode_eq_error_iff h.ne_array _).2 hoverflows
  rw [hsent] at he
  cases he

/-- The octets that have been sent of a value are read as the value. -/
theorem Matches.decode?_of_encode {v : Value} {t : ScalarType} (h : v.Matches t) (hnull : v ≠ .null)
    {cell : Option (List UInt8)} (hsent : v.encode (.scalar t) = .ok cell) :
    ∃ octets, cell = some octets ∧ t.decode? octets = some v := by
  obtain ⟨octets, hoctets, hread⟩ := h.exists_octets hnull (h.not_overflows hsent)
  exact ⟨octets, Except.ok.inj (hsent.symm.trans hoctets), hread⟩

/-- A leap second is sent as the second behind it, and is read as that, if it is in range. -/
theorem decode_leap_iff {t : ScalarType} (ht : t ∈ [ScalarType.timestamp, .timestamptz])
    {time : Instant} (hwhole : time.nanos % 1000 = 0) (hleap : time.isLeap = true) (v : Value) :
    (WireType.scalar t).decode (some (Octets.signedBigEndian 8 time.micros)) = .ok v ↔
      ∃ next, Instant.of? (time.seconds + 1) (time.nanos - 1000000000) = some next ∧
        v = .timestamp next := by
  have hread : t.decode? (Octets.signedBigEndian 8 time.micros) =
      (Instant.of? (time.seconds + 1) (time.nanos - 1000000000)).map .timestamp := by
    rw [decode?_micros ht, Instant.ofMicros?_micros_of_leap hwhole hleap]
  have hparameter : t ∈ ScalarType.parameters :=
    (by decide : ∀ t ∈ [ScalarType.timestamp, .timestamptz], t ∈ ScalarType.parameters) t ht
  cases hnext : Instant.of? (time.seconds + 1) (time.nanos - 1000000000) with
  | none =>
      rw [hnext] at hread
      simp [WireType.decode, isReadable_of_parameters hparameter, WireType.decodeOctets?, hread]
  | some next =>
      rw [hnext] at hread
      rw [decode_of_octets hparameter hread]
      simp [eq_comm]

/-- **Scalar parameters come back.** A value that is sent as one of its own types, and is no integer
beyond it, is sent, and what is read of it as a column of that type is the same value: bit for bit
in double precision, and in single precision if it has a pattern there. Whatever the type, a value
that is no array cannot be sent just if it is an integer beyond INT2 or INT4. A leap second of whole
microseconds is sent as well, but is read as the instant in the second behind it, or as nothing if
that is out of range. -/
theorem round_trips :
    (∀ (v : Value) (t : ScalarType), v.Matches t → ¬ v.Overflows (.scalar t) →
      ∃ cell, v.encode (.scalar t) = .ok cell ∧ (WireType.scalar t).decode cell = .ok v) ∧
    (∀ (v : Value) (t : WireType), (∀ items, v ≠ .array items) →
      ((∃ e, v.encode t = .error e) ↔ v.Overflows t)) ∧
    ∀ (time : Instant) (t : ScalarType), t ∈ [ScalarType.timestamp, .timestamptz] →
      time.nanos % 1000 = 0 → time.isLeap = true →
      ∃ cell, (Value.timestamp time).encode (.scalar t) = .ok cell ∧
        ∀ v, (WireType.scalar t).decode cell = .ok v ↔
          ∃ next, Instant.of? (time.seconds + 1) (time.nanos - 1000000000) = some next ∧
            v = .timestamp next := by
  refine ⟨fun v t hmatches hfits => ?comes, fun v t hv => encode_eq_error_iff hv t,
    fun time t ht hwhole hleap => ?leap⟩
  case comes =>
    -- a null has no octets, and is read back from there being none
    by_cases hnull : v = .null
    · subst hnull
      refine ⟨none, rfl, ?_⟩
      simp [WireType.decode, isReadable_of_parameters hmatches.mem_parameters]
    · rcases hmatches.exists_octets hnull hfits with ⟨octets, hsent, hread⟩
      exact ⟨some octets, hsent, decode_of_octets hmatches.mem_parameters hread⟩
  case leap => exact ⟨_, encode_timestamp t time, decode_leap_iff ht hwhole hleap⟩

/-- The leap second at the end of 2016. -/
def lastLeapSecond : Instant :=
  ⟨1483228799, 1000000000, by decide, by decide, by decide⟩

/-- The first second of 2017. -/
def afterLeapSecond : Instant :=
  ⟨1483228800, 0, by decide, by decide, by decide⟩

theorem round_trips_lowest :
    (∃ cell, (Value.int (-32768)).encode (.scalar .int2) = .ok cell ∧
      (WireType.scalar .int2).decode cell = .ok (.int (-32768))) ∧
    (∃ cell, (Value.float (.ofInt (-3))).encode (.scalar .float4) = .ok cell ∧
      (WireType.scalar .float4).decode cell = .ok (.float (.ofInt (-3)))) ∧
    (∃ e, (Value.int (-32769)).encode (.scalar .int2) = .error e) ∧
    ∃ cell, (Value.timestamp lastLeapSecond).encode (.scalar .timestamp) = .ok cell ∧
      (WireType.scalar .timestamp).decode cell = .ok (.timestamp afterLeapSecond) := by
  refine ⟨round_trips.1 _ _ (.int _ (by decide)) ?int, round_trips.1 _ _ (.single ?single) id,
    (round_trips.2.1 _ _ (by simp)).2 ?overflow, ?leap⟩
  case int =>
    simp only [Overflows, Exceeds]
    decide
  case single =>
    refine ⟨0x40400000, .inl ⟨by decide, by decide, ?_⟩⟩
    rw [← BinaryFormat.ratio_eq_magnitude, ← BinaryFormat.ratio_eq_magnitude]
    have hdouble : binary64.ratio (Binary64.ofInt (-3)).pattern = (3 * 2 ^ 51, 2 ^ 51) := by decide
    have hsingle : binary32.ratio 0x40400000 = (3 * 2 ^ 22, 2 ^ 22) := by decide
    rw [hdouble, hsingle]
    norm_num
  case overflow =>
    simp only [Overflows, Exceeds]
    decide
  case leap =>
    obtain ⟨cell, hsent, hread⟩ := round_trips.2.2 lastLeapSecond .timestamp (by decide) (by decide)
      (by decide)
    exact ⟨cell, hsent, (hread _).2 ⟨afterLeapSecond, by decide, rfl⟩⟩

/-- The leap second has whole microseconds, and does not come back: what is read of it is the second
behind it. -/
theorem leap_second_moved :
    lastLeapSecond.nanos % 1000 = 0 ∧
      ∃ cell, (Value.timestamp lastLeapSecond).encode (.scalar .timestamptz) = .ok cell ∧
        (WireType.scalar .timestamptz).decode cell = .ok (.timestamp afterLeapSecond) ∧
        Value.timestamp afterLeapSecond ≠ .timestamp lastLeapSecond := by
  have hread : (WireType.scalar .timestamptz).decode
      (some (Octets.signedBigEndian 8 lastLeapSecond.micros)) = .ok (.timestamp afterLeapSecond) :=
    (decode_leap_iff (by decide) (by decide) (by decide) _).2 ⟨afterLeapSecond, by decide, rfl⟩
  refine ⟨by decide, _, encode_timestamp .timestamptz lastLeapSecond, hread, ?_⟩
  intro heq
  have hnanos : afterLeapSecond.nanos = lastLeapSecond.nanos :=
    congrArg Instant.nanos (Value.timestamp.inj heq)
  exact absurd hnanos (by decide)

end Value
end ParamSql
