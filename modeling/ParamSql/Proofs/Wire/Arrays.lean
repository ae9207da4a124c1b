import ParamSql.Proofs.Wire.RoundTrip

/-!
# Arrays — what is sent of an array and what is read of it

An array is sent with a length for itself and one for each of its items, and a null among them has a
length below zero.  Nulls are not read: an array that has one is sent and cannot be read.

* `decodeArray?_encodeArray` — the items are read one by one, whatever they are;
* `encodeAll_eq_ok_iff` — the items are sent one by one;
* `ScalarType.elements`, `Value.HaveLengths` — the types whose arrays can be read, and the arrays
  that have lengths;
* `Value.arrays_come_back_iff` — an array of such a type comes back just if there is no null in it.
-/

namespace ParamSql

/-! ## Lengths -/

namespace Octets

theorem take?_append {width : Nat} {head : List UInt8} (h : head.length = width)
    (rest : List UInt8) :
    take? width (head ++ rest) = some (head, rest) := by
  subst h
  simp [take?]

/-- A length is read back, and so is the one of a null. -/
theorem takeInt?_signedBigEndian {n : Int} (hlow : -1 ≤ n) (hhigh : n < 2 ^ 31)
    (rest : List UInt8) :
    takeInt? 4 (signedBigEndian 4 n ++ rest) = some (n, rest) := by
  have hexact : n.bmod (256 ^ 4) = n := Int.bmod_eq_of_le (by omega) (by omega)
  rw [takeInt?, take?_append (length_signedBigEndian 4 n), Option.map_some]
  simp only [ofSignedBigEndian_signedBigEndian, hexact]

end Octets

theorem isLength_iff {size : Nat} : isLength size = true ↔ size < 2 ^ 31 := by
  simp [isLength]

/-! ## Items -/

section Items

variable {element : ScalarType} {cell : Option (List UInt8)} {cells : List (Option (List UInt8))}

/-- The first of some items; it is not read if it is a null. -/
theorem decodeItems?_encodeItem (hlength : ∀ octets ∈ cell, octets.length < 2 ^ 31) (n : Nat)
    (rest : List UInt8) :
    decodeItems? element (n + 1) (encodeItem cell ++ rest) =
      (cell.bind element.decode?).bind fun v => (decodeItems? element n rest).map (v :: ·) := by
  -- a null has the length -1, which is no length of octets, and nothing behind it
  cases cell with
  | none =>
      rw [encodeItem, decodeItems?, Octets.takeInt?_signedBigEndian (by omega) (by omega)]
      rfl
  | some octets =>
      have hsize : (octets.length : Int) < 2 ^ 31 := by exact_mod_cast hlength octets rfl
      rw [encodeItem, List.append_assoc, decodeItems?,
        Octets.takeInt?_signedBigEndian (by omega) hsize]
      simp [Octets.take?_append, guard, Option.map_eq_bind]

/-- Items are read one by one. -/
theorem decodeItems?_flatMap (hlengths : ∀ octets, some octets ∈ cells → octets.length < 2 ^ 31) :
    decodeItems? element cells.length (cells.flatMap encodeItem) =
      cells.mapM fun cell => cell.bind element.decode? := by
  induction cells with
  | nil => rfl
  | cons cell cells ih =>
      have hfirst : ∀ octets ∈ cell, octets.length < 2 ^ 31 := by
        rintro octets rfl
        exact hlengths octets List.mem_cons_self
      have hrest := ih fun octets hoctets => hlengths octets (List.mem_cons_of_mem cell hoctets)
      rw [List.length_cons, List.flatMap_cons, decodeItems?_encodeItem hfirst, hrest,
        List.mapM_cons]
      simp [Option.map_eq_bind]

theorem encodeArray_eq_ok {octets : List UInt8} (h : encodeArray element cells = .ok octets) :
    octets = arrayHeader element cells ++ cells.flatMap encodeItem ∧ cells.length < 2 ^ 31 ∧
      ∀ octets, some octets ∈ cells → octets.length < 2 ^ 31 := by
  unfold encodeArray at h
  split at h
  · rename_i hlengths
    simp only [Bool.and_eq_true, List.all_eq_true, isLength_iff] at hlengths
    refine ⟨(Except.ok.inj h).symm, hlengths.1, fun octets hoctets => ?_⟩
    simpa [isLength_iff] using hlengths.2 _ hoctets
  · cases h

/-- The numbers before the items of an array, of which only the first one and the length count. -/
theorem decodeArray?_of_heads {octets flags number size lower rest : List UInt8}
    {flag type length low : Int} (hdimensions : Octets.takeInt? 4 octets = some (1, flags))
    (hflag : Octets.takeInt? 4 flags = some (flag, number))
    (htype : Octets.takeInt? 4 number = some (type, size))
    (hlength : Octets.takeInt? 4 size = some (length, lower))
    (hlow : Octets.takeInt? 4 lower = some (low, rest)) (hnonneg : 0 ≤ length) :
    decodeArray? element octets = decodeItems? element length.toNat rest := by
  rw [decodeArray?, hdimensions]
  simp [hflag, htype, hlength, hlow, hnonneg, guard]

theorem decodeArray?_arrayHeader (hlength : cells.length < 2 ^ 31) (rest : List UInt8) :
    decodeArray? element (arrayHeader element cells ++ rest) =
      decodeItems? element cells.length rest := by
  -- the dimensions and the lower bound are one, and the flag and the type are passed over
  have hone : ∀ rest, Octets.takeInt? 4 (Octets.signedBigEndian 4 1 ++ rest) = some (1, rest) :=
    fun rest => Octets.takeInt?_signedBigEndian (by omega) (by omega) rest
  have hpassed : ∀ head : List UInt8, head.length = 4 → ∀ rest,
      Octets.takeInt? 4 (head ++ rest) = some (Octets.ofSignedBigEndian head, rest) := by
    intro head hhead rest
    rw [Octets.takeInt?, Octets.take?_append hhead]
    rfl
  rw [arrayHeader]
  simp only [List.append_assoc]
  exact decodeArray?_of_heads (hone _) (hpassed _ (Octets.length_signedBigEndian 4 _) _)
    (hpassed _ (Octets.length_bigEndian 4 _) _)
    (Octets.takeInt?_signedBigEndian (by omega) (by exact_mod_cast hlength) _) (hone _) (by omega)

/-- The items of an array are read one by one. -/
theorem decodeArray?_encodeArray {octets : List UInt8}
    (h : encodeArray element cells = .ok octets) :
    decodeArray? element octets = cells.mapM fun cell => cell.bind element.decode? := by
  rcases encodeArray_eq_ok h with ⟨rfl, hlength, hlengths⟩
  rw [decodeArray?_arrayHeader hlength, decodeItems?_flatMap hlengths]

theorem exists_encodeArray_iff :
    (∃ octets, encodeArray element cells = .ok octets) ↔
      cells.length < 2 ^ 31 ∧ ∀ octets, some octets ∈ cells → octets.length < 2 ^ 31 := by
  constructor
  · rintro ⟨octets, h⟩
    exact (encodeArray_eq_ok h).2
  · rintro ⟨hlength, hlengths⟩
    have hall : (cells.all fun cell => cell.all fun octets => isLength octets.length) = true := by
      rw [List.all_eq_true]
      rintro (- | octets) hcell
      · rfl
      · exact isLength_iff.2 (hlengths octets hcell)
    refine ⟨arrayHeader element cells ++ cells.flatMap encodeItem, ?_⟩
    rw [encodeArray, isLength_iff.2 hlength, hall]
    rfl

end Items

/-! ## Sending -/

section Sending

variable {t : WireType} {items : List Value} {cells : List (Option (List UInt8))}

/-- Items are sent one by one. -/
theorem encodeAll_eq_ok_iff :
    encodeAll t items = .ok cells ↔
      List.Forall₂ (fun v cell => v.encode t = .ok cell) items cells := by
  induction items generalizing cells with
  | nil => cases cells <;> simp [encodeAll]
  | cons v items ih =>
      rw [encodeAll]
      -- if an item cannot be sent, nothing is, and no cells correspond to the items
      cases hfirst : v.encode t with
      | error e => cases cells <;> simp [hfirst, bind, Except.bind]
      | ok cell =>
          cases hrest : encodeAll t items with
          | error e =>
              cases cells with
              | nil => simp [bind, Except.bind]
              | cons cell' cells => simp [bind, Except.bind, ← ih, hrest]
          | ok others =>
              cases cells with
              | nil => simp [bind, Except.bind, pure, Except.pure]
              | cons cell' cells => simp [bind, Except.bind, pure, Except.pure, ← ih, hrest, hfirst]

theorem exists_encodeAll_iff :
    (∃ cells, encodeAll t items = .ok cells) ↔ ∀ v ∈ items, ∃ cell, v.encode t = .ok cell := by
  simp only [encodeAll_eq_ok_iff]
  induction items with
  | nil => simp
  | cons v items ih =>
      rw [List.forall_mem_cons, ← ih]
      constructor
      · rintro ⟨cells, h⟩
        cases h with
        | cons hfirst hrest => exact ⟨⟨_, hfirst⟩, _, hrest⟩
      · rintro ⟨⟨cell, hfirst⟩, cells, hrest⟩
        exact ⟨cell :: cells, .cons hfirst hrest⟩

end Sending

/-! ## Arrays -/

/-- The types whose arrays can be read. -/
def ScalarType.elements : List ScalarType :=
  [.int4, .int8, .text, .varchar]

namespace Value

/-- An array with such items has a length, and its texts have. -/
def HaveLengths (items : List Value) : Prop :=
  items.length < 2 ^ 31 ∧ ∀ s, .text s ∈ items → s.utf8ByteSize < 2 ^ 31

variable {element : ScalarType} {v : Value} {items : List Value}
  {cells : List (Option (List UInt8))}

theorem isReadable_of_elements (helement : element ∈ ScalarType.elements) :
    (WireType.array element).isReadable = true := by
  revert element
  decide

/-- What is read of a cell: nothing of a null, and any other item as it was. -/
def ReadAs (element : ScalarType) (v : Value) (cell : Option (List UInt8)) : Prop :=
  (cell.bind element.decode?) = if v.isNull then none else some v

/-- An item that has been sent is read as it was, or it is a null. -/
theorem Matches.readAs (h : v.Matches element) {cell : Option (List UInt8)}
    (hsent : v.encode (.scalar element) = .ok cell) : v.ReadAs element cell := by
  -- a null has no octets to be read
  by_cases hnull : v = .null
  · subst hnull
    cases hsent
    rfl
  · obtain ⟨octets, rfl, hread⟩ := h.decode?_of_encode hnull hsent
    have hv : v.isNull = false := by
      cases v <;> first | rfl | exact absurd rfl hnull
    rw [ReadAs, Option.bind_some, hread, hv]
    rfl

/-- Items are read as they were, unless there is a null among them. -/
theorem mapM_of_readAs (h : List.Forall₂ (ReadAs element) items cells) :
    (cells.mapM fun cell => cell.bind element.decode?) =
      if items.any isNull then none else some items := by
  -- the first null ends the reading, whatever is behind it
  induction h with
  | nil => rfl
  | @cons v cell items cells hfirst _ ih =>
      rw [List.mapM_cons, ih, hfirst, List.any_cons]
      cases v.isNull with
      | true => rfl
      | false => cases items.any isNull <;> rfl

theorem length_of_encodeInt {width : Nat} {n : Int} {octets : List UInt8}
    (h : encodeInt width n = .ok octets) : octets.length = width := by
  simp only [encodeInt] at h
  split at h
  · cases h
    exact Octets.length_signedBigEndian width n
  · cases h

/-- Only texts can be too long for a length. -/
theorem Matches.length_lt_iff (h : v.Matches element) (helement : element ∈ ScalarType.elements)
    {octets : List UInt8} (hsent : v.encode (.scalar element) = .ok (some octets)) :
    octets.length < 2 ^ 31 ↔ ∀ s, .text s = v → s.utf8ByteSize < 2 ^ 31 := by
  cases h with
  | null _ => cases hsent
  | int n ht =>
      -- an integer takes up as many octets as its type has
      have hwidth : octets.length = 4 ∨ octets.length = 8 := by
        simp only [ScalarType.elements, List.mem_cons, List.not_mem_nil, or_false] at ht helement
        rcases ht with rfl | rfl | rfl
        · simp at helement
        · rw [encode] at hsent
          cases hint : encodeInt 4 n.toInt with
          | error e =>
              rw [hint] at hsent
              cases hsent
          | ok octets' =>
              rw [hint] at hsent
              cases hsent
              exact .inl (length_of_encodeInt hint)
        · cases hsent
          exact .inr (Octets.length_signedBigEndian 8 _)
      refine iff_of_true ?_ (by simp)
      rcases hwidth with hwidth | hwidth <;> rw [hwidth] <;> decide
  | text s ht =>
      cases hsent
      have hlength : (Octets.utf8 s).length = s.utf8ByteSize := rfl
      simp [hlength]
  | bool | double | single | bytes | uuid => simp [ScalarType.elements] at helement
  | timestamp ht _ =>
      simp only [ScalarType.elements, List.mem_cons, List.not_mem_nil, or_false] at ht helement
      rcases ht with rfl | rfl <;> simp at helement

/-- What is sent of an array is what is sent of its items, behind the lengths. -/
theorem encode_array_eq_ok_iff {cell : Option (List UInt8)} :
    (Value.array items).encode (.array element) = .ok cell ↔
      ∃ cells octets, encodeAll (.scalar element) items = .ok cells ∧
        encodeArray element cells = .ok octets ∧ cell = some octets := by
  rw [encode]
  cases encodeAll (.scalar element) items with
  | error e => simp [bind, Except.bind]
  | ok cells =>
      cases hsent : encodeArray element cells with
      | error e => simp [bind, Except.bind, hsent, Except.map]
      | ok octets => simp [bind, Except.bind, hsent, Except.map, eq_comm]

/-- The length of an item that has been sent, which counts for texts only. -/
theorem Matches.lengths_iff (h : v.Matches element) (helement : element ∈ ScalarType.elements)
    {cell : Option (List UInt8)} (hsent : v.encode (.scalar element) = .ok cell) :
    (∀ octets, some octets = cell → octets.length < 2 ^ 31) ↔
      ∀ s, .text s = v → s.utf8ByteSize < 2 ^ 31 := by
  -- only a null is sent without octets, and it is no text
  cases cell with
  | none =>
      have hv : ∀ s, v ≠ .text s := by
        rintro s rfl
        cases hsent
      simp only [reduceCtorEq, false_implies, implies_true, true_iff]
      exact fun s hs => absurd hs.symm (hv s)
  | some octets =>
      simp only [Option.some.injEq, forall_eq]
      exact h.length_lt_iff helement hsent

/-- The lengths of items that have been sent are those of their texts. -/
theorem forall_lengths_iff (helement : element ∈ ScalarType.elements)
    (hitems : ∀ v ∈ items, v.Matches element)
    (hsent : encodeAll (.scalar element) items = .ok cells) :
    (∀ octets, some octets ∈ cells → octets.length < 2 ^ 31) ↔
      ∀ s, .text s ∈ items → s.utf8ByteSize < 2 ^ 31 := by
  rw [encodeAll_eq_ok_iff] at hsent
  induction hsent with
  | nil => simp
  | @cons v cell items cells hfirst _ ih =>
      rw [List.forall_mem_cons] at hitems
      have hlengths := hitems.1.lengths_iff helement hfirst
      simp only [List.mem_cons, or_imp, forall_and, ih hitems.2, hlengths]

/-- An array is sent just if all its items are, and if there are lengths for it and for them. -/
theorem exists_encode_array_iff (helement : element ∈ ScalarType.elements)
    (hitems : ∀ v ∈ items, v.Matches element) :
    (∃ octets, (Value.array items).encode (.array element) = .ok (some octets)) ↔
      (∀ v ∈ items, ¬ v.Overflows (.scalar element)) ∧ HaveLengths items := by
  -- the items are sent one by one, each unless it is beyond the type
  have hfits : (∃ cells, encodeAll (.scalar element) items = .ok cells) ↔
      ∀ v ∈ items, ¬ v.Overflows (.scalar element) := by
    rw [exists_encodeAll_iff]
    refine forall₂_congr fun v hv => ?_
    rw [← encode_eq_error_iff (hitems v hv).ne_array]
    cases v.encode (.scalar element) <;> simp
  -- and what has been sent has lengths exactly if the items have
  have hlengths : ∀ cells, encodeAll (.scalar element) items = .ok cells →
      ((∃ octets, encodeArray element cells = .ok octets) ↔ HaveLengths items) := by
    intro cells hsent
    have hsize : items.length = cells.length := (encodeAll_eq_ok_iff.1 hsent).length_eq
    rw [exists_encodeArray_iff, forall_lengths_iff helement hitems hsent, HaveLengths, hsize]
  rw [← hfits]
  constructor
  · rintro ⟨octets, h⟩
    rcases encode_array_eq_ok_iff.1 h with ⟨cells, sent, hsent, hlength, -⟩
    exact ⟨⟨cells, hsent⟩, (hlengths cells hsent).1 ⟨sent, hlength⟩⟩
  · rintro ⟨⟨cells, hsent⟩, h⟩
    rcases (hlengths cells hsent).2 h with ⟨octets, hlength⟩
    exact ⟨octets, encode_array_eq_ok_iff.2 ⟨cells, octets, hsent, hlength, rfl⟩⟩

/-- What is read of an array that has been sent: its items, or nothing if there is a null among
them. -/
theorem decode_of_encode_array (helement : element ∈ ScalarType.elements)
    (hitems : ∀ v ∈ items, v.Matches element) {cell : Option (List UInt8)}
    (h : (Value.array items).encode (.array element) = .ok cell) :
    (WireType.array element).decode cell =
      if items.any isNull then .error (.notOctets (WireType.array element).label)
      else .ok (.array items) := by
  rcases encode_array_eq_ok_iff.1 h with ⟨cells, octets, hsent, hoctets, rfl⟩
  rw [encodeAll_eq_ok_iff] at hsent
  -- cell by cell, what was sent is read as it was
  have hread : List.Forall₂ (ReadAs element) items cells := by
    refine (List.forall₂_iff_get.2 ⟨hsent.length_eq, fun i hi hi' => ?_⟩)
    exact (hitems _ (List.get_mem items _)).readAs (hsent.get hi hi')
  rw [WireType.decode, isReadable_of_elements helement, WireType.decodeOctets?,
    decodeArray?_encodeArray hoctets, mapM_of_readAs hread]
  cases items.any isNull <;> rfl

theorem any_isNull_iff : items.any isNull = true ↔ .null ∈ items := by
  rw [List.any_eq_true]
  constructor
  · rintro ⟨v, hv, hnull⟩
    cases v <;> first | exact hv | cases hnull
  · exact fun h => ⟨.null, h, rfl⟩

/-- **Arrays come back just if there is no null in them.** An array of integers or texts is sent as
an array of one of their own types just if none of them is an integer beyond the type, and if there
are lengths of 32 bits for it and for its texts. An array that has been sent is read as the same
array, of whatever length, if there is no null among its items; if there is one, it cannot be
read. -/
theorem arrays_come_back_iff (helement : element ∈ ScalarType.elements)
    (hitems : ∀ v ∈ items, v.Matches element) :
    ((∃ octets, (Value.array items).encode (.array element) = .ok (some octets)) ↔
      (∀ v ∈ items, ¬ v.Overflows (.scalar element)) ∧ HaveLengths items) ∧
    ∀ cell, (Value.array items).encode (.array element) = .ok cell →
      ((WireType.array element).decode cell = .ok (.array items) ↔ .null ∉ items) ∧
      (.null ∈ items →
        (WireType.array element).decode cell =
          .error (.notOctets (WireType.array element).label)) := by
  refine ⟨exists_encode_array_iff helement hitems, fun cell hsent => ?_⟩
  rw [decode_of_encode_array helement hitems hsent, ← any_isNull_iff]
  cases items.any isNull <;> simp

theorem arrays_come_back_iff_empty :
    (∃ octets,
      (Value.array [.int (-2147483648), .int 7]).encode (.array .int4) = .ok (some octets) ∧
      (WireType.array .int4).decode (some octets) = .ok (.array [.int (-2147483648), .int 7])) ∧
    ∃ octets, (Value.array []).encode (.array .text) = .ok (some octets) ∧
      (WireType.array .text).decode (some octets) = .ok (.array []) := by
  have hints : ∀ v ∈ [Value.int (-2147483648), .int 7], v.Matches .int4 := by
    simp only [List.forall_mem_cons]
    exact ⟨.int _ (by decide), .int _ (by decide), List.forall_mem_nil _⟩
  have hfit : ∀ v ∈ [Value.int (-2147483648), .int 7], ¬ v.Overflows (.scalar .int4) := by
    simp only [List.forall_mem_cons, Overflows, Exceeds]
    exact ⟨by decide, by decide, List.forall_mem_nil _⟩
  have hinteger := arrays_come_back_iff (by decide) hints
  have htexts : ∀ v ∈ ([] : List Value), v.Matches .text := List.forall_mem_nil _
  have htext := arrays_come_back_iff (by decide) htexts
  rcases hinteger.1.2 ⟨hfit, by decide, by simp⟩ with ⟨octets, hoctets⟩
  rcases htext.1.2 ⟨List.forall_mem_nil _, by decide, by simp⟩ with ⟨sent, hsent⟩
  exact ⟨⟨octets, hoctets, (hinteger.2 _ hoctets).1.2 (by simp)⟩,
    sent, hsent, (htext.2 _ hsent).1.2 (by simp)⟩

/-- A null among integers is sent, and what was sent is refused. -/
theorem null_item_refused :
    ∃ octets, (Value.array [.int 1, .null]).encode (.array .int4) = .ok (some octets) ∧
      (WireType.array .int4).decode (some octets) = .error (.notOctets "_int4") := by
  have hitems : ∀ v ∈ [Value.int 1, .null], v.Matches .int4 := by
    simp only [List.forall_mem_cons]
    exact ⟨.int _ (by decide), .null (by decide), List.forall_mem_nil _⟩
  have hfit : ∀ v ∈ [Value.int 1, .null], ¬ v.Overflows (.scalar .int4) := by
    simp only [List.forall_mem_cons, Overflows, Exceeds]
    exact ⟨by decide, id, List.forall_mem_nil _⟩
  rcases (exists_encode_array_iff (by decide) hitems).2 ⟨hfit, by decide, by simp⟩
    with ⟨octets, hsent⟩
  exact ⟨octets, hsent, decode_of_encode_array (by decide) hitems hsent⟩

end Value
end ParamSql
