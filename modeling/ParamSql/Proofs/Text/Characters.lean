import Mathlib.Data.List.Forall2
import ParamSql.Identifier

/-!
# Characters — what naming and quoting put into a text

Names are cut, lowered and quoted before they are written.  None of this brings in a `$`, and what
they are cut into are parts of them:

* `Text.mem_of_splitOn`, `Text.eq_of_splitLast?` — parts of a text have only characters of the text;
* `Text.sep_notMem_of_splitOn`, `Text.splitOn_append` — the separators are what is between them;
* `Text.dollar_notMem_snakeCase` — lower-case images and underscores are no `$`;
* `Identifier.dollar_notMem_quoted` — neither are quotes;
* `Path.exists_part`, `ColumnRef.parts_parse` — paths and references to columns are made of the
  parts of their texts;
* `ColumnRef.parse_dotted` — a column behind the last dot is taken from the table ahead of it.
-/

namespace ParamSql

/-! ## Parts of a text -/

namespace Text

/-- Something is made of all members of a list if it can be made of each of them. -/
theorem mapM_eq_ok_iff {ε α β : Type} {f : α → Except ε β} {as : List α} {bs : List β} :
    as.mapM f = .ok bs ↔ List.Forall₂ (fun a b => f a = .ok b) as bs := by
  induction as generalizing bs with
  | nil =>
      rw [List.forall₂_nil_left_iff]
      exact ⟨fun h => (Except.ok.inj h).symm, fun h => h ▸ rfl⟩
  | cons a as ih =>
      rw [List.mapM_cons, List.forall₂_cons_left_iff]
      cases ha : f a with
      | error e =>
          constructor
          · intro h
            cases h
          · rintro ⟨b, rest, hb, -, -⟩
            cases hb
      | ok b =>
          cases has : as.mapM f with
          | error e =>
              constructor
              · intro h
                cases h
              · rintro ⟨_, rest, -, hrest, -⟩
                rw [← ih, has] at hrest
                cases hrest
          | ok rest =>
              constructor
              · intro h
                cases h
                exact ⟨b, rest, rfl, ih.1 has, rfl⟩
              · rintro ⟨b', rest', hb, hrest, rfl⟩
                cases hb
                rw [← ih, has] at hrest
                cases hrest
                rfl

theorem exists_mapM_iff {ε α β : Type} {f : α → Except ε β} {as : List α} :
    (∃ bs, as.mapM f = .ok bs) ↔ ∀ a ∈ as, ∃ b, f a = .ok b := by
  simp only [mapM_eq_ok_iff]
  induction as with
  | nil => simp
  | cons a as ih =>
      rw [List.forall_mem_cons, ← ih]
      constructor
      · rintro ⟨bs, hbs⟩
        obtain ⟨b, rest, hb, hrest, -⟩ := List.forall₂_cons_left_iff.1 hbs
        exact ⟨⟨b, hb⟩, rest, hrest⟩
      · rintro ⟨⟨b, hb⟩, rest, hrest⟩
        exact ⟨b :: rest, .cons hb hrest⟩

theorem mem_of_splitOn {sep : Char} {cs part : List Char} (h : part ∈ splitOn sep cs) :
    ∀ c ∈ part, c ∈ cs := by
  induction cs generalizing part with
  | nil =>
      have hpart : part = [] := by simpa [splitOn] using h
      simp [hpart]
  | cons d cs ih =>
      intro c hc
      rw [splitOn] at h
      cases hsplit : splitOn sep cs with
      | nil =>
          have hpart : part = [d] := by simpa [hsplit] using h
          rw [hpart] at hc
          exact List.mem_cons.2 (.inl (List.mem_singleton.1 hc))
      | cons first parts =>
          simp only [hsplit] at h ih
          -- a separator opens another part, any other character joins the first one
          split at h
          · rcases List.mem_cons.1 h with rfl | hrest
            · cases hc
            · exact List.mem_cons_of_mem d (ih hrest c hc)
          · rcases List.mem_cons.1 h with rfl | hrest
            · rcases List.mem_cons.1 hc with rfl | hc
              · exact List.mem_cons_self
              · exact List.mem_cons_of_mem d (ih List.mem_cons_self c hc)
            · exact List.mem_cons_of_mem d (ih (List.mem_cons_of_mem first hrest) c hc)

theorem eq_of_splitLast? {sep : Char} {cs before behind : List Char}
    (h : splitLast? sep cs = some (before, behind)) : cs = before ++ sep :: behind := by
  induction cs generalizing before with
  | nil => cases h
  | cons d cs ih =>
      rw [splitLast?] at h
      cases hsplit : splitLast? sep cs with
      | none =>
          rw [hsplit] at h
          -- no separator is further behind, so that this one is the last
          by_cases hd : d = sep
          · obtain ⟨rfl, rfl⟩ : [] = before ∧ cs = behind := by simpa [hd] using h
            rw [hd, List.nil_append]
          · simp [hd] at h
      | some sides =>
          rcases sides with ⟨before', behind'⟩
          rw [hsplit] at h
          obtain ⟨rfl, rfl⟩ : d :: before' = before ∧ behind' = behind := by simpa using h
          rw [ih hsplit, List.cons_append]

theorem splitOn_ne_nil (sep : Char) (cs : List Char) : splitOn sep cs ≠ [] := by
  cases cs with
  | nil => simp [splitOn]
  | cons d cs =>
      rw [splitOn]
      split
      · simp
      · split <;> simp

/-- A character ahead of a text opens another part if it is the separator, and otherwise belongs to
the first part. -/
theorem splitOn_cons {sep d : Char} {cs part : List Char} {parts : List (List Char)}
    (h : splitOn sep cs = part :: parts) :
    splitOn sep (d :: cs) = if d = sep then [] :: part :: parts else (d :: part) :: parts := by
  rw [splitOn, h]

theorem sep_notMem_of_splitOn {sep : Char} {cs part : List Char} (h : part ∈ splitOn sep cs) :
    sep ∉ part := by
  induction cs generalizing part with
  | nil =>
      have hpart : part = [] := by simpa [splitOn] using h
      simp [hpart]
  | cons d cs ih =>
      rcases List.exists_cons_of_ne_nil (splitOn_ne_nil sep cs) with ⟨first, parts, hsplit⟩
      rw [splitOn_cons hsplit] at h
      rw [hsplit] at ih
      by_cases hd : d = sep
      · rw [if_pos hd] at h
        rcases List.mem_cons.1 h with rfl | hrest
        · simp
        · exact ih hrest
      · rw [if_neg hd] at h
        rcases List.mem_cons.1 h with rfl | hrest
        · simpa [Ne.symm hd] using ih List.mem_cons_self
        · exact ih (List.mem_cons_of_mem _ hrest)

/-- A text without separators is a single part. -/
theorem splitOn_of_notMem {sep : Char} {cs : List Char} (h : sep ∉ cs) : splitOn sep cs = [cs] := by
  induction cs with
  | nil => rfl
  | cons d cs ih =>
      obtain ⟨hd, hcs⟩ : sep ≠ d ∧ sep ∉ cs := by simpa using h
      rw [splitOn_cons (ih hcs), if_neg (Ne.symm hd)]

theorem splitOn_append (sep : Char) (cs ds : List Char) :
    splitOn sep (cs ++ sep :: ds) = splitOn sep cs ++ splitOn sep ds := by
  induction cs with
  | nil =>
      rcases List.exists_cons_of_ne_nil (splitOn_ne_nil sep ds) with ⟨part, parts, hsplit⟩
      rw [List.nil_append, splitOn_cons hsplit, if_pos rfl, hsplit]
      rfl
  | cons d cs ih =>
      rcases List.exists_cons_of_ne_nil (splitOn_ne_nil sep cs) with ⟨part, parts, hsplit⟩
      rw [hsplit] at ih
      rw [List.cons_append, splitOn_cons ih, splitOn_cons hsplit]
      split <;> rfl

theorem sep_notMem_of_splitLast? {sep : Char} {cs before behind : List Char}
    (h : splitLast? sep cs = some (before, behind)) : sep ∉ behind := by
  have hnone : ∀ cs : List Char, splitLast? sep cs = none → sep ∉ cs := by
    intro cs
    induction cs with
    | nil => simp
    | cons d cs ih =>
        intro hlast
        rw [splitLast?] at hlast
        cases hsplit : splitLast? sep cs with
        | some sides => simp [hsplit] at hlast
        | none =>
            have hd : d ≠ sep := by simpa [hsplit] using hlast
            simpa [Ne.symm hd] using ih hsplit
  induction cs generalizing before with
  | nil => cases h
  | cons d cs ih =>
      rw [splitLast?] at h
      cases hsplit : splitLast? sep cs with
      | none =>
          rw [hsplit] at h
          by_cases hd : d = sep
          · obtain ⟨-, rfl⟩ : [] = before ∧ cs = behind := by simpa [hd] using h
            exact hnone _ hsplit
          · simp [hd] at h
      | some sides =>
          rcases sides with ⟨before', behind'⟩
          rw [hsplit] at h
          obtain ⟨-, rfl⟩ : d :: before' = before ∧ behind' = behind := by simpa using h
          exact ih hsplit

theorem splitLast?_of_notMem {sep : Char} {cs : List Char} (h : sep ∉ cs) :
    splitLast? sep cs = none := by
  induction cs with
  | nil => rfl
  | cons d cs ih =>
      obtain ⟨hd, hcs⟩ : sep ≠ d ∧ sep ∉ cs := by simpa using h
      simp [splitLast?, ih hcs, Ne.symm hd]

/-- The last separator is the one that has none behind it. -/
theorem splitLast?_append {sep : Char} (before : List Char) {behind : List Char}
    (h : sep ∉ behind) :
    splitLast? sep (before ++ sep :: behind) = some (before, behind) := by
  induction before with
  | nil => simp [splitLast?, splitLast?_of_notMem h]
  | cons d before ih => simp [splitLast?, ih]

/-! ## Words -/

theorem mem_of_finishWord {word w : List Char} (h : w ∈ finishWord word) : ∀ c ∈ w, c ∈ word := by
  cases word with
  | nil => cases h
  | cons d ds =>
      intro c hc
      rw [List.mem_singleton.1 h] at hc
      exact List.mem_reverse.1 hc

theorem mem_of_wordsFrom {mode : WordMode} {word rest w : List Char}
    (h : w ∈ wordsFrom mode word rest) : ∀ c ∈ w, c ∈ word ∨ c ∈ rest := by
  induction rest generalizing mode word with
  | nil => exact fun c hc => .inl (mem_of_finishWord h c hc)
  | cons d rest ih =>
      intro c hc
      -- a word is finished here, or goes on with the rest of the text
      have hhere {ds : List Char} (hw : w ∈ finishWord ds) (hds : ∀ e ∈ ds, e ∈ word ∨ e = d) :
          c ∈ word ∨ c ∈ d :: rest :=
        (hds c (mem_of_finishWord hw c hc)).imp_right fun heq => List.mem_cons.2 (.inl heq)
      have hlater {mode' : WordMode} {ds : List Char} (hw : w ∈ wordsFrom mode' ds rest)
          (hds : ∀ e ∈ ds, e ∈ word ∨ e = d) : c ∈ word ∨ c ∈ d :: rest := by
        rcases ih hw c hc with hword | hrest
        · exact (hds c hword).imp_right fun heq => List.mem_cons.2 (.inl heq)
        · exact .inr (List.mem_cons_of_mem d hrest)
      have hgrown : ∀ e ∈ d :: word, e ∈ word ∨ e = d := fun e he => (List.mem_cons.1 he).symm
      rw [wordsFrom] at h
      dsimp only at h
      split at h
      · rcases List.mem_append.1 h with hw | hw
        · exact hhere hw fun e he => .inl he
        · exact hlater hw (by simp)
      · split at h
        · rcases List.mem_append.1 h with hw | hw
          · exact hhere hw hgrown
          · exact hlater hw (by simp)
        · split at h
          · rcases List.mem_append.1 h with hw | hw
            · exact hhere hw fun e he => .inl he
            · exact hlater hw fun e he => .inr (List.mem_singleton.1 he)
          · exact hlater h hgrown

/-! ## Case -/

theorem dollar_lt_target : ∀ s ∈ caseSpans, '$'.toNat < s.target := by
  decide +kernel

theorem eq_dollar_of_toLower : ∀ n < 128, (Char.ofNat n).toLower = '$' → n = '$'.toNat := by
  decide

theorem eq_dollar_of_ofNat {n : Nat} (h : Char.ofNat n = '$') : n = '$'.toNat := by
  by_cases hvalid : n.isValidChar
  · have hn : Char.ofNat n = Char.ofNatAux n hvalid := dif_pos hvalid
    exact congrArg Char.toNat (hn.symm.trans h)
  · -- what is no character is read as the null character
    have hnull : Char.ofNat n = '\x00' := dif_neg hvalid
    rw [hnull] at h
    cases h

theorem dollar_notMem_lowerCase {c : Char} (h : c ≠ '$') : '$' ∉ lowerCase c := by
  unfold lowerCase
  intro hmem
  -- ASCII by trial, and beyond it no image is as small as a `$`
  split at hmem
  case isTrue hascii =>
    have hlower : (Char.ofNat c.toNat).toLower = '$' := by
      rw [Char.ofNat_toNat]
      exact (List.mem_singleton.1 hmem).symm
    have hc := eq_dollar_of_toLower c.toNat hascii hlower
    exact h (by rw [← Char.ofNat_toNat c, hc, Char.ofNat_toNat])
  case isFalse =>
    split at hmem
    · revert hmem
      decide
    · split at hmem
      case h_1 s hs =>
        have htarget := dollar_lt_target s (List.mem_of_find?_eq_some hs)
        have himage := eq_dollar_of_ofNat (List.mem_singleton.1 hmem).symm
        omega
      case h_2 => exact h (List.mem_singleton.1 hmem).symm

theorem dollar_notMem_lowerWord {w : List Char} (h : '$' ∉ w) : '$' ∉ lowerWord w := by
  induction w with
  | nil => simp [lowerWord]
  | cons c cs ih =>
      obtain ⟨hc, hcs⟩ : '$' ≠ c ∧ '$' ∉ cs := by simpa using h
      have himage : '$' ∉ lowerCase c := dollar_notMem_lowerCase hc.symm
      cases cs with
      | nil =>
          rw [lowerWord]
          split
          · decide
          · exact himage
      | cons d ds =>
          rw [lowerWord, List.mem_append]
          · exact not_or.2 ⟨himage, ih hcs⟩
          · exact List.cons_ne_nil d ds

theorem mem_of_intercalate {c : Char} {sep : List Char} {parts : List (List Char)}
    (h : c ∈ sep.intercalate parts) : c ∈ sep ∨ ∃ part ∈ parts, c ∈ part := by
  induction parts with
  | nil => cases h
  | cons part parts ih =>
      cases parts with
      | nil => exact .inr ⟨part, by simp, by simpa [List.intercalate] using h⟩
      | cons next rest =>
          have hcases : c ∈ part ∨ c ∈ sep ∨ c ∈ sep.intercalate (next :: rest) := by
            simpa [List.intercalate] using h
          rcases hcases with hpart | hsep | hrest
          · exact .inr ⟨part, by simp, hpart⟩
          · exact .inl hsep
          · rcases ih hrest with hsep | ⟨other, hother, hc⟩
            · exact .inl hsep
            · exact .inr ⟨other, List.mem_cons_of_mem part hother, hc⟩

theorem dollar_notMem_snakeCase {s : String} (h : '$' ∉ s.toList) :
    '$' ∉ (snakeCase s).toList := by
  intro hmem
  rw [snakeCase, String.toList_intercalate] at hmem
  rcases mem_of_intercalate hmem with hsep | ⟨part, hpart, hc⟩
  · revert hsep
    decide
  · simp only [List.map_map, List.mem_map, Function.comp_apply, String.toList_ofList] at hpart
    rcases hpart with ⟨w, hw, rfl⟩
    refine dollar_notMem_lowerWord (fun hdollar => ?_) hc
    rcases mem_of_wordsFrom hw _ hdollar with hword | hrest
    · cases hword
    · exact h hrest

end Text

/-! ## Names -/

theorem Naming.dollar_notMem_physical (naming : Naming) {s : String} (h : '$' ∉ s.toList) :
    '$' ∉ (naming.physical s).toList := by
  cases naming with
  | verbatim => exact h
  | snakeCase => exact Text.dollar_notMem_snakeCase h

namespace Identifier

theorem text_of {s : String} {i : Identifier} (h : of s = .ok i) : i.text = s := by
  unfold of at h
  split at h
  · cases h
  · split at h
    · cases h
    · cases h
      rfl

/-- Quoting puts in nothing but quotes. -/
theorem notMem_escape {c : Char} (hquote : c ≠ '"') {cs : List Char} (h : c ∉ cs) :
    c ∉ escape cs := by
  induction cs with
  | nil => exact h
  | cons d cs ih =>
      obtain ⟨hd, hcs⟩ : c ≠ d ∧ c ∉ cs := by simpa using h
      rw [escape]
      split
      · simpa [hquote] using ih hcs
      · simpa [hd] using ih hcs

theorem notMem_quoted {c : Char} (hquote : c ≠ '"') {i : Identifier} (h : c ∉ i.text.toList) :
    c ∉ i.quoted.toList := by
  simpa [quoted, hquote] using notMem_escape hquote h

theorem dollar_notMem_quoted {i : Identifier} (h : '$' ∉ i.text.toList) :
    '$' ∉ i.quoted.toList :=
  notMem_quoted (by decide) h

end Identifier

/-- The names of a path are the parts of its text between the dots. -/
theorem Path.forall₂_parts {s : String} {p : Path} (hp : of s = .ok p) :
    List.Forall₂ (fun part i => i.text = String.ofList part) (Text.splitOn '.' s.toList) p :=
  (Text.mapM_eq_ok_iff.1 hp).imp fun _ _ => Identifier.text_of

theorem Path.ne_nil {s : String} {p : Path} (hp : of s = .ok p) : p ≠ [] := by
  rintro rfl
  cases hparts : Text.splitOn '.' s.toList with
  | nil => exact Text.splitOn_ne_nil '.' s.toList hparts
  | cons part parts =>
      have hnone := forall₂_parts hp
      rw [hparts] at hnone
      cases hnone

theorem Path.exists_part {s : String} {p : Path} (hp : of s = .ok p) :
    ∀ i ∈ p, ∃ part ∈ Text.splitOn '.' s.toList, i.text = String.ofList part := by
  intro i hi
  have hparts := forall₂_parts hp
  clear hp
  generalize Text.splitOn '.' s.toList = parts at hparts
  induction hparts with
  | nil => cases hi
  | cons hfirst hrest ih =>
      rcases List.mem_cons.1 hi with rfl | hi
      · exact ⟨_, List.mem_cons_self, hfirst⟩
      · rcases ih hi with ⟨part, hpart, htext⟩
        exact ⟨part, List.mem_cons_of_mem _ hpart, htext⟩

theorem Path.dollar_notMem {s : String} {p : Path} (h : '$' ∉ s.toList) (hp : of s = .ok p) :
    ∀ i ∈ p, '$' ∉ i.text.toList := by
  intro i hi hdollar
  rcases exists_part hp i hi with ⟨part, hpart, htext⟩
  rw [htext, String.toList_ofList] at hdollar
  exact h (Text.mem_of_splitOn hpart _ hdollar)

/-- What is read as the table has parts of the whole text between its dots, and so has what is read
as the column, unless it is the whole text. -/
theorem ColumnRef.parts_parse (s : String) :
    (∀ t ∈ (parse s).table, Text.splitOn '.' t.toList ⊆ Text.splitOn '.' s.toList) ∧
      ((parse s).name = s ∨ (parse s).name.toList ∈ Text.splitOn '.' s.toList) := by
  unfold parse
  split
  case h_1 table name hsplit =>
    have hparts : Text.splitOn '.' s.toList = Text.splitOn '.' table ++ [name] := by
      rw [Text.eq_of_splitLast? hsplit, Text.splitOn_append,
        Text.splitOn_of_notMem (Text.sep_notMem_of_splitLast? hsplit)]
    split
    · exact ⟨by simp, .inl rfl⟩
    · simp [hparts]
  case h_2 => exact ⟨by simp, .inl rfl⟩

/-- A column behind the last dot is taken from the table ahead of it. -/
theorem ColumnRef.parse_dotted {table name : String} (htable : table ≠ "")
    (hname : '.' ∉ name.toList) :
    parse (table ++ "." ++ name) = ⟨some table, name⟩ := by
  have hlist : (table ++ "." ++ name).toList = table.toList ++ '.' :: name.toList := by simp
  have hempty : table.toList.isEmpty = false := by simpa using htable
  simp only [parse, hlist, Text.splitLast?_append _ hname, hempty, Bool.false_eq_true, if_false,
    String.ofList_toList]

theorem ColumnRef.dollar_notMem_parse {s : String} (h : '$' ∉ s.toList) :
    (∀ t ∈ (parse s).table, '$' ∉ t.toList) ∧ '$' ∉ (parse s).name.toList := by
  unfold parse
  split
  -- what is before the last dot is the table, if there is anything
  case h_1 table name hsplit =>
    rw [Text.eq_of_splitLast? hsplit] at h
    obtain ⟨htable, -, hname⟩ : '$' ∉ table ∧ '$' ≠ '.' ∧ '$' ∉ name := by simpa using h
    split
    · rw [← Text.eq_of_splitLast? hsplit] at h
      exact ⟨by simp, h⟩
    · simpa using ⟨htable, hname⟩
  case h_2 => exact ⟨by simp, h⟩

end ParamSql
