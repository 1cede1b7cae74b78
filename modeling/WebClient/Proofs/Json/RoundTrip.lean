import WebClient.Proofs.Json.Document

/-!
# Reading back JSON bodies

The compact text of a value spells the value again if its numbers are integers of 64 bits
and the names in each of its objects differ (`Value.IsExact`).  The text is built as the
grammar is, construct by construct, so it is read by what is known of the reader; a
floating-point number may lose its last digits, and of two fields of one name only the
last one would be read.
-/

namespace WebClient

namespace Json

open Text

/-- The value is written without loss, and nests at most so many levels deep. -/
inductive Value.IsExact : Nat → Value → Prop
  | null {levels : Nat} : IsExact levels .null
  | bool {levels : Nat} (b : Bool) : IsExact levels (.bool b)
  | int {levels : Nat} {n : Int} (hn : fitsWord n = true) : IsExact levels (.int n)
  | string {levels : Nat} (s : String) : IsExact levels (.string s)
  | array {levels : Nat} {items : List Value} (hitems : ∀ v ∈ items, IsExact levels v) :
      IsExact (levels + 1) (.array items)
  | object {levels : Nat} {fields : List (String × Value)}
      (hfields : ∀ field ∈ fields, IsExact levels field.2)
      (hnames : (fields.map Prod.fst).Nodup) : IsExact (levels + 1) (.object fields)

/-! ## Bytes of texts -/

theorem encode_append (s t : List Char) :
    Utf8.encode (s ++ t) = Utf8.encode s ++ Utf8.encode t := List.flatMap_append

theorem encode_cons_ascii {c : Char} (hc : c.toNat < 0x80) (s : List Char) :
    Utf8.encode (c :: s) = byte c :: Utf8.encode s := by
  rw [Utf8.encode, List.flatMap_cons, Utf8.encodeChar_of_lt hc]
  rfl

theorem encode_ascii {s : List Char} (h : ∀ c ∈ s, c.toNat < 0x80) :
    Utf8.encode s = s.map byte := by
  induction s with
  | nil => rfl
  | cons c s ih =>
      obtain ⟨hc, hs⟩ := List.forall_mem_cons.1 h
      rw [encode_cons_ascii hc, ih hs, List.map_cons]

/-! ## Strings -/

theorem escapeText_of_letter {c letter : Char} (h : escapeLetter? c = some letter) :
    EscapeText (Utf8.encode ['\\', letter]) c := by
  have hletter : unescapeLetter? (byte letter) = some (byte c) ∧ letter.toNat < 0x80 ∧
      Char.ofNat (byte c).toNat = c := by
    unfold escapeLetter? at h
    split_ifs at h <;> (subst_vars; cases h; decide)
  obtain ⟨hunescape, hascii, hchar⟩ := hletter
  rw [encode_cons_ascii (by decide), encode_cons_ascii hascii]
  have hescape := EscapeText.letter hunescape
  rwa [hchar] at hescape

theorem hexWord?_lowerHex {n : Nat} (h : n < 0x20) :
    hexWord? (byte '0') (byte '0') (byte (lowerHex (n / 16))) (byte (lowerHex (n % 16))) =
      some n := by
  revert n
  decide

/-- A control character is written with its number. -/
theorem escapeText_of_control {c : Char} (h : c.toNat < 0x20) :
    EscapeText (Utf8.encode
      ['\\', 'u', '0', '0', lowerHex (c.toNat / 16), lowerHex (c.toNat % 16)]) c := by
  have hhex {n : Nat} (hn : n < 16) : (lowerHex n).toNat < 0x80 := by
    revert n
    decide
  rw [encode_ascii]
  · have hescape := EscapeText.word (hexWord?_lowerHex h) (Or.inl (by omega))
    rwa [Char.ofNat_toNat] at hescape
  · simp [hhex (n := c.toNat / 16) (by omega), hhex (n := c.toNat % 16) (by omega)]

/-- The text of a string between its quotes. -/
theorem stringText_render (s : List Char) :
    StringText (Utf8.encode (s.flatMap renderChar)) s := by
  induction s with
  | nil => exact .nil
  | cons c s ih =>
      rw [List.flatMap_cons, encode_append, renderChar]
      cases hletter : escapeLetter? c with
      | some letter => exact .escape (escapeText_of_letter hletter) ih
      | none =>
          dsimp only
          split
          · next hcontrol => exact .escape (escapeText_of_control hcontrol) ih
          · next hlarge =>
              have hplain : IsPlain c := by
                refine ⟨?_, ?_, Nat.not_lt.1 hlarge⟩
                · rintro rfl
                  exact absurd hletter (by decide)
                · rintro rfl
                  exact absurd hletter (by decide)
              have hbytes : Utf8.encode [c] = Utf8.encodeChar c := List.append_nil _
              rw [hbytes]
              exact .plain hplain ih

theorem encode_renderString (s : List Char) :
    Utf8.encode (renderString s) =
      byte '"' :: Utf8.encode (s.flatMap renderChar) ++ [byte '"'] := by
  rw [renderString, encode_append, encode_cons_ascii (by decide)]
  rfl

/-! ## Integers -/

theorem toNat_of_isDigit {c : Char} (h : c.isDigit = true) : 48 ≤ c.toNat ∧ c.toNat ≤ 57 := by
  rw [Char.isDigit, Bool.and_eq_true, decide_eq_true_eq, decide_eq_true_eq] at h
  exact ⟨UInt32.le_iff_toNat_le.1 h.1, UInt32.le_iff_toNat_le.1 h.2⟩

theorem toNat_byte {c : Char} (h : c.toNat < 256) : (byte c).toNat = c.toNat :=
  Utf8.toNat_ofNat_of_lt h

theorem isDigit_byte {c : Char} (h : c.isDigit = true) : isDigit (byte c) = true := by
  obtain ⟨hlow, hhigh⟩ := toNat_of_isDigit h
  have hbyte := toNat_byte (c := c) (by omega)
  rw [isDigit, Bool.and_eq_true, decide_eq_true_eq, decide_eq_true_eq, UInt8.le_iff_toNat_le,
    UInt8.le_iff_toNat_le, hbyte]
  exact ⟨hlow, hhigh⟩

theorem digitValue_byte {c : Char} (h : c.isDigit = true) :
    digitValue (byte c) = c.toNat - '0'.toNat := by
  obtain ⟨-, hhigh⟩ := toNat_of_isDigit h
  rw [digitValue, toNat_byte (by omega)]
  rfl

/-- The digits of a number as bytes. -/
def digitBytes (n : Nat) : Bytes := (Nat.toDigits 10 n).map byte

theorem isDigit_of_mem_digitBytes {n : Nat} {d : UInt8} (hd : d ∈ digitBytes n) :
    isDigit d = true := by
  obtain ⟨c, hc, rfl⟩ := List.mem_map.1 hd
  exact isDigit_byte (Nat.isDigit_of_mem_toDigits (by decide) (by decide) hc)

theorem decimal_map_byte {cs : List Char} (hcs : ∀ c ∈ cs, c.isDigit = true) (m : Nat) :
    decimal m (cs.map byte) = Nat.ofDigitChars 10 cs m := by
  induction cs generalizing m with
  | nil => rw [Nat.ofDigitChars_nil]; rfl
  | cons c cs ih =>
      obtain ⟨hc, hcs⟩ := List.forall_mem_cons.1 hcs
      rw [List.map_cons, decimal_cons, digitValue_byte hc, ih hcs, Nat.ofDigitChars_cons,
        Nat.mul_comm]

theorem decimal_digitBytes (n : Nat) : decimal 0 (digitBytes n) = n := by
  have hdigits : ∀ c ∈ Nat.toDigits 10 n, c.isDigit = true :=
    fun c hc => Nat.isDigit_of_mem_toDigits (by decide) (by decide) hc
  rw [digitBytes, decimal_map_byte hdigits, Nat.ofDigitChars_ten_toDigits]

/-- A number is written without leading zeros. -/
theorem exists_toDigits_eq_cons {n : Nat} (hn : 0 < n) :
    ∃ d ds, Nat.toDigits 10 n = Nat.digitChar d :: ds ∧ 0 < d ∧ d < 10 := by
  induction n using Nat.strongRecOn with
  | ind n ih =>
      rw [Nat.toDigits_eq_if (by decide)]
      split
      · next hsmall => exact ⟨n, [], rfl, hn, hsmall⟩
      · next hlarge =>
          obtain ⟨d, ds, hdigits, hd⟩ := ih (n / 10) (by omega) (by omega)
          exact ⟨d, ds ++ [Nat.digitChar (n % 10)], by rw [hdigits, List.cons_append], hd⟩

theorem byte_digitChar_ne_zero {d : Nat} (hd : 0 < d ∧ d < 10) :
    byte (Nat.digitChar d) ≠ byte '0' := by
  obtain ⟨hpos, hlt⟩ := hd
  revert hpos
  revert d
  decide

theorem whole_digitBytes (n : Nat) :
    digitBytes n = [byte '0'] ∨ ∃ d ds, digitBytes n = d :: ds ∧ d ≠ byte '0' := by
  cases n with
  | zero => exact Or.inl rfl
  | succ n =>
      obtain ⟨d, ds, hdigits, hd⟩ := exists_toDigits_eq_cons (Nat.succ_pos n)
      exact Or.inr ⟨byte (Nat.digitChar d), ds.map byte, by rw [digitBytes, hdigits]; rfl,
        byte_digitChar_ne_zero hd⟩

/-- An integer as it is written: its sign and its digits. -/
def Numeral.ofInt (n : Int) : Numeral where
  negative := n < 0
  whole := digitBytes n.natAbs
  fraction := none
  exponent := none

theorem Numeral.isWellFormed_ofInt (n : Int) : (ofInt n).IsWellFormed where
  whole := whole_digitBytes n.natAbs
  digits _ hd := isDigit_of_mem_digitBytes hd
  ending := ⟨by simp [ofInt], by simp [ofInt]⟩

theorem Numeral.number?_ofInt {n : Int} (hn : fitsWord n = true) :
    (ofInt n).number? = some (.integer n) := by
  have hrange : -0x8000000000000000 ≤ n ∧ n < 0x10000000000000000 := by
    simpa [fitsWord] using hn
  have hvalue : decimal 0 (ofInt n).whole = n.natAbs := decimal_digitBytes n.natAbs
  rw [number?, if_pos ⟨rfl, rfl, by rw [hvalue]; omega⟩, hvalue, ofWhole]
  by_cases hnegative : n < 0
  · -- The sign is put back on what is left without it; there is no `-0` among integers.
    rw [if_pos (by simpa [ofInt] using hnegative), if_neg]
    · rw [Int.ofNat_natAbs_of_nonpos (by omega), Int.neg_neg]
    · simp only [Bool.or_eq_true, decide_eq_true_eq]
      omega
  · rw [if_neg (by simpa [ofInt] using hnegative), Int.natAbs_of_nonneg (by omega)]

theorem Numeral.text_ofInt (n : Int) :
    (ofInt n).text = Utf8.encode (Number.integer n).render := by
  have hascii : ∀ c ∈ Nat.toDigits 10 n.natAbs, c.toNat < 0x80 := by
    intro c hc
    have hdigit := toNat_of_isDigit (Nat.isDigit_of_mem_toDigits (by decide) (by decide) hc)
    omega
  have hunsigned : (ofInt n).unsignedText = digitBytes n.natAbs := List.append_nil _
  rw [Number.render, Int.toString_eq_repr, Int.repr_eq_if, text, hunsigned]
  by_cases hnegative : n < 0
  · rw [if_pos (by simpa [ofInt] using hnegative), if_neg (by omega), String.toList_append,
      Nat.toList_repr, encode_append, show (-n).toNat = n.natAbs by omega, encode_ascii hascii]
    rfl
  · rw [if_neg (by simpa [ofInt] using hnegative), if_pos (by omega), Nat.toList_repr,
      show n.toNat = n.natAbs by omega, encode_ascii hascii]
    rfl

/-! ## Arrays and objects -/

theorem moreItemsText_render {R : Bytes → Value → Prop} {items : List Value}
    (h : ∀ v ∈ items, R (Utf8.encode v.render) v) :
    MoreItemsText R (Utf8.encode (renderMoreItems items)) items := by
  induction items with
  | nil => exact .nil isBlank_nil
  | cons v items ih =>
      obtain ⟨hv, hitems⟩ := List.forall_mem_cons.1 h
      rw [renderMoreItems, List.cons_append, encode_cons_ascii (by decide), encode_append]
      exact .cons isBlank_nil isBlank_nil hv (ih hitems)

theorem itemsText_render {R : Bytes → Value → Prop} {items : List Value}
    (h : ∀ v ∈ items, R (Utf8.encode v.render) v) :
    ItemsText R (Utf8.encode (renderItems items)) items := by
  cases items with
  | nil => exact .nil isBlank_nil
  | cons v items =>
      obtain ⟨hv, hitems⟩ := List.forall_mem_cons.1 h
      rw [renderItems, encode_append]
      exact .cons isBlank_nil hv (moreItemsText_render hitems)

/-- The text of a field, with its name in quotes. -/
theorem fieldText_render {R : Bytes → Value → Prop} (name : String) {v : Value}
    (hv : R (Utf8.encode v.render) v) :
    FieldText R (Utf8.encode (renderString name.toList ++ ':' :: v.render)) (name, v) := by
  have hfield := FieldText.field (R := R) (stringText_render name.toList) isBlank_nil
    isBlank_nil hv
  rw [encode_append, encode_renderString, encode_cons_ascii (by decide)]
  simpa using hfield

theorem moreFieldsText_render {R : Bytes → Value → Prop} {fields : List (String × Value)}
    (h : ∀ field ∈ fields, R (Utf8.encode field.2.render) field.2) :
    MoreItemsText (FieldText R) (Utf8.encode (renderMoreFields fields)) fields := by
  induction fields with
  | nil => exact .nil isBlank_nil
  | cons field fields ih =>
      obtain ⟨name, v⟩ := field
      obtain ⟨hv, hfields⟩ := List.forall_mem_cons.1 h
      rw [renderMoreFields, List.cons_append, List.cons_append, encode_cons_ascii (by decide),
        encode_append]
      have hmore := MoreItemsText.cons isBlank_nil isBlank_nil (fieldText_render name hv)
        (ih hfields)
      exact hmore

theorem fieldsText_render {R : Bytes → Value → Prop} {fields : List (String × Value)}
    (h : ∀ field ∈ fields, R (Utf8.encode field.2.render) field.2) :
    ItemsText (FieldText R) (Utf8.encode (renderFields fields)) fields := by
  cases fields with
  | nil => exact .nil isBlank_nil
  | cons field fields =>
      obtain ⟨name, v⟩ := field
      obtain ⟨hv, hfields⟩ := List.forall_mem_cons.1 h
      rw [renderFields, encode_append]
      have hitems := ItemsText.cons isBlank_nil (fieldText_render name hv)
        (moreFieldsText_render hfields)
      exact hitems

/-- A field with a new name goes behind the others. -/
theorem setField_of_not_mem {name : String} {value : Value} {known : List (String × Value)}
    (h : name ∉ known.map Prod.fst) :
    Value.setField name value known = known ++ [(name, value)] := by
  induction known with
  | nil => rfl
  | cons field known ih =>
      obtain ⟨key, old⟩ := field
      rw [List.map_cons, List.mem_cons, not_or] at h
      rw [Value.setField, if_neg (Ne.symm h.1), ih h.2, List.cons_append]

/-- Fields with different names are collected as they are. -/
theorem collectFields_of_nodup {fields : List (String × Value)}
    (h : (fields.map Prod.fst).Nodup) : collectFields fields = fields := by
  -- What is known already has none of the names that are still to come.
  have hfold {known fields : List (String × Value)}
      (h : ((known ++ fields).map Prod.fst).Nodup) :
      fields.foldl (fun known field => Value.setField field.1 field.2 known) known =
        known ++ fields := by
    induction fields generalizing known with
    | nil => rw [List.foldl_nil, List.append_nil]
    | cons field fields ih =>
        obtain ⟨name, value⟩ := field
        have hnew : name ∉ known.map Prod.fst := by
          rw [List.map_append, List.nodup_append] at h
          exact fun hmem => h.2.2 name hmem name List.mem_cons_self rfl
        rw [List.append_cons] at h
        rw [List.foldl_cons]
        dsimp only
        rw [setField_of_not_mem hnew, ih h, List.append_assoc, List.singleton_append]
  exact hfold h

/-! ## Values -/

/-- The compact text of a value that is written without loss spells the value. -/
theorem spells_render {levels : Nat} {v : Value} (h : v.IsExact levels) :
    Spells levels (Utf8.encode v.render) v := by
  induction h with
  | null => exact .of_scalar .null
  | bool b =>
      cases b with
      | false => exact .of_scalar .no
      | true => exact .of_scalar .yes
  | int hn =>
      rw [Value.int, Value.render, ← Numeral.text_ofInt]
      exact .of_scalar (.number (Numeral.isWellFormed_ofInt _) (Numeral.number?_ofInt hn))
  | string s =>
      rw [Value.render, encode_renderString]
      exact .of_scalar (.string (stringText_render s.toList))
  | array hitems ih =>
      refine Or.inr (Or.inl ⟨_, _, itemsText_render ih, ?_, rfl⟩)
      rw [Value.render, List.cons_append, encode_cons_ascii (by decide), encode_append]
      rfl
  | object hfields hnames ih =>
      refine Or.inr (Or.inr ⟨_, _, fieldsText_render ih, ?_, by rw [collectFields_of_nodup hnames]⟩)
      rw [Value.render, List.cons_append, encode_cons_ascii (by decide), encode_append]
      rfl

end Json

namespace RequestConverter

open Json

/-- The body of a value that is written without loss is not blank, and is read as the
value. -/
theorem json_roundTrip {v : Value} (h : v.IsExact maxLevels) (type : TypeName) :
    ∃ body, json.convert v = .ok body ∧ body.bytes.all isBlankByte = false ∧
      ResponseConverter.json.convert body.bytes type = .ok v := by
  have hstarts : StartsWith v.bytes v [] :=
    ⟨[], v.bytes, by simp, isBlank_nil, spells_render h, endsBefore_of_isBlank isBlank_nil⟩
  have hblank := hstarts.not_blank
  refine ⟨⟨MediaType.json.text, v.bytes⟩, rfl, hblank, ?_⟩
  rw [ResponseConverter.json]
  dsimp only
  rw [hblank, if_neg Bool.false_ne_true, Schema.decodeBytes, Outcome.mapError_eq_ok,
    ofBytes_any_eq_ok]
  exact ⟨[], hstarts⟩

/-- Strings with quotes and escapes, the least and the greatest integers, and an object in an
array. -/
theorem json_roundTrip_record :
    (Value.array [.object [("b", .int (-0x8000000000000000)), ("a", .string "\"\n\x00")],
      .int 0xffffffffffffffff, .null]).IsExact maxLevels ∧
    ∃ body, json.convert (.array [.object [("b", .int (-0x8000000000000000)),
        ("a", .string "\"\n\x00")], .int 0xffffffffffffffff, .null]) = .ok body ∧
      body.bytes.all isBlankByte = false ∧
      ResponseConverter.json.convert body.bytes ⟨"T"⟩ =
        .ok (.array [.object [("b", .int (-0x8000000000000000)), ("a", .string "\"\n\x00")],
          .int 0xffffffffffffffff, .null]) := by
  have hexact : (Value.array [.object [("b", .int (-0x8000000000000000)),
      ("a", .string "\"\n\x00")], .int 0xffffffffffffffff, .null]).IsExact maxLevels := by
    refine .array ?_
    simp only [List.forall_mem_cons, List.not_mem_nil, false_implies, implies_true, and_true]
    refine ⟨.object ?_ (by decide), .int (by decide), .null⟩
    simp only [List.forall_mem_cons, List.not_mem_nil, false_implies, implies_true, and_true]
    exact ⟨.int (by decide), .string _⟩
  exact ⟨hexact, json_roundTrip hexact ⟨"T"⟩⟩

end RequestConverter

end WebClient
