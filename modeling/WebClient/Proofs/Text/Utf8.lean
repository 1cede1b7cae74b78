import WebClient.Proofs.Outcome
import WebClient.Text.Utf8

/-!
# Reading back UTF-8

Decoding takes the bytes of a character off the front of a sequence, whatever stands
behind them.  So it reads back every encoded text, and no two texts have the same
bytes.  Nothing else is decoded (`decode_eq_ok`).
-/

namespace WebClient.Text

namespace Utf8

theorem toNat_ofNat_of_lt {n : Nat} (h : n < 256) : (UInt8.ofNat n).toNat = n := by
  rw [UInt8.toNat_ofNat', Nat.mod_eq_of_lt (by omega)]

/-- A byte behind the first one of a character. -/
theorem isTail_ofNat {n : Nat} (h : n < 64) : isTail (UInt8.ofNat (0x80 + n)) = true := by
  rw [isTail, toNat_ofNat_of_lt (by omega), Bool.and_eq_true, decide_eq_true_eq,
    decide_eq_true_eq]
  omega

/-- A character is neither half of a pair of surrogates nor above the last character. -/
theorem toNat_range (c : Char) : c.toNat < 0xd800 ∨ 0xdfff < c.toNat ∧ c.toNat < 0x110000 :=
  c.valid

/-- A character that is put together again goes in front of what is read behind it. -/
theorem prepend_toNat {c : Char} {n : Nat} (h : n = c.toNat) (result : Except Fault (List Char)) :
    prepend n result = result.map (c :: ·) := by
  rw [prepend, h, Char.ofNat_toNat]

section Lengths

variable {c : Char} (rest : Bytes) (index : Nat)

theorem decodeFrom_one (hone : c.toNat < 0x80) :
    decodeFrom index (encodeChar c ++ rest) =
      (decodeFrom (index + 1) rest).map (c :: ·) := by
  have hfirst := toNat_ofNat_of_lt (n := c.toNat) (by omega)
  unfold encodeChar
  dsimp only
  rw [if_pos hone, List.singleton_append, decodeFrom.eq_def]
  simp only [hfirst, if_pos hone]
  exact prepend_toNat rfl _

theorem decodeFrom_two (hone : ¬ c.toNat < 0x80) (htwo : c.toNat < 0x800) :
    decodeFrom index (encodeChar c ++ rest) =
      (decodeFrom (index + 2) rest).map (c :: ·) := by
  have hfirst := toNat_ofNat_of_lt (n := 0xc0 + c.toNat / 64) (by omega)
  have hsecond := toNat_ofNat_of_lt (n := 0x80 + c.toNat % 64) (by omega)
  unfold encodeChar
  dsimp only
  rw [if_neg hone, if_pos htwo, List.cons_append, List.singleton_append, decodeFrom.eq_def]
  simp only [hfirst]
  rw [if_neg (by omega), if_pos (by omega), if_pos (isTail_ofNat (by omega))]
  exact prepend_toNat (by rw [hsecond]; omega) _

theorem decodeFrom_three (htwo : ¬ c.toNat < 0x800) (hthree : c.toNat < 0x10000) :
    decodeFrom index (encodeChar c ++ rest) =
      (decodeFrom (index + 3) rest).map (c :: ·) := by
  have hrange := toNat_range c
  have hfirst := toNat_ofNat_of_lt (n := 0xe0 + c.toNat / 4096) (by omega)
  have hsecond := toNat_ofNat_of_lt (n := 0x80 + c.toNat / 64 % 64) (by omega)
  have hthird := toNat_ofNat_of_lt (n := 0x80 + c.toNat % 64) (by omega)
  have hpair : isSecondOfThree (UInt8.ofNat (0xe0 + c.toNat / 4096))
      (UInt8.ofNat (0x80 + c.toNat / 64 % 64)) = true := by
    rw [isSecondOfThree, isTail_ofNat (by omega), hfirst, hsecond]
    simp only [Bool.true_and, Bool.and_eq_true, Bool.or_eq_true, bne_iff_ne, decide_eq_true_eq]
    omega
  unfold encodeChar
  dsimp only
  rw [if_neg (by omega), if_neg htwo, if_pos hthree, List.cons_append, List.cons_append,
    List.singleton_append, decodeFrom.eq_def]
  simp only [hfirst]
  rw [if_neg (by omega), if_neg (by omega), if_pos (by omega), if_pos hpair,
    if_pos (isTail_ofNat (by omega))]
  exact prepend_toNat (by rw [hsecond, hthird]; omega) _

theorem decodeFrom_four (hthree : ¬ c.toNat < 0x10000) :
    decodeFrom index (encodeChar c ++ rest) =
      (decodeFrom (index + 4) rest).map (c :: ·) := by
  have hrange := toNat_range c
  have hfirst := toNat_ofNat_of_lt (n := 0xf0 + c.toNat / 262144) (by omega)
  have hsecond := toNat_ofNat_of_lt (n := 0x80 + c.toNat / 4096 % 64) (by omega)
  have hthird := toNat_ofNat_of_lt (n := 0x80 + c.toNat / 64 % 64) (by omega)
  have hfourth := toNat_ofNat_of_lt (n := 0x80 + c.toNat % 64) (by omega)
  have hpair : isSecondOfFour (UInt8.ofNat (0xf0 + c.toNat / 262144))
      (UInt8.ofNat (0x80 + c.toNat / 4096 % 64)) = true := by
    rw [isSecondOfFour, isTail_ofNat (by omega), hfirst, hsecond]
    simp only [Bool.true_and, Bool.and_eq_true, Bool.or_eq_true, bne_iff_ne, decide_eq_true_eq]
    omega
  unfold encodeChar
  dsimp only
  rw [if_neg (by omega), if_neg (by omega), if_neg hthree, List.cons_append, List.cons_append,
    List.cons_append, List.singleton_append, decodeFrom.eq_def]
  simp only [hfirst]
  rw [if_neg (by omega), if_neg (by omega), if_neg (by omega), if_pos (by omega),
    if_pos hpair, if_pos (isTail_ofNat (by omega)), if_pos (isTail_ofNat (by omega))]
  exact prepend_toNat (by rw [hsecond, hthird, hfourth]; omega) _

end Lengths

/-- The bytes of a character are read as the character. -/
theorem decodeFrom_encodeChar_append (c : Char) (rest : Bytes) (index : Nat) :
    ∃ later, decodeFrom index (encodeChar c ++ rest) = (decodeFrom later rest).map (c :: ·) := by
  by_cases hone : c.toNat < 0x80
  · exact ⟨_, decodeFrom_one rest index hone⟩
  · by_cases htwo : c.toNat < 0x800
    · exact ⟨_, decodeFrom_two rest index hone htwo⟩
    · by_cases hthree : c.toNat < 0x10000
      · exact ⟨_, decodeFrom_three rest index htwo hthree⟩
      · exact ⟨_, decodeFrom_four rest index hthree⟩

theorem decodeFrom_encode (s : List Char) (index : Nat) :
    decodeFrom index (encode s) = .ok s := by
  induction s generalizing index with
  | nil => rfl
  | cons c s ih =>
      obtain ⟨later, hfirst⟩ := decodeFrom_encodeChar_append c (encode s) index
      have hsplit : encode (c :: s) = encodeChar c ++ encode s := rfl
      rw [hsplit, hfirst, ih]
      rfl

/-- The bytes of a text are read as the text. -/
theorem decode_encode (s : List Char) : decode (encode s) = .ok s := decodeFrom_encode s 0

theorem encode_injective {s t : List Char} (h : encode s = encode t) : s = t := by
  have hread := decode_encode s
  rw [h, decode_encode t] at hread
  exact (Except.ok.inj hread).symm

theorem encode_eq_nil {s : List Char} : encode s = [] ↔ s = [] := by
  constructor
  · exact fun h => encode_injective h
  · rintro rfl
    rfl

/-- A byte below 0x80 is a character of its own. -/
theorem eq_of_mem_encodeChar {c : Char} {b : UInt8} (h : b ∈ encodeChar c)
    (hb : b.toNat < 0x80) : c = Char.ofNat b.toNat := by
  have hrange := toNat_range c
  have hlater {n : Nat} (hn : n < 256) (hhigh : 0x80 ≤ n) : b ≠ UInt8.ofNat n := by
    rintro rfl
    rw [toNat_ofNat_of_lt hn] at hb
    omega
  unfold encodeChar at h
  dsimp only at h
  split at h
  · obtain rfl := List.mem_singleton.1 h
    rw [toNat_ofNat_of_lt (by omega), Char.ofNat_toNat]
  · split at h
    · simp only [List.mem_cons, List.not_mem_nil, or_false] at h
      obtain h | h := h <;> exact absurd h (hlater (by omega) (by omega))
    · split at h
      · simp only [List.mem_cons, List.not_mem_nil, or_false] at h
        obtain h | h | h := h <;> exact absurd h (hlater (by omega) (by omega))
      · simp only [List.mem_cons, List.not_mem_nil, or_false] at h
        obtain h | h | h | h := h <;> exact absurd h (hlater (by omega) (by omega))

theorem mem_of_mem_encode {s : List Char} {b : UInt8} (h : b ∈ encode s) (hb : b.toNat < 0x80) :
    Char.ofNat b.toNat ∈ s := by
  obtain ⟨c, hc, hmem⟩ := List.mem_flatMap.1 h
  exact eq_of_mem_encodeChar hmem hb ▸ hc

/-! ## ASCII texts -/

theorem encodeChar_of_lt {a : Char} (ha : a.toNat < 0x80) :
    encodeChar a = [UInt8.ofNat a.toNat] := if_pos ha

theorem eq_of_ascii_mem_encodeChar {a c : Char} (ha : a.toNat < 0x80)
    (h : UInt8.ofNat a.toNat ∈ encodeChar c) : c = a := by
  have hbyte : (UInt8.ofNat a.toNat).toNat = a.toNat := toNat_ofNat_of_lt (by omega)
  rw [eq_of_mem_encodeChar h (by omega), hbyte, Char.ofNat_toNat]

/-- The bytes of a text hold the byte of an ASCII character where the text has it. -/
theorem exists_of_encode_eq {a : Char} (ha : a.toNat < 0x80) {s : List Char}
    {front rest : Bytes} (h : encode s = front ++ UInt8.ofNat a.toNat :: rest) :
    ∃ before behind, s = before ++ a :: behind ∧ front = encode before ∧
      rest = encode behind := by
  induction s generalizing front with
  | nil => exact absurd h (by simp [encode])
  | cons c s ih =>
      have hsplit : encodeChar c ++ encode s = front ++ UInt8.ofNat a.toNat :: rest := h
      obtain ⟨more, rfl, hlater⟩ | ⟨inner, hchar, hlater⟩ := List.append_eq_append_iff.1 hsplit
      · obtain ⟨before, behind, rfl, rfl, hrest⟩ := ih hlater
        exact ⟨c :: before, behind, rfl, rfl, hrest⟩
      · cases inner with
        | nil =>
            have hfront : encodeChar c = front := hchar.trans (List.append_nil front)
            have hnext : encode s = [] ++ UInt8.ofNat a.toNat :: rest := hlater.symm
            obtain ⟨before, behind, rfl, hnone, hrest⟩ := ih hnext
            obtain rfl := encode_eq_nil.1 hnone.symm
            exact ⟨[c], behind, rfl, by simp [encode, hfront], hrest⟩
        | cons b inner =>
            -- The byte is one of the first character, which has no other byte then.
            obtain ⟨rfl, rfl⟩ := List.cons_eq_cons.1 hlater
            obtain rfl : c = a := eq_of_ascii_mem_encodeChar ha (by simp [hchar])
            rw [encodeChar_of_lt ha] at hchar
            obtain ⟨rfl, hinner⟩ : front = [] ∧ inner = [] := by
              simpa [List.singleton_eq_append_iff] using hchar
            rw [hinner]
            exact ⟨[], s, rfl, rfl, rfl⟩

theorem exists_of_encode_eq_append {t : List Char} (ht : ∀ a ∈ t, a.toNat < 0x80)
    {s : List Char} {rest : Bytes} (h : encode s = encode t ++ rest) :
    ∃ behind, s = t ++ behind := by
  induction t generalizing s with
  | nil => exact ⟨s, rfl⟩
  | cons a t ih =>
      obtain ⟨ha, ht⟩ := List.forall_mem_cons.1 ht
      have hfirst : encode s = [] ++ UInt8.ofNat a.toNat :: (encode t ++ rest) := by
        rw [h, encode, List.flatMap_cons, encodeChar_of_lt ha]
        rfl
      obtain ⟨before, behind, rfl, hnone, hlater⟩ := exists_of_encode_eq ha hfirst
      obtain rfl := encode_eq_nil.1 hnone.symm
      obtain ⟨last, rfl⟩ := ih ht hlater.symm
      exact ⟨last, rfl⟩

/-- An ASCII text stands in a text where its bytes stand in the bytes of the text. -/
theorem encode_infix_iff {t s : List Char} (ht : ∀ a ∈ t, a.toNat < 0x80) :
    encode t <:+: encode s ↔ t <:+: s := by
  constructor
  · rintro ⟨front, rest, h⟩
    cases t with
    | nil => exact List.nil_infix
    | cons a t =>
        obtain ⟨ha, ht⟩ := List.forall_mem_cons.1 ht
        have hfirst : encode s = front ++ UInt8.ofNat a.toNat :: (encode t ++ rest) := by
          rw [← h, encode, List.flatMap_cons, encodeChar_of_lt ha]
          simp [encode]
        obtain ⟨before, behind, rfl, -, hlater⟩ := exists_of_encode_eq ha hfirst
        obtain ⟨last, rfl⟩ := exists_of_encode_eq_append ht hlater.symm
        exact ⟨before, last, by simp⟩
  · rintro ⟨front, rest, rfl⟩
    exact ⟨encode front, encode rest, by simp [encode]⟩

/-! ## Bytes that are read -/

theorem toNat_charOfNat {n : Nat} (h : n < 0xd800 ∨ 0xdfff < n ∧ n < 0x110000) :
    (Char.ofNat n).toNat = n := by
  have hvalid : n.isValidChar := h
  rw [Char.ofNat, dif_pos hvalid]
  rfl

theorem prepend_eq_ok {n : Nat} {result : Except Fault (List Char)} {s : List Char} :
    prepend n result = .ok s ↔ ∃ more, result = .ok more ∧ Char.ofNat n :: more = s :=
  Outcome.map_eq_ok

/-- The byte with a number of its own. -/
theorem ofNat_of_eq_toNat {b : UInt8} {n : Nat} (h : n = b.toNat) : UInt8.ofNat n = b := by
  rw [h, UInt8.ofNat_toNat]

theorem isTail_iff {b : UInt8} : isTail b = true ↔ 0x80 ≤ b.toNat ∧ b.toNat ≤ 0xbf := by
  simp [isTail]

theorem encodeChar_two {a b : UInt8} (ha : 0xc2 ≤ a.toNat ∧ a.toNat ≤ 0xdf)
    (hb : isTail b = true) :
    encodeChar (Char.ofNat ((a.toNat - 0xc0) * 64 + (b.toNat - 0x80))) = [a, b] := by
  rw [isTail_iff] at hb
  have hn := toNat_charOfNat (n := (a.toNat - 0xc0) * 64 + (b.toNat - 0x80)) (by omega)
  rw [encodeChar, hn, if_neg (by omega), if_pos (by omega), ofNat_of_eq_toNat (b := a) (by omega),
    ofNat_of_eq_toNat (b := b) (by omega)]

theorem encodeChar_three {a b c : UInt8} (ha : 0xe0 ≤ a.toNat ∧ a.toNat ≤ 0xef)
    (hb : isSecondOfThree a b = true) (hc : isTail c = true) :
    encodeChar (Char.ofNat ((a.toNat - 0xe0) * 4096 + (b.toNat - 0x80) * 64 +
      (c.toNat - 0x80))) = [a, b, c] := by
  simp only [isSecondOfThree, Bool.and_eq_true, isTail_iff, Bool.or_eq_true, bne_iff_ne,
    decide_eq_true_eq] at hb
  rw [isTail_iff] at hc
  have hn := toNat_charOfNat (n := (a.toNat - 0xe0) * 4096 + (b.toNat - 0x80) * 64 +
    (c.toNat - 0x80)) (by omega)
  rw [encodeChar, hn, if_neg (by omega), if_neg (by omega), if_pos (by omega),
    ofNat_of_eq_toNat (b := a) (by omega), ofNat_of_eq_toNat (b := b) (by omega),
    ofNat_of_eq_toNat (b := c) (by omega)]

theorem encodeChar_four {a b c d : UInt8} (ha : 0xf0 ≤ a.toNat ∧ a.toNat ≤ 0xf4)
    (hb : isSecondOfFour a b = true) (hc : isTail c = true) (hd : isTail d = true) :
    encodeChar (Char.ofNat ((a.toNat - 0xf0) * 262144 + (b.toNat - 0x80) * 4096 +
      (c.toNat - 0x80) * 64 + (d.toNat - 0x80))) = [a, b, c, d] := by
  simp only [isSecondOfFour, Bool.and_eq_true, isTail_iff, Bool.or_eq_true, bne_iff_ne,
    decide_eq_true_eq] at hb
  rw [isTail_iff] at hc hd
  have hn := toNat_charOfNat (n := (a.toNat - 0xf0) * 262144 + (b.toNat - 0x80) * 4096 +
    (c.toNat - 0x80) * 64 + (d.toNat - 0x80)) (by omega)
  rw [encodeChar, hn, if_neg (by omega), if_neg (by omega), if_neg (by omega),
    ofNat_of_eq_toNat (b := a) (by omega), ofNat_of_eq_toNat (b := b) (by omega),
    ofNat_of_eq_toNat (b := c) (by omega), ofNat_of_eq_toNat (b := d) (by omega)]

/-- Only the bytes of a text are read as the text. -/
theorem encode_of_decodeFrom {index : Nat} {bytes : Bytes} {s : List Char}
    (h : decodeFrom index bytes = .ok s) : encode s = bytes := by
  -- What is left are the four ways in which a character is read.
  fun_induction decodeFrom index bytes generalizing s <;> try (cases h; done)
  · cases h
    rfl
  · next a rest n hone ih =>
      obtain ⟨more, hrest, rfl⟩ := prepend_eq_ok.1 h
      have hn := toNat_charOfNat (n := n) (by omega)
      rw [encode, List.flatMap_cons, encodeChar_of_lt (by omega), hn, UInt8.ofNat_toNat]
      exact congrArg (a :: ·) (ih hrest)
  · next a n hone htwo b rest hb ih =>
      obtain ⟨more, hrest, rfl⟩ := prepend_eq_ok.1 h
      rw [encode, List.flatMap_cons, encodeChar_two htwo hb]
      exact congrArg ([a, b] ++ ·) (ih hrest)
  · next a n hone htwo hthree b hb c rest hc ih =>
      obtain ⟨more, hrest, rfl⟩ := prepend_eq_ok.1 h
      rw [encode, List.flatMap_cons, encodeChar_three hthree hb hc]
      exact congrArg ([a, b, c] ++ ·) (ih hrest)
  · next a n hone htwo hthree hfour b hb c hc d rest hd ih =>
      obtain ⟨more, hrest, rfl⟩ := prepend_eq_ok.1 h
      rw [encode, List.flatMap_cons, encodeChar_four hfour hb hc hd]
      exact congrArg ([a, b, c, d] ++ ·) (ih hrest)

theorem decode_eq_ok {bytes : Bytes} {s : List Char} :
    decode bytes = .ok s ↔ encode s = bytes :=
  ⟨encode_of_decodeFrom, fun h => h ▸ decode_encode s⟩

/-- A character is one byte that continues none, and bytes that do. -/
theorem exists_encodeChar_eq (c : Char) :
    ∃ b ts, encodeChar c = b :: ts ∧ isTail b = false ∧ ∀ t ∈ ts, isTail t = true := by
  have hrange := toNat_range c
  have hfirst {n : Nat} (hn : n < 256) (h : n < 0x80 ∨ 0xbf < n) :
      isTail (UInt8.ofNat n) = false := by
    rw [← Bool.not_eq_true, isTail_iff, toNat_ofNat_of_lt hn]
    omega
  have htail (n : Nat) : isTail (UInt8.ofNat (0x80 + n % 64)) = true := isTail_ofNat (by omega)
  unfold encodeChar
  dsimp only
  split
  · exact ⟨_, _, rfl, hfirst (by omega) (by omega), by simp⟩
  · split
    · refine ⟨_, _, rfl, hfirst (by omega) (by omega), ?_⟩
      simp only [List.forall_mem_cons, htail, List.not_mem_nil, false_implies, implies_true,
        and_self]
    · split
      · refine ⟨_, _, rfl, hfirst (by omega) (by omega), ?_⟩
        simp only [List.forall_mem_cons, htail, List.not_mem_nil, false_implies, implies_true,
          and_self]
      · refine ⟨_, _, rfl, hfirst (by omega) (by omega), ?_⟩
        simp only [List.forall_mem_cons, htail, List.not_mem_nil, false_implies, implies_true,
          and_self]

/-- The first character of a text has its bytes in front. -/
theorem encodeChar_append_eq {c c' : Char} {bytes : Bytes} {s : List Char}
    (h : encodeChar c ++ bytes = encode (c' :: s)) : c = c' ∧ bytes = encode s := by
  obtain ⟨later, hread⟩ := decodeFrom_encodeChar_append c bytes 0
  rw [h, decodeFrom_encode] at hread
  obtain ⟨more, hmore, heq⟩ := Outcome.map_eq_ok.1 hread.symm
  obtain ⟨rfl, rfl⟩ := List.cons_eq_cons.1 heq
  exact ⟨rfl, (encode_of_decodeFrom hmore).symm⟩

end Utf8

theorem not_mem_bytes {s : String} {b : UInt8} (hb : b.toNat < 0x80)
    (h : Char.ofNat b.toNat ∉ s.toList) : b ∉ bytes s :=
  fun hmem => h (Utf8.mem_of_mem_encode hmem hb)

theorem ofBytes_bytes (s : String) : ofBytes (bytes s) = .ok s := by
  rw [ofBytes, bytes, Utf8.decode_encode]
  exact congrArg Except.ok String.ofList_toList

/-- No two texts have the same bytes. -/
theorem bytes_injective : Function.Injective bytes := by
  intro s t h
  have hread := congrArg ofBytes h
  rw [ofBytes_bytes, ofBytes_bytes] at hread
  exact Except.ok.inj hread

end WebClient.Text
