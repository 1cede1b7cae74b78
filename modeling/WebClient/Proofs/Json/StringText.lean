import WebClient.Json.Reader
import WebClient.Proofs.Outcome
import WebClient.Proofs.Text.Utf8

/-!
# Strings of a JSON text

Between the quotes of a string stand plain characters and escapes, each for one character
of the string.  `StringText` is the grammar of what stands there, and `readString_eq_ok`
says that reading takes exactly such a text and the closing quote behind it.  The reader
goes byte by byte and decodes afterwards; the bytes of a character stay together, since no
byte that continues a character can start one.
-/

namespace WebClient.Json

open Text

/-! ## The grammar -/

/-- An escape, and the character that it stands for. -/
inductive EscapeText : Bytes → Char → Prop
  | letter {e b : UInt8} (h : unescapeLetter? e = some b) :
      EscapeText [byte '\\', e] (Char.ofNat b.toNat)
  | word {h₁ h₂ h₃ h₄ : UInt8} {n : Nat} (hword : hexWord? h₁ h₂ h₃ h₄ = some n)
      (hn : n < 0xd800 ∨ 0xdfff < n) :
      EscapeText [byte '\\', byte 'u', h₁, h₂, h₃, h₄] (Char.ofNat n)
  /-- A character above U+FFFF is written as two surrogates. -/
  | pair {h₁ h₂ h₃ h₄ l₁ l₂ l₃ l₄ : UInt8} {n m : Nat} (hhigh : hexWord? h₁ h₂ h₃ h₄ = some n)
      (hn : 0xd800 ≤ n ∧ n < 0xdc00) (hlow : hexWord? l₁ l₂ l₃ l₄ = some m)
      (hm : 0xdc00 ≤ m ∧ m ≤ 0xdfff) :
      EscapeText [byte '\\', byte 'u', h₁, h₂, h₃, h₄, byte '\\', byte 'u', l₁, l₂, l₃, l₄]
        (Char.ofNat (0x10000 + (n - 0xd800) * 1024 + (m - 0xdc00)))

/-- The character stands for itself in a string. -/
def IsPlain (c : Char) : Prop := c ≠ '"' ∧ c ≠ '\\' ∧ 0x20 ≤ c.toNat

/-- What stands between the quotes of a string, and the characters of the string. -/
inductive StringText : Bytes → List Char → Prop
  | nil : StringText [] []
  | plain {c : Char} {text : Bytes} {cs : List Char} (hc : IsPlain c) (h : StringText text cs) :
      StringText (Utf8.encodeChar c ++ text) (c :: cs)
  | escape {e text : Bytes} {c : Char} {cs : List Char} (he : EscapeText e c)
      (h : StringText text cs) : StringText (e ++ text) (c :: cs)

/-! ## Bytes -/

/-- The byte stands for itself in a string. -/
def isPlainByte (b : UInt8) : Bool := b ≠ byte '"' && b ≠ byte '\\' && 0x20 ≤ b

theorem isPlainByte_iff {b : UInt8} :
    isPlainByte b = true ↔ b ≠ byte '"' ∧ b ≠ byte '\\' ∧ ¬b < 0x20 := by
  simp [isPlainByte, and_assoc]

theorem lt_space_iff {b : UInt8} : b < 0x20 ↔ b.toNat < 0x20 := UInt8.lt_iff_toNat_lt

/-- The bytes of a plain character stand for themselves. -/
theorem isPlainByte_of_mem_encodeChar {c : Char} (hc : IsPlain c) {b : UInt8}
    (hb : b ∈ Utf8.encodeChar c) : isPlainByte b = true := by
  by_contra hplain
  -- Only an ASCII byte fails to be plain, and such a byte is a character of its own.
  have hsmall : b.toNat < 0x80 := by
    by_contra hlarge
    refine hplain (isPlainByte_iff.2 ⟨?_, ?_, ?_⟩)
    · rintro rfl
      exact hlarge (by decide)
    · rintro rfl
      exact hlarge (by decide)
    · exact fun h => hlarge (Nat.lt_trans (lt_space_iff.1 h) (by decide))
  obtain rfl := Utf8.eq_of_mem_encodeChar hb hsmall
  obtain ⟨hquote, hbackslash, hlow⟩ := hc
  refine hplain (isPlainByte_iff.2 ⟨?_, ?_, ?_⟩)
  · rintro rfl
    exact hquote (by decide)
  · rintro rfl
    exact hbackslash (by decide)
  · intro h
    rw [Utf8.toNat_charOfNat (Or.inl (by omega))] at hlow
    exact Nat.not_lt.2 hlow (lt_space_iff.1 h)

/-- A character with a byte that stands for itself in front is plain. -/
theorem isPlain_of_encodeChar_eq {c : Char} {b : UInt8} {ts : Bytes}
    (h : Utf8.encodeChar c = b :: ts) (hb : isPlainByte b = true) : IsPlain c := by
  obtain ⟨hquote, hbackslash, hlow⟩ := isPlainByte_iff.1 hb
  refine ⟨?_, ?_, ?_⟩
  · rintro rfl
    exact hquote (List.cons_eq_cons.1 h).1.symm
  · rintro rfl
    exact hbackslash (List.cons_eq_cons.1 h).1.symm
  · by_contra hc
    rw [Utf8.encodeChar_of_lt (by omega)] at h
    obtain ⟨rfl, -⟩ := List.cons_eq_cons.1 h
    refine hlow (lt_space_iff.2 ?_)
    rw [Utf8.toNat_ofNat_of_lt (by omega)]
    exact Nat.not_le.1 hc

/-- An escape letter stands for an ASCII character. -/
theorem encodeChar_of_unescapeLetter? {e b : UInt8} (h : unescapeLetter? e = some b) :
    Utf8.encodeChar (Char.ofNat b.toNat) = [b] := by
  unfold unescapeLetter? at h
  split_ifs at h <;> (cases h; decide)

/-! ## One step of the reader -/

theorem readStringBytes_quote (s : Bytes) :
    readStringBytes (byte '"' :: s) = .ok ([], byte '"' :: s) := by
  rw [readStringBytes.eq_def]
  exact if_pos rfl

theorem readStringBytes_plain {b : UInt8} (hb : isPlainByte b = true) (s : Bytes) :
    readStringBytes (b :: s) = pushBytes [b] (readStringBytes s) := by
  obtain ⟨hquote, hbackslash, hlow⟩ := isPlainByte_iff.1 hb
  rw [readStringBytes.eq_def]
  dsimp only
  rw [if_neg hquote, if_neg hbackslash, if_neg hlow]

theorem readStringBytes_escape {e : Bytes} {c : Char} (he : EscapeText e c) (s : Bytes) :
    readStringBytes (e ++ s) =
      pushBytes (Utf8.encodeChar c) (afterCheck s (readStringBytes s)) := by
  cases he with
  | @letter e b h =>
      have hu : e ≠ byte 'u' := by
        rintro rfl
        have hnone : unescapeLetter? (byte 'u') = none := by decide
        rw [hnone] at h
        cases h
      rw [List.cons_append, List.cons_append, List.nil_append, readStringBytes.eq_def]
      dsimp only
      rw [if_neg (by decide), if_pos rfl, if_neg hu, h, encodeChar_of_unescapeLetter? h]
  | word hword hn =>
      simp only [List.cons_append, List.nil_append]
      rw [readStringBytes.eq_def]
      dsimp only
      rw [if_neg (by decide), if_pos rfl, if_pos rfl, hword]
      dsimp only
      rw [if_pos (by simpa using hn)]
  | pair hhigh hn hlow hm =>
      simp only [List.cons_append, List.nil_append]
      rw [readStringBytes.eq_def]
      dsimp only
      rw [if_neg (by decide), if_pos rfl, if_pos rfl, hhigh]
      dsimp only
      rw [if_neg (by simp; omega), if_neg (by omega), if_neg (by decide), if_neg (by decide), hlow]
      dsimp only
      rw [if_neg (by simp; omega)]

theorem pushBytes_eq_ok {front bytes rest : Bytes} {read : Except Fault (Bytes × Bytes)} :
    pushBytes front read = .ok (bytes, rest) ↔
      ∃ more, read = .ok (more, rest) ∧ bytes = front ++ more := by
  rw [pushBytes, Outcome.map_eq_ok]
  constructor
  · rintro ⟨⟨more, rest⟩, hread, heq⟩
    obtain ⟨rfl, rfl⟩ := Prod.mk.inj heq
    exact ⟨more, hread, rfl⟩
  · rintro ⟨more, hread, rfl⟩
    exact ⟨(more, rest), hread, rfl⟩

theorem afterCheck_eq_ok {s : Bytes} {read : Except Fault (Bytes × Bytes)} {x : Bytes × Bytes} :
    afterCheck s read = .ok x ↔ checkRun s = .ok () ∧ read = .ok x := by
  rw [afterCheck]
  cases checkRun s <;> simp [Except.bind]

/-- An escape with a number is read as one character, of which a pair of surrogates is
one as well. -/
theorem readStringBytes_unicode {s bytes rest : Bytes}
    (h : readStringBytes (byte '\\' :: byte 'u' :: s) = .ok (bytes, rest)) :
    ∃ e c tail more, EscapeText e c ∧ byte '\\' :: byte 'u' :: s = e ++ tail ∧
      bytes = Utf8.encodeChar c ++ more ∧ readStringBytes tail = .ok (more, rest) := by
  rw [readStringBytes.eq_def] at h
  dsimp only at h
  rw [if_neg (by decide), if_pos rfl, if_pos rfl] at h
  split at h
  case h_2 => cases h
  next h₁ h₂ h₃ h₄ s =>
    split at h
    · cases h
    next n hword =>
      by_cases hn : n < 0xd800 ∨ 0xdfff < n
      · rw [if_pos (by simpa using hn)] at h
        obtain ⟨more, hmore, rfl⟩ := pushBytes_eq_ok.1 h
        exact ⟨_, _, s, more, .word hword hn, rfl, rfl, (afterCheck_eq_ok.1 hmore).2⟩
      · rw [if_neg (by simpa using hn)] at h
        by_cases hlone : 0xdc00 ≤ n
        · rw [if_pos hlone] at h
          cases h
        · -- The first half of a pair is followed by the second one.
          rw [if_neg hlone] at h
          split at h
          · cases h
          next x s =>
            obtain rfl : x = byte '\\' := by
              by_contra hx
              rw [if_pos hx] at h
              cases h
            rw [if_neg (not_not_intro rfl)] at h
            split at h
            · cases h
            next y s =>
              obtain rfl : y = byte 'u' := by
                by_contra hy
                rw [if_pos hy] at h
                cases h
              rw [if_neg (not_not_intro rfl)] at h
              split at h
              case h_2 => cases h
              next l₁ l₂ l₃ l₄ s =>
                split at h
                · cases h
                next m hlow =>
                  by_cases hm : m < 0xdc00 ∨ 0xdfff < m
                  · rw [if_pos (by simpa using hm)] at h
                    cases h
                  · rw [if_neg (by simpa using hm)] at h
                    obtain ⟨more, hmore, hbytes⟩ := pushBytes_eq_ok.1 h
                    have hpair := EscapeText.pair hword (by omega) hlow (by omega)
                    exact ⟨_, _, s, more, hpair, rfl, hbytes, (afterCheck_eq_ok.1 hmore).2⟩

theorem readStringBytes_backslash {s bytes rest : Bytes}
    (h : readStringBytes (byte '\\' :: s) = .ok (bytes, rest)) :
    ∃ e c tail more, EscapeText e c ∧ byte '\\' :: s = e ++ tail ∧
      bytes = Utf8.encodeChar c ++ more ∧ readStringBytes tail = .ok (more, rest) := by
  cases s with
  | nil => cases h
  | cons e s =>
      by_cases hu : e = byte 'u'
      · subst hu
        exact readStringBytes_unicode h
      · rw [readStringBytes.eq_def] at h
        dsimp only at h
        rw [if_neg (by decide), if_pos rfl, if_neg hu] at h
        split at h
        · next b hb =>
            obtain ⟨more, hmore, rfl⟩ := pushBytes_eq_ok.1 h
            have htail := (afterCheck_eq_ok.1 hmore).2
            exact ⟨_, _, s, more, .letter hb, rfl, by rw [encodeChar_of_unescapeLetter? hb], htail⟩
        · cases h

/-- The ways in which the bytes of a string can go on. -/
theorem readStringBytes_cases {s bytes rest : Bytes}
    (h : readStringBytes s = .ok (bytes, rest)) :
    (bytes = [] ∧ s = rest ∧ rest.head? = some (byte '"')) ∨
    (∃ b tail more, isPlainByte b = true ∧ s = b :: tail ∧ bytes = b :: more ∧
      readStringBytes tail = .ok (more, rest)) ∨
    (∃ e c tail more, EscapeText e c ∧ s = e ++ tail ∧ bytes = Utf8.encodeChar c ++ more ∧
      readStringBytes tail = .ok (more, rest)) := by
  cases s with
  | nil => cases h
  | cons b s =>
      by_cases hplain : isPlainByte b = true
      · rw [readStringBytes_plain hplain] at h
        obtain ⟨more, hmore, rfl⟩ := pushBytes_eq_ok.1 h
        exact Or.inr (Or.inl ⟨b, s, more, hplain, rfl, rfl, hmore⟩)
      · by_cases hquote : b = byte '"'
        · subst hquote
          rw [readStringBytes_quote] at h
          cases h
          exact Or.inl ⟨rfl, rfl, rfl⟩
        · by_cases hbackslash : b = byte '\\'
          · subst hbackslash
            exact Or.inr (Or.inr (readStringBytes_backslash h))
          · have hlow : b < 0x20 := by
              by_contra hlow
              exact hplain (isPlainByte_iff.2 ⟨hquote, hbackslash, hlow⟩)
            rw [readStringBytes.eq_def] at h
            dsimp only at h
            rw [if_neg hquote, if_neg hbackslash, if_pos hlow] at h
            cases h

/-! ## What is read -/

/-- The bytes that continue a character stand as they are in the text. -/
theorem exists_tail_of_readStringBytes {ts : Bytes} (hts : ∀ t ∈ ts, Utf8.isTail t = true)
    {s more rest : Bytes} (h : readStringBytes s = .ok (ts ++ more, rest)) :
    ∃ tail, s = ts ++ tail ∧ readStringBytes tail = .ok (more, rest) := by
  induction ts generalizing s with
  | nil => exact ⟨s, rfl, h⟩
  | cons t ts ih =>
      obtain ⟨ht, hts⟩ := List.forall_mem_cons.1 hts
      obtain ⟨hnil, -⟩ | ⟨b, tail, more', -, rfl, hbytes, hread⟩ |
          ⟨e, c, tail, more', -, -, hbytes, -⟩ := readStringBytes_cases h
      · cases hnil
      · obtain ⟨rfl, rfl⟩ := List.cons_eq_cons.1 hbytes
        obtain ⟨last, rfl, hlast⟩ := ih hts hread
        exact ⟨last, rfl, hlast⟩
      · -- The first byte of an escaped character continues no other one.
        obtain ⟨b, later, hchar, hb, -⟩ := Utf8.exists_encodeChar_eq c
        rw [hchar] at hbytes
        obtain ⟨rfl, -⟩ := List.cons_eq_cons.1 hbytes
        rw [hb] at ht
        cases ht

theorem stringText_of_readStringBytes {cs : List Char} {s rest : Bytes}
    (h : readStringBytes s = .ok (Utf8.encode cs, rest)) :
    ∃ text, s = text ++ rest ∧ StringText text cs ∧ rest.head? = some (byte '"') := by
  induction cs generalizing s with
  | nil =>
      obtain ⟨-, rfl, hrest⟩ | ⟨b, tail, more, -, -, hbytes, -⟩ |
          ⟨e, c, tail, more, -, -, hbytes, -⟩ := readStringBytes_cases h
      · exact ⟨[], rfl, .nil, hrest⟩
      · cases hbytes
      · obtain ⟨b, ts, hchar, -⟩ := Utf8.exists_encodeChar_eq c
        rw [hchar] at hbytes
        cases hbytes
  | cons c cs ih =>
      obtain ⟨b, ts, hchar, -, hts⟩ := Utf8.exists_encodeChar_eq c
      have hencode : Utf8.encode (c :: cs) = b :: (ts ++ Utf8.encode cs) := by
        rw [Utf8.encode, List.flatMap_cons, hchar]
        rfl
      obtain ⟨hnil, -⟩ | ⟨b', tail, more, hplain, rfl, hbytes, hread⟩ |
          ⟨e, c', tail, more, he, rfl, hbytes, hread⟩ := readStringBytes_cases h
      · rw [hencode] at hnil
        cases hnil
      · -- The character starts with a plain byte, and its other bytes follow as they are.
        rw [hencode] at hbytes
        obtain ⟨rfl, rfl⟩ := List.cons_eq_cons.1 hbytes
        obtain ⟨last, rfl, hlast⟩ := exists_tail_of_readStringBytes hts hread
        obtain ⟨text, rfl, htext, hrest⟩ := ih hlast
        refine ⟨Utf8.encodeChar c ++ text, ?_, .plain ?_ htext, hrest⟩
        · rw [hchar]
          simp
        · exact isPlain_of_encodeChar_eq hchar hplain
      · obtain ⟨rfl, rfl⟩ := Utf8.encodeChar_append_eq hbytes.symm
        obtain ⟨text, rfl, htext, hrest⟩ := ih hread
        exact ⟨e ++ text, (List.append_assoc _ _ _).symm, .escape he htext, hrest⟩

/-! ## What can be read -/

theorem checkRun_of_takeWhile {s : Bytes} {cs : List Char}
    (h : s.takeWhile isPlainByte = Utf8.encode cs) : checkRun s = .ok () := by
  have hplain : (fun b : UInt8 => b ≠ byte '"' && b ≠ byte '\\' && 0x20 ≤ b) = isPlainByte := rfl
  rw [checkRun, hplain]
  split
  · rfl
  · rw [h, Utf8.decode_encode]
    split <;> rfl

/-- An escape starts with a backslash. -/
theorem EscapeText.exists_cons {e : Bytes} {c : Char} (h : EscapeText e c) :
    ∃ tail, e = byte '\\' :: tail := by
  cases h <;> exact ⟨_, rfl⟩

/-- A run of bytes in a string is made of whole characters. -/
theorem StringText.exists_run {text : Bytes} {cs : List Char} (h : StringText text cs)
    (rest : Bytes) :
    ∃ run, (text ++ byte '"' :: rest).takeWhile isPlainByte = Utf8.encode run := by
  induction h with
  | nil => exact ⟨[], by rw [List.nil_append, List.takeWhile_cons_of_neg (by decide)]; rfl⟩
  | @plain c text cs hc h ih =>
      obtain ⟨run, hrun⟩ := ih
      refine ⟨c :: run, ?_⟩
      rw [List.append_assoc,
        List.takeWhile_append_of_pos fun b hb => isPlainByte_of_mem_encodeChar hc hb, hrun]
      rfl
  | escape he h ih =>
      obtain ⟨tail, rfl⟩ := he.exists_cons
      refine ⟨[], ?_⟩
      rw [List.cons_append, List.cons_append, List.takeWhile_cons_of_neg (by decide)]
      rfl

theorem StringText.checkRun_eq_ok {text : Bytes} {cs : List Char} (h : StringText text cs)
    (rest : Bytes) : checkRun (text ++ byte '"' :: rest) = .ok () := by
  obtain ⟨run, hrun⟩ := h.exists_run rest
  exact checkRun_of_takeWhile hrun

/-- Bytes that stand for themselves are read one by one. -/
theorem readStringBytes_append {bs : Bytes} (hbs : ∀ b ∈ bs, isPlainByte b = true) (s : Bytes) :
    readStringBytes (bs ++ s) = pushBytes bs (readStringBytes s) := by
  induction bs with
  | nil =>
      rw [List.nil_append, pushBytes]
      cases readStringBytes s <;> rfl
  | cons b bs ih =>
      obtain ⟨hb, hbs⟩ := List.forall_mem_cons.1 hbs
      rw [List.cons_append, readStringBytes_plain hb, ih hbs]
      cases readStringBytes s <;> rfl

theorem StringText.readStringBytes_eq {text : Bytes} {cs : List Char} (h : StringText text cs)
    (rest : Bytes) :
    readStringBytes (text ++ byte '"' :: rest) = .ok (Utf8.encode cs, byte '"' :: rest) := by
  induction h with
  | nil => exact readStringBytes_quote rest
  | plain hc h ih =>
      rw [List.append_assoc,
        readStringBytes_append fun b hb => isPlainByte_of_mem_encodeChar hc hb, ih]
      rfl
  | escape he h ih =>
      rw [List.append_assoc, readStringBytes_escape he, ih, afterCheck, h.checkRun_eq_ok]
      rfl

/-- Reading takes the text of a string and the quote behind it. -/
theorem readString_eq_ok {s rest : Bytes} {t : String} :
    readString s = .ok (t, rest) ↔
      ∃ text, s = text ++ byte '"' :: rest ∧ StringText text t.toList := by
  rw [readString, Outcome.bind_eq_ok]
  constructor
  · rintro ⟨⟨bytes, behind⟩, hcheck, hread⟩
    have hbytes := (afterCheck_eq_ok.1 hcheck).2
    dsimp only at hread
    cases hdecode : ofBytes bytes with
    | error fault =>
        rw [hdecode] at hread
        cases hread
    | ok t' =>
        rw [hdecode] at hread
        cases hread
        obtain ⟨cs, hcs, rfl⟩ := Outcome.map_eq_ok.1 hdecode
        obtain rfl := Utf8.decode_eq_ok.1 hcs
        obtain ⟨text, rfl, htext, hquote⟩ := stringText_of_readStringBytes hbytes
        obtain ⟨rest, rfl⟩ := List.head?_eq_some_iff.1 hquote
        exact ⟨text, rfl, by rwa [String.toList_ofList]⟩
  · rintro ⟨text, rfl, htext⟩
    refine ⟨(Utf8.encode t.toList, byte '"' :: rest), ?_, ?_⟩
    · exact afterCheck_eq_ok.2 ⟨htext.checkRun_eq_ok rest, htext.readStringBytes_eq rest⟩
    · have hdecode : ofBytes (Utf8.encode t.toList) = .ok t := ofBytes_bytes t
      simp only [hdecode]
      rfl

end WebClient.Json
