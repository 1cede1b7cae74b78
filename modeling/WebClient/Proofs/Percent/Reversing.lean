import WebClient.Proofs.Percent.Alphabet
import WebClient.Proofs.Percent.Decoding

/-!
# Encoders that can be reversed

Both encoders write a text as characters of an alphabet, which stand for themselves, and as
escapes of a percent sign and two capital hexadecimal digits.  The percent sign is in neither
alphabet, so where an escape begins can be seen, and decoding gives back the bytes of the text.
What an alphabet is, is said here character by character, without the tests that the encoders
make.
-/

namespace WebClient.Percent

open Text (isAscii isControl)

/-! ## Alphabets -/

/-- The character is a letter or a digit of ASCII, a hyphen, a point, a low line or a tilde. -/
def IsComponentPlain (c : Char) : Prop :=
  ('A' ≤ c ∧ c ≤ 'Z') ∨ ('a' ≤ c ∧ c ≤ 'z') ∨ ('0' ≤ c ∧ c ≤ '9') ∨
    c = '-' ∨ c = '.' ∨ c = '_' ∨ c = '~'

/-- The characters of ASCII that no segment may have, besides blanks and control characters. -/
def segmentDelimiters : List Char :=
  ['"', '#', '<', '>', '\x60', '?', '{', '}', '/', '\\', '%']

/-- The character is one of ASCII, and neither a control character nor a blank nor a
delimiter. -/
def IsSegmentPlain (c : Char) : Prop :=
  0x20 < c.toNat ∧ c.toNat < 0x7f ∧ c ∉ segmentDelimiters

theorem isUnreserved_iff {c : Char} : isUnreserved c = true ↔ IsComponentPlain c := by
  have hupper : c.isUpper = true ↔ 'A' ≤ c ∧ c ≤ 'Z' := decide_eq_true_iff
  have hlower : c.isLower = true ↔ 'a' ≤ c ∧ c ≤ 'z' :=
    Bool.and_eq_true_iff.trans (and_congr decide_eq_true_iff decide_eq_true_iff)
  have hdigit : c.isDigit = true ↔ '0' ≤ c ∧ c ≤ '9' :=
    Bool.and_eq_true_iff.trans (and_congr decide_eq_true_iff decide_eq_true_iff)
  have hletter : c.isAlpha = true ↔ ('A' ≤ c ∧ c ≤ 'Z') ∨ ('a' ≤ c ∧ c ≤ 'z') :=
    Bool.or_eq_true_iff.trans (or_congr hupper hlower)
  simp only [isUnreserved, Char.isAlphanum, Bool.or_eq_true, decide_eq_true_eq, hletter, hdigit,
    IsComponentPlain, or_assoc]

theorem isSegmentChar_iff {c : Char} : isSegmentChar c = true ↔ IsSegmentPlain c := by
  have hblank : c = ' ' ↔ c.toNat = 0x20 :=
    ⟨fun h => h ▸ rfl, fun h => by rw [← Char.ofNat_toNat c, h]⟩
  simp only [isSegmentChar, isAscii, isControl, hblank, Bool.and_eq_true, Bool.not_eq_true',
    Bool.or_eq_false_iff, decide_eq_true_eq, decide_eq_false_iff_not, beq_eq_false_iff_ne,
    IsSegmentPlain, segmentDelimiters, List.mem_cons, List.not_mem_nil, or_false, not_or,
    and_assoc]
  constructor
  · rintro ⟨hascii, hcontrol, hdelete, hvisible, hrest⟩
    exact ⟨by omega, by omega, hrest⟩
  · rintro ⟨hlow, hhigh, hrest⟩
    exact ⟨by omega, by omega, by omega, by omega, hrest⟩

/-! ## Texts with escapes -/

/-- The text consists of plain characters and of escapes, each a percent sign and two capital
hexadecimal digits. -/
inductive Escaped (Plain : Char → Prop) : List Char → Prop where
  | nil : Escaped Plain []
  | plain {c : Char} {s : List Char} (hc : Plain c) (hs : Escaped Plain s) :
      Escaped Plain (c :: s)
  | escape {high low : Char} {s : List Char} (hhigh : high ∈ upperDigits)
      (hlow : low ∈ upperDigits) (hs : Escaped Plain s) :
      Escaped Plain ('%' :: high :: low :: s)

/-- Two capital hexadecimal digits stand behind every percent sign. -/
def HasWholeEscapes (s : List Char) : Prop :=
  ∀ front rest, s = front ++ '%' :: rest →
    ∃ high low more, rest = high :: low :: more ∧ high ∈ upperDigits ∧ low ∈ upperDigits

/-- What stands before a percent sign begins with any other character that the text begins
with. -/
theorem exists_front_of_ne {c : Char} (hc : c ≠ '%') {s front rest : List Char}
    (h : c :: s = front ++ '%' :: rest) :
    ∃ more, front = c :: more ∧ s = more ++ '%' :: rest := by
  cases front with
  | nil => exact absurd (List.cons.inj h).1 hc
  | cons first front =>
      obtain ⟨rfl, hs⟩ := List.cons_eq_cons.1 h
      exact ⟨front, rfl, hs⟩

namespace Escaped

variable {Plain : Char → Prop} {s t : List Char}

theorem append (hs : Escaped Plain s) (ht : Escaped Plain t) : Escaped Plain (s ++ t) := by
  induction hs with
  | nil => exact ht
  | plain hc _ ih => exact .plain hc ih
  | escape hhigh hlow _ ih => exact .escape hhigh hlow ih

theorem isAscii (hplain : ∀ c, Plain c → c.toNat < 0x80) (hs : Escaped Plain s) :
    ∀ c ∈ s, Text.isAscii c = true := by
  have hdigit {d : Char} (hd : d ∈ upperDigits) : Text.isAscii d = true := by
    have hall : upperDigits.all Text.isAscii = true := rfl
    exact List.all_eq_true.1 hall d hd
  induction hs with
  | nil => exact fun _ h => absurd h List.not_mem_nil
  | plain hc _ ih => exact List.forall_mem_cons.2 ⟨decide_eq_true (hplain _ hc), ih⟩
  | escape hhigh hlow _ ih =>
      exact List.forall_mem_cons.2 ⟨rfl, List.forall_mem_cons.2 ⟨hdigit hhigh,
        List.forall_mem_cons.2 ⟨hdigit hlow, ih⟩⟩⟩

/-- A percent sign that is no plain character begins an escape. -/
theorem hasWholeEscapes (hpercent : ¬ Plain '%') (hs : Escaped Plain s) : HasWholeEscapes s := by
  have hdigit {d : Char} (hd : d ∈ upperDigits) : d ≠ '%' := by
    rintro rfl
    exact absurd hd (by decide)
  induction hs with
  | nil => exact fun front rest h => absurd h (by simp)
  | @plain c s hc _ ih =>
      intro front rest h
      obtain ⟨more, -, hmore⟩ := exists_front_of_ne (fun heq => hpercent (heq ▸ hc)) h
      exact ih more rest hmore
  | @escape high low s hhigh hlow _ ih =>
      intro front rest h
      cases front with
      | nil => exact ⟨high, low, s, (List.cons.inj h).2.symm, hhigh, hlow⟩
      | cons first front =>
          -- Neither digit is a percent sign, so the sign stands behind the escape.
          obtain ⟨more, -, hmore⟩ := exists_front_of_ne (hdigit hhigh) (List.cons.inj h).2
          obtain ⟨last, -, hlast⟩ := exists_front_of_ne (hdigit hlow) hmore
          exact ih last rest hlast

end Escaped

/-! ## Encoding -/

theorem escaped_flatMap_escape (Plain : Char → Prop) (bytes : Bytes) :
    Escaped Plain (bytes.flatMap escape) := by
  induction bytes with
  | nil => exact .nil
  | cons b bytes ih =>
      have hb : b.toNat < 256 := b.toNat_lt
      exact .escape (upperHex_mem (by omega)) (upperHex_mem (by omega)) ih

section

variable {keeps : Char → Bool} {Plain : Char → Prop} (h : ∀ c, keeps c = true ↔ Plain c)
include h

theorem escaped_encodeChar (c : Char) : Escaped Plain (encodeChar keeps c) := by
  unfold encodeChar
  split
  · next hc => exact .plain ((h c).1 hc) .nil
  · exact escaped_flatMap_escape Plain _

theorem escaped_encode (s : List Char) : Escaped Plain (encode keeps s) := by
  induction s with
  | nil => exact .nil
  | cons c s ih =>
      rw [encode_cons]
      exact (escaped_encodeChar h c).append ih

end

theorem length_le_length_encode (keeps : Char → Bool) (s : List Char) :
    s.length ≤ (encode keeps s).length := by
  induction s with
  | nil => exact Nat.le_refl 0
  | cons c s ih =>
      have hfirst := List.length_pos_of_ne_nil (encodeChar_ne_nil keeps c)
      rw [encode_cons, List.length_append, List.length_cons]
      omega

/-- A character that is not kept becomes longer. -/
theorem one_lt_length_encodeChar {keeps : Char → Bool} {c : Char} (hc : keeps c = false) :
    1 < (encodeChar keeps c).length := by
  rw [encodeChar, hc, if_neg Bool.false_ne_true]
  cases hbytes : Text.Utf8.encodeChar c with
  | nil => exact absurd hbytes (utf8_encodeChar_ne_nil c)
  | cons b bytes => simp [escape]

/-- Exactly the texts of kept characters are encoded as themselves. -/
theorem encode_eq_self_iff {keeps : Char → Bool} {s : List Char} :
    encode keeps s = s ↔ ∀ c ∈ s, keeps c = true := by
  refine ⟨fun h => ?_, encode_eq_self⟩
  induction s with
  | nil => exact fun _ h => absurd h List.not_mem_nil
  | cons c s ih =>
      rw [encode_cons] at h
      cases hc : keeps c with
      | true =>
          rw [encodeChar, if_pos hc] at h
          exact List.forall_mem_cons.2 ⟨hc, ih (List.cons.inj h).2⟩
      | false =>
          have hlength := congrArg List.length h
          have hfirst := one_lt_length_encodeChar hc
          have hrest := length_le_length_encode keeps s
          rw [List.length_append, List.length_cons] at hlength
          omega

/-! ## Reversible encoders -/

/-- The encoder writes every text with plain characters and escapes, so that decoding gives back
its bytes; texts of plain characters, and only these, are written as they are. -/
structure Reversible (encoder : String → String) (Plain : Char → Prop) : Prop where
  ascii : ∀ s, ∀ c ∈ (encoder s).toList, isAscii c = true
  wholeEscapes : ∀ s, HasWholeEscapes (encoder s).toList
  escaped : ∀ s, Escaped Plain (encoder s).toList
  decode : ∀ s, Percent.decode (encoder s).toList = Text.bytes s
  injective : Function.Injective encoder
  append : ∀ s t, encoder (s ++ t) = encoder s ++ encoder t
  eq_self_iff : ∀ s, encoder s = s ↔ ∀ c ∈ s.toList, Plain c

/-- What encodes every text in the same way, character by character, can be reversed when the
percent sign is not kept. -/
theorem reversible_of_encode {encoder : String → String} {keeps : Char → Bool}
    {Plain : Char → Prop} (hencoder : ∀ s, (encoder s).toList = encode keeps s.toList)
    (h : ∀ c, keeps c = true ↔ Plain c) (hascii : ∀ c, Plain c → c.toNat < 0x80)
    (hpercent : ¬ Plain '%') : Reversible encoder Plain := by
  have hescaped (s : String) : Escaped Plain (encoder s).toList := by
    rw [hencoder]
    exact escaped_encode h s.toList
  have hdecode (s : String) : decode (encoder s).toList = Text.bytes s := by
    rw [hencoder]
    exact decode_encode (Bool.eq_false_iff.2 (mt (h '%').1 hpercent)) s.toList
  exact {
    ascii := fun s => (hescaped s).isAscii hascii
    wholeEscapes := fun s => (hescaped s).hasWholeEscapes hpercent
    escaped := hescaped
    decode := hdecode
    injective := fun s t heq => Text.bytes_injective <| by
      rw [← hdecode s, ← hdecode t, heq]
    append := fun s t => by
      rw [← String.toList_inj, String.toList_append, hencoder, hencoder, hencoder,
        String.toList_append, encode_append]
    eq_self_iff := fun s => by
      rw [← String.toList_inj, hencoder, encode_eq_self_iff]
      exact forall₂_congr fun c _ => h c }

theorem component_reversible : Reversible component IsComponentPlain :=
  reversible_of_encode (fun _ => String.toList_ofList) (fun _ => isUnreserved_iff)
    (fun _ hc => toNat_lt_of_isUnreserved (isUnreserved_iff.2 hc))
    (fun h => absurd (isUnreserved_iff.2 h) (by decide))

theorem segment_reversible : Reversible segment IsSegmentPlain :=
  reversible_of_encode (fun _ => String.toList_ofList) (fun _ => isSegmentChar_iff)
    (fun _ hc => Nat.lt_succ_of_lt hc.2.1) (fun h => h.2.2 (by decide))

/-- Both encoders can be reversed, each with its own alphabet, and only the segments `.` and `..`
are encoded as these. -/
theorem encoders_reversible :
    Reversible component IsComponentPlain ∧ Reversible segment IsSegmentPlain ∧
      ∀ s, (segment s = "." ↔ s = ".") ∧ (segment s = ".." ↔ s = "..") := by
  -- Points are plain, so both are encoded as themselves, and then no other text is.
  have hfixed {dots : String} (hdots : segment dots = dots) (s : String) :
      segment s = dots ↔ s = dots :=
    ⟨fun h => segment_reversible.injective (h.trans hdots.symm), fun h => h ▸ hdots⟩
  exact ⟨component_reversible, segment_reversible, fun s => ⟨hfixed rfl s, hfixed rfl s⟩⟩

end WebClient.Percent
