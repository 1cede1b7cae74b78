import WebClient.Proofs.Percent.Alphabet
import WebClient.Proofs.Text.Utf8

/-!
# Undoing percent-encoding

Decoding takes what a character is encoded as off the front of a text, whatever stands
behind it, as long as no percent sign stands for itself.  So an encoded text gives back
the bytes that it was made of.
-/

namespace WebClient.Percent

open Text (upperHex hexValue?)

theorem hexValue?_upperHex {n : Nat} (h : n < 16) : hexValue? (upperHex n) = some n := by
  have hall : ∀ n < 16, hexValue? (upperHex n) = some n := by decide
  exact hall n h

/-- An escape is read as its byte. -/
theorem decode_escape_append (b : UInt8) (rest : List Char) :
    decode (escape b ++ rest) = b :: decode rest := by
  have hb : b.toNat < 256 := b.toNat_lt
  have hhigh := hexValue?_upperHex (n := b.toNat / 16) (by omega)
  have hlow := hexValue?_upperHex (n := b.toNat % 16) (by omega)
  have hbyte : UInt8.ofNat (b.toNat / 16 * 16 + b.toNat % 16) = b := by
    rw [Nat.div_add_mod', UInt8.ofNat_toNat]
  rw [escape, List.cons_append, List.cons_append, List.singleton_append, decode, hhigh, hlow]
  simp only [hbyte]

/-- Any character but the percent sign is read as its own bytes. -/
theorem decode_cons_of_ne {c : Char} (hc : c ≠ '%') (rest : List Char) :
    decode (c :: rest) = Text.Utf8.encodeChar c ++ decode rest := by
  rw [decode]
  rintro h l more rfl
  exact fun _ => hc rfl

/-- A text without percent signs is read as it stands. -/
theorem decode_of_not_mem {s : List Char} (h : '%' ∉ s) : decode s = Text.Utf8.encode s := by
  induction s with
  | nil => rfl
  | cons c s ih =>
      have hc : c ≠ '%' := fun heq => h (heq ▸ List.mem_cons_self)
      rw [decode_cons_of_ne hc, ih fun hs => h (List.mem_cons_of_mem _ hs)]
      rfl

theorem decode_encodeChar_append {keeps : Char → Bool} (hpercent : keeps '%' = false) (c : Char)
    (rest : List Char) :
    decode (encodeChar keeps c ++ rest) = Text.Utf8.encodeChar c ++ decode rest := by
  unfold encodeChar
  split
  · next hc =>
      have hne : c ≠ '%' := by
        rintro rfl
        rw [hpercent] at hc
        cases hc
      exact decode_cons_of_ne hne rest
  · induction Text.Utf8.encodeChar c with
    | nil => rfl
    | cons b bytes ih =>
        rw [List.flatMap_cons, List.append_assoc, decode_escape_append, ih, List.cons_append]

/-- Decoding an encoded text gives its bytes. -/
theorem decode_encode {keeps : Char → Bool} (hpercent : keeps '%' = false) (s : List Char) :
    decode (encode keeps s) = Text.Utf8.encode s := by
  induction s with
  | nil => rfl
  | cons c s ih =>
      rw [encode_cons, decode_encodeChar_append hpercent, ih]
      rfl

theorem decode_segment (s : String) : decode (segment s).toList = Text.bytes s := by
  rw [segment, String.toList_ofList]
  exact decode_encode rfl s.toList

theorem decode_component (s : String) : decode (component s).toList = Text.bytes s := by
  rw [component, String.toList_ofList]
  exact decode_encode rfl s.toList

/-- The text that an encoded text stands for, where its bytes are those of a text. -/
def text? (s : List Char) : Option String := (Text.ofBytes (decode s)).toOption

theorem text?_component (s : String) : text? (component s).toList = some s := by
  rw [text?, decode_component, Text.ofBytes_bytes]
  rfl

end WebClient.Percent
