import WebClient.Percent

/-!
# The characters of encoded texts

An encoded text consists of the characters that its place keeps and of escapes.
Where a place keeps the capital hexadecimal digits, the percent sign is the only
other character that can appear.
-/

namespace WebClient.Percent

open Text (upperHex)

/-- The capital hexadecimal digits. -/
def upperDigits : List Char := "0123456789ABCDEF".toList

theorem upperHex_mem {n : Nat} (h : n < 16) : upperHex n ∈ upperDigits := by
  have hall : ∀ n < 16, upperHex n ∈ upperDigits := by decide
  exact hall n h

theorem mem_escape {b : UInt8} {x : Char} (h : x ∈ escape b) :
    x = '%' ∨ x ∈ upperDigits := by
  have hb : b.toNat < 256 := b.toNat_lt
  simp only [escape, List.mem_cons, List.not_mem_nil, or_false] at h
  rcases h with rfl | rfl | rfl
  · exact Or.inl rfl
  · exact Or.inr (upperHex_mem (by omega))
  · exact Or.inr (upperHex_mem (by omega))

theorem encode_cons (keeps : Char → Bool) (c : Char) (s : List Char) :
    encode keeps (c :: s) = encodeChar keeps c ++ encode keeps s := rfl

theorem encode_append (keeps : Char → Bool) (s t : List Char) :
    encode keeps (s ++ t) = encode keeps s ++ encode keeps t := List.flatMap_append

/-- The characters of an encoded text. -/
theorem mem_encode {keeps : Char → Bool} {s : List Char} {x : Char}
    (h : x ∈ encode keeps s) : x ∈ s ∧ keeps x = true ∨ x = '%' ∨ x ∈ upperDigits := by
  obtain ⟨c, hmem, hx⟩ := List.mem_flatMap.1 h
  unfold encodeChar at hx
  split at hx
  · next hc =>
      rw [List.mem_singleton.1 hx]
      exact Or.inl ⟨hmem, hc⟩
  · obtain ⟨b, -, hb⟩ := List.mem_flatMap.1 hx
    exact Or.inr (mem_escape hb)

theorem utf8_encodeChar_ne_nil (c : Char) : Text.Utf8.encodeChar c ≠ [] := by
  unfold Text.Utf8.encodeChar
  dsimp only
  split
  · exact List.cons_ne_nil _ _
  · split
    · exact List.cons_ne_nil _ _
    · split <;> exact List.cons_ne_nil _ _

theorem encodeChar_ne_nil (keeps : Char → Bool) (c : Char) : encodeChar keeps c ≠ [] := by
  unfold encodeChar
  split
  · exact List.cons_ne_nil _ _
  · intro h
    cases hbytes : Text.Utf8.encodeChar c with
    | nil => exact utf8_encodeChar_ne_nil c hbytes
    | cons b bytes => simp [hbytes, escape] at h

/-- Only the empty text is encoded as the empty text. -/
theorem encode_eq_nil {keeps : Char → Bool} {s : List Char} :
    encode keeps s = [] ↔ s = [] := by
  cases s with
  | nil => exact ⟨fun _ => rfl, fun _ => rfl⟩
  | cons c s => simp [encode, encodeChar_ne_nil]

/-- Where the digits of an escape are kept, every character of an encoded text is kept or
begins an escape. -/
theorem keeps_of_mem_encode {keeps : Char → Bool} (hdigits : ∀ d ∈ upperDigits, keeps d = true)
    {s : List Char} {x : Char} (h : x ∈ encode keeps s) : keeps x = true ∨ x = '%' := by
  rcases mem_encode h with ⟨-, hx⟩ | rfl | hx
  · exact Or.inl hx
  · exact Or.inr rfl
  · exact Or.inl (hdigits x hx)

/-- A text of characters that a place keeps is encoded as itself. -/
theorem encode_eq_self {keeps : Char → Bool} {s : List Char}
    (h : ∀ c ∈ s, keeps c = true) : encode keeps s = s := by
  induction s with
  | nil => rfl
  | cons c s ih =>
      have hc : encodeChar keeps c = [c] := by
        rw [encodeChar, if_pos (h c List.mem_cons_self)]
      have hs := ih fun x hx => h x (List.mem_cons_of_mem _ hx)
      rw [encode] at hs ⊢
      rw [List.flatMap_cons, hc, hs]
      rfl

/-- Encoding neither adds nor removes a character that its place keeps and that is not
part of escapes. -/
theorem count_encode {keeps : Char → Bool} {x : Char} (hkeeps : keeps x = true)
    (hpercent : x ≠ '%') (hdigit : x ∉ upperDigits) (s : List Char) :
    (encode keeps s).count x = s.count x := by
  induction s with
  | nil => rfl
  | cons c s ih =>
      rw [encode_cons, List.count_append, ih, List.count_cons, Nat.add_comm,
        Nat.add_left_cancel_iff, encodeChar]
      by_cases hc : keeps c = true
      · rw [if_pos hc, List.count_singleton]
      · have hne : (c == x) = false := beq_false_of_ne fun heq => hc (heq ▸ hkeeps)
        rw [if_neg hc, hne, if_neg Bool.false_ne_true, List.count_eq_zero]
        intro hx
        obtain ⟨b, -, hb⟩ := List.mem_flatMap.1 hx
        exact (mem_escape hb).elim hpercent hdigit

/-! ## Segments of a path -/

theorem isSegmentChar_of_mem_upperDigits {x : Char} (h : x ∈ upperDigits) :
    isSegmentChar x = true := by
  have hall : upperDigits.all isSegmentChar = true := rfl
  exact List.all_eq_true.1 hall x h

/-- The characters of an encoded segment. -/
theorem mem_segment {s : String} {x : Char} (h : x ∈ (segment s).toList) :
    isSegmentChar x = true ∨ x = '%' := by
  rw [segment, String.toList_ofList] at h
  exact keeps_of_mem_encode (fun _ => isSegmentChar_of_mem_upperDigits) h

/-- A character that no segment keeps, other than the percent sign, does not appear
in an encoded segment. -/
theorem not_mem_segment {s : String} {x : Char} (hx : isSegmentChar x = false)
    (hpercent : x ≠ '%') : x ∉ (segment s).toList := by
  intro h
  rcases mem_segment h with hkept | rfl
  · rw [hx] at hkept
    exact Bool.false_ne_true hkept
  · exact hpercent rfl

theorem segment_eq_nil {s : String} : (segment s).toList = [] ↔ s = "" := by
  rw [segment, String.toList_ofList, encode_eq_nil, String.toList_eq_nil_iff]

/-! ## Components -/

theorem toNat_lt_of_isUnreserved {c : Char} (h : isUnreserved c = true) : c.toNat < 0x80 := by
  have hupper (h : c.isUpper = true) : c.toNat < 0x80 :=
    Nat.lt_of_le_of_lt (UInt32.le_iff_toNat_le.1 (of_decide_eq_true h).2) (by decide)
  have hlower (h : c.isLower = true) : c.toNat < 0x80 :=
    Nat.lt_of_le_of_lt (UInt32.le_iff_toNat_le.1 (of_decide_eq_true (Bool.and_eq_true_iff.1 h).2))
      (by decide)
  have hdigit (h : c.isDigit = true) : c.toNat < 0x80 :=
    Nat.lt_of_le_of_lt (UInt32.le_iff_toNat_le.1 (of_decide_eq_true (Bool.and_eq_true_iff.1 h).2))
      (by decide)
  simp only [isUnreserved, Char.isAlphanum, Bool.or_eq_true, decide_eq_true_eq] at h
  rcases h with ((((halpha | h) | rfl) | rfl) | rfl) | rfl
  · exact (Bool.or_eq_true_iff.1 halpha).elim hupper hlower
  · exact hdigit h
  all_goals decide

theorem isUnreserved_of_mem_upperDigits {x : Char} (h : x ∈ upperDigits) :
    isUnreserved x = true := by
  have hall : upperDigits.all isUnreserved = true := rfl
  exact List.all_eq_true.1 hall x h

/-- The characters of an encoded component. -/
theorem mem_component {s : String} {x : Char} (h : x ∈ (component s).toList) :
    isUnreserved x = true ∨ x = '%' := by
  rw [component, String.toList_ofList] at h
  exact keeps_of_mem_encode (fun _ => isUnreserved_of_mem_upperDigits) h

/-- A character that is reserved, other than the percent sign, does not appear in an
encoded component. -/
theorem not_mem_component {s : String} {x : Char} (hx : isUnreserved x = false)
    (hpercent : x ≠ '%') : x ∉ (component s).toList := by
  intro h
  rcases mem_component h with hkept | rfl
  · rw [hx] at hkept
    exact Bool.false_ne_true hkept
  · exact hpercent rfl

theorem isQueryChar_of_isUnreserved {special : Bool} {c : Char} (h : isUnreserved c = true) :
    isQueryChar special c = true := by
  -- An unreserved character is one of the 128 first ones, which can be tried out.
  have hall : ∀ n < 0x80, ∀ special : Bool, isUnreserved (Char.ofNat n) = true →
      isQueryChar special (Char.ofNat n) = true := by decide
  have hc := hall c.toNat (toNat_lt_of_isUnreserved h) special
  rw [Char.ofNat_toNat] at hc
  exact hc h

/-- A text that is encoded for a query is one that may stand in a query. -/
theorem isQueryChar_of_mem_encode {special : Bool} {s : List Char} {x : Char}
    (h : x ∈ encode (isQueryChar special) s) : isQueryChar special x = true := by
  have hdigits : ∀ d ∈ upperDigits, isQueryChar special d = true :=
    fun d hd => isQueryChar_of_isUnreserved (isUnreserved_of_mem_upperDigits hd)
  rcases keeps_of_mem_encode hdigits h with hx | rfl
  · exact hx
  · cases special <;> decide

/-- An encoded component may stand in a query as it is. -/
theorem isQueryChar_of_mem_component {special : Bool} {s : String} {x : Char}
    (h : x ∈ (component s).toList) : isQueryChar special x = true := by
  rcases mem_component h with hx | rfl
  · exact isQueryChar_of_isUnreserved hx
  · cases special <;> decide

/-! ## Paths -/

theorem isPathChar_of_isUnreserved {c : Char} (h : isUnreserved c = true) :
    isPathChar c = true := by
  have hall : ∀ n < 0x80,
      isUnreserved (Char.ofNat n) = true → isPathChar (Char.ofNat n) = true := by
    decide
  have hc := hall c.toNat (toNat_lt_of_isUnreserved h)
  rw [Char.ofNat_toNat] at hc
  exact hc h

theorem isPathChar_of_isSegmentChar {c : Char} (h : isSegmentChar c = true) :
    isPathChar c = true := by
  simp_all [isSegmentChar, isPathChar, isFragmentChar, isPlain]

/-- An encoded segment may stand in a path as it is. -/
theorem isPathChar_of_mem_segment {s : String} {x : Char} (h : x ∈ (segment s).toList) :
    isPathChar x = true := by
  rcases mem_segment h with hx | rfl
  · exact isPathChar_of_isSegmentChar hx
  · decide

end WebClient.Percent
