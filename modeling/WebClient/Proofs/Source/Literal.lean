import WebClient.Interface.Options

/-!
# Literals of texts

A text is written as a literal with the quote, the backslash and the characters without a
glyph escaped.  Reading the literal gives the text back, whatever is in it
(`Token.text?_ofText`).
-/

namespace WebClient.Source

namespace Literal

/-! ## Escapes -/

theorem hexValue?_digitChar {d : Nat} (h : d < 16) : Text.hexValue? d.digitChar = some d := by
  have hall : ∀ d < 16, Text.hexValue? (Nat.digitChar d) = some d := by decide
  exact hall d h

/-- The digits of a number, at most six of them, are read up to what stands behind them. -/
theorem bracedNumber?_hexNumeral (n : Nat) (h : (Text.hexNumeral n).length ≤ 6)
    (rest : List Char) :
    bracedNumber? 0 0 (Text.hexNumeral n ++ rest) =
      bracedNumber? n (Text.hexNumeral n).length rest := by
  induction n using Nat.strongRecOn generalizing rest with
  | _ n ih =>
      by_cases hn : n < 16
      · rw [Text.hexNumeral, Nat.toDigits_of_lt_base hn]
        simp only [List.singleton_append, bracedNumber?, hexValue?_digitChar hn]
        simp
      · have hsplit : Text.hexNumeral n =
            Text.hexNumeral (n / 16) ++ [(n % 16).digitChar] :=
          Nat.toDigits_of_base_le (by omega) (by omega)
        rw [hsplit, List.length_append, List.length_singleton] at h
        rw [hsplit, List.append_assoc, List.singleton_append, ih (n / 16) (by omega) (by omega)]
        rw [bracedNumber?, hexValue?_digitChar (Nat.mod_lt n (by omega))]
        dsimp only
        rw [if_neg (by omega), List.length_append, List.length_singleton, Nat.div_add_mod']

theorem isScalar_toNat (c : Char) : isScalar c.toNat = true := by
  have hvalid : c.toNat < 0xd800 ∨ 0xdfff < c.toNat ∧ c.toNat < 0x110000 := c.valid
  rw [isScalar, Bool.or_eq_true, Bool.and_eq_true, decide_eq_true_eq, decide_eq_true_eq,
    decide_eq_true_eq]
  exact hvalid.imp id fun h => ⟨by omega, h.2⟩

theorem bracedNumber?_closing {n digits : Nat} (h : digits ≠ 0) (rest : List Char) :
    bracedNumber? n digits ('\x7d' :: rest) = some (n, rest) := by
  simp [bracedNumber?, h, show Text.hexValue? '\x7d' = none from by decide]

theorem escape?_unicodeEscape (c : Char) (rest : List Char) :
    escape? {} ('u' :: '\x7b' :: (Text.hexNumeral c.toNat ++ '\x7d' :: rest)) =
      some (c, rest) := by
  have hvalid : c.toNat < 0xd800 ∨ 0xdfff < c.toNat ∧ c.toNat < 0x110000 := c.valid
  have hlength : (Text.hexNumeral c.toNat).length ≤ 6 := by
    rw [Text.hexNumeral, Nat.length_toDigits_le_iff (by omega) (by omega)]
    omega
  have hnumber : bracedNumber? 0 0 (Text.hexNumeral c.toNat ++ '\x7d' :: rest) =
      some (c.toNat, rest) := by
    rw [bracedNumber?_hexNumeral _ hlength]
    exact bracedNumber?_closing (Nat.ne_of_gt Nat.length_toDigits_pos) rest
  simp [escape?, hnumber, isScalar_toNat]

/-! ## Quoted texts -/

/-- A text behind its first character. -/
def behind (c : Char) (read : Option (List Char × List Char)) : Option (List Char × List Char) :=
  read.map fun (text, rest) => (c :: text, rest)

/-- Behind a backslash an escape is read. -/
theorem quoted?_escape {fuel : Nat} {s rest : List Char} {c : Char}
    (hescape : escape? {} s = some (c, rest)) :
    quoted? {} (fuel + 1) ('\\' :: s) = behind c (quoted? {} fuel rest) := by
  -- No escape starts with a line end, which would continue the line.
  obtain ⟨d, t, rfl, hfeed, hreturn⟩ : ∃ d t, s = d :: t ∧ d ≠ '\n' ∧ d ≠ '\r' := by
    cases s with
    | nil => cases hescape
    | cons d t =>
        refine ⟨d, t, rfl, ?_, ?_⟩
        · rintro rfl
          cases hescape
        · rintro rfl
          cases hescape
  simp [quoted?, hfeed, hreturn, hescape, behind]

/-- A character that needs no escape is read as it is. -/
theorem quoted?_cons {fuel : Nat} {c : Char} {rest : List Char} (hquote : c ≠ '"')
    (hreturn : c ≠ '\r') (hslash : c ≠ '\\') :
    quoted? {} (fuel + 1) (c :: rest) = behind c (quoted? {} fuel rest) := by
  simp [quoted?, hreturn, hslash, behind]

/-- A character is read as it was written. -/
theorem quoted?_encodeChar (c : Char) (fuel : Nat) (rest : List Char) :
    quoted? {} (fuel + 1) (Text.Quoted.encodeChar c ++ rest) =
      behind c (quoted? {} fuel rest) := by
  unfold Text.Quoted.encodeChar
  -- Six characters have escapes of their own.
  iterate 6
    split
    · next h =>
        subst h
        exact quoted?_escape rfl
  split
  · have hescape := @quoted?_escape fuel _ _ _ (escape?_unicodeEscape c rest)
    simpa [Text.Quoted.unicodeEscape] using hescape
  · exact quoted?_cons ‹_› ‹_› ‹_›

/-- The characters between the quotes are read as the text, one step for each character. -/
theorem quoted?_body (s : List Char) {fuel : Nat} (h : s.length < fuel) (rest : List Char) :
    quoted? {} fuel (ofText.body s ++ '"' :: rest) = some (s, rest) := by
  obtain ⟨fuel, rfl⟩ : ∃ n, fuel = n + 1 := ⟨fuel - 1, by omega⟩
  induction s using ofText.body.induct generalizing fuel with
  | case1 => simp [ofText.body, quoted?]
  | case2 d s hoctal ih =>
      obtain ⟨fuel, rfl⟩ : ∃ n, fuel = n + 1 := ⟨fuel - 1, by simp at h; omega⟩
      have hnul : escape? {} ('x' :: '0' :: '0' :: (ofText.body (d :: s) ++ '"' :: rest)) =
          some ('\x00', ofText.body (d :: s) ++ '"' :: rest) := rfl
      rw [ofText.body, if_pos hoctal]
      refine (quoted?_escape hnul).trans ?_
      rw [ih fuel (by simpa using h)]
      rfl
  | case3 d s hoctal ih =>
      obtain ⟨fuel, rfl⟩ : ∃ n, fuel = n + 1 := ⟨fuel - 1, by simp at h; omega⟩
      have hnul : escape? {} ('0' :: (ofText.body (d :: s) ++ '"' :: rest)) =
          some ('\x00', ofText.body (d :: s) ++ '"' :: rest) := rfl
      rw [ofText.body, if_neg hoctal]
      refine (quoted?_escape hnul).trans ?_
      rw [ih fuel (by simpa using h)]
      rfl
  | case4 c s hnul ih =>
      obtain ⟨fuel, rfl⟩ : ∃ n, fuel = n + 1 := ⟨fuel - 1, by simp at h; omega⟩
      rw [ofText.body.eq_3 _ _ hnul, List.append_assoc, quoted?_encodeChar,
        ih fuel (by simpa using h)]
      rfl

theorem length_encodeChar_pos (c : Char) : 0 < (Text.Quoted.encodeChar c).length := by
  unfold Text.Quoted.encodeChar Text.Quoted.unicodeEscape
  repeat' split
  all_goals simp

/-- Every character is written with one character at least. -/
theorem length_le_body (s : List Char) : s.length ≤ (ofText.body s).length := by
  induction s using ofText.body.induct with
  | case1 => exact Nat.le_refl _
  | case2 d s hoctal ih =>
      rw [ofText.body, if_pos hoctal, List.length_append]
      simp only [List.length_cons] at ih ⊢
      omega
  | case3 d s hoctal ih =>
      rw [ofText.body, if_neg hoctal, List.length_append]
      simp only [List.length_cons] at ih ⊢
      omega
  | case4 c s hnul ih =>
      have hc := length_encodeChar_pos c
      rw [ofText.body.eq_3 _ _ hnul, List.length_append, List.length_cons]
      omega

theorem string?_ofText (s : String) : string? (ofText s).toList = some (s.toList, []) := by
  have hlength := length_le_body s.toList
  rw [ofText, String.toList_ofList]
  exact quoted?_body s.toList (by simp; omega) []

end Literal

theorem Token.text?_ofText (s : String) : (literal (Literal.ofText s)).text? = some s := by
  rw [text?, Literal.string?_ofText]
  simp

end WebClient.Source
