import WebClient.Text.Ascii

/-!
# Replacing tokens in a text

`replaceAll` copies every character at which no token starts and jumps over a
token as a whole.  The lemmas here say so for the three kinds of stretches that
texts with tokens are made of: one token, a stretch in which no token can start,
and a stretch in which no token can end.
-/

namespace WebClient.Text

variable {token value : List Char}

theorem replaceAll_go_append (skipped rest : List Char) :
    replaceAll.go token value skipped.length (skipped ++ rest) =
      replaceAll token value rest := by
  induction skipped with
  | nil => rfl
  | cons c skipped ih => simpa [replaceAll.go] using ih

/-- A character at which no token starts is copied. -/
theorem replaceAll_cons {c : Char} {rest : List Char}
    (h : token.isPrefixOf (c :: rest) = false) :
    replaceAll token value (c :: rest) = c :: replaceAll token value rest := by
  unfold replaceAll
  rw [replaceAll.go, h]
  rfl

/-- A token gives way to the value. -/
theorem replaceAll_token_append (h : token ≠ []) (rest : List Char) :
    replaceAll token value (token ++ rest) = value ++ replaceAll token value rest := by
  cases token with
  | nil => exact absurd rfl h
  | cons t token =>
      have hstart : (t :: token).isPrefixOf (t :: (token ++ rest)) = true := by
        rw [← List.cons_append, List.isPrefixOf_iff_prefix]
        exact List.prefix_append _ _
      -- The token is jumped over by counting down its length.
      have hjump := @replaceAll_go_append (t :: token) value token rest
      show replaceAll.go (t :: token) value 0 (t :: (token ++ rest)) = _
      rw [replaceAll.go, hstart]
      simpa using hjump

/-- A stretch at whose characters no token starts is copied. -/
theorem replaceAll_append_of_not_front {s rest : List Char}
    (h : ∀ front back, s = front ++ back → back ≠ [] →
      token.isPrefixOf (back ++ rest) = false) :
    replaceAll token value (s ++ rest) = s ++ replaceAll token value rest := by
  induction s with
  | nil => rfl
  | cons c s ih =>
      have hs : ∀ front back, s = front ++ back → back ≠ [] →
          token.isPrefixOf (back ++ rest) = false :=
        fun front back hparts => h (c :: front) back (by rw [hparts, List.cons_append])
      have hc : token.isPrefixOf (c :: (s ++ rest)) = false :=
        h [] (c :: s) rfl (List.cons_ne_nil _ _)
      rw [List.cons_append, replaceAll_cons hc, ih hs, List.cons_append]

/-- A stretch without the first character of the token is copied. -/
theorem replaceAll_append_of_not_mem {first : Char} {s : List Char} (h : first ∉ s)
    (rest : List Char) :
    replaceAll (first :: token) value (s ++ rest) =
      s ++ replaceAll (first :: token) value rest := by
  induction s with
  | nil => rfl
  | cons c s ih =>
      have hc : first ≠ c := fun e => h (e ▸ List.mem_cons_self)
      have hs : first ∉ s := fun m => h (List.mem_cons_of_mem _ m)
      have hstart : (first :: token).isPrefixOf (c :: (s ++ rest)) = false := by
        simp [List.isPrefixOf, hc]
      rw [List.cons_append, replaceAll_cons hstart, ih hs, List.cons_append]

/-- A text without some character of the token is left as it is. -/
theorem replaceAll_eq_self {mark : Char} (hmark : mark ∈ token) {s : List Char}
    (h : mark ∉ s) : replaceAll token value s = s := by
  induction s with
  | nil => rfl
  | cons c s ih =>
      have hs : mark ∉ s := fun m => h (List.mem_cons_of_mem _ m)
      have hstart : token.isPrefixOf (c :: s) = false := by
        rw [Bool.eq_false_iff, Ne, List.isPrefixOf_iff_prefix]
        exact fun hstarts => h (hstarts.subset hmark)
      rw [replaceAll_cons hstart, ih hs]

/-- The first kept character of a text stays or becomes that of the value, if the
value starts with a kept character. -/
theorem head?_filter_replaceAll (kept : Char → Bool) {first v : Char} {more : List Char}
    (hv : kept v = true) (s : List Char) :
    ((replaceAll (first :: token) (v :: more) s).filter kept).head? = (s.filter kept).head? ∨
      ((replaceAll (first :: token) (v :: more) s).filter kept).head? = some v := by
  induction s with
  | nil => exact Or.inl rfl
  | cons c s ih =>
      -- The value is kept from its first character on, so it ends the search.
      by_cases hstart : (first :: token).isPrefixOf (c :: s) = true
      · obtain ⟨rest, hrest⟩ := List.isPrefixOf_iff_prefix.1 hstart
        right
        rw [← hrest, replaceAll_token_append (List.cons_ne_nil _ _), List.cons_append,
          List.filter_cons_of_pos hv]
        rfl
      · rw [replaceAll_cons (Bool.eq_false_iff.2 hstart)]
        cases hc : kept c with
        | true =>
            left
            rw [List.filter_cons_of_pos hc, List.filter_cons_of_pos hc]
            rfl
        | false =>
            rw [List.filter_cons_of_neg (by simp [hc]), List.filter_cons_of_neg (by simp [hc])]
            exact ih

end WebClient.Text
