import WebClient.Text.Ascii

/-!
# Splitting a text

`splitAll` undoes putting a separator in front of each piece or between the pieces, as
long as no piece holds a separator of its own; and no piece of a text that it splits does.
-/

namespace WebClient.Text

variable {p : Char → Bool}

theorem splitAll_ne_nil (s : List Char) : splitAll p s ≠ [] := by
  cases s with
  | nil => exact List.cons_ne_nil _ _
  | cons c s =>
      rw [splitAll]
      split
      · exact List.cons_ne_nil _ _
      · split <;> exact List.cons_ne_nil _ _

theorem splitAll_cons_of_neg {c : Char} (hc : p c = false) (s : List Char) :
    splitAll p (c :: s) = (splitAll p s).modifyHead (c :: ·) := by
  rw [splitAll, hc]
  cases hs : splitAll p s with
  | nil => exact absurd hs (splitAll_ne_nil s)
  | cons piece pieces => rfl

theorem splitAll_cons_of_pos {c : Char} (hc : p c = true) (s : List Char) :
    splitAll p (c :: s) = [] :: splitAll p s := by
  rw [splitAll, hc, if_pos rfl]

/-- There is one piece more than there are separators. -/
theorem length_splitAll (s : List Char) : (splitAll p s).length = s.countP p + 1 := by
  induction s with
  | nil => rfl
  | cons c s ih =>
      cases hc : p c with
      | true => rw [splitAll_cons_of_pos hc, List.length_cons, ih, List.countP_cons_of_pos hc]
      | false =>
          rw [splitAll_cons_of_neg hc, List.length_modifyHead, ih,
            List.countP_cons_of_neg (by simp [hc])]

/-- A text without separators goes in front of the first piece. -/
theorem splitAll_append {s : List Char} (h : ∀ c ∈ s, p c = false) (rest : List Char) :
    splitAll p (s ++ rest) = (splitAll p rest).modifyHead (s ++ ·) := by
  induction s with
  | nil => cases hrest : splitAll p rest <;> simp [hrest]
  | cons c s ih =>
      obtain ⟨hc, hs⟩ := List.forall_mem_cons.1 h
      rw [List.cons_append, splitAll_cons_of_neg hc, ih hs]
      cases splitAll p rest <;> rfl

/-- A text without separators is one piece. -/
theorem splitAll_eq_singleton {s : List Char} (h : ∀ c ∈ s, p c = false) :
    splitAll p s = [s] := by
  have hsplit := splitAll_append h []
  rw [List.append_nil] at hsplit
  rw [hsplit, splitAll, List.modifyHead_cons, List.append_nil]

/-- A piece ends at the first separator. -/
theorem splitAll_append_cons {s : List Char} (h : ∀ c ∈ s, p c = false) {c : Char}
    (hc : p c = true) (rest : List Char) :
    splitAll p (s ++ c :: rest) = s :: splitAll p rest := by
  rw [splitAll_append h, splitAll_cons_of_pos hc, List.modifyHead_cons, List.append_nil]

/-- Pieces with a separator in front of each of them are split behind the empty piece. -/
theorem splitAll_flatMap {pieces : List (List Char)} (h : ∀ s ∈ pieces, ∀ c ∈ s, p c = false)
    {c : Char} (hc : p c = true) : splitAll p (pieces.flatMap (c :: ·)) = [] :: pieces := by
  induction pieces with
  | nil => rfl
  | cons s pieces ih =>
      obtain ⟨hs, hpieces⟩ := List.forall_mem_cons.1 h
      rw [List.flatMap_cons, List.cons_append, splitAll_cons_of_pos hc, splitAll_append hs,
        ih hpieces, List.modifyHead_cons, List.append_nil]

/-- Pieces with a separator between them are split at these separators. -/
theorem splitAll_join {pieces : List (List Char)} (hne : pieces ≠ [])
    (h : ∀ s ∈ pieces, ∀ c ∈ s, p c = false) {c : Char} (hc : p c = true) :
    splitAll p (join [c] pieces) = pieces := by
  induction pieces with
  | nil => exact absurd rfl hne
  | cons s pieces ih =>
      obtain ⟨hs, hpieces⟩ := List.forall_mem_cons.1 h
      cases pieces with
      | nil => exact splitAll_eq_singleton hs
      | cons next more =>
          rw [join, List.append_assoc, List.singleton_append, splitAll_append_cons hs hc,
            ih (List.cons_ne_nil _ _) hpieces]
          exact fun hnil => List.cons_ne_nil _ _ hnil

/-- A character of joined pieces is one of the separator or of a piece. -/
theorem of_mem_join {sep : List Char} {pieces : List (List Char)} {c : Char}
    (h : c ∈ join sep pieces) : c ∈ sep ∨ ∃ s ∈ pieces, c ∈ s := by
  induction pieces with
  | nil => exact absurd h List.not_mem_nil
  | cons s pieces ih =>
      cases pieces with
      | nil => exact Or.inr ⟨s, List.mem_cons_self, h⟩
      | cons next more =>
          rw [join, List.mem_append, List.mem_append] at h
          · rcases h with (hs | hsep) | hrest
            · exact Or.inr ⟨s, List.mem_cons_self, hs⟩
            · exact Or.inl hsep
            · obtain hsep | ⟨piece, hpiece, hc⟩ := ih hrest
              · exact Or.inl hsep
              · exact Or.inr ⟨piece, List.mem_cons_of_mem _ hpiece, hc⟩
          · exact fun hnil => List.cons_ne_nil _ _ hnil

/-- The pieces of a text are all of it but the separators. -/
theorem flatten_splitAll (s : List Char) : (splitAll p s).flatten = s.filter (!p ·) := by
  induction s with
  | nil => rfl
  | cons c s ih =>
      cases hc : p c with
      | true =>
          rw [splitAll_cons_of_pos hc, List.filter_cons_of_neg (by simp [hc]), ← ih]
          rfl
      | false =>
          rw [splitAll_cons_of_neg hc, List.filter_cons_of_pos (by simp [hc]), ← ih]
          cases hs : splitAll p s with
          | nil => exact absurd hs (splitAll_ne_nil s)
          | cons head pieces => rfl

/-- A piece holds characters of the text, and no separators. -/
theorem of_mem_splitAll {s piece : List Char} (h : piece ∈ splitAll p s) {c : Char}
    (hc : c ∈ piece) : c ∈ s ∧ p c = false := by
  have hmem : c ∈ (splitAll p s).flatten := List.mem_flatten.2 ⟨piece, h, hc⟩
  rw [flatten_splitAll, List.mem_filter, Bool.not_eq_true'] at hmem
  exact hmem

theorem splitAll_congr {q : Char → Bool} {s : List Char} (h : ∀ c ∈ s, p c = q c) :
    splitAll p s = splitAll q s := by
  induction s with
  | nil => rfl
  | cons c s ih =>
      obtain ⟨hc, hs⟩ := List.forall_mem_cons.1 h
      rw [splitAll, splitAll, hc, ih hs]

end WebClient.Text
