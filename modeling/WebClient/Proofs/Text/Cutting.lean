import Mathlib.Data.List.TakeWhile
import WebClient.Text.Ascii

/-!
# Cutting and trimming a text

Where `splitOnce?` cuts a text, and when `trimBoth` leaves nothing of one.
-/

namespace WebClient.Text

variable {p : Char → Bool}

/-- A text is cut at its first character of a class. -/
theorem splitOnce?_eq_some {s before after : List Char} :
    splitOnce? p s = some (before, after) ↔
      ∃ c, s = before ++ c :: after ∧ p c = true ∧ ∀ x ∈ before, p x = false := by
  induction s generalizing before with
  | nil => simp [splitOnce?]
  | cons first s ih =>
      rw [splitOnce?]
      by_cases hfirst : p first = true
      · rw [if_pos hfirst]
        constructor
        · intro h
          cases h
          exact ⟨first, rfl, hfirst, fun x hx => absurd hx List.not_mem_nil⟩
        · rintro ⟨c, hs, hc, hbefore⟩
          cases before with
          | nil =>
              obtain ⟨-, rfl⟩ := List.cons_eq_cons.1 hs
              rfl
          | cons x before =>
              obtain ⟨rfl, -⟩ := List.cons_eq_cons.1 hs
              have hx := hbefore first List.mem_cons_self
              rw [hfirst] at hx
              cases hx
      · rw [if_neg hfirst, Option.map_eq_some_iff]
        constructor
        · rintro ⟨⟨head, tail⟩, hrest, hparts⟩
          cases hparts
          obtain ⟨c, rfl, hc, hhead⟩ := ih.1 hrest
          exact ⟨c, rfl, hc, List.forall_mem_cons.2 ⟨Bool.not_eq_true _ ▸ hfirst, hhead⟩⟩
        · rintro ⟨c, hs, hc, hbefore⟩
          cases before with
          | nil =>
              obtain ⟨rfl, -⟩ := List.cons_eq_cons.1 hs
              exact absurd hc hfirst
          | cons x before =>
              obtain ⟨rfl, hrest⟩ := List.cons_eq_cons.1 hs
              refine ⟨(before, after), ih.2 ⟨c, hrest, hc, fun y hy => ?_⟩, rfl⟩
              exact hbefore y (List.mem_cons_of_mem _ hy)

/-- A text without characters of a class is not cut. -/
theorem splitOnce?_eq_none {s : List Char} :
    splitOnce? p s = none ↔ ∀ c ∈ s, p c = false := by
  induction s with
  | nil => simp [splitOnce?]
  | cons c s ih =>
      rw [splitOnce?, List.forall_mem_cons]
      by_cases hc : p c = true
      · simp [hc]
      · rw [if_neg hc, Option.map_eq_none_iff, ih]
        simp [hc]

theorem dropTrailing_eq_nil {s : List Char} :
    dropTrailing p s = [] ↔ ∀ c ∈ s, p c = true := by
  induction s with
  | nil => simp [dropTrailing]
  | cons first s ih =>
      rw [dropTrailing, List.forall_mem_cons, ← ih]
      cases hrest : dropTrailing p s with
      | nil => by_cases hfirst : p first = true <;> simp [hfirst]
      | cons kept more => simp

/-- What stands up to a character that is to stay is not dropped. -/
theorem dropTrailing_append_cons {c : Char} (hc : p c = false) (front rest : List Char) :
    dropTrailing p (front ++ c :: rest) = front ++ c :: dropTrailing p rest := by
  induction front with
  | nil =>
      rw [List.nil_append, dropTrailing, hc]
      cases dropTrailing p rest <;> rfl
  | cons first front ih =>
      rw [List.cons_append, dropTrailing, ih]
      cases front <;> rfl

theorem dropTrailing_eq_self {s : List Char} (h : ∀ c ∈ s, p c = false) :
    dropTrailing p s = s := by
  induction s with
  | nil => rfl
  | cons c s ih =>
      obtain ⟨hc, hs⟩ := List.forall_mem_cons.1 h
      rw [dropTrailing, ih hs, hc]
      cases s <;> rfl

/-- Dropping characters at the end drops only characters of their class. -/
theorem filter_dropTrailing (s : List Char) :
    (dropTrailing p s).filter (!p ·) = s.filter (!p ·) := by
  induction s with
  | nil => rfl
  | cons c s ih =>
      rw [dropTrailing, List.filter_cons, ← ih]
      cases dropTrailing p s with
      | nil => cases hc : p c <;> simp [hc]
      | cons kept more => rw [List.filter_cons]

theorem filter_trimBoth (s : List Char) : (trimBoth p s).filter (!p ·) = s.filter (!p ·) := by
  have hfront : (s.takeWhile p).filter (!p ·) = [] :=
    List.filter_eq_nil_iff.2 fun c hc => by simp [List.mem_takeWhile_imp hc]
  have hsplit := congrArg (List.filter (!p ·)) (@List.takeWhile_append_dropWhile _ p s)
  rw [List.filter_append, hfront, List.nil_append] at hsplit
  rw [trimBoth, filter_dropTrailing, hsplit]

/-- Nothing is left of a text when all of it is to be dropped. -/
theorem trimBoth_eq_nil {s : List Char} : trimBoth p s = [] ↔ ∀ c ∈ s, p c = true := by
  rw [trimBoth, dropTrailing_eq_nil]
  constructor
  · intro h c hc
    rw [← @List.takeWhile_append_dropWhile _ p s] at hc
    rcases List.mem_append.1 hc with hfront | hback
    · exact List.mem_takeWhile_imp hfront
    · exact h c hback
  · intro h c hc
    exact h c (List.dropWhile_suffix p |>.subset hc)

end WebClient.Text
