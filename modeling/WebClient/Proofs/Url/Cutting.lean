import WebClient.Proofs.Url.Resolution

/-!
# Where a reference is cut

Whether a reference has a query and a fragment, and what stands in them but for blanks, is
settled by the marks in the text that it is read from: no blank that is dropped is a mark.
-/

namespace WebClient.Reference

/-! ## Cutting at a mark -/

theorem cut_cons_self (mark : Char) (s : List Char) : cut mark (mark :: s) = ([], some s) := by
  rw [cut, Text.splitOnce?, if_pos (by simp)]

theorem cut_cons_of_ne {mark c : Char} (hc : c ≠ mark) (s : List Char) :
    cut mark (c :: s) = (c :: (cut mark s).1, (cut mark s).2) := by
  rw [cut, cut, Text.splitOnce?, if_neg (by simpa using hc)]
  cases Text.splitOnce? (· == mark) s <;> rfl

/-- A text without the mark goes in front of what is cut. -/
theorem cut_append_of_not_mem {mark : Char} {front : List Char} (h : mark ∉ front)
    (s : List Char) : cut mark (front ++ s) = (front ++ (cut mark s).1, (cut mark s).2) := by
  induction front with
  | nil => rfl
  | cons c front ih =>
      obtain ⟨hc, hfront⟩ := List.ne_and_not_mem_of_not_mem_cons h
      rw [List.cons_append, cut_cons_of_ne (Ne.symm hc), ih hfront]
      rfl

/-- A text is cut at its first mark, whatever stands behind the mark. -/
theorem cut_append_cons {mark : Char} {front : List Char} (h : mark ∉ front) (s : List Char) :
    cut mark (front ++ mark :: s) = (front, some s) := by
  rw [cut_append_of_not_mem h, cut_cons_self, List.append_nil]

/-- Characters other than the mark can be dropped before a text is cut or afterwards. -/
theorem cut_filter {mark : Char} {q : Char → Bool} (hq : q mark = true) (s : List Char) :
    cut mark (s.filter q) = ((cut mark s).1.filter q, (cut mark s).2.map (List.filter q)) := by
  induction s with
  | nil => rfl
  | cons c s ih =>
      by_cases hc : c = mark
      · subst hc
        rw [List.filter_cons_of_pos hq, cut_cons_self, cut_cons_self]
        rfl
      · rw [cut_cons_of_ne hc, List.filter_cons, List.filter_cons]
        split
        · rw [cut_cons_of_ne hc, ih]
        · exact ih

/-! ## Blanks -/

/-- A text without the characters that are dropped at its ends. -/
def visible (s : List Char) : List Char := s.filter fun c => !isOuterBlank c

theorem visible_trimBoth (s : List Char) :
    visible (Text.trimBoth isOuterBlank s) = visible s :=
  Text.filter_trimBoth s

/-- The characters that are dropped everywhere are dropped at the ends too. -/
theorem visible_clean (s : List Char) : visible (clean s) = visible s := by
  rw [visible, clean, List.filter_filter, visible]
  refine List.filter_congr fun c _ => ?_
  cases houter : isOuterBlank c with
  | true => rfl
  | false => simp [isLineBlank_of_isOuterBlank houter]

theorem count_visible {c : Char} (hc : isOuterBlank c = false) (s : List Char) :
    (visible s).count c = s.count c :=
  List.count_filter (by simp [hc])

theorem cut_visible {mark : Char} (hmark : isOuterBlank mark = false) (s : List Char) :
    cut mark (visible s) = (visible (cut mark s).1, (cut mark s).2.map visible) :=
  cut_filter (by simp [hmark]) s

/-- The fragment is what stands behind the first `#`, but for blanks. -/
theorem fragment_ofText (s : List Char) :
    (ofText s).fragment.map visible = (cut '#' s).2.map visible := by
  have hfragment : (ofText s).fragment =
      (cut '#' (Text.trimBoth isOuterBlank s)).2.map clean := rfl
  have hclean : visible ∘ clean = visible := funext visible_clean
  have htrimmed := @cut_visible '#' rfl (Text.trimBoth isOuterBlank s)
  rw [visible_trimBoth, cut_visible rfl] at htrimmed
  rw [hfragment, Option.map_map, hclean]
  exact (congrArg Prod.snd htrimmed).symm

/-- The query is what stands behind the first `?` in front of the fragment, but for blanks. -/
theorem query_ofText (s : List Char) :
    (ofText s).query.map visible = (cut '?' (cut '#' s).1).2.map visible := by
  have hquery : (ofText s).query =
      (cut '?' (cut '#' (Text.trimBoth isOuterBlank s)).1).2.map clean := rfl
  have hclean : visible ∘ clean = visible := funext visible_clean
  have htrimmed := @cut_visible '#' rfl (Text.trimBoth isOuterBlank s)
  rw [visible_trimBoth, cut_visible rfl] at htrimmed
  -- What is cut off at the `#` is the same, but for blanks, and so is what the `?` cuts off.
  have hfront := congrArg (cut '?') (congrArg Prod.fst htrimmed)
  dsimp only at hfront
  rw [cut_visible rfl, cut_visible rfl] at hfront
  rw [hquery, Option.map_map, hclean]
  exact (congrArg Prod.snd hfront).symm

end WebClient.Reference
