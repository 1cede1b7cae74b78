import WebClient.Proofs.Template.Substitution
import WebClient.Proofs.Url.Cutting

/-!
# The query and the fragment of a template

A template is cut at its marks piece by piece: a `#` or `?` counts where it stands in the
text between the slots, and what stands in a slot does not matter, since an encoded value
holds neither.  So the template alone settles whether the reference that it gives has a
query and a fragment; and how many ampersands the query has depends on the values of those
slots that stand in the query, and on nothing else.
-/

namespace WebClient.Template

/-! ## Cutting pieces -/

/-- A piece cut at its first mark, where the mark stands in the text. -/
def Piece.cut? (mark : Char) : Piece → Option (Piece × Piece)
  | .text s => (Text.splitOnce? (· == mark) s).map fun (front, back) => (.text front, .text back)
  | .slot _ => none

/-- The name of the value that is put in the place of a piece. -/
def Piece.name? : Piece → Option String
  | .text _ => none
  | .slot name => if name.isEmpty then none else some (String.ofList name)

/-- The pieces up to the first mark, and those behind it where it is there. -/
def cutPieces (mark : Char) : List Piece → List Piece × Option (List Piece)
  | [] => ([], none)
  | p :: ps =>
      match p.cut? mark with
      | some (front, back) => ([front], some (back :: ps))
      | none => (p :: (cutPieces mark ps).1, (cutPieces mark ps).2)

/-- The pieces of the fragment, where the template has one. -/
def fragmentPieces (t : Template) : Option (List Piece) :=
  (cutPieces '#' (pieces t.text.toList)).2

/-- The pieces of the query, where the template has one. -/
def queryPieces (t : Template) : Option (List Piece) :=
  (cutPieces '?' (cutPieces '#' (pieces t.text.toList)).1).2

/-- The names of the values that stand in the query, in order. -/
def querySlots (t : Template) : List String := (t.queryPieces.getD []).filterMap Piece.name?

variable {value : String → List Char}

theorem Piece.mark_not_mem_fill {mark : Char} (hbraces : mark ≠ '{' ∧ mark ≠ '}')
    (hvalue : ∀ name, mark ∉ value name) {p : Piece} (hp : p.cut? mark = none) :
    mark ∉ p.fill value := by
  cases p with
  | text s =>
      have hnone := Text.splitOnce?_eq_none.1 (Option.map_eq_none_iff.1 hp)
      exact fun hmark => absurd (hnone mark hmark) (by simp)
  | slot name =>
      rw [Piece.fill]
      split
      · simp [hbraces]
      · exact hvalue _

/-- Pieces can be cut before values without marks are put in or afterwards. -/
theorem cut_flatMap_fill {mark : Char} (hbraces : mark ≠ '{' ∧ mark ≠ '}')
    (hvalue : ∀ name, mark ∉ value name) (ps : List Piece) :
    Reference.cut mark (ps.flatMap (Piece.fill value)) =
      ((cutPieces mark ps).1.flatMap (Piece.fill value),
        (cutPieces mark ps).2.map (List.flatMap (Piece.fill value))) := by
  induction ps with
  | nil => rfl
  | cons p ps ih =>
      rw [List.flatMap_cons, cutPieces]
      cases hp : p.cut? mark with
      | none =>
          rw [Reference.cut_append_of_not_mem (Piece.mark_not_mem_fill hbraces hvalue hp), ih]
          rfl
      | some parts =>
          -- The mark is in a text, which no value is put into.
          cases p with
          | slot name => cases hp
          | text s =>
              obtain ⟨⟨front, back⟩, hsplit, rfl⟩ := Option.map_eq_some_iff.1 hp
              obtain ⟨c, rfl, hc, hfront⟩ := Text.splitOnce?_eq_some.1 hsplit
              obtain rfl : c = mark := by simpa using hc
              have hnot : c ∉ front := fun hmem => absurd (hfront c hmem) (by simp)
              have hfill : Piece.fill value (.text (front ++ c :: back)) ++
                  ps.flatMap (Piece.fill value) =
                  front ++ c :: (back ++ ps.flatMap (Piece.fill value)) := by
                simp [Piece.fill]
              rw [hfill, Reference.cut_append_cons hnot]
              simp [Piece.fill]

/-- How often a character stands in filled pieces: as often as in the pieces with nothing
put in, and as often as in the values that are put in. -/
theorem count_flatMap_fill (c : Char) (ps : List Piece) :
    (ps.flatMap (Piece.fill value)).count c =
      (ps.flatMap (Piece.fill fun _ => [])).count c +
        ((ps.filterMap Piece.name?).flatMap value).count c := by
  induction ps with
  | nil => rfl
  | cons p ps ih =>
      rw [List.flatMap_cons, List.flatMap_cons, List.count_append, List.count_append, ih,
        List.filterMap_cons]
      cases p with
      | text s => exact (Nat.add_assoc _ _ _).symm
      | slot name =>
          rw [Piece.name?, Piece.fill, Piece.fill]
          split
          · exact (Nat.add_assoc _ _ _).symm
          · rw [List.count_nil, List.flatMap_cons, List.count_append]
            omega

/-! ## The reference of a template -/

/-- The reference that the template gives with the encodings of some texts for its names. -/
def reference (texts : String → String) (t : Template) : Reference :=
  Reference.ofText (t.substitute fun name => (Percent.segment (texts name)).toList)

/-- The number of ampersands in the texts that stand in the query. -/
def ampersands (texts : String → String) (t : Template) : Nat :=
  (t.querySlots.flatMap fun name => (texts name).toList).count '&'

variable (texts : String → String) (t : Template)

theorem reference_eq : t.reference texts = Reference.ofText
    ((pieces t.text.toList).flatMap
      (Piece.fill fun name => (Percent.segment (texts name)).toList)) := rfl

theorem mark_not_mem_segment {mark : Char} (hmark : mark = '#' ∨ mark = '?') (name : String) :
    mark ∉ (Percent.segment (texts name)).toList := by
  rcases hmark with rfl | rfl <;> exact Percent.not_mem_segment rfl (by decide)

/-- Segments are encoded with the ampersands that they have. -/
theorem count_flatMap_segment (names : List String) :
    (names.flatMap fun name => (Percent.segment (texts name)).toList).count '&' =
      (names.flatMap fun name => (texts name).toList).count '&' := by
  have hencode : (names.flatMap fun name => (Percent.segment (texts name)).toList) =
      Percent.encode Percent.isSegmentChar (names.flatMap fun name => (texts name).toList) := by
    simp only [Percent.segment, String.toList_ofList, Percent.encode, List.flatMap_assoc]
  rw [hencode, Percent.count_encode rfl (by decide) (by decide)]

/-- The template settles whether the reference has a fragment. -/
theorem isSome_fragment_reference :
    (t.reference texts).fragment.isSome = t.fragmentPieces.isSome := by
  have hfragment := Reference.fragment_ofText ((pieces t.text.toList).flatMap
    (Piece.fill fun name => (Percent.segment (texts name)).toList))
  rw [cut_flatMap_fill (by decide) (mark_not_mem_segment texts (Or.inl rfl)),
    ← reference_eq] at hfragment
  simpa [fragmentPieces] using congrArg Option.isSome hfragment

/-- The query of the reference is that of the template with the values put in, but for
blanks. -/
theorem query_reference :
    (t.reference texts).query.map Reference.visible =
      t.queryPieces.map fun ps => Reference.visible
        (ps.flatMap (Piece.fill fun name => (Percent.segment (texts name)).toList)) := by
  have hquery := Reference.query_ofText ((pieces t.text.toList).flatMap
    (Piece.fill fun name => (Percent.segment (texts name)).toList))
  rw [cut_flatMap_fill (by decide) (mark_not_mem_segment texts (Or.inl rfl)),
    cut_flatMap_fill (by decide) (mark_not_mem_segment texts (Or.inr rfl)), ← reference_eq,
    Option.map_map] at hquery
  exact hquery

/-- The template settles whether the reference has a query. -/
theorem isSome_query_reference : (t.reference texts).query.isSome = t.queryPieces.isSome := by
  simpa using congrArg Option.isSome (query_reference texts t)

/-- The ampersands of the query are those of the template and those of the texts that stand
in the query. -/
theorem count_query_reference {q : List Char} (hq : (t.reference texts).query = some q) :
    q.count '&' =
      ((t.queryPieces.getD []).flatMap (Piece.fill fun _ => [])).count '&' +
        t.ampersands texts := by
  have hquery := query_reference texts t
  rw [hq, Option.map_some, eq_comm, Option.map_eq_some_iff] at hquery
  obtain ⟨ps, hps, hvisible⟩ := hquery
  have hcount := congrArg (List.count '&') hvisible
  rw [Reference.count_visible rfl, Reference.count_visible rfl,
    count_flatMap_fill] at hcount
  rw [← hcount, count_flatMap_segment, ampersands, querySlots, hps, Option.getD_some]

/-- Without a query no text stands in the query. -/
theorem ampersands_eq_zero (h : t.queryPieces = none) : t.ampersands texts = 0 := by
  rw [ampersands, querySlots, h]
  rfl

end WebClient.Template
