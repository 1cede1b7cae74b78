import Mathlib.Data.List.Infix
import WebClient.Http.Multipart

/-!
# Reading multipart forms

A body is read with the boundary of its form: a delimiter line, the header lines of a part
up to a blank line, the data of the part up to the next delimiter, and so on until the
delimiter that closes the form.  What stands behind that one is left over.  The header
lines of a part are kept as they stand; `Block.part?` makes a part of them.
-/

namespace WebClient.Multipart

/-! ## Cutting -/

/-- Cut a sequence at the first place where a separator stands, and drop the separator. -/
def cutAt (sep : Bytes) : Bytes → Option (Bytes × Bytes)
  | [] => none
  | b :: s =>
      match sep.isPrefixOf? (b :: s) with
      | some rest => some ([], rest)
      | none => (cutAt sep s).map fun (front, rest) => (b :: front, rest)

theorem isPrefixOf?_append (front rest : Bytes) :
    front.isPrefixOf? (front ++ rest) = some rest :=
  List.isPrefixOf?_eq_some_iff_append_eq.2 rfl

/-- A sequence that is cut is put together again with the separator. -/
theorem eq_of_cutAt {sep s front rest : Bytes} (h : cutAt sep s = some (front, rest)) :
    s = front ++ sep ++ rest := by
  induction s generalizing front with
  | nil => cases h
  | cons b s ih =>
      rw [cutAt] at h
      split at h
      · next behind hbehind =>
          cases h
          exact (List.isPrefixOf?_eq_some_iff_append_eq.1 hbehind).symm
      · obtain ⟨⟨before, behind⟩, hcut, hparts⟩ := Option.map_eq_some_iff.1 h
        cases hparts
        rw [ih hcut]
        rfl

theorem length_of_cutAt {sep s front rest : Bytes} (hsep : sep ≠ [])
    (h : cutAt sep s = some (front, rest)) : rest.length < s.length := by
  have hpos := List.length_pos_iff.2 hsep
  rw [eq_of_cutAt h, List.length_append, List.length_append]
  omega

/-- A sequence is cut at the first separator: what stands in front of it holds none. -/
theorem not_infix_of_cutAt {sep s front rest : Bytes} (hsep : sep ≠ [])
    (h : cutAt sep s = some (front, rest)) : ¬ sep <:+: front := by
  induction s generalizing front with
  | nil => cases h
  | cons b s ih =>
      have happend := eq_of_cutAt h
      rw [cutAt] at h
      split at h
      · cases h
        exact fun hin => hsep (List.eq_nil_of_infix_nil hin)
      · next hnone =>
          obtain ⟨⟨before, behind⟩, hcut, hparts⟩ := Option.map_eq_some_iff.1 h
          cases hparts
          intro hin
          obtain ⟨more, hmore⟩ | hlater := List.infix_cons_iff.1 hin
          · -- Then the sequence itself would begin with the separator.
            rw [happend, ← hmore, List.append_assoc, List.append_assoc,
              isPrefixOf?_append] at hnone
            cases hnone
          · exact ih hcut hlater

/-- A separator whose first byte does not stand in it again does not begin inside data that
does not hold it, even when one stands right behind the data. -/
theorem isPrefixOf?_seam {c b : UInt8} {tail data : Bytes} (htail : c ∉ tail)
    (hdata : ¬ (c :: tail) <:+: b :: data) (rest : Bytes) :
    (c :: tail).isPrefixOf? (b :: (data ++ (c :: tail ++ rest))) = none := by
  rw [Option.eq_none_iff_forall_ne_some]
  intro behind hbehind
  have happend := List.isPrefixOf?_eq_some_iff_append_eq.1 hbehind
  obtain ⟨rfl, hsplit⟩ := List.cons_eq_cons.1 happend
  -- Such a separator would end inside the data, or hold the first byte of the one behind.
  obtain ⟨more, hmore, -⟩ | ⟨inner, rfl, hinner⟩ := List.append_eq_append_iff.1 hsplit
  · exact hdata ⟨[], more, by rw [hmore]; rfl⟩
  · cases inner with
    | nil => exact hdata ⟨[], [], by simp⟩
    | cons x inner =>
        obtain ⟨rfl, -⟩ := List.cons_eq_cons.1 hinner
        exact htail (by simp)

/-- Data that does not hold a separator is cut off at the one behind it. -/
theorem cutAt_append {c : UInt8} {tail data : Bytes} (htail : c ∉ tail)
    (hdata : ¬ (c :: tail) <:+: data) (rest : Bytes) :
    cutAt (c :: tail) (data ++ (c :: tail ++ rest)) = some (data, rest) := by
  induction data with
  | nil =>
      have hfront : (c :: tail).isPrefixOf? (c :: (tail ++ rest)) = some rest :=
        isPrefixOf?_append (c :: tail) rest
      rw [List.nil_append, List.cons_append, cutAt, hfront]
  | cons b data ih =>
      have hlater : cutAt (c :: tail) (data ++ (c :: tail ++ rest)) = some (data, rest) :=
        ih fun h => hdata (h.trans (List.suffix_cons b data).isInfix)
      rw [List.cons_append, cutAt, isPrefixOf?_seam htail hdata, hlater]
      rfl

/-! ## Blocks -/

/-- The colon and the space between the name and the value of a header line. -/
def fieldSeparator : Bytes := [0x3a, 0x20]

/-- Header lines up to a blank line, each cut into a name and a value. -/
def readHeaders (s : Bytes) : Option (List (Bytes × Bytes) × Bytes) :=
  match _hcut : cutAt Form.lineEnd s with
  | none => none
  | some ([], rest) => some ([], rest)
  | some (line, rest) =>
      match cutAt fieldSeparator line with
      | none => none
      | some field => (readHeaders rest).map fun (fields, rest) => (field :: fields, rest)
termination_by s.length
decreasing_by exact length_of_cutAt (by decide) _hcut

theorem readHeaders_of_blank {s rest : Bytes} (h : cutAt Form.lineEnd s = some ([], rest)) :
    readHeaders s = some ([], rest) := by
  rw [readHeaders]
  split
  · next hcut => exact absurd (h.symm.trans hcut) (by simp)
  · next behind hcut =>
      obtain ⟨-, rfl⟩ := Prod.mk.inj (Option.some.inj (h.symm.trans hcut))
      rfl
  · next line behind hline hcut =>
      obtain ⟨rfl, -⟩ := Prod.mk.inj (Option.some.inj (h.symm.trans hcut))
      exact absurd rfl hline

theorem readHeaders_of_line {s line rest : Bytes} {field : Bytes × Bytes}
    (h : cutAt Form.lineEnd s = some (line, rest))
    (hfield : cutAt fieldSeparator line = some field) :
    readHeaders s = (readHeaders rest).map fun (fields, rest) => (field :: fields, rest) := by
  rw [readHeaders]
  split
  · next hcut => exact absurd (h.symm.trans hcut) (by simp)
  · next behind hcut =>
      obtain ⟨rfl, -⟩ := Prod.mk.inj (Option.some.inj (h.symm.trans hcut))
      cases hfield
  · next other behind hline hcut =>
      obtain ⟨rfl, rfl⟩ := Prod.mk.inj (Option.some.inj (h.symm.trans hcut))
      rw [hfield]

theorem length_of_readHeaders {s rest : Bytes} {fields : List (Bytes × Bytes)}
    (h : readHeaders s = some (fields, rest)) : rest.length < s.length := by
  have hend : Form.lineEnd ≠ [] := by decide
  fun_induction readHeaders s generalizing fields rest with
  | case1 => cases h
  | case2 s behind hcut =>
      cases h
      exact length_of_cutAt hend hcut
  | case3 => cases h
  | case4 s line behind hline hcut field hfield ih =>
      obtain ⟨⟨more, last⟩, hmore, hparts⟩ := Option.map_eq_some_iff.1 h
      cases hparts
      exact (ih hmore).trans (length_of_cutAt hend hcut)

/-- A header line that is read holds no end of a line. -/
theorem not_infix_of_readHeaders {s rest : Bytes} {fields : List (Bytes × Bytes)}
    (h : readHeaders s = some (fields, rest)) {field : Bytes × Bytes} (hfield : field ∈ fields) :
    ¬ Form.lineEnd <:+: field.1 ++ fieldSeparator ++ field.2 := by
  fun_induction readHeaders s generalizing fields rest with
  | case1 => cases h
  | case2 s behind hcut =>
      cases h
      exact absurd hfield List.not_mem_nil
  | case3 => cases h
  | case4 s line behind hline hcut first hfirst ih =>
      obtain ⟨⟨more, last⟩, hmore, hparts⟩ := Option.map_eq_some_iff.1 h
      cases hparts
      obtain rfl | hlater := List.mem_cons.1 hfield
      · rw [← eq_of_cutAt hfirst]
        exact not_infix_of_cutAt (by decide) hcut
      · exact ih hmore hlater

/-- What is read of a part before it is looked into. -/
structure Block where
  headers : List (Bytes × Bytes)
  data : Bytes

/-- A part behind the boundary of a delimiter, and what stands behind the next one. -/
def readBlock (delimiter s : Bytes) : Option (Block × Bytes) := do
  let s ← Form.lineEnd.isPrefixOf? s
  let (headers, s) ← readHeaders s
  let (data, s) ← cutAt delimiter s
  return (⟨headers, data⟩, s)

theorem length_of_readBlock {delimiter s rest : Bytes} {block : Block}
    (h : readBlock delimiter s = some (block, rest)) : rest.length < s.length := by
  obtain ⟨line, hline, h⟩ := Option.bind_eq_some_iff.1 h
  obtain ⟨⟨headers, behind⟩, hheaders, h⟩ := Option.bind_eq_some_iff.1 h
  obtain ⟨⟨data, last⟩, hdata, h⟩ := Option.bind_eq_some_iff.1 h
  cases h
  have hshorter := length_of_readHeaders hheaders
  rw [← List.isPrefixOf?_eq_some_iff_append_eq.1 hline, List.length_append]
  rw [eq_of_cutAt hdata, List.length_append] at hshorter
  omega

/-- Parts up to the delimiter that closes the form, and what stands behind it. -/
def readBlocks (delimiter s : Bytes) : Option (List Block × Bytes) :=
  match (Form.dashes ++ Form.lineEnd).isPrefixOf? s with
  | some rest => some ([], rest)
  | none =>
      match _hblock : readBlock delimiter s with
      | none => none
      | some (block, rest) =>
          (readBlocks delimiter rest).map fun (blocks, rest) => (block :: blocks, rest)
termination_by s.length
decreasing_by exact length_of_readBlock _hblock

theorem readBlocks_closing (delimiter rest : Bytes) :
    readBlocks delimiter (Form.dashes ++ Form.lineEnd ++ rest) = some ([], rest) := by
  rw [readBlocks, isPrefixOf?_append]

theorem readBlocks_of_block {delimiter s rest : Bytes} {block : Block}
    (hopen : (Form.dashes ++ Form.lineEnd).isPrefixOf? s = none)
    (h : readBlock delimiter s = some (block, rest)) :
    readBlocks delimiter s =
      (readBlocks delimiter rest).map fun (blocks, rest) => (block :: blocks, rest) := by
  rw [readBlocks, hopen]
  dsimp only
  split
  · next hblock => exact absurd (h.symm.trans hblock) (by simp)
  · next other behind hblock =>
      obtain ⟨rfl, rfl⟩ := Prod.mk.inj (Option.some.inj (h.symm.trans hblock))
      rfl

theorem not_infix_of_readBlock {delimiter s rest : Bytes} {block : Block}
    (h : readBlock delimiter s = some (block, rest)) {field : Bytes × Bytes}
    (hfield : field ∈ block.headers) :
    ¬ Form.lineEnd <:+: field.1 ++ fieldSeparator ++ field.2 := by
  obtain ⟨line, hline, h⟩ := Option.bind_eq_some_iff.1 h
  obtain ⟨⟨headers, behind⟩, hheaders, h⟩ := Option.bind_eq_some_iff.1 h
  obtain ⟨⟨data, last⟩, hdata, h⟩ := Option.bind_eq_some_iff.1 h
  cases h
  exact not_infix_of_readHeaders hheaders hfield

theorem not_infix_of_readBlocks {delimiter s rest : Bytes} {blocks : List Block}
    (h : readBlocks delimiter s = some (blocks, rest)) {block : Block} (hblock : block ∈ blocks)
    {field : Bytes × Bytes} (hfield : field ∈ block.headers) :
    ¬ Form.lineEnd <:+: field.1 ++ fieldSeparator ++ field.2 := by
  fun_induction readBlocks delimiter s generalizing blocks rest with
  | case1 =>
      cases h
      exact absurd hblock List.not_mem_nil
  | case2 => cases h
  | case3 s hopen first behind hfirst ih =>
      obtain ⟨⟨more, last⟩, hmore, hparts⟩ := Option.map_eq_some_iff.1 h
      cases hparts
      obtain rfl | hlater := List.mem_cons.1 hblock
      · exact not_infix_of_readBlock hfirst hfield
      · exact ih hmore hlater

/-- The dashes and the boundary that open a delimiter. -/
def opening (boundary : String) : Bytes := Form.dashes ++ Text.bytes boundary

/-- The parts of a body and what stands behind it. -/
def readBody (boundary : String) (s : Bytes) : Option (List Block × Bytes) := do
  let s ← (opening boundary).isPrefixOf? s
  readBlocks (Form.lineEnd ++ opening boundary) s

/-! ## Parts -/

/-- The quotation mark. -/
def quotationMark : Bytes := [0x22]

/-- What stands in quotes behind a label, up to the next quotation mark. -/
def quoted? (label : String) (s : Bytes) : Option (Bytes × Bytes) := do
  let s ← (Text.bytes label ++ quotationMark).isPrefixOf? s
  cutAt quotationMark s

/-- The name and the file name that a content disposition gives. -/
def disposition? (s : Bytes) : Option (Bytes × Option Bytes) := do
  let (name, s) ← quoted? "form-data; name=" s
  if s = [] then return (name, none)
  let (filename, s) ← quoted? "; filename=" s
  if s = [] then return (name, some filename)
  none

theorem eq_of_quoted? {label : String} {s name rest : Bytes}
    (h : quoted? label s = some (name, rest)) :
    s = Text.bytes label ++ quotationMark ++ (name ++ quotationMark ++ rest) ∧ 0x22 ∉ name := by
  obtain ⟨behind, hbehind, hcut⟩ := Option.bind_eq_some_iff.1 h
  have hmark := not_infix_of_cutAt (by decide) hcut
  rw [← List.isPrefixOf?_eq_some_iff_append_eq.1 hbehind, eq_of_cutAt hcut]
  exact ⟨rfl, fun hin => hmark ((List.singleton_infix_iff _ _).2 hin)⟩

/-- A name that is read without a file name stands in its quotes and holds no other ones. -/
theorem eq_of_disposition? {s name : Bytes} (h : disposition? s = some (name, none)) :
    s = Text.bytes "form-data; name=" ++ quotationMark ++ (name ++ quotationMark) ∧
      0x22 ∉ name := by
  obtain ⟨⟨text, rest⟩, htext, h⟩ := Option.bind_eq_some_iff.1 h
  obtain ⟨hshape, hmark⟩ := eq_of_quoted? htext
  dsimp only at h
  split at h
  · next hend =>
      cases h
      rw [hshape, hend, List.append_nil]
      exact ⟨rfl, hmark⟩
  · -- Behind a name something else can stand only for a file name.
    obtain ⟨⟨filename, last⟩, -, h⟩ := Option.bind_eq_some_iff.1 h
    dsimp only at h
    split at h <;> cases h

/-- The text of bytes that are UTF-8. -/
def text? (s : Bytes) : Option String := (Text.ofBytes s).toOption

/-- The part that header lines and data make. -/
def Block.part? (block : Block) : Option Part := do
  let disposition ← block.headers.lookup (Text.bytes "Content-Disposition")
  let (name, filename) ← disposition? disposition
  let contentType := block.headers.lookup (Text.bytes "Content-Type")
  return {
    name := ← text? name
    filename := ← filename.mapM text?
    contentType := ← contentType.mapM text?
    data := block.data }

/-- The parts of a form that a body holds, and what stands behind the body. -/
def read (boundary : String) (s : Bytes) : Option (List Part × Bytes) := do
  let (blocks, rest) ← readBody boundary s
  return (← blocks.mapM Block.part?, rest)

end WebClient.Multipart
