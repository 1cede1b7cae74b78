import WebClient.Proofs.Multipart.Reading
import WebClient.Proofs.Text.Utf8

/-!
# Reading back a form

What a form writes is read as the parts that it has, in their order, and reading stops
behind the delimiter that closes it.  Texts must not end the quotes or the line that they
stand in, and data must not hold the dashes and the boundary that open a delimiter.  A
delimiter does not arise across the end of data either: it begins with the end of a line,
and the boundary holds no such byte again.
-/

namespace WebClient.Multipart

/-- A part can be read back: its texts end neither their quotes nor their lines, and its
data opens no delimiter. -/
structure IsReadable (boundary : String) (part : Part) : Prop where
  name : '"' ∉ part.name.toList ∧ '\r' ∉ part.name.toList
  filename : ∀ f ∈ part.filename, '"' ∉ f.toList ∧ '\r' ∉ f.toList
  contentType : ∀ t ∈ part.contentType, '\r' ∉ t.toList
  data : ¬ opening boundary <:+: part.data

theorem return_not_mem_bytes {s : String} (h : '\r' ∉ s.toList) : 0x0d ∉ Text.bytes s :=
  Text.not_mem_bytes (by decide) h

theorem quotationMark_not_mem_bytes {s : String} (h : '"' ∉ s.toList) : 0x22 ∉ Text.bytes s :=
  Text.not_mem_bytes (by decide) h

theorem no_lineEnd_of_not_mem {s : Bytes} (h : 0x0d ∉ s) : ¬ Form.lineEnd <:+: s :=
  fun hin => h (hin.subset List.mem_cons_self)

/-- No end of a line arises where two sequences meet when its halves cannot stand there. -/
theorem lineEnd_infix_append_iff {front rest : Bytes} (h : 0x0d ∉ front ∨ 0x0a ∉ rest) :
    Form.lineEnd <:+: front ++ rest ↔ Form.lineEnd <:+: front ∨ Form.lineEnd <:+: rest := by
  rw [List.infix_append_iff_ne_nil]
  constructor
  · rintro (hfront | hrest | ⟨first, second, hfirst, hsecond, hsplit, hends, hbegins⟩)
    · exact .inl hfront
    · exact .inr hrest
    · -- Both pieces hold something, so each of them is one byte of the end of the line.
      obtain ⟨rfl, rfl⟩ : first = [0x0d] ∧ second = [0x0a] := by
        match first, second with
        | [a], [b] => simpa [Form.lineEnd, eq_comm] using hsplit
        | _ :: _ :: _, _ :: _ => simp [Form.lineEnd] at hsplit
        | [_], _ :: _ :: _ => simp [Form.lineEnd] at hsplit
      rcases h with h | h
      · exact absurd (hends.subset List.mem_cons_self) h
      · exact absurd (hbegins.subset List.mem_cons_self) h
  · rintro (hfront | hrest)
    · exact .inl hfront
    · exact .inr (.inl hrest)

/-! ## Dispositions -/

/-- The value of the content disposition of a part. -/
def dispositionOf (part : Part) : Bytes :=
  Text.bytes "form-data; name=" ++ Form.quote part.name ++
    match part.filename with
    | some filename => Text.bytes "; filename=" ++ Form.quote filename
    | none => []

theorem quoted?_quote (label : String) {text : String} (h : 0x22 ∉ Text.bytes text)
    (rest : Bytes) :
    quoted? label (Text.bytes label ++ Form.quote text ++ rest) =
      some (Text.bytes text, rest) := by
  have hshape : Text.bytes label ++ Form.quote text ++ rest =
      (Text.bytes label ++ quotationMark) ++ (Text.bytes text ++ (quotationMark ++ rest)) := by
    simp [Form.quote, quotationMark]
  have hinfix : ¬ quotationMark <:+: Text.bytes text := fun hin =>
    h (hin.subset List.mem_cons_self)
  rw [quoted?, hshape, isPrefixOf?_append]
  exact cutAt_append List.not_mem_nil hinfix rest

theorem disposition?_dispositionOf {part : Part} (hname : 0x22 ∉ Text.bytes part.name)
    (hfile : ∀ f ∈ part.filename, 0x22 ∉ Text.bytes f) :
    disposition? (dispositionOf part) =
      some (Text.bytes part.name, part.filename.map Text.bytes) := by
  unfold disposition? dispositionOf
  rw [quoted?_quote _ hname]
  cases hfilename : part.filename with
  | none => rfl
  | some filename =>
      have hread := quoted?_quote "; filename=" (hfile filename hfilename) []
      have hmore : Text.bytes "; filename=" ++ Form.quote filename ≠ [] := by
        simp [Form.quote]
      rw [List.append_nil] at hread
      rw [Option.bind_eq_bind, Option.bind_some]
      dsimp only
      rw [if_neg hmore, hread]
      rfl

/-! ## Header lines -/

/-- The header lines of a part. -/
def fieldsOf (part : Part) : List (Bytes × Bytes) :=
  (Text.bytes "Content-Disposition", dispositionOf part) ::
    part.contentType.toList.map fun t => (Text.bytes "Content-Type", Text.bytes t)

/-- A header line as it stands in the body. -/
def fieldLine (field : Bytes × Bytes) : Bytes :=
  field.1 ++ fieldSeparator ++ field.2 ++ Form.lineEnd

theorem partHeaders_eq (part : Part) :
    Form.partHeaders part = (fieldsOf part).flatMap fieldLine := by
  have hlabel : Text.bytes "Content-Disposition: form-data; name=" =
      Text.bytes "Content-Disposition" ++ fieldSeparator ++ Text.bytes "form-data; name=" := rfl
  have htype : Text.bytes "Content-Type: " = Text.bytes "Content-Type" ++ fieldSeparator := rfl
  unfold Form.partHeaders fieldsOf dispositionOf
  rw [hlabel, htype]
  cases part.filename with
  | none => cases part.contentType <;> simp [fieldLine]
  | some filename => cases part.contentType <;> simp [fieldLine]

/-- A header line ends where its line ends, and its name where the colon stands. -/
structure IsField (field : Bytes × Bytes) : Prop where
  name : 0x3a ∉ field.1 ∧ 0x0d ∉ field.1
  value : ¬ Form.lineEnd <:+: field.2

theorem IsField.line {field : Bytes × Bytes} (h : IsField field) :
    ¬ Form.lineEnd <:+: field.1 ++ (fieldSeparator ++ field.2) := by
  have hseparator : 0x0d ∉ fieldSeparator := by decide
  rw [lineEnd_infix_append_iff (.inl h.name.2), lineEnd_infix_append_iff (.inl hseparator)]
  simp [no_lineEnd_of_not_mem h.name.2, no_lineEnd_of_not_mem hseparator, h.value]

theorem cutAt_lineEnd {line : Bytes} (h : ¬ Form.lineEnd <:+: line) (s : Bytes) :
    cutAt Form.lineEnd (line ++ (Form.lineEnd ++ s)) = some (line, s) :=
  cutAt_append (by decide) h s

theorem readHeaders_fieldLine {field : Bytes × Bytes} (h : IsField field) (s : Bytes) :
    readHeaders (fieldLine field ++ s) =
      (readHeaders s).map fun (fields, rest) => (field :: fields, rest) := by
  have hshape : fieldLine field ++ s =
      field.1 ++ (fieldSeparator ++ field.2) ++ (Form.lineEnd ++ s) := by
    simp [fieldLine]
  have hfield : cutAt fieldSeparator (field.1 ++ (fieldSeparator ++ field.2)) = some field :=
    cutAt_append (by decide) (fun hin => h.name.1 (hin.subset List.mem_cons_self)) field.2
  rw [hshape]
  exact readHeaders_of_line (cutAt_lineEnd h.line s) hfield

theorem readHeaders_lineEnd (s : Bytes) : readHeaders (Form.lineEnd ++ s) = some ([], s) :=
  readHeaders_of_blank (cutAt_lineEnd (no_lineEnd_of_not_mem List.not_mem_nil) s)

/-- Header lines are read up to the blank line. -/
theorem readHeaders_fields {fields : List (Bytes × Bytes)} (h : ∀ field ∈ fields, IsField field)
    (s : Bytes) :
    readHeaders (fields.flatMap fieldLine ++ (Form.lineEnd ++ s)) = some (fields, s) := by
  induction fields with
  | nil => exact readHeaders_lineEnd s
  | cons field fields ih =>
      obtain ⟨hfield, hfields⟩ := List.forall_mem_cons.1 h
      rw [List.flatMap_cons, List.append_assoc, readHeaders_fieldLine hfield, ih hfields]
      rfl

/-- The header lines of a part are lines when the texts in them are. -/
theorem isField_of_disposition {part : Part}
    (hdisposition : ¬ Form.lineEnd <:+: dispositionOf part)
    (htype : ∀ t ∈ part.contentType, '\r' ∉ t.toList) : ∀ field ∈ fieldsOf part, IsField field := by
  intro field hfield
  obtain rfl | htail := List.mem_cons.1 hfield
  · have hown : 0x3a ∉ Text.bytes "Content-Disposition" ∧
        0x0d ∉ Text.bytes "Content-Disposition" := by decide
    exact ⟨hown, hdisposition⟩
  · have hown : 0x3a ∉ Text.bytes "Content-Type" ∧ 0x0d ∉ Text.bytes "Content-Type" := by decide
    obtain ⟨t, ht, rfl⟩ := List.mem_map.1 htail
    have htext := return_not_mem_bytes (htype t (Option.mem_toList.1 ht))
    exact ⟨hown, no_lineEnd_of_not_mem htext⟩

/-- The header lines of a part end where they end, and its data opens no delimiter. -/
structure IsLegible (boundary : String) (part : Part) : Prop where
  fields : ∀ field ∈ fieldsOf part, IsField field
  data : ¬ opening boundary <:+: part.data

theorem IsReadable.isLegible {boundary : String} {part : Part} (h : IsReadable boundary part) :
    IsLegible boundary part := by
  refine ⟨isField_of_disposition (no_lineEnd_of_not_mem ?_) h.contentType, h.data⟩
  have hname := return_not_mem_bytes h.name.2
  have hlabel : 0x0d ∉ Text.bytes "form-data; name=" := by decide
  have hlater : 0x0d ∉ Text.bytes "; filename=" := by decide
  unfold dispositionOf
  cases hfilename : part.filename with
  | none => simp [Form.quote, hname, hlabel]
  | some filename =>
      have htext := return_not_mem_bytes (h.filename filename hfilename).2
      simp [Form.quote, hname, hlabel, hlater, htext]

/-! ## Blocks -/

/-- What is read of a part. -/
def blockOf (part : Part) : Block := ⟨fieldsOf part, part.data⟩

/-- The data of a part is read up to the delimiter that stands behind it. -/
theorem cutAt_delimiter {boundary : String} (hboundary : '\r' ∉ boundary.toList) {part : Part}
    (h : IsLegible boundary part) (s : Bytes) :
    cutAt (Form.lineEnd ++ opening boundary)
        (part.data ++ (Form.lineEnd ++ opening boundary ++ s)) =
      some (part.data, s) := by
  have htail : 0x0d ∉ 0x0a :: opening boundary := by
    simp [opening, Form.dashes, return_not_mem_bytes hboundary]
  refine cutAt_append htail (fun hin => h.data ?_) s
  exact (List.suffix_append Form.lineEnd (opening boundary)).isInfix.trans hin

theorem readBlock_part {boundary : String} (hboundary : '\r' ∉ boundary.toList) {part : Part}
    (h : IsLegible boundary part) (s : Bytes) :
    readBlock (Form.lineEnd ++ opening boundary)
        (Form.lineEnd ++ (Form.partHeaders part ++ (Form.lineEnd ++
          (part.data ++ (Form.lineEnd ++ opening boundary ++ s))))) =
      some (blockOf part, s) := by
  have hheaders := readHeaders_fields h.fields
    (part.data ++ (Form.lineEnd ++ opening boundary ++ s))
  rw [readBlock, isPrefixOf?_append, Option.bind_eq_bind, Option.bind_some, partHeaders_eq,
    hheaders, Option.bind_eq_bind, Option.bind_some]
  dsimp only
  rw [cutAt_delimiter hboundary h]
  rfl

/-! ## Forms -/

/-- What stands in the body behind the dashes and the boundary that open it. -/
def behindOpening (boundary : String) : List Part → Bytes
  | [] => Form.dashes ++ Form.lineEnd
  | part :: parts =>
      Form.lineEnd ++ (Form.partHeaders part ++ (Form.lineEnd ++
        (part.data ++ (Form.lineEnd ++ opening boundary ++ behindOpening boundary parts))))

theorem bytes_eq (form : Form) :
    form.bytes = opening form.boundary ++ behindOpening form.boundary form.parts := by
  obtain ⟨boundary, parts⟩ := form
  unfold Form.bytes
  dsimp only
  induction parts with
  | nil => simp [behindOpening, opening]
  | cons part parts ih =>
      rw [List.flatMap_cons, behindOpening]
      simp only [List.append_assoc] at ih ⊢
      rw [ih]
      simp [Form.partBytes, opening]

theorem readBlocks_of_isLegible {boundary : String} (hboundary : '\r' ∉ boundary.toList)
    {parts : List Part} (h : ∀ part ∈ parts, IsLegible boundary part) (rest : Bytes) :
    readBlocks (Form.lineEnd ++ opening boundary) (behindOpening boundary parts ++ rest) =
      some (parts.map blockOf, rest) := by
  induction parts with
  | nil => exact readBlocks_closing _ rest
  | cons part parts ih =>
      obtain ⟨hpart, hparts⟩ := List.forall_mem_cons.1 h
      have hblock := readBlock_part hboundary hpart (behindOpening boundary parts ++ rest)
      have hshape : behindOpening boundary (part :: parts) ++ rest =
          Form.lineEnd ++ (Form.partHeaders part ++ (Form.lineEnd ++ (part.data ++
            (Form.lineEnd ++ opening boundary ++ (behindOpening boundary parts ++ rest))))) := by
        simp [behindOpening]
      -- The end of a line stands where the closing delimiter has a dash.
      have hopen : (Form.dashes ++ Form.lineEnd).isPrefixOf?
          (behindOpening boundary (part :: parts) ++ rest) = none := rfl
      rw [hshape] at hopen ⊢
      rw [readBlocks_of_block hopen hblock, ih hparts]
      rfl

/-- The body of a form whose parts are legible is read as their blocks. -/
theorem readBody_of_isLegible {boundary : String} (hboundary : '\r' ∉ boundary.toList)
    {parts : List Part} (h : ∀ part ∈ parts, IsLegible boundary part) :
    readBody boundary (Form.toBody ⟨boundary, parts⟩).bytes = some (parts.map blockOf, []) := by
  have hblocks := readBlocks_of_isLegible hboundary h []
  rw [List.append_nil] at hblocks
  rw [Form.toBody, bytes_eq, readBody, isPrefixOf?_append]
  exact hblocks

theorem readBlocks_behindOpening {boundary : String} (hboundary : '\r' ∉ boundary.toList)
    {parts : List Part} (h : ∀ part ∈ parts, IsReadable boundary part) (rest : Bytes) :
    readBlocks (Form.lineEnd ++ opening boundary) (behindOpening boundary parts ++ rest) =
      some (parts.map blockOf, rest) :=
  readBlocks_of_isLegible hboundary (fun part hpart => (h part hpart).isLegible) rest

theorem text?_bytes (s : String) : text? (Text.bytes s) = some s := by
  rw [text?, Text.ofBytes_bytes]
  rfl

theorem mapM_text?_bytes (text : Option String) :
    (text.map Text.bytes).mapM text? = some text := by
  cases text with
  | none => rfl
  | some s =>
      rw [Option.map_some, Option.mapM_some, text?_bytes]
      rfl

theorem lookup_contentType (part : Part) :
    (fieldsOf part).lookup (Text.bytes "Content-Type") = part.contentType.map Text.bytes := by
  have hother : (Text.bytes "Content-Type" == Text.bytes "Content-Disposition") = false := rfl
  rw [fieldsOf, List.lookup_cons, hother]
  cases part.contentType with
  | none => rfl
  | some t => exact List.lookup_cons_self

/-- The header lines and the data of a part make the part. -/
theorem part?_blockOf {boundary : String} {part : Part} (h : IsReadable boundary part) :
    (blockOf part).part? = some part := by
  have hdisposition : (fieldsOf part).lookup (Text.bytes "Content-Disposition") =
      some (dispositionOf part) := List.lookup_cons_self
  have hread := disposition?_dispositionOf (quotationMark_not_mem_bytes h.name.1)
    fun f hf => quotationMark_not_mem_bytes (h.filename f hf).1
  simp only [Block.part?, blockOf, hdisposition, hread,
    lookup_contentType, text?_bytes, mapM_text?_bytes, Option.bind_eq_bind, Option.bind_some]
  rfl

theorem mapM_part?_blockOf {boundary : String} {parts : List Part}
    (h : ∀ part ∈ parts, IsReadable boundary part) :
    (parts.map blockOf).mapM Block.part? = some parts := by
  induction parts with
  | nil => rfl
  | cons part parts ih =>
      obtain ⟨hpart, hparts⟩ := List.forall_mem_cons.1 h
      rw [List.map_cons, List.mapM_cons, part?_blockOf hpart, ih hparts]
      rfl

/-- Reading a form that was written gives its parts, and stops behind the delimiter that
closes it. -/
theorem read_toBody {form : Form} (hboundary : '\r' ∉ form.boundary.toList)
    (hparts : ∀ part ∈ form.parts, IsReadable form.boundary part) (rest : Bytes) :
    read form.boundary (form.toBody.bytes ++ rest) = some (form.parts, rest) := by
  have hbody : readBody form.boundary (form.toBody.bytes ++ rest) =
      some (form.parts.map blockOf, rest) := by
    rw [Form.toBody, bytes_eq, List.append_assoc, readBody, isPrefixOf?_append]
    exact readBlocks_behindOpening hboundary hparts rest
  rw [read, hbody, Option.bind_eq_bind, Option.bind_some]
  dsimp only
  rw [mapM_part?_blockOf hparts]
  rfl

/-- A form with an empty file name, and with data that ends as a delimiter begins. -/
def upload : Form where
  boundary := "b"
  parts := [⟨"file", some "", some "text/plain", [0x2d, 0x0d, 0x0a, 0x2d, 0x2d]⟩,
    ⟨"note", none, none, []⟩]

theorem read_toBody_upload :
    '\r' ∉ upload.boundary.toList ∧
      (∀ part ∈ upload.parts, IsReadable upload.boundary part) ∧
      read upload.boundary (upload.toBody.bytes ++ [0x21]) = some (upload.parts, [0x21]) := by
  have hboundary : '\r' ∉ upload.boundary.toList := by decide
  have hparts : ∀ part ∈ upload.parts, IsReadable upload.boundary part := by
    intro part hpart
    obtain rfl | hpart := List.mem_cons.1 hpart
    · exact ⟨by decide, by decide, by decide, by decide⟩
    · obtain rfl := List.mem_singleton.1 hpart
      exact ⟨by decide, by decide, by decide, by decide⟩
  exact ⟨hboundary, hparts, read_toBody hboundary hparts [0x21]⟩

end WebClient.Multipart
