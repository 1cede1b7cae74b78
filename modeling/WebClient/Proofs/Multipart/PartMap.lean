import WebClient.Proofs.Multipart.RoundTrip
import WebClient.Proofs.Service.Building
import WebClient.Proofs.Service.Contribution

/-!
# Part maps

The entries of a part map become parts that have the keys of the map as their names.  Keys
are texts of a call, and they are written between quotes in a header line as they are.
Reading gives each entry back under its key exactly when no key ends its quotes or its line.
No other key can be the name of a block at all, in whatever body it is looked for: a block
has no such name.  What is read instead can be chosen by the key, as the header lines of
a part with a file name are those of a part whose name goes on behind its quotes.
-/

namespace WebClient.Multipart

/-- A text ends neither the quotes nor the line that it stands in. -/
structure IsQuotable (text : String) : Prop where
  quotes : '"' ∉ text.toList
  line : ¬ ['\r', '\n'] <:+: text.toList

theorem isQuotable_iff {text : String} :
    IsQuotable text ↔ 0x22 ∉ Text.bytes text ∧ ¬ Form.lineEnd <:+: Text.bytes text := by
  have hquote : ∀ a ∈ ['"'], a.toNat < 0x80 := List.forall_mem_singleton.2 (by decide)
  have hreturn : ∀ a ∈ ['\r', '\n'], a.toNat < 0x80 :=
    List.forall_mem_cons.2 ⟨by decide, List.forall_mem_singleton.2 (by decide)⟩
  have hmark : [0x22] <:+: Text.bytes text ↔ ['"'] <:+: text.toList :=
    Text.Utf8.encode_infix_iff hquote
  have hend : Form.lineEnd <:+: Text.bytes text ↔ ['\r', '\n'] <:+: text.toList :=
    Text.Utf8.encode_infix_iff hreturn
  rw [List.singleton_infix_iff, List.singleton_infix_iff] at hmark
  rw [hmark, hend]
  exact ⟨fun h => ⟨h.quotes, h.line⟩, fun ⟨hquotes, hline⟩ => ⟨hquotes, hline⟩⟩

/-- The entries of a map that make a part: those that are not nothing. -/
def entries : List (String × Json.Value) → List (String × Json.Value)
  | [] => []
  | (_, .null) :: rest => entries rest
  | field :: rest => field :: entries rest

theorem entries_cons {key : String} {value : Json.Value} (hvalue : value ≠ .null)
    (rest : List (String × Json.Value)) :
    entries ((key, value) :: rest) = (key, value) :: entries rest := by
  cases value with
  | null => exact absurd rfl hvalue
  | _ => rfl

/-- A block has the key of an entry as its name, what the value is converted to as its data
and the media type of that.  It has no file name and no other header lines. -/
inductive Carries (c : RequestConverter) : String × Json.Value → Block → Prop
  | entry {key : String} {value : Json.Value} {sent : RequestBody} {disposition : Bytes}
      (hsent : c.convert value = .ok sent)
      (hkey : disposition? disposition = some (Text.bytes key, none)) :
      Carries c (key, value)
        ⟨[(Text.bytes "Content-Disposition", disposition),
          (Text.bytes "Content-Type", Text.bytes sent.contentType)], sent.bytes⟩

variable {c : RequestConverter}

/-! ## Names of blocks -/

/-- A key that is the name of a block whose header lines are lines can be quoted. -/
theorem Carries.isQuotable {field : String × Json.Value} {block : Block}
    (h : Carries c field block)
    (hlines : ∀ header ∈ block.headers,
      ¬ Form.lineEnd <:+: header.1 ++ fieldSeparator ++ header.2) : IsQuotable field.1 := by
  cases h with
  | @entry key value sent disposition hsent hkey =>
      obtain ⟨hshape, hquotes⟩ := eq_of_disposition? hkey
      have hline := hlines _ List.mem_cons_self
      refine isQuotable_iff.2 ⟨hquotes, fun hin => hline ?_⟩
      -- The key stands in the line, so the line would hold what the key holds.
      have hkeyIn : Text.bytes key <:+: disposition := by
        rw [hshape]
        exact List.infix_append' _ _ _
      exact hin.trans (hkeyIn.trans (List.suffix_append _ _).isInfix)

theorem isQuotable_of_carries {fields : List (String × Json.Value)} {blocks : List Block}
    (h : List.Forall₂ (Carries c) fields blocks)
    (hlines : ∀ block ∈ blocks, ∀ header ∈ block.headers,
      ¬ Form.lineEnd <:+: header.1 ++ fieldSeparator ++ header.2) :
    ∀ field ∈ fields, IsQuotable field.1 := by
  induction h with
  | nil => exact nofun
  | cons hfirst hrest ih =>
      obtain ⟨hline, hlater⟩ := List.forall_mem_cons.1 hlines
      exact List.forall_mem_cons.2 ⟨hfirst.isQuotable hline, ih hlater⟩

/-- Only keys that can be quoted are read, from whatever body. -/
theorem isQuotable_of_readBody {boundary : String} {s rest : Bytes} {before blocks : List Block}
    {fields : List (String × Json.Value)}
    (hread : readBody boundary s = some (before ++ blocks, rest))
    (hcarries : List.Forall₂ (Carries c) fields blocks) :
    ∀ field ∈ fields, IsQuotable field.1 := by
  obtain ⟨behind, -, hblocks⟩ := Option.bind_eq_some_iff.1 hread
  refine isQuotable_of_carries hcarries fun block hblock header hheader => ?_
  exact not_infix_of_readBlocks hblocks (List.mem_append_right before hblock) hheader

/-! ## Parts of entries -/

/-- The part of an entry of a map. -/
def partOf (entry : String × RequestBody) : Part := .ofBody entry.1 entry.2

theorem isLegible_partOf {boundary key : String} {sent : RequestBody}
    (hkey : ¬ Form.lineEnd <:+: Text.bytes key) (htype : '\r' ∉ sent.contentType.toList)
    (hdata : ¬ opening boundary <:+: sent.bytes) : IsLegible boundary (partOf (key, sent)) := by
  have hlabel : 0x0d ∉ Text.bytes "form-data; name=" ++ quotationMark := by decide
  have hclosing : 0x0a ∉ quotationMark := by decide
  have hquoted : ¬ Form.lineEnd <:+: Text.bytes key ++ quotationMark := by
    rw [lineEnd_infix_append_iff (.inr hclosing)]
    exact not_or.2 ⟨hkey, by decide⟩
  have hshape : dispositionOf (partOf (key, sent)) =
      Text.bytes "form-data; name=" ++ quotationMark ++ (Text.bytes key ++ quotationMark) := by
    simp [dispositionOf, partOf, Part.ofBody, Form.quote, quotationMark]
  have hdisposition : ¬ Form.lineEnd <:+: dispositionOf (partOf (key, sent)) := by
    rw [hshape, lineEnd_infix_append_iff (.inl hlabel)]
    exact not_or.2 ⟨no_lineEnd_of_not_mem hlabel, hquoted⟩
  refine ⟨isField_of_disposition hdisposition fun t ht => ?_, hdata⟩
  obtain rfl := Option.mem_some_iff.1 ht
  exact htype

theorem carries_blockOf {key : String} {value : Json.Value} {sent : RequestBody}
    (hsent : c.convert value = .ok sent) (hkey : 0x22 ∉ Text.bytes key) :
    Carries c (key, value) (blockOf (partOf (key, sent))) := by
  have hread : disposition? (dispositionOf (partOf (key, sent))) = some (Text.bytes key, none) :=
    disposition?_dispositionOf hkey nofun
  exact .entry hsent hread

/-- An entry under its key, converted. -/
def IsConverted (c : RequestConverter) (field : String × Json.Value)
    (entry : String × RequestBody) : Prop :=
  entry.1 = field.1 ∧ c.convert field.2 = .ok entry.2

theorem forall₂_of_entryBodies {fields : List (String × Json.Value)}
    {bodies : List (String × RequestBody)} (h : Parameter.EntryBodies c fields bodies) :
    List.Forall₂ (IsConverted c) (entries fields) bodies := by
  induction h with
  | nil => exact .nil
  | null _ ih => exact ih
  | cons hentry hbody _ ih =>
      rw [entries_cons hentry]
      exact .cons ⟨rfl, hbody⟩ ih

/-- The parts of entries whose keys can be quoted are legible, and their blocks carry them. -/
theorem carries_of_isQuotable {boundary : String} {fields : List (String × Json.Value)}
    {bodies : List (String × RequestBody)} (h : List.Forall₂ (IsConverted c) fields bodies)
    (hkeys : ∀ field ∈ fields, IsQuotable field.1)
    (htype : ∀ field ∈ fields, ∀ sent, c.convert field.2 = .ok sent →
      '\r' ∉ sent.contentType.toList)
    (hdata : ∀ field ∈ fields, ∀ sent, c.convert field.2 = .ok sent →
      ¬ opening boundary <:+: sent.bytes) :
    (∀ part ∈ bodies.map partOf, IsLegible boundary part) ∧
      List.Forall₂ (Carries c) fields ((bodies.map partOf).map blockOf) := by
  -- Entries, bodies and parts go along with each other, one by one.
  induction h with
  | nil => exact ⟨nofun, .nil⟩
  | @cons field body fields bodies hfirst hrest ih =>
      obtain ⟨hkey, hkeys⟩ := List.forall_mem_cons.1 hkeys
      obtain ⟨hfirstType, htype⟩ := List.forall_mem_cons.1 htype
      obtain ⟨hfirstData, hdata⟩ := List.forall_mem_cons.1 hdata
      obtain ⟨hlegible, hcarries⟩ := ih hkeys htype hdata
      obtain ⟨key, value⟩ := field
      obtain ⟨_, sent⟩ := body
      obtain ⟨rfl, hsent⟩ := hfirst
      obtain ⟨hquotes, hline⟩ := isQuotable_iff.1 hkey
      have hpart := isLegible_partOf hline (hfirstType sent hsent) (hfirstData sent hsent)
      exact ⟨List.forall_mem_cons.2 ⟨hpart, hlegible⟩,
        .cons (carries_blockOf hsent hquotes) hcarries⟩

/-- A form that takes a part map has a part for each entry behind the parts that it had. -/
theorem exists_body_of_partMap {fields : List (String × Json.Value)} {form : Form} {d d' : Draft}
    (hd : d.body = .multipart form)
    (htaken : d.addAll ((Parameter.partMap c).contributions (.object fields)) = .ok d') :
    ∃ bodies, List.Forall₂ (IsConverted c) (entries fields) bodies ∧
      d'.body = .multipart { form with parts := form.parts ++ bodies.map partOf } := by
  obtain ⟨cs, hcs, hextends⟩ := Draft.extends_of_addAll htaken
  rw [Parameter.contributions, Parameter.forEntries_partFor_eq_ok] at hcs
  obtain ⟨bodies, ⟨_, hfields, hbodies⟩, rfl⟩ := hcs
  cases hfields
  refine ⟨bodies, forall₂_of_entryBodies hbodies, ?_⟩
  rw [hextends.body, hd, DraftBody.extend]
  simp [List.filterMap_map, Function.comp_def, partOf, Part.ofBody]

/-! ## Reading a part map -/

/-- The body of a form that took a part map is read as a block for each entry, behind those
of the parts that the form had, exactly when the keys of the entries can be quoted. -/
theorem carries_iff_isQuotable {fields : List (String × Json.Value)} {form : Form}
    {d d' : Draft} (hd : d.body = .multipart form) (hboundary : '\r' ∉ form.boundary.toList)
    (hform : ∀ part ∈ form.parts, IsLegible form.boundary part)
    (htype : ∀ field ∈ entries fields, ∀ sent, c.convert field.2 = .ok sent →
      '\r' ∉ sent.contentType.toList)
    (hdata : ∀ field ∈ entries fields, ∀ sent, c.convert field.2 = .ok sent →
      ¬ opening form.boundary <:+: sent.bytes)
    (htaken : d.addAll ((Parameter.partMap c).contributions (.object fields)) = .ok d') :
    ∃ sent, Draft.finishBody d'.body = some sent ∧
      ((∃ blocks, readBody form.boundary sent.bytes =
          some (form.parts.map blockOf ++ blocks, []) ∧
          List.Forall₂ (Carries c) (entries fields) blocks) ↔
        ∀ field ∈ entries fields, IsQuotable field.1) := by
  obtain ⟨bodies, hbodies, hbody⟩ := exists_body_of_partMap hd htaken
  rw [hbody]
  refine ⟨_, rfl, ?_, ?_⟩
  · rintro ⟨blocks, hread, hcarries⟩
    exact isQuotable_of_readBody hread hcarries
  · intro hkeys
    obtain ⟨hlegible, hcarries⟩ := carries_of_isQuotable hbodies hkeys htype hdata
    have hparts : ∀ part ∈ form.parts ++ bodies.map partOf, IsLegible form.boundary part :=
      List.forall_mem_append.2 ⟨hform, hlegible⟩
    refine ⟨_, ?_, hcarries⟩
    rw [← List.map_append]
    exact readBody_of_isLegible hboundary hparts

/-- A draft with an empty form. -/
def uploading : Draft := (Draft.start .post .localhost ⟨"/x"⟩).withBodyKind (some .multipart) "b"

/-- A map with a key that holds a semicolon and half an end of a line, and with nothing
under another key. -/
def labels : List (String × Json.Value) :=
  [("té; x\r", .number (.integer 1)), ("\"", .null)]

theorem carries_iff_isQuotable_labels :
    ∃ d' sent blocks,
      uploading.addAll ((Parameter.partMap .json).contributions (.object labels)) = .ok d' ∧
      Draft.finishBody d'.body = some sent ∧ readBody "b" sent.bytes = some (blocks, []) ∧
      List.Forall₂ (Carries .json) (entries labels) blocks := by
  have hmedia : '\r' ∉ MediaType.json.text.toList := by decide
  have htype : ∀ field ∈ entries labels, ∀ sent,
      RequestConverter.json.convert field.2 = .ok sent → '\r' ∉ sent.contentType.toList := by
    intro field _ sent hsent
    cases hsent
    exact hmedia
  have hdata : ∀ field ∈ entries labels, ∀ sent,
      RequestConverter.json.convert field.2 = .ok sent → ¬ opening "b" <:+: sent.bytes := by
    refine List.forall_mem_singleton.2 fun sent hsent => ?_
    cases hsent
    decide
  have hkeys : ∀ field ∈ entries labels, IsQuotable field.1 :=
    List.forall_mem_singleton.2 ⟨by decide, by decide⟩
  have hempty : ∀ part ∈ (Form.withBoundary "b").parts, IsLegible "b" part := by
    intro part hpart
    exact absurd hpart List.not_mem_nil
  have hboundary : '\r' ∉ (Form.withBoundary "b").boundary.toList := by decide
  obtain ⟨d', htaken⟩ : ∃ d', uploading.addAll
      ((Parameter.partMap .json).contributions (.object labels)) = .ok d' := ⟨_, rfl⟩
  obtain ⟨sent, hsent, hiff⟩ :=
    carries_iff_isQuotable (c := .json) rfl hboundary hempty htype hdata htaken
  obtain ⟨blocks, hread, hcarries⟩ := hiff.2 hkeys
  exact ⟨d', sent, blocks, htaken, hsent, hread, hcarries⟩

/-- A map with a key that closes its quotes. -/
def smuggling : List (String × Json.Value) := [("a\"; filename=\"x", .number (.integer 1))]

/-- The key chooses the name and the file name of its part. -/
theorem filename_of_key :
    (∀ value sent, RequestConverter.json.convert value = .ok sent →
        '\r' ∉ sent.contentType.toList ∧ '\n' ∉ sent.contentType.toList) ∧
      (∀ field ∈ smuggling, 'b' ∉ field.1.toList ∧
        ∀ sent, RequestConverter.json.convert field.2 = .ok sent → 0x62 ∉ sent.bytes) ∧
      ∃ d' sent,
        uploading.addAll ((Parameter.partMap .json).contributions (.object smuggling)) =
            .ok d' ∧
          Draft.finishBody d'.body = some sent ∧
          read "b" sent.bytes = some ([⟨"a", some "x", some "application/json", [0x31]⟩], []) ∧
          ¬ ∃ blocks, readBody "b" sent.bytes = some (blocks, []) ∧
            List.Forall₂ (Carries .json) (entries smuggling) blocks := by
  have hmedia : '\r' ∉ MediaType.json.text.toList ∧ '\n' ∉ MediaType.json.text.toList := by decide
  refine ⟨?_, List.forall_mem_singleton.2 ⟨by decide, ?_⟩, _, _, rfl, rfl, ?_, ?_⟩
  · intro value sent hsent
    cases hsent
    exact hmedia
  · intro sent hsent
    cases hsent
    decide
  · decide +kernel
  · rintro ⟨blocks, hread, hcarries⟩
    have hkeys := isQuotable_of_readBody (show _ = some ([] ++ blocks, []) from hread) hcarries
    have hkey := hkeys _ List.mem_cons_self
    exact absurd hkey.quotes (by decide)

end WebClient.Multipart
