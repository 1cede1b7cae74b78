import WebClient.Proofs.Percent.Decoding
import WebClient.Proofs.Service.Assembly
import WebClient.Proofs.Text.Cutting
import WebClient.Proofs.Text.Splitting
import WebClient.Proofs.Url.Query

/-!
# Reading back queries and forms

The items of a query and the fields of a form stand between ampersands, and an equals
sign stands between a name and its value.  An encoded name or value holds neither of
them.  So cutting the text at these signs and undoing the encoding gives back what the
arguments stand for, whatever characters are in it.
-/

namespace WebClient

/-! ## What is there before encoding -/

namespace Parameter

/-- The parameter with its names and values taken as they are; it contributes what the
parameter itself contributes an encoding of. -/
def asGiven : Parameter → Parameter
  | .query name _ c => .query name true c
  | .queryMap _ c => .queryMap true c
  | .queryName _ c => .queryName true c
  | .field name _ c => .field name true c
  | .fieldMap _ c => .fieldMap true c
  | p => p

/-- The parameter encodes what it adds to a form. -/
def EncodesFields : Parameter → Prop
  | .field _ encoded _ => encoded = false
  | .fieldMap encoded _ => encoded = false
  | _ => True

end Parameter

/-- An item of a query with its name and its value encoded. -/
def encodeItem (item : String × Option String) : String × Option String :=
  (Percent.component item.1, item.2.map Percent.component)

/-- A field of a form with its name and its value encoded. -/
def encodeField (field : String × String) : String × String :=
  (Percent.component field.1, Percent.component field.2)

theorem Parameter.Contributes.exists_asGiven {p : Parameter} {value : Json.Value}
    {cs : List Contribution} (h : p.Contributes value cs) :
    ∃ given, p.asGiven.Contributes value given ∧
      (p.EncodesQuery → cs.filterMap Contribution.query? =
        (given.filterMap Contribution.query?).map encodeItem) ∧
      (p.EncodesFields → cs.filterMap Contribution.field? =
        (given.filterMap Contribution.field?).map encodeField) := by
  have hsame := h
  cases h with
  | query htexts =>
      refine ⟨_, .query htexts, ?_, ?_⟩
      · rintro rfl
        simp [List.filterMap_map, Function.comp_def, componentText, encodeItem]
      · simp [List.filterMap_map, Function.comp_def]
  | queryMap htexts =>
      refine ⟨_, .queryMap htexts, ?_, ?_⟩
      · rintro rfl
        simp [List.filterMap_map, Function.comp_def, componentText, encodeItem]
      · simp [List.filterMap_map, Function.comp_def]
  | queryName htexts =>
      refine ⟨_, .queryName htexts, ?_, ?_⟩
      · rintro rfl
        simp [List.filterMap_map, Function.comp_def, componentText, encodeItem]
      · simp [List.filterMap_map, Function.comp_def]
  | field htexts =>
      refine ⟨_, .field htexts, ?_, ?_⟩
      · simp [List.filterMap_map, Function.comp_def]
      · rintro rfl
        simp [List.filterMap_map, Function.comp_def, componentText, encodeField]
  | fieldMap htexts =>
      refine ⟨_, .fieldMap htexts, ?_, ?_⟩
      · simp [List.filterMap_map, Function.comp_def]
      · rintro rfl
        simp [List.filterMap_map, Function.comp_def, componentText, encodeField]
  -- The other parameters add neither items nor fields, and encode none.
  | path | url | header | headerMap | noPart | part | partMap | body =>
      refine ⟨_, hsame, ?_, ?_⟩ <;>
        simp [List.filterMap_cons, List.filterMap_map, Function.comp_def]

theorem ContributesAll.exists_asGiven {ps : List Parameter} {values : List Json.Value}
    {cs : List Contribution} (h : ContributesAll ps values cs) :
    ∃ given, ContributesAll (ps.map Parameter.asGiven) values given ∧
      ((∀ p ∈ ps, p.EncodesQuery) → cs.filterMap Contribution.query? =
        (given.filterMap Contribution.query?).map encodeItem) ∧
      ((∀ p ∈ ps, p.EncodesFields) → cs.filterMap Contribution.field? =
        (given.filterMap Contribution.field?).map encodeField) := by
  induction h with
  | nil => exact ⟨[], .nil, fun _ => rfl, fun _ => rfl⟩
  | cons hfirst hrest ih =>
      obtain ⟨own, hown, hquery, hfields⟩ := hfirst.exists_asGiven
      obtain ⟨more, hmore, hqueries, hmoreFields⟩ := ih
      refine ⟨own ++ more, .cons hown hmore, fun hps => ?_, fun hps => ?_⟩
      · obtain ⟨hp, hps⟩ := List.forall_mem_cons.1 hps
        rw [List.filterMap_append, List.filterMap_append, List.map_append, hquery hp,
          hqueries hps]
      · obtain ⟨hp, hps⟩ := List.forall_mem_cons.1 hps
        rw [List.filterMap_append, List.filterMap_append, List.map_append, hfields hp,
          hmoreFields hps]

/-! ## Cutting at ampersands and equals signs -/

/-- The item that a piece of a query stands for: a name and a value, cut at the first
equals sign, or a bare name where there is none. -/
def readItem? (piece : List Char) : Option (String × Option String) :=
  match Text.splitOnce? (· = '=') piece with
  | some (name, value) => do return (← Percent.text? name, some (← Percent.text? value))
  | none => (Percent.text? piece).map fun name => (name, none)

/-- The field that a piece of a form stands for, which has exactly one equals sign. -/
def readField? (piece : List Char) : Option (String × String) :=
  match Text.splitAll (· = '=') piece with
  | [name, value] => do return (← Percent.text? name, ← Percent.text? value)
  | _ => none

theorem isEquals_of_mem_component {s : String} {c : Char}
    (hc : c ∈ (Percent.component s).toList) : decide (c = '=') = false := by
  refine decide_eq_false ?_
  rintro rfl
  exact Percent.not_mem_component rfl (by decide) hc

theorem readItem?_queryItemText (item : String × Option String) :
    readItem? (queryItemText (encodeItem item)) = some item := by
  obtain ⟨name, value⟩ := item
  cases value with
  | none =>
      have hcut : Text.splitOnce? (· = '=') (Percent.component name).toList = none :=
        Text.splitOnce?_eq_none.2 fun _ => isEquals_of_mem_component
      have htext : queryItemText (encodeItem (name, none)) =
          (Percent.component name).toList := rfl
      rw [htext, readItem?, hcut]
      simp only [Percent.text?_component, Option.map_some]
  | some value =>
      have htext : queryItemText (encodeItem (name, some value)) =
          (Percent.component name).toList ++ '=' :: (Percent.component value).toList := rfl
      have hcut : Text.splitOnce? (· = '=') (queryItemText
          (encodeItem (name, some value))) =
          some ((Percent.component name).toList, (Percent.component value).toList) :=
        Text.splitOnce?_eq_some.2 ⟨'=', htext, rfl, fun _ => isEquals_of_mem_component⟩
      rw [readItem?, hcut]
      simp only [Percent.text?_component, Option.pure_def, Option.bind_eq_bind,
        Option.bind_some]

theorem readField?_formFieldText (field : String × String) :
    readField? (formFieldText (encodeField field)) = some field := by
  have htext : formFieldText (encodeField field) =
      (Percent.component field.1).toList ++ '=' :: (Percent.component field.2).toList := rfl
  have hcut : Text.splitAll (· = '=') (formFieldText (encodeField field)) =
      [(Percent.component field.1).toList, (Percent.component field.2).toList] := by
    rw [htext, Text.splitAll_append_cons (fun _ => isEquals_of_mem_component) rfl]
    exact congrArg _ (Text.splitAll_eq_singleton fun _ => isEquals_of_mem_component)
  rw [readField?, hcut]
  simp only [Percent.text?_component, Option.pure_def, Option.bind_eq_bind, Option.bind_some]

/-- The pieces between ampersands are what they were rendered from, as long as none of
them holds an ampersand. -/
theorem map_splitAll_join {α : Type} {render : α → List Char} {read : List Char → Option α}
    {xs : List α} (hne : xs ≠ []) (hsign : ∀ x ∈ xs, ∀ c ∈ render x, decide (c = '&') = false)
    (hread : ∀ x ∈ xs, read (render x) = some x) :
    (Text.splitAll (· = '&') (Text.join ['&'] (xs.map render))).map read = xs.map some := by
  have hpieces : ∀ piece ∈ xs.map render, ∀ c ∈ piece, decide (c = '&') = false := by
    intro piece hpiece
    obtain ⟨x, hx, rfl⟩ := List.mem_map.1 hpiece
    exact hsign x hx
  have hmap : xs.map render ≠ [] := fun hnil => hne (List.map_eq_nil_iff.1 hnil)
  rw [Text.splitAll_join hmap hpieces rfl, List.map_map]
  exact List.map_congr_left hread

theorem isAmpersand_of_mem_queryItemText (item : String × Option String) :
    ∀ c ∈ queryItemText (encodeItem item), decide (c = '&') = false := by
  have hcomponent (s : String) : '&' ∉ (Percent.component s).toList :=
    Percent.not_mem_component rfl (by decide)
  intro c hc
  refine decide_eq_false ?_
  rintro rfl
  obtain ⟨name, value⟩ := item
  cases value with
  | none => exact hcomponent name hc
  | some value =>
      rcases List.mem_append.1 hc with hname | hvalue
      · exact hcomponent name hname
      · rcases List.mem_cons.1 hvalue with hsign | hvalue
        · exact absurd hsign (by decide)
        · exact hcomponent value hvalue

/-! ## Queries -/

namespace Url

/-- What stands in front of added items: the query that is there and an ampersand, unless
the query is missing or empty. -/
def queryFront (u : Url) : List Char :=
  match u.query with
  | some old => if old.isEmpty then [] else old.toList ++ ['&']
  | none => []

theorem queryText_eq (u : Url) {items : List (String × Option String)} (hitems : items ≠ []) :
    u.queryText items =
      u.queryFront ++ Text.join ['&'] (items.map queryItemText) := by
  obtain ⟨item, items, rfl⟩ := List.exists_cons_of_ne_nil hitems
  unfold queryText queryParts queryFront
  cases u.query with
  | none => rfl
  | some old =>
      cases hold : old.isEmpty with
      | true => simp [hold]
      | false => simp [hold, Text.join]

/-- Items of encoded names and values may stand behind an encoded query as they are. -/
theorem isQueryChar_queryText {u : Url} (hu : u.HasEncodedQuery)
    {items : List (String × Option String)}
    (hitems : ∀ item ∈ items, ∀ c ∈ queryItemText item,
      Percent.isQueryChar u.kind.isSpecial c = true) :
    ∀ c ∈ u.queryText items, Percent.isQueryChar u.kind.isSpecial c = true := by
  intro c hc
  rw [queryText, queryParts] at hc
  obtain hsep | ⟨piece, hpiece, hmem⟩ := Text.of_mem_join hc
  · rw [List.mem_singleton.1 hsep]
    cases u.kind.isSpecial <;> decide
  · rcases List.mem_append.1 hpiece with hold | hitem
    · obtain ⟨old, hfilter, rfl⟩ := List.mem_map.1 hold
      exact hu old (Option.mem_toList.1 (List.mem_filter.1 hfilter).1) c hmem
    · obtain ⟨own, hown, rfl⟩ := List.mem_map.1 hitem
      exact hitems own hown c hmem

/-- A URL has the query of another one with items behind it, and cutting these off again
gives them back. -/
structure ReadsItems (joined : Url) (items : List (String × Option String)) (u : Url) :
    Prop where
  unchanged : items = [] → u.query = joined.query
  read_back : items ≠ [] → ∃ added,
    u.query = some (String.ofList (joined.queryFront ++ added)) ∧
      (Text.splitAll (· = '&') added).map readItem? = items.map some

theorem readsItems_appendQuery {joined : Url} (hjoined : joined.HasEncodedQuery)
    {items : List (String × Option String)}
    (hchars : ∀ item ∈ items.map encodeItem, ∀ c ∈ queryItemText item,
      Percent.isQueryChar joined.kind.isSpecial c = true) :
    joined.ReadsItems items (Draft.appendQuery (items.map encodeItem) joined) where
  unchanged := by
    rintro rfl
    rfl
  read_back := by
    intro hitems
    have hencoded : items.map encodeItem ≠ [] := fun hnil => hitems (List.map_eq_nil_iff.1 hnil)
    refine ⟨Text.join ['&'] ((items.map encodeItem).map queryItemText), ?_, ?_⟩
    · rw [Draft.appendQuery_eq, query_withItems_of_isQueryChar hencoded
        (isQueryChar_queryText hjoined hchars), queryText_eq joined hencoded]
    · rw [List.map_map]
      exact map_splitAll_join hitems (fun item _ => isAmpersand_of_mem_queryItemText item)
        fun item _ => readItem?_queryItemText item

end Url

namespace ServiceMethod

/-- A call of a built method resolves one reference and puts the items of the query behind
what it leads to. -/
theorem exists_joined_of_buildRequest {b : MethodBuilder} {m : ServiceMethod} (h : b.Makes m)
    (hstandard : ∀ p ∈ m.parameters, p.isStandard = true) {boundary : String} {base : Url}
    {arguments : List Json.Value} {r : Request}
    (hrequest : m.buildRequest boundary base arguments = .ok r) :
    ∃ cs reference joined, ContributesAll m.parameters arguments cs ∧
      m.References cs reference ∧ base.join? reference = .ok joined ∧
      r.url = Draft.appendQuery (cs.filterMap Contribution.query?) joined := by
  obtain ⟨harity, draft, happly, hfinish⟩ := buildRequest_eq_ok.1 hrequest
  obtain ⟨cs, hcs, hextends⟩ := extends_of_applyAll hstandard harity happly
  obtain ⟨joined, hjoined, rfl⟩ := Draft.build_eq_ok.1 hfinish
  have hreference := reference_of_contributesAll h hcs
  rw [Draft.resolveTarget, Outcome.mapError_eq_ok, hextends.base, hextends.target,
    hextends.path] at hjoined
  refine ⟨cs, _, joined, hcs, hreference, ?_, ?_⟩
  · rw [← hjoined]
    cases (cs.filterMap Contribution.target?).getLast? <;> rfl
  · rw [hextends.query]
    rfl

/-- The URL of a request has the query of the URL that the call resolves to, with the
items behind it that the arguments stand for, and these can be read back. -/
theorem query_of_buildRequest {b : MethodBuilder} {m : ServiceMethod} (hbuild : b.build = .ok m)
    (hstandard : ∀ p ∈ m.parameters, p.isStandard = true)
    (hencodes : ∀ p ∈ m.parameters, p.EncodesQuery) {base : Url} (hbase : base.HasEncodedQuery)
    {boundary : String} {arguments : List Json.Value} {r : Request}
    (h : m.buildRequest boundary base arguments = .ok r) :
    ∃ cs given reference joined, ContributesAll m.parameters arguments cs ∧
      ContributesAll (m.parameters.map Parameter.asGiven) arguments given ∧
      m.References cs reference ∧ base.join? reference = .ok joined ∧
      joined.ReadsItems (given.filterMap Contribution.query?) r.url := by
  obtain ⟨cs, reference, joined, hcs, hreference, hjoined, hurl⟩ :=
    exists_joined_of_buildRequest (MethodBuilder.build_eq_ok.1 hbuild) hstandard h
  obtain ⟨given, hgiven, hquery, -⟩ := hcs.exists_asGiven
  have hitems := hquery hencodes
  have hchars : ∀ item ∈ (given.filterMap Contribution.query?).map encodeItem,
      ∀ c ∈ queryItemText item, Percent.isQueryChar joined.kind.isSpecial c = true := by
    rw [← hitems]
    exact fun item hitem => hcs.isQueryChar hencodes hitem
  refine ⟨cs, given, reference, joined, hcs, hgiven, hreference, hjoined, ?_⟩
  rw [hurl, hitems]
  exact Url.readsItems_appendQuery (Url.hasEncodedQuery_of_join? hbase hjoined) hchars

theorem query_of_buildRequest_getting :
    ∃ m r, (MethodBuilder.getting ""
        [.url .scalar, .query "a&b" false .scalar, .queryName false .scalar]).build = .ok m ∧
      (∀ p ∈ m.parameters, p.isStandard = true) ∧ (∀ p ∈ m.parameters, p.EncodesQuery) ∧
      Url.HasEncodedQuery { Url.localhost with query := some "q=%27" } ∧
      m.buildRequest "" { Url.localhost with query := some "q=%27" }
        [.string "", .array [.string "1=2", .null], .string "é%"] = .ok r ∧
      r.url.query = some "q=%27&a%26b=1%3D2&%C3%A9%25" ∧
      ∃ cs reference joined,
        ContributesAll m.parameters
          [.string "", .array [.string "1=2", .null], .string "é%"] cs ∧
        m.References cs reference ∧
        Url.join? { Url.localhost with query := some "q=%27" } reference = .ok joined ∧
        joined.ReadsItems [("a&b", some "1=2"), ("é%", none)] r.url := by
  have hrun : ∃ m r, (MethodBuilder.getting ""
        [.url .scalar, .query "a&b" false .scalar, .queryName false .scalar]).build = .ok m ∧
      m.parameters = [.url .scalar, .query "a&b" false .scalar, .queryName false .scalar] ∧
      m.buildRequest "" { Url.localhost with query := some "q=%27" }
        [.string "", .array [.string "1=2", .null], .string "é%"] = .ok r ∧
      r.url.query = some "q=%27&a%26b=1%3D2&%C3%A9%25" :=
    ⟨_, _, rfl, rfl, rfl, rfl⟩
  obtain ⟨m, r, hbuild, hparameters, hrequest, hquery⟩ := hrun
  have hstandard : ∀ p ∈ m.parameters, p.isStandard = true := by
    simp [hparameters, Parameter.isStandard]
  have hencodes : ∀ p ∈ m.parameters, p.EncodesQuery := by
    simp [hparameters, Parameter.EncodesQuery]
  have hbase : Url.HasEncodedQuery { Url.localhost with query := some "q=%27" } := by
    intro text htext
    cases htext
    exact List.all_eq_true.1 rfl
  have hitem : Parameter.Texts .scalar (.array [.string "1=2", .null]) ["1=2"] :=
    ⟨_, .array (.value Json.Value.noConfusion (.null .nil)), .cons rfl .nil⟩
  have hall : ContributesAll (m.parameters.map Parameter.asGiven)
      [.string "", .array [.string "1=2", .null], .string "é%"]
      [.target "", .query "a&b" (some "1=2"), .query "é%" none] := by
    rw [hparameters]
    exact .cons (.url Json.Value.noConfusion rfl) (.cons (.query hitem)
      (.cons (.queryName (.of_string rfl)) .nil))
  obtain ⟨cs, given, reference, joined, hcs, hgiven, hreference, hjoined, hreads⟩ :=
    query_of_buildRequest hbuild hstandard hencodes hbase hrequest
  obtain rfl := hgiven.unique hall
  exact ⟨m, r, hbuild, hstandard, hencodes, hbase, hrequest, hquery, cs, reference, joined, hcs,
    hreference, hjoined, hreads⟩

end ServiceMethod

/-! ## Forms -/

/-- The body of a form is empty when there are no fields, and otherwise cutting it gives
the fields back. -/
structure ReadsFields (fields : List (String × String)) (body : Bytes) : Prop where
  empty_iff : body = [] ↔ fields = []
  read_back : fields ≠ [] → ∃ text, Text.ofBytes body = .ok text ∧
    (Text.splitAll (· = '&') text.toList).map readField? = fields.map some

theorem map_readField?_join {fields : List (String × String)} (hfields : fields ≠ []) :
    (Text.splitAll (· = '&')
      (Text.join ['&'] ((fields.map encodeField).map formFieldText))).map readField? =
      fields.map some := by
  rw [List.map_map]
  exact map_splitAll_join hfields
    (fun field _ => isAmpersand_of_mem_queryItemText (field.1, some field.2))
    fun field _ => readField?_formFieldText field

theorem readsFields_encode (fields : List (String × String)) :
    ReadsFields fields (Text.Utf8.encode
      (Text.join ['&'] ((fields.map encodeField).map formFieldText))) where
  empty_iff := by
    constructor
    · intro hempty
      by_contra hfields
      -- The empty text is one piece, which is no field.
      have hread := map_readField?_join hfields
      rw [Text.Utf8.encode_eq_nil.1 hempty] at hread
      have hnone : none ∈ fields.map some := hread ▸ List.mem_singleton_self _
      obtain ⟨field, -, hfield⟩ := List.mem_map.1 hnone
      cases hfield
    · rintro rfl
      rfl
  read_back := by
    intro hfields
    have hdecode := congrArg (Except.map String.ofList) (Text.Utf8.decode_encode
      (Text.join ['&'] ((fields.map encodeField).map formFieldText)))
    refine ⟨_, hdecode, ?_⟩
    rw [String.toList_ofList]
    exact map_readField?_join hfields

namespace ServiceMethod

/-- The request of a method with a form has a body, and the fields that the arguments
stand for can be read back from it. -/
theorem fields_of_buildRequest {m : ServiceMethod}
    (hstandard : ∀ p ∈ m.parameters, p.isStandard = true) (hkind : m.bodyKind = some .form)
    (hencodes : ∀ p ∈ m.parameters, p.EncodesFields) {boundary : String} {base : Url}
    {arguments : List Json.Value} {r : Request}
    (h : m.buildRequest boundary base arguments = .ok r) :
    ∃ given body, ContributesAll (m.parameters.map Parameter.asGiven) arguments given ∧
      r.body = some body ∧ ReadsFields (given.filterMap Contribution.field?) body := by
  obtain ⟨harity, draft, happly, hfinish⟩ := buildRequest_eq_ok.1 h
  obtain ⟨cs, hcs, hextends⟩ := extends_of_applyAll hstandard harity happly
  obtain ⟨joined, -, rfl⟩ := Draft.build_eq_ok.1 hfinish
  obtain ⟨given, hgiven, -, hfields⟩ := hcs.exists_asGiven
  have hstart : (m.startDraft boundary base).body = .form [] := by
    show Draft.emptyBody boundary m.bodyKind = .form []
    rw [hkind]
    rfl
  have hbody : draft.body = .form ((given.filterMap Contribution.field?).map encodeField) := by
    rw [hextends.body, hstart, DraftBody.extend, List.nil_append, hfields hencodes]
  exact ⟨given, _, hgiven, by rw [hbody]; rfl, readsFields_encode _⟩

theorem fields_of_buildRequest_getting :
    ∃ m r, (MethodBuilder.getting "/x"
        [.field "a&b" false .scalar, .fieldMap false .scalar]).build = .ok m ∧
      m.bodyKind = some .form ∧
      m.buildRequest "" .localhost [.array [.string "1=2", .null, .string ""],
        .object [("é", .string "%"), ("", .null)]] = .ok r ∧
      ∃ body, r.body = some body ∧ ReadsFields [("a&b", "1=2"), ("a&b", ""), ("é", "%")] body := by
  have hrun : ∃ m r, (MethodBuilder.getting "/x"
        [.field "a&b" false .scalar, .fieldMap false .scalar]).build = .ok m ∧
      m.parameters = [.field "a&b" false .scalar, .fieldMap false .scalar] ∧
      m.bodyKind = some .form ∧
      m.buildRequest "" .localhost [.array [.string "1=2", .null, .string ""],
        .object [("é", .string "%"), ("", .null)]] = .ok r :=
    ⟨_, _, rfl, rfl, rfl, rfl⟩
  obtain ⟨m, r, hbuild, hparameters, hkind, hrequest⟩ := hrun
  have hstandard : ∀ p ∈ m.parameters, p.isStandard = true := by
    simp [hparameters, Parameter.isStandard]
  have hencodes : ∀ p ∈ m.parameters, p.EncodesFields := by
    simp [hparameters, Parameter.EncodesFields]
  -- A field stands for each text of the array, also the empty one, and for each entry of
  -- the map that is there.
  have hfield : Parameter.Texts .scalar (.array [.string "1=2", .null, .string ""])
      ["1=2", ""] :=
    ⟨_, .array (.value Json.Value.noConfusion
      (.null (.value Json.Value.noConfusion .nil))), .cons rfl (.cons rfl .nil)⟩
  have hnothing : Parameter.Texts .scalar .null [] := ⟨_, .null, .nil⟩
  have hmap : Parameter.FieldTexts .scalar (.object [("é", .string "%"), ("", .null)])
      [("é", "%")] :=
    ⟨_, rfl, .cons (.of_string rfl) (.cons hnothing .nil)⟩
  have hall : ContributesAll (m.parameters.map Parameter.asGiven)
      [.array [.string "1=2", .null, .string ""], .object [("é", .string "%"), ("", .null)]]
      [.field "a&b" "1=2", .field "a&b" "", .field "é" "%"] := by
    rw [hparameters]
    exact .cons (.field hfield) (.cons (.fieldMap hmap) .nil)
  obtain ⟨given, body, hgiven, hbody, hreads⟩ :=
    fields_of_buildRequest hstandard hkind hencodes hrequest
  obtain rfl := hgiven.unique hall
  exact ⟨m, r, hbuild, hkind, hrequest, body, hbody, hreads⟩

end ServiceMethod

end WebClient
