import WebClient.Proofs.Percent.Alphabet
import WebClient.Proofs.Service.Building
import WebClient.Proofs.Service.Contribution

/-!
# How a request is assembled

A request is put together from the pieces that its arguments contribute, each kind
of piece in its own place and in the order of the parameters.
`ServiceMethod.Assembles` says what every part of the request is made of, and
`ServiceMethod.assembles_of_buildRequest` that a request that is built is made so.
-/

namespace WebClient

/-! ## Items and fields -/

/-- The text of an item of the query: a name and a value with an equals sign between them, or a
bare name. -/
def queryItemText : String × Option String → List Char
  | (name, some value) => name.toList ++ '=' :: value.toList
  | (name, none) => name.toList

/-- The text of a field of a form: a name and a value with an equals sign between them. -/
def formFieldText (field : String × String) : List Char :=
  field.1.toList ++ '=' :: field.2.toList

theorem Draft.renderQueryItem_eq : renderQueryItem = queryItemText := by
  funext ⟨name, value⟩
  cases value <;> rfl

theorem Draft.renderPair_eq : renderPair = formFieldText := rfl

/-! ## The query -/

namespace Url

/-- The pieces of a query with items behind what a URL has there already. -/
def queryParts (u : Url) (items : List (String × Option String)) : List (List Char) :=
  (u.query.toList.filter fun old => !old.isEmpty).map String.toList ++ items.map queryItemText

/-- The text of a query with items behind what a URL has there already. -/
def queryText (u : Url) (items : List (String × Option String)) : List Char :=
  Text.join ['&'] (u.queryParts items)

/-- A text as it stands in the query of a URL: without tabs and line breaks, and with the
characters encoded that no query holds. -/
def inQuery (u : Url) (text : List Char) : List Char :=
  Percent.encode (Percent.isQueryChar u.kind.isSpecial)
    (text.filter fun c => c ∉ ['\t', '\n', '\r'])

/-- A URL with items behind its query. -/
def withItems (u : Url) (items : List (String × Option String)) : Url :=
  if items = [] then u else u.setQuery (u.queryText items)

theorem query_setQuery (u : Url) (text : List Char) :
    (u.setQuery text).query = some (String.ofList (u.inQuery text)) := by
  have hkept : (fun c => !(c = '\t' || c = '\n' || c = '\r')) =
      fun c : Char => decide (c ∉ ['\t', '\n', '\r']) := by
    funext c
    simp [Bool.and_assoc]
  rw [setQuery, inQuery, hkept]

/-- Characters that a query holds stand there as they are. -/
theorem inQuery_eq_self {u : Url} {text : List Char}
    (h : ∀ c ∈ text, Percent.isQueryChar u.kind.isSpecial c = true) : u.inQuery text = text := by
  -- None of the characters that are dropped may stand in a query.
  have hblank : ∀ c ∈ text, decide (c ∉ ['\t', '\n', '\r']) = true := by
    intro c hc
    have hchar := h c hc
    rw [decide_eq_true_eq]
    intro hline
    simp only [List.mem_cons, List.not_mem_nil, or_false] at hline
    rcases hline with rfl | rfl | rfl <;> revert hchar <;> cases u.kind.isSpecial <;> decide
  rw [inQuery, List.filter_eq_self.2 hblank, Percent.encode_eq_self h]

theorem inQuery_append (u : Url) (s t : List Char) :
    u.inQuery (s ++ t) = u.inQuery s ++ u.inQuery t := by
  rw [inQuery, List.filter_append, Percent.encode_append]
  rfl

/-- Pieces of a query are put there one by one. -/
theorem inQuery_join (u : Url) (pieces : List (List Char)) :
    u.inQuery (Text.join ['&'] pieces) = Text.join ['&'] (pieces.map u.inQuery) := by
  have hsign : u.inQuery ['&'] = ['&'] := by
    refine inQuery_eq_self fun c hc => ?_
    rw [List.mem_singleton.1 hc]
    cases u.kind.isSpecial <;> decide
  induction pieces with
  | nil => rfl
  | cons piece pieces ih =>
      cases pieces with
      | nil => rfl
      | cons next more =>
          have hsplit (own : List Char) (first : List Char) (rest : List (List Char)) :
              Text.join ['&'] (own :: first :: rest) =
                own ++ ['&'] ++ Text.join ['&'] (first :: rest) := rfl
          rw [hsplit, inQuery_append, inQuery_append, hsign, ih]
          exact (hsplit _ _ _).symm

/-- The query of a URL with items is made of its pieces, each as it stands in a query. -/
theorem query_withItems {u : Url} {items : List (String × Option String)} (hitems : items ≠ []) :
    (u.withItems items).query =
      some (String.ofList (Text.join ['&'] ((u.queryParts items).map u.inQuery))) := by
  rw [withItems, if_neg hitems, query_setQuery, queryText, inQuery_join]

theorem query_withItems_of_isQueryChar {u : Url} {items : List (String × Option String)}
    (hitems : items ≠ [])
    (h : ∀ c ∈ u.queryText items, Percent.isQueryChar u.kind.isSpecial c = true) :
    (u.withItems items).query = some (String.ofList (u.queryText items)) := by
  rw [withItems, if_neg hitems, query_setQuery, inQuery_eq_self h]

end Url

theorem Draft.appendQuery_eq (items : List (String × Option String)) (u : Url) :
    appendQuery items u = u.withItems items := by
  cases items with
  | nil => rfl
  | cons item items =>
      rw [appendQuery, Url.withItems, if_neg (List.cons_ne_nil _ _), Url.queryText, Url.queryParts,
        renderQueryItem_eq]
      cases hquery : u.query with
      | none => rfl
      | some old =>
          by_cases hold : old.isEmpty = true
          · simp [hold]
          · simp [hold, Text.join]

/-- The parameter encodes what it adds to the query. -/
def Parameter.EncodesQuery : Parameter → Prop
  | .query _ encoded _ => encoded = false
  | .queryMap encoded _ => encoded = false
  | .queryName encoded _ => encoded = false
  | _ => True

/-- The characters of an item that a parameter encodes may stand in a query. -/
theorem Parameter.Contributes.isQueryChar {p : Parameter} {value : Json.Value}
    {cs : List Contribution} (h : p.Contributes value cs) (hp : p.EncodesQuery)
    {item : String × Option String} (hitem : item ∈ cs.filterMap Contribution.query?)
    {special : Bool} : ∀ c ∈ queryItemText item, Percent.isQueryChar special c = true := by
  obtain ⟨piece, hpiece, hquery⟩ := List.mem_filterMap.1 hitem
  cases h with
  | query | queryMap =>
      obtain ⟨text, -, rfl⟩ := List.mem_map.1 hpiece
      cases hquery
      intro c hc
      obtain rfl : _ = false := hp
      rcases List.mem_append.1 hc with hc | hc
      · exact Percent.isQueryChar_of_mem_component hc
      · rcases List.mem_cons.1 hc with rfl | hc
        · cases special <;> decide
        · exact Percent.isQueryChar_of_mem_component hc
  | queryName =>
      obtain ⟨text, -, rfl⟩ := List.mem_map.1 hpiece
      cases hquery
      intro c hc
      obtain rfl : _ = false := hp
      exact Percent.isQueryChar_of_mem_component hc
  | path | url | part | body =>
      rw [List.mem_singleton.1 hpiece] at hquery
      cases hquery
  | header | headerMap | field | fieldMap | partMap =>
      obtain ⟨_, -, rfl⟩ := List.mem_map.1 hpiece
      cases hquery
  | noPart => exact absurd hpiece List.not_mem_nil

theorem ContributesAll.isQueryChar {ps : List Parameter} {values : List Json.Value}
    {cs : List Contribution} (h : ContributesAll ps values cs)
    (hps : ∀ p ∈ ps, p.EncodesQuery) {item : String × Option String}
    (hitem : item ∈ cs.filterMap Contribution.query?) {special : Bool} :
    ∀ c ∈ queryItemText item, Percent.isQueryChar special c = true := by
  induction h with
  | nil => exact absurd hitem List.not_mem_nil
  | cons hfirst hrest ih =>
      rw [List.filterMap_append] at hitem
      rcases List.mem_append.1 hitem with hitem | hitem
      · exact hfirst.isQueryChar (hps _ List.mem_cons_self) hitem
      · exact ih (fun p hp => hps p (List.mem_cons_of_mem _ hp)) hitem

/-- The items of each parameter are among those of all. -/
theorem ContributesAll.query_mem {ps : List Parameter} {values : List Json.Value}
    {cs : List Contribution} (h : ContributesAll ps values cs) {i : Nat} {p : Parameter}
    (hp : ps[i]? = some p) {value : Json.Value} (hvalue : values[i]? = some value)
    {own : List Contribution} (hown : p.Contributes value own) {item : String × Option String}
    (hitem : item ∈ own.filterMap Contribution.query?) :
    item ∈ cs.filterMap Contribution.query? := by
  induction h generalizing i with
  | nil => cases hp
  | cons hfirst _ ih =>
      rw [List.filterMap_append, List.mem_append]
      cases i with
      | zero =>
          cases hp
          cases hvalue
          rw [hfirst.unique hown]
          exact .inl hitem
      | succ i => exact .inr (ih hp hvalue)

/-! ## The request -/

/-- The name of the header that labels a body, in whatever case its letters are. -/
def LabelsBody (name : String) : Prop := name.toList.map Char.toLower = "content-type".toList

instance : DecidablePred LabelsBody := fun _ => inferInstanceAs (Decidable (_ = _))

theorem labelsBody_iff {name : String} :
    LabelsBody name ↔ Text.sameIgnoringCase name "content-type" = true := by
  rw [Text.sameIgnoringCase, beq_iff_eq]
  rfl

/-- The header that labels a body, where no header does so already. -/
def bodyLabel (headers : List (String × String)) : Option RequestBody → List (String × String)
  | none => []
  | some body =>
      if ∃ header ∈ headers, LabelsBody header.1 then []
      else [("Content-Type", body.contentType)]

theorem Draft.finishHeaders_eq (headers : List (String × String)) (body : Option RequestBody) :
    finishHeaders headers body = headers ++ bodyLabel headers body := by
  cases body with
  | none => exact (List.append_nil _).symm
  | some body =>
      rw [finishHeaders, bodyLabel]
      simp only [labelsBody_iff, List.any_eq_true]
      split
      · exact (List.append_nil _).symm
      · rfl

namespace ServiceMethod

/-- The text that the URL is resolved from. -/
inductive References (m : ServiceMethod) (cs : List Contribution) : List Char → Prop
  | target {url : String} (hrole : Role.url ∈ m.roles)
      (hcs : cs.filterMap Contribution.target? = [url]) : References m cs url.toList
  | path (hrole : Role.url ∉ m.roles) (hcs : cs.filterMap Contribution.target? = []) :
      References m cs
        (Template.replaceTokens m.path.text.toList (cs.filterMap Contribution.path?))

/-- The body that is sent. -/
inductive Body (m : ServiceMethod) (boundary : String) (cs : List Contribution) :
    Option RequestBody → Prop
  | none (hkind : m.bodyKind = none) : Body m boundary cs none
  | form (hkind : m.bodyKind = some .form) :
      Body m boundary cs
        (some ⟨MediaType.form.text, Text.Utf8.encode
          (Text.join ['&'] ((cs.filterMap Contribution.field?).map formFieldText))⟩)
  | multipart (hkind : m.bodyKind = some .multipart) :
      Body m boundary cs (some (Form.toBody ⟨boundary, cs.filterMap Contribution.part?⟩))
  | noRaw (hkind : m.bodyKind = some .raw) (hcs : cs.filterMap Contribution.body? = []) :
      Body m boundary cs none
  | raw {body : RequestBody} (hkind : m.bodyKind = some .raw)
      (hcs : cs.filterMap Contribution.body? = [body]) : Body m boundary cs (some body)

/-- What the parts of a request are made of. -/
structure Assembles (m : ServiceMethod) (boundary : String) (base : Url)
    (arguments : List Json.Value) (cs : List Contribution) (r : Request) : Prop where
  method : r.method = m.method
  body : ∃ body, m.Body boundary cs body ∧ r.body = body.map RequestBody.bytes ∧
    r.headers = m.headers ++ cs.filterMap Contribution.header? ++
      bodyLabel (m.headers ++ cs.filterMap Contribution.header?) body
  /-- No piece for a body of another kind is lost. -/
  ofKind : ∀ c ∈ cs, ∀ kind, c.bodyKind? = some kind → m.bodyKind = some kind
  /-- The items stand behind the query that is there already, each as it stands in a query;
  where all characters may stand there, the query is the text of the items. -/
  url : ∃ reference joined, m.References cs reference ∧ base.join? reference = .ok joined ∧
    r.url = joined.withItems (cs.filterMap Contribution.query?) ∧
    (cs.filterMap Contribution.query? ≠ [] →
      r.url.query = some (String.ofList (Text.join ['&']
        ((joined.queryParts (cs.filterMap Contribution.query?)).map joined.inQuery)))) ∧
    (cs.filterMap Contribution.query? ≠ [] →
      (∀ c ∈ joined.queryText (cs.filterMap Contribution.query?),
        Percent.isQueryChar joined.kind.isSpecial c = true) →
      r.url.query = some (String.ofList (joined.queryText (cs.filterMap Contribution.query?))))
  /-- An item of a parameter that encodes it stands in every query as it is. -/
  encoded : ∀ (i : Nat) (p : Parameter) (value : Json.Value) (own : List Contribution),
    m.parameters[i]? = some p → arguments[i]? = some value → p.Contributes value own →
    p.EncodesQuery → ∀ item ∈ own.filterMap Contribution.query?,
      item ∈ cs.filterMap Contribution.query? ∧
      (∀ c ∈ queryItemText item, ∀ special, Percent.isQueryChar special c = true) ∧
      ∀ u : Url, u.inQuery (queryItemText item) = queryItemText item

theorem reference_of_contributesAll {b : MethodBuilder} {m : ServiceMethod} (h : b.Makes m)
    {values : List Json.Value} {cs : List Contribution}
    (hcs : ContributesAll m.parameters values cs) :
    m.References cs (((cs.filterMap Contribution.target?).getLast?.map String.toList).getD
      (Template.replaceTokens m.path.text.toList (cs.filterMap Contribution.path?))) := by
  have hlength : (cs.filterMap Contribution.target?).length = m.roles.count .url :=
    hcs.length_targets
  have hone := h.oneUrl
  -- There are as many URLs in the place of the path as URL parameters, at most one.
  cases htargets : cs.filterMap Contribution.target? with
  | nil =>
      rw [htargets, List.length_nil, eq_comm, List.count_eq_zero] at hlength
      exact .path hlength htargets
  | cons url more =>
      rw [htargets, List.length_cons] at hlength
      have hmore : more = [] := List.eq_nil_of_length_eq_zero (by omega)
      have hrole : Role.url ∈ m.roles := List.count_pos_iff.1 (by omega)
      subst hmore
      exact .target hrole htargets

theorem body_of_contributesAll {b : MethodBuilder} {m : ServiceMethod} (h : b.Makes m)
    (boundary : String) {values : List Json.Value} {cs : List Contribution}
    (hcs : ContributesAll m.parameters values cs) :
    m.Body boundary cs
      (Draft.finishBody ((Draft.emptyBody boundary m.bodyKind).extend cs)) := by
  have hlength : (cs.filterMap Contribution.body?).length = m.bodyKinds.count .raw :=
    hcs.length_bodies
  have hone := h.oneRaw
  cases hkind : m.bodyKind with
  | none =>
      have hcount : m.bodyKinds.count .raw = 0 := by
        rw [List.count_eq_zero]
        intro hraw
        exact absurd (h.bodyKind_eq hraw) (by simp [hkind])
      rw [hcount] at hlength
      have hbodies := List.eq_nil_of_length_eq_zero hlength
      rw [Draft.emptyBody, DraftBody.extend, hbodies]
      exact .none hkind
  | some kind =>
      cases kind with
      | form =>
          rw [Draft.emptyBody, DraftBody.extend, Draft.finishBody, Draft.renderPair_eq,
            List.nil_append]
          exact .form hkind
      | multipart =>
          rw [Draft.emptyBody, DraftBody.extend, Draft.finishBody]
          exact .multipart hkind
      | raw =>
          rw [Draft.emptyBody, DraftBody.extend, Draft.finishBody, Option.or_none]
          cases hbodies : cs.filterMap Contribution.body? with
          | nil => exact .noRaw hkind hbodies
          | cons body more =>
              rw [hbodies, List.length_cons] at hlength
              have hmore : more = [] := List.eq_nil_of_length_eq_zero (by omega)
              subst hmore
              exact .raw hkind hbodies

/-- A request that a built method makes is assembled from what the arguments
contribute, and so each part of it is as it would be if the others were not there. -/
theorem assembles_of_buildRequest {b : MethodBuilder} {m : ServiceMethod}
    (hbuild : b.build = .ok m) (hstandard : ∀ p ∈ m.parameters, p.isStandard = true)
    {boundary : String} {base : Url} {arguments : List Json.Value} {r : Request}
    (h : m.buildRequest boundary base arguments = .ok r) :
    ∃ cs, ContributesAll m.parameters arguments cs ∧
      m.Assembles boundary base arguments cs r := by
  have hmakes := MethodBuilder.build_eq_ok.1 hbuild
  obtain ⟨harity, draft, happly, hfinish⟩ := buildRequest_eq_ok.1 h
  obtain ⟨cs, hcs, hextends⟩ := extends_of_applyAll hstandard harity happly
  obtain ⟨joined, hjoined, hr⟩ := Draft.build_eq_ok.1 hfinish
  rw [Draft.resolveTarget, Outcome.mapError_eq_ok, hextends.base, hextends.target,
    hextends.path] at hjoined
  have hreference : base.join?
      (((cs.filterMap Contribution.target?).getLast?.map String.toList).getD
        (Template.replaceTokens m.path.text.toList (cs.filterMap Contribution.path?))) =
      .ok joined := by
    rw [← hjoined]
    cases (cs.filterMap Contribution.target?).getLast? <;> rfl
  have hurl : r.url = joined.withItems (cs.filterMap Contribution.query?) := by
    rw [hr, Draft.appendQuery_eq, hextends.query]
    rfl
  subst hr
  refine ⟨cs, hcs, ?_⟩
  exact {
    method := hextends.method
    body := ⟨_, body_of_contributesAll hmakes boundary hcs, by rw [hextends.body]; rfl, by
      rw [Draft.finishHeaders_eq, hextends.headers, hextends.body]
      rfl⟩
    ofKind := fun c hc kind hkind => hmakes.bodyKind_eq (hcs.bodyKind_mem hc hkind)
    url := ⟨_, joined, reference_of_contributesAll hmakes hcs, hreference, hurl,
      fun hitems => hurl ▸ Url.query_withItems hitems,
      fun hitems hchars => hurl ▸ Url.query_withItems_of_isQueryChar hitems hchars⟩
    encoded := by
      intro i p value own hp hvalue hown hencodes item hitem
      have hchars : ∀ special, ∀ c ∈ queryItemText item, Percent.isQueryChar special c = true :=
        fun special => hown.isQueryChar hencodes hitem
      exact ⟨hcs.query_mem hp hvalue hown hitem, fun c hc special => hchars special c hc,
        fun u => Url.inQuery_eq_self (hchars _)⟩ }

theorem assembles_of_buildRequest_getting :
    ∃ m r, (MethodBuilder.getting "/x/{id}" [.query "q" false .scalar, .path "id" false .scalar,
        .header "X" .scalar, .field "f" false .scalar]).build = .ok m ∧
      (∀ p ∈ m.parameters, p.isStandard = true) ∧
      m.buildRequest "" .localhost [.array [.string "a b", .null, .string "c"], .string "7/8",
        .string "h", .string "=&"] = .ok r ∧
      r.url.text = "http://localhost/x/7%2F8?q=a%20b&q=c" ∧
      r.headers = [("X", "h"), ("Content-Type", "application/x-www-form-urlencoded")] ∧
      r.body = some (Text.bytes "f=%3D%26") ∧
      ContributesAll m.parameters
        [.array [.string "a b", .null, .string "c"], .string "7/8", .string "h", .string "=&"]
        [.query "q" (some "a%20b"), .query "q" (some "c"), .path "id" "7%2F8", .header "X" "h",
          .field "f" "%3D%26"] ∧
      m.Assembles "" .localhost
        [.array [.string "a b", .null, .string "c"], .string "7/8", .string "h", .string "=&"]
        [.query "q" (some "a%20b"), .query "q" (some "c"), .path "id" "7%2F8", .header "X" "h",
          .field "f" "%3D%26"] r := by
  have hrun : ∃ m r, (MethodBuilder.getting "/x/{id}" [.query "q" false .scalar,
        .path "id" false .scalar, .header "X" .scalar, .field "f" false .scalar]).build = .ok m ∧
      m.parameters = [.query "q" false .scalar, .path "id" false .scalar, .header "X" .scalar,
        .field "f" false .scalar] ∧
      m.buildRequest "" .localhost [.array [.string "a b", .null, .string "c"], .string "7/8",
        .string "h", .string "=&"] = .ok r ∧
      r.url.text = "http://localhost/x/7%2F8?q=a%20b&q=c" ∧
      r.headers = [("X", "h"), ("Content-Type", "application/x-www-form-urlencoded")] ∧
      r.body = some (Text.bytes "f=%3D%26") :=
    ⟨_, _, rfl, rfl, rfl, rfl, rfl, rfl⟩
  obtain ⟨m, r, hbuild, hparameters, hrequest, hurl, hheaders, hbody⟩ := hrun
  have hstandard : ∀ p ∈ m.parameters, p.isStandard = true := by
    simp [hparameters, Parameter.isStandard]
  -- The nothing between the two texts is left out.
  have hquery : Parameter.Texts .scalar (.array [.string "a b", .null, .string "c"])
      ["a b", "c"] :=
    ⟨_, .array (.value Json.Value.noConfusion
      (.null (.value Json.Value.noConfusion .nil))), .cons rfl (.cons rfl .nil)⟩
  have hpath : Parameter.Contributes (.path "id" false .scalar) (.string "7/8")
      [.path "id" "7%2F8"] :=
    @Parameter.Contributes.path "id" false .scalar (.string "7/8") "7/8" Json.Value.noConfusion
      rfl rfl
  have hfield : Parameter.Contributes (.field "f" false .scalar) (.string "=&")
      [.field "f" "%3D%26"] :=
    @Parameter.Contributes.field "f" false .scalar (.string "=&") ["=&"] (.of_string rfl)
  have hcs : ContributesAll m.parameters
      [.array [.string "a b", .null, .string "c"], .string "7/8", .string "h", .string "=&"]
      [.query "q" (some "a%20b"), .query "q" (some "c"), .path "id" "7%2F8", .header "X" "h",
        .field "f" "%3D%26"] := by
    rw [hparameters]
    exact .cons (.query hquery) (.cons hpath
      (.cons (.header (.of_string rfl)) (.cons hfield .nil)))
  obtain ⟨cs, hothers, hassembles⟩ := assembles_of_buildRequest hbuild hstandard hrequest
  obtain rfl := hothers.unique hcs
  exact ⟨m, r, hbuild, hstandard, hrequest, hurl, hheaders, hbody, hcs, hassembles⟩

/-- A tab in an item that is encoded already does not reach the query. -/
theorem query_of_encoded_tab :
    ∃ m joined r, (MethodBuilder.getting "/x" [.query "q" true .scalar]).build = .ok m ∧
      ContributesAll m.parameters [.string "a\tb"] [.query "q" (some "a\tb")] ∧
      Url.localhost.join? m.path.text.toList = .ok joined ∧ joined.query = none ∧
      m.buildRequest "" .localhost [.string "a\tb"] = .ok r ∧ r.url.query ≠ some "q=a\tb" :=
  ⟨_, _, _, rfl, .cons (.query (.of_string rfl)) .nil, rfl, rfl, rfl, by decide⟩

end ServiceMethod

end WebClient
