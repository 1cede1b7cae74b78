import WebClient.Proofs.Service.ParameterOrder
import WebClient.Proofs.Service.ReadingBack
import WebClient.Proofs.Template.Marks

/-!
# Two calls that differ in their path arguments

An encoded value holds no `?` and no `#`, so two calls of a method that differ in nothing
but path arguments make URLs that both have a fragment or neither, and both a query or
neither.  A value may hold ampersands, which a segment keeps: where its name stands in the
query of the template, each of them makes one more piece of the query, and nothing else
does.
-/

namespace WebClient

/-! ## The pieces of a query -/

namespace Url

/-- The pieces of the query between ampersands; there are none without a query. -/
def queryPieces (u : Url) : List (List Char) :=
  match u.query with
  | none => []
  | some query => Text.splitAll (· = '&') query.toList

theorem length_queryPieces_of_eq_none {u : Url} (h : u.query = none) :
    u.queryPieces.length = 0 := by
  rw [queryPieces, h]
  rfl

theorem length_queryPieces {u : Url} {query : String} (h : u.query = some query) :
    u.queryPieces.length = query.toList.count '&' + 1 := by
  rw [queryPieces, h]
  dsimp only
  rw [Text.length_splitAll, List.count]
  refine congrArg (· + 1) (List.countP_congr fun c _ => ?_)
  simp

theorem fragment_withItems (u : Url) (items : List (String × Option String)) :
    (u.withItems items).fragment = u.fragment := by
  rw [withItems]
  split <;> rfl

theorem isSome_query_withItems (u : Url) {items : List (String × Option String)}
    (hitems : items ≠ []) : (u.withItems items).query.isSome = true := by
  rw [withItems, if_neg hitems]
  rfl

/-- Items behind a query add the pieces that they are themselves. -/
theorem length_queryPieces_withItems (u : Url) {items : List (String × Option String)}
    (hitems : items ≠ []) :
    (u.withItems items).queryPieces.length =
      u.queryFront.count '&' +
        (Text.join ['&'] (items.map queryItemText)).count '&' + 1 := by
  have hencode (s : List Char) :
      (Percent.encode (Percent.isQueryChar u.kind.isSpecial) s).count '&' = s.count '&' :=
    Percent.count_encode (by cases u.kind.isSpecial <;> rfl) (by decide) (by decide) s
  have hquery : (u.withItems items).query = some (String.ofList (u.inQuery (u.queryText items))) := by
    rw [withItems, if_neg hitems, query_setQuery]
  rw [length_queryPieces hquery, String.toList_ofList, inQuery, hencode, List.count_filter rfl,
    queryText_eq u hitems, List.count_append]

/-- What stands in front of added items has an ampersand behind a query that is not
empty. -/
theorem count_queryFront (u : Url) :
    u.queryFront.count '&' =
      if u.query.getD "" = "" then 0 else (u.query.getD "").toList.count '&' + 1 := by
  rw [queryFront]
  cases u.query with
  | none => rfl
  | some old =>
      by_cases hold : old = ""
      · simp [hold]
      · simp [hold, List.count_append]

/-- The queries of two URLs are both there or both missing, and the numbers of their
ampersands differ as two other numbers do. -/
structure QueriesAlike (count₁ count₂ : Nat) (u₁ u₂ : Url) : Prop where
  isSome : u₁.query.isSome = u₂.query.isSome
  count : (u₁.query.getD "").toList.count '&' + count₂ =
    (u₂.query.getD "").toList.count '&' + count₁

theorem QueriesAlike.isSome_withItems {count₁ count₂ : Nat} {u₁ u₂ : Url}
    (h : QueriesAlike count₁ count₂ u₁ u₂) (items : List (String × Option String)) :
    (u₁.withItems items).query.isSome = (u₂.withItems items).query.isSome := by
  by_cases hitems : items = []
  · rw [withItems, withItems, if_pos hitems, if_pos hitems, h.isSome]
  · rw [isSome_query_withItems u₁ hitems, isSome_query_withItems u₂ hitems]

/-- Items behind two queries keep the difference of their pieces, unless they take the place
of just one of the queries, because it is empty. -/
theorem QueriesAlike.length_withItems {count₁ count₂ : Nat} {u₁ u₂ : Url}
    (h : QueriesAlike count₁ count₂ u₁ u₂) {items : List (String × Option String)}
    (hempty : items = [] ∨ (u₁.query.getD "" = "" ↔ u₂.query.getD "" = "")) :
    (u₁.withItems items).queryPieces.length + count₂ =
      (u₂.withItems items).queryPieces.length + count₁ := by
  obtain ⟨hsome, hcount⟩ := h
  by_cases hitems : items = []
  · rw [withItems, withItems, if_pos hitems, if_pos hitems]
    cases hquery₁ : u₁.query with
    | none =>
        have hquery₂ : u₂.query = none := by simpa [hquery₁] using hsome
        rw [hquery₁, hquery₂] at hcount
        rw [length_queryPieces_of_eq_none hquery₁, length_queryPieces_of_eq_none hquery₂]
        simpa using hcount
    | some query₁ =>
        obtain ⟨query₂, hquery₂⟩ := Option.isSome_iff_exists.1 (hsome.symm.trans (by simp [hquery₁]))
        rw [hquery₁, hquery₂, Option.getD_some, Option.getD_some] at hcount
        rw [length_queryPieces hquery₁, length_queryPieces hquery₂]
        omega
  · have halike := hempty.resolve_left hitems
    rw [length_queryPieces_withItems u₁ hitems, length_queryPieces_withItems u₂ hitems,
      count_queryFront, count_queryFront]
    by_cases hnone : u₁.query.getD "" = ""
    · rw [if_pos hnone, if_pos (halike.1 hnone)]
      rw [hnone, halike.1 hnone] at hcount
      simp only [String.toList_empty, List.count_nil, Nat.zero_add] at hcount
      omega
    · rw [if_neg hnone, if_neg fun hother => hnone (halike.2 hother)]
      omega

end Url

/-! ## The URLs of one template -/

/-- What two URLs have in common that one template leads to with two lists of texts, with the
same items behind the query. -/
structure SameMarks (base : Url) (t : Template) (items : List (String × Option String))
    (texts₁ texts₂ : String → String) (u₁ u₂ : Url) : Prop where
  fragment : u₁.fragment.isSome = u₂.fragment.isSome
  /-- A reference of nothing but the scheme of the base, if anything, keeps the query of the
  base. -/
  query : (base.query = none ∨ items ≠ [] ∨
      ((t.reference texts₁).KeepsQuery base ↔ (t.reference texts₂).KeepsQuery base)) →
    u₁.query.isSome = u₂.query.isSome
  /-- Each ampersand of a text that stands in the query makes one more piece.  An empty query
  gives way to the items. -/
  pieces : (base.query = none ∨
      ((t.reference texts₁).KeepsQuery base ↔ (t.reference texts₂).KeepsQuery base)) →
    (items = [] ∨
      ((t.reference texts₁).query = some [] ↔ (t.reference texts₂).query = some [])) →
    u₁.queryPieces.length + t.ampersands texts₂ = u₂.queryPieces.length + t.ampersands texts₁

section Resolving

variable {base : Url} {t : Template} {texts texts₁ texts₂ : String → String} {u u₁ u₂ : Url}

/-- Where the template has no query, both URLs have that of the base, or none. -/
theorem query_eq_of_queryPieces_eq_none (hbase : base.kind = .special)
    (hquery : t.queryPieces = none)
    (h₁ : Url.resolve (some base) (t.reference texts₁) = .ok u₁)
    (h₂ : Url.resolve (some base) (t.reference texts₂) = .ok u₂)
    (hkeeps : base.query = none ∨
      ((t.reference texts₁).KeepsQuery base ↔ (t.reference texts₂).KeepsQuery base)) :
    u₁.query = u₂.query := by
  have hown {u : Url} {texts : String → String}
      (h : u.query = (t.reference texts).encodedQuery u.kind) : u.query = none := by
    have hnone : (t.reference texts).query = none := by
      simpa [hquery] using Template.isSome_query_reference texts t
    rw [h, Reference.encodedQuery, hnone]
    rfl
  rcases Url.query_of_resolve hbase h₁ with ⟨hkeeps₁, hu₁⟩ | ⟨hkeeps₁, hu₁⟩ <;>
    rcases Url.query_of_resolve hbase h₂ with ⟨hkeeps₂, hu₂⟩ | ⟨hkeeps₂, hu₂⟩
  · rw [hu₁, hu₂]
  -- Where just one of them keeps the query of the base, the base has none to keep.
  · rw [hu₁, hown hu₂]
    exact hkeeps.resolve_right fun h => hkeeps₂ (h.1 hkeeps₁)
  · rw [hu₂, hown hu₁]
    exact (hkeeps.resolve_right fun h => hkeeps₁ (h.2 hkeeps₂)).symm
  · rw [hown hu₁, hown hu₂]

/-- Where the template has a query, the URL has it with the texts put in, encoded. -/
theorem exists_query_of_resolve (hbase : base.kind = .special)
    (hquery : t.queryPieces.isSome = true)
    (h : Url.resolve (some base) (t.reference texts) = .ok u) :
    ∃ q, (t.reference texts).query = some q ∧
      u.query = (t.reference texts).encodedQuery u.kind := by
  obtain ⟨q, hq⟩ := Option.isSome_iff_exists.1
    ((Template.isSome_query_reference texts t).trans hquery)
  rcases Url.query_of_resolve hbase h with ⟨hkeeps, -⟩ | ⟨-, hown⟩
  · rw [hkeeps.1] at hq
    cases hq
  · exact ⟨q, hq, hown⟩

theorem queriesAlike_of_resolve (hbase : base.kind = .special)
    (h₁ : Url.resolve (some base) (t.reference texts₁) = .ok u₁)
    (h₂ : Url.resolve (some base) (t.reference texts₂) = .ok u₂)
    (hkeeps : base.query = none ∨
      ((t.reference texts₁).KeepsQuery base ↔ (t.reference texts₂).KeepsQuery base)) :
    Url.QueriesAlike (t.ampersands texts₁) (t.ampersands texts₂) u₁ u₂ ∧
      (((t.reference texts₁).query = some [] ↔ (t.reference texts₂).query = some []) →
        (u₁.query.getD "" = "" ↔ u₂.query.getD "" = "")) := by
  cases hquery : t.queryPieces with
  | none =>
      have hsame := query_eq_of_queryPieces_eq_none hbase hquery h₁ h₂ hkeeps
      refine ⟨⟨by rw [hsame], ?_⟩, fun _ => by rw [hsame]⟩
      rw [hsame, Template.ampersands_eq_zero _ _ hquery, Template.ampersands_eq_zero _ _ hquery]
  | some ps =>
      have hthere : t.queryPieces.isSome = true := by rw [hquery]; rfl
      obtain ⟨q₁, hq₁, hown₁⟩ := exists_query_of_resolve hbase hthere h₁
      obtain ⟨q₂, hq₂, hown₂⟩ := exists_query_of_resolve hbase hthere h₂
      obtain ⟨hcount₁, hempty₁⟩ := @Reference.getD_encodedQuery u₁.kind _ _ hq₁
      obtain ⟨hcount₂, hempty₂⟩ := @Reference.getD_encodedQuery u₂.kind _ _ hq₂
      have hampersands₁ := Template.count_query_reference texts₁ t hq₁
      have hampersands₂ := Template.count_query_reference texts₂ t hq₂
      rw [← hown₁] at hcount₁ hempty₁
      rw [← hown₂] at hcount₂ hempty₂
      refine ⟨⟨?_, ?_⟩, fun hempty => ?_⟩
      · rw [hown₁, hown₂]
        simp [Reference.encodedQuery, hq₁, hq₂]
      · omega
      · rw [hq₁, hq₂, Option.some.injEq, Option.some.injEq] at hempty
        exact hempty₁.trans (hempty.trans hempty₂.symm)

theorem sameMarks_of_resolve (hbase : base.kind = .special)
    (h₁ : Url.resolve (some base) (t.reference texts₁) = .ok u₁)
    (h₂ : Url.resolve (some base) (t.reference texts₂) = .ok u₂)
    (items : List (String × Option String)) :
    SameMarks base t items texts₁ texts₂ (u₁.withItems items) (u₂.withItems items) where
  fragment := by
    have hfragment {u : Url} {texts : String → String}
        (h : Url.resolve (some base) (t.reference texts) = .ok u) :
        (u.withItems items).fragment.isSome = t.fragmentPieces.isSome := by
      rw [Url.fragment_withItems, (Url.marked_of_resolve u h).fragment_eq,
        Reference.encodedFragment, Option.isSome_map, Template.isSome_fragment_reference]
    rw [hfragment h₁, hfragment h₂]
  query := by
    intro hkeeps
    by_cases hitems : items = []
    · have hkeeps' := hkeeps.imp_right fun h => h.resolve_left (not_not_intro hitems)
      exact (queriesAlike_of_resolve hbase h₁ h₂ hkeeps').1.isSome_withItems items
    · rw [Url.isSome_query_withItems u₁ hitems, Url.isSome_query_withItems u₂ hitems]
  pieces := by
    intro hkeeps hempty
    obtain ⟨halike, hgone⟩ := queriesAlike_of_resolve hbase h₁ h₂ hkeeps
    exact halike.length_withItems (hempty.imp_right hgone)

end Resolving

/-! ## Two calls -/

/-- Two lists of arguments give every parameter the same argument, but for path
parameters. -/
def AgreeOffPath (ps : List Parameter) (arguments₁ arguments₂ : List Json.Value) : Prop :=
  ∀ (i : Nat) (p : Parameter), ps[i]? = some p → ¬ p.IsPath → arguments₁[i]? = arguments₂[i]?

theorem Parameter.Contributes.queries_of_isPath {p : Parameter} (hp : p.IsPath)
    {value : Json.Value} {cs : List Contribution} (h : p.Contributes value cs) :
    cs.filterMap Contribution.query? = [] := by
  cases h with
  | path => rfl
  | _ => exact hp.elim

/-- Path arguments do not change what is added to the query. -/
theorem ContributesAll.queries_eq {ps : List Parameter} {values others : List Json.Value}
    {cs ds : List Contribution} (hcs : ContributesAll ps values cs)
    (hds : ContributesAll ps others ds) (hagree : AgreeOffPath ps values others) :
    cs.filterMap Contribution.query? = ds.filterMap Contribution.query? := by
  induction hcs generalizing others ds with
  | nil =>
      cases hds
      rfl
  | @cons p ps value values cs rest hfirst hrest ih =>
      cases hds with
      | @cons _ _ other others ds more hfirst' hrest' =>
          have hown : cs.filterMap Contribution.query? = ds.filterMap Contribution.query? := by
            by_cases hp : p.IsPath
            · rw [hfirst.queries_of_isPath hp, hfirst'.queries_of_isPath hp]
            · obtain rfl : value = other := Option.some.inj (hagree 0 p rfl hp)
              rw [hfirst.unique hfirst']
          rw [List.filterMap_append, List.filterMap_append, hown,
            ih hrest' fun i q hq => hagree (i + 1) q hq]

namespace ServiceMethod

/-- What a list of arguments puts into the URL of a call: a text for each name of the path,
and the items behind the query. -/
structure Fills (m : ServiceMethod) (arguments : List Json.Value) (texts : String → String)
    (items : List (String × Option String)) : Prop where
  converted : ∀ (i : Nat) (name : String) (c : StringConverter) (value : Json.Value),
    m.parameters[i]? = some (.path name false c) → arguments[i]? = some value →
      c.convert value = .ok (texts name)
  items : ∃ cs, ContributesAll m.parameters arguments cs ∧
    cs.filterMap Contribution.query? = items

/-- A call without a URL parameter resolves the reference that the template gives with the
texts of its arguments, and puts the items behind the query. -/
theorem exists_fills_of_buildRequest {b : MethodBuilder} {m : ServiceMethod} (hmakes : b.Makes m)
    (hstandard : ∀ p ∈ m.parameters, p.isStandard = true)
    (hencodes : ∀ p ∈ m.parameters, p.EncodesPath) (hurl : Role.url ∉ m.roles)
    (hapart : m.path.NamesApart) {boundary : String} {base : Url} {arguments : List Json.Value}
    {r : Request} (h : m.buildRequest boundary base arguments = .ok r) :
    ∃ texts items joined, m.Fills arguments texts items ∧
      Url.resolve (some base) (m.path.reference texts) = .ok joined ∧
      r.url = joined.withItems items := by
  obtain ⟨cs, reference, joined, hcs, hreference, hjoined, hr⟩ :=
    exists_joined_of_buildRequest hmakes hstandard h
  obtain ⟨texts, htexts⟩ := hcs.pathTexts hencodes
  have hnodup : (texts.map Prod.fst).Nodup := by
    rw [htexts.names, ← pathNames_eq]
    exact hmakes.names_nodup
  cases hreference with
  | target hrole => exact absurd hrole hurl
  | path =>
      rw [replaceTokens_of_texts hmakes hapart htexts] at hjoined
      refine ⟨fun name => (texts.lookup name).getD "", _, joined, ⟨?_, cs, hcs, rfl⟩, hjoined, ?_⟩
      · intro i name c value hi hvalue
        obtain ⟨text, htext, hmem⟩ := htexts.converted i name c value hi hvalue
        simp only [htext, lookup_eq_some_of_mem hnodup hmem, Option.getD_some]
      · rw [hr, Draft.appendQuery_eq]

/-- Two calls that differ in nothing but path arguments, which are encoded, make URLs that
both have a fragment or neither, and both a query or neither; the queries differ in as many
pieces as the texts in them differ in ampersands. -/
theorem sameMarks_of_buildRequest {b : MethodBuilder} {m : ServiceMethod}
    (hbuild : b.build = .ok m) (hstandard : ∀ p ∈ m.parameters, p.isStandard = true)
    (hencodes : ∀ p ∈ m.parameters, p.EncodesPath) (hurl : Role.url ∉ m.roles)
    (hapart : m.path.NamesApart) {base : Url}
    (hscheme : base.scheme = "http" ∨ base.scheme = "https") {boundary : String}
    {arguments₁ arguments₂ : List Json.Value}
    (hagree : AgreeOffPath m.parameters arguments₁ arguments₂) {r₁ r₂ : Request}
    (h₁ : m.buildRequest boundary base arguments₁ = .ok r₁)
    (h₂ : m.buildRequest boundary base arguments₂ = .ok r₂) :
    ∃ items texts₁ texts₂, m.Fills arguments₁ texts₁ items ∧ m.Fills arguments₂ texts₂ items ∧
      SameMarks base m.path items texts₁ texts₂ r₁.url r₂.url := by
  have hmakes := MethodBuilder.build_eq_ok.1 hbuild
  have hbase := Url.kind_eq_special hscheme
  obtain ⟨texts₁, items, joined₁, hfills₁, hjoined₁, hr₁⟩ :=
    exists_fills_of_buildRequest hmakes hstandard hencodes hurl hapart h₁
  obtain ⟨texts₂, others, joined₂, hfills₂, hjoined₂, hr₂⟩ :=
    exists_fills_of_buildRequest hmakes hstandard hencodes hurl hapart h₂
  -- Path arguments leave what the others add to the query.
  obtain rfl : items = others := by
    obtain ⟨cs, hcs, rfl⟩ := hfills₁.items
    obtain ⟨ds, hds, rfl⟩ := hfills₂.items
    exact hcs.queries_eq hds hagree
  refine ⟨items, texts₁, texts₂, hfills₁, hfills₂, ?_⟩
  rw [hr₁, hr₂]
  exact sameMarks_of_resolve hbase hjoined₁ hjoined₂ items

theorem sameMarks_of_buildRequest_getting :
    ∃ m r₁ r₂, (MethodBuilder.getting "/{a}?q={b}#f"
        [.path "a" false .scalar, .path "b" false .scalar, .query "k" false .scalar]).build =
          .ok m ∧
      m.buildRequest "" .localhost [.string "?#&", .string "1&2", .string "v"] = .ok r₁ ∧
      m.buildRequest "" .localhost [.string "", .string "3", .string "v"] = .ok r₂ ∧
      r₁.url.query = some "q=1&2&k=v" ∧ r₂.url.query = some "q=3&k=v" ∧
      ∃ items texts₁ texts₂,
        m.Fills [.string "?#&", .string "1&2", .string "v"] texts₁ items ∧
        m.Fills [.string "", .string "3", .string "v"] texts₂ items ∧
        SameMarks .localhost m.path items texts₁ texts₂ r₁.url r₂.url := by
  have hbuild : (MethodBuilder.getting "/{a}?q={b}#f"
      [.path "a" false .scalar, .path "b" false .scalar, .query "k" false .scalar]).build =
        .ok _ := rfl
  have hstandard : ∀ p ∈ [Parameter.path "a" false .scalar, .path "b" false .scalar,
      .query "k" false .scalar], p.isStandard = true := by
    simp [Parameter.isStandard]
  have hencodes : ∀ p ∈ [Parameter.path "a" false .scalar, .path "b" false .scalar,
      .query "k" false .scalar], p.EncodesPath := by
    simp [Parameter.EncodesPath]
  have hapart : Template.NamesApart ⟨"/{a}?q={b}#f"⟩ := Template.namesApart_of_not_mem (by decide)
  have hagree : AgreeOffPath [Parameter.path "a" false .scalar, .path "b" false .scalar,
      .query "k" false .scalar] [.string "?#&", .string "1&2", .string "v"]
      [.string "", .string "3", .string "v"] := by
    intro i p hp hpath
    rcases i with _ | _ | i
    · cases hp
      exact absurd trivial hpath
    · cases hp
      exact absurd trivial hpath
    · rfl
  exact ⟨_, _, _, hbuild, rfl, rfl, rfl, rfl,
    @sameMarks_of_buildRequest _ _ hbuild hstandard hencodes (by decide) hapart .localhost
      (Or.inl rfl) "" _ _ hagree _ _ rfl rfl⟩

/-- The number of pieces depends on a path argument when its ampersand is in the query, and
when items take the place of a query that it leaves empty; a reference that it leaves empty
keeps the query of the base; and an argument that is put into the name of another place decides
whether that place, and the question mark in it, is left in the template. -/
theorem marks_of_path_argument :
    (∃ m, (MethodBuilder.getting "/x?q={a}" [.path "a" false .scalar]).build = .ok m ∧
      [Json.Value.string "1", .string "1&b=2"].map (fun value =>
        (m.buildRequest "" .localhost [value]).toOption.map fun r =>
          r.url.queryPieces.map String.ofList) = [some ["q=1"], some ["q=1", "b=2"]]) ∧
    (∃ m, (MethodBuilder.getting "/x?{a}"
        [.path "a" false .scalar, .query "k" false .scalar]).build = .ok m ∧
      [Json.Value.string "", .string "u"].map (fun value =>
        (m.buildRequest "" .localhost [value, .string "v"]).toOption.map fun r =>
          r.url.queryPieces.map String.ofList) = [some ["k=v"], some ["u", "k=v"]]) ∧
    (∃ m, (MethodBuilder.getting "{a}" [.path "a" false .scalar]).build = .ok m ∧
      [Json.Value.string "", .string "u"].map (fun value =>
        (m.buildRequest "" { Url.localhost with query := some "k=v" } [value]).toOption.map
          fun r => r.url.query) = [some (some "k=v"), some none]) ∧
    ∃ m, (MethodBuilder.getting "/{b}/\x7ba\x7bb\x7d?\x7d/\x7bac?\x7d"
        [.path "b" false .scalar, .path "a\x7bb" false .scalar, .path "ac?" false .scalar]).build =
          .ok m ∧ ¬ m.path.NamesApart ∧
      [Json.Value.string "c", .string "d"].map (fun value =>
        (m.buildRequest "" .localhost [value, .string "u", .string "w"]).toOption.map
          fun r => r.url.query) = [some none, some (some "\x7d/w")] := by
  refine ⟨⟨_, rfl, ?_⟩, ⟨_, rfl, ?_⟩, ⟨_, rfl, ?_⟩, _, rfl, ?_, ?_⟩
  · decide +kernel
  · decide +kernel
  · decide +kernel
  · intro hapart
    exact hapart "a\x7bb" (by decide) "b" (by decide) (by decide)
  · decide +kernel

end ServiceMethod

end WebClient
