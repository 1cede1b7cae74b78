import Mathlib.Data.List.Forall2
import WebClient.Proofs.Service.Confinement

/-!
# What resolving makes of encoded values

Where every name of a path stands for a segment of its own, a value that is encoded
comes out of resolving as one segment, and undoing the encoding gives the value back,
whatever is in it.  The names must be apart: in `{a{b}` the token of `b` is replaced
too.
-/

namespace WebClient

/-- Adding to the query leaves the path. -/
theorem Draft.pathText_appendQuery (items : List (String × Option String)) (u : Url) :
    (appendQuery items u).pathText = u.pathText := by
  unfold appendQuery
  split
  · rfl
  · dsimp only
    split
    · split <;> rfl
    · rfl

/-- A built method with a path has no URL parameter. -/
theorem MethodBuilder.Makes.url_not_mem {b : MethodBuilder} {m : ServiceMethod} (h : b.Makes m)
    (hpath : m.path.text.toList ≠ []) : Role.url ∉ m.roles := by
  intro hurl
  have hone : m.roles.count .url = 1 :=
    Nat.le_antisymm h.oneUrl (List.count_pos_iff.2 hurl)
  exact hpath (String.toList_eq_nil_iff.2 (h.urlOrPath.1 hone))

/-- What one argument contributes through the parameter of its place. -/
theorem ContributesAll.contributes_at {ps : List Parameter} {values : List Json.Value}
    {cs : List Contribution} (h : ContributesAll ps values cs) {i : Nat} {p : Parameter}
    {value : Json.Value} (hp : ps[i]? = some p) (hvalue : values[i]? = some value) :
    ∃ own, p.Contributes value own ∧ own ⊆ cs := by
  induction h generalizing i with
  | nil => cases hp
  | cons hfirst hrest ih =>
      cases i with
      | zero =>
          cases hp
          cases hvalue
          exact ⟨_, hfirst, List.subset_append_left _ _⟩
      | succ i =>
          obtain ⟨own, hown, hsubset⟩ := ih hp hvalue
          exact ⟨own, hown, List.subset_append_of_subset_right _ hsubset⟩

/-- The text that a path parameter takes from an argument stays in its place. -/
theorem ContributesAll.traverses_eq_false {ps : List Parameter} {values : List Json.Value}
    {cs : List Contribution} (h : ContributesAll ps values cs) {i : Nat} {name : String}
    {encoded : Bool} {c : StringConverter} {value : Json.Value} {text : String}
    (hp : ps[i]? = some (.path name encoded c)) (hvalue : values[i]? = some value)
    (htext : c.convert value = .ok text) : Parameter.traverses encoded text = false := by
  obtain ⟨own, hown, -⟩ := h.contributes_at hp hvalue
  cases hown with
  | path _ hconverted hstays =>
      obtain rfl := Except.ok.inj (hconverted.symm.trans htext)
      exact hstays

/-- No name of the path gets a text that is a dot segment. -/
theorem PathTexts.lookup_ne_dots {ps : List Parameter} {values : List Json.Value}
    {cs : List Contribution} {texts : List (String × String)}
    (htexts : PathTexts ps values cs texts) (hcs : ContributesAll ps values cs)
    (hnodup : (texts.map Prod.fst).Nodup) (name : String) :
    (texts.lookup name).getD "" ≠ "." ∧ (texts.lookup name).getD "" ≠ ".." := by
  by_cases hname : name ∈ texts.map Prod.fst
  · obtain ⟨⟨own, text⟩, hmem, rfl⟩ := List.mem_map.1 hname
    obtain ⟨i, c, value, hi, hvalue, htext⟩ := htexts.source _ hmem
    rw [lookup_eq_some_of_mem hnodup hmem]
    have hstays := hcs.traverses_eq_false hi hvalue htext
    simpa [Parameter.traverses, Parameter.isDotSegment] using hstays
  -- A name without a parameter would get the empty text, which is no dot segment either.
  · rw [lookup_eq_none_of_not_mem hname]
    decide

namespace ServiceMethod

/-- A call of a built method with a path resolves the path with the values put in. -/
theorem exists_join_of_buildRequest {b : MethodBuilder} {m : ServiceMethod} (h : b.Makes m)
    (hstandard : ∀ p ∈ m.parameters, p.isStandard = true) (hpath : m.path.text.toList ≠ [])
    {boundary : String} {base : Url} {arguments : List Json.Value} {r : Request}
    (hrequest : m.buildRequest boundary base arguments = .ok r) :
    ∃ cs joined, ContributesAll m.parameters arguments cs ∧
      base.join? (Template.replaceTokens m.path.text.toList (cs.filterMap Contribution.path?)) =
        .ok joined ∧
      r.url.server = joined.server ∧ r.url.pathText = joined.pathText := by
  obtain ⟨harity, draft, happly, hfinish⟩ := buildRequest_eq_ok.1 hrequest
  obtain ⟨cs, hcs, hextends⟩ := extends_of_applyAll hstandard harity happly
  obtain ⟨joined, hjoined, rfl⟩ := Draft.build_eq_ok.1 hfinish
  rw [resolveTarget_of_extends hcs hextends (h.url_not_mem hpath), Outcome.mapError_eq_ok,
    hextends.path] at hjoined
  exact ⟨cs, joined, hcs, hjoined, Draft.server_appendQuery _ _, Draft.pathText_appendQuery _ _⟩

end ServiceMethod

/-! ## Segments of templates -/

namespace Template

/-- The piece is a whole segment: letters, digits and some marks, but no dot, or the slot
of a name. -/
def Piece.IsSegment : Piece → Prop
  | .text s => s ≠ [] ∧ ∀ c ∈ s, Percent.isUnreserved c = true ∧ c ≠ '.'
  | .slot name => name ≠ [] ∧ '}' ∉ name

theorem Piece.IsSegment.isPlain {p : Piece} (h : p.IsSegment) : p.IsPlain := by
  cases p with
  | text s => exact fun hopen => absurd (h.2 _ hopen).1 (by decide)
  | slot name => exact h.2

/-- A segment of a URL is what a segment of a template becomes: the same text, or an
encoding of the text of the name. -/
def Piece.Carries (converted : String → String) : Piece → List Char → Prop
  | .text s, segment => segment = s
  | .slot name, segment =>
      Text.ofBytes (Percent.decode segment) = .ok (converted (String.ofList name))

/-- A segment of a template stays one when encoded texts that are no dot segments are put
in. -/
theorem Piece.IsSegment.staysSegment_fill {p : Piece} (h : p.IsSegment)
    (converted : String → String)
    (hdots : ∀ name, converted name ≠ "." ∧ converted name ≠ "..") :
    Url.StaysSegment (p.fill fun name => (Percent.segment (converted name)).toList) := by
  cases p with
  | text s =>
      exact Url.staysSegment_of_isUnreserved h.2
  | slot name =>
      have hfill : Piece.fill (fun name => (Percent.segment (converted name)).toList)
          (.slot name) = (Percent.segment (converted (String.ofList name))).toList := by
        simp [Piece.fill, h.1]
      rw [hfill]
      refine ⟨fun c hc => ⟨Percent.isPathChar_of_mem_segment hc, ?_, ?_⟩,
        UrlPath.not_isDots_segment (hdots _).1 (hdots _).2⟩
      · rintro rfl
        exact Percent.not_mem_segment rfl (by decide) hc
      · rintro rfl
        exact Percent.not_mem_segment rfl (by decide) hc

theorem Piece.IsSegment.carries_fill {p : Piece} (h : p.IsSegment)
    (converted : String → String) :
    p.Carries converted (p.fill fun name => (Percent.segment (converted name)).toList) := by
  cases p with
  | text s => rfl
  | slot name =>
      have hfill : Piece.fill (fun name => (Percent.segment (converted name)).toList)
          (.slot name) = (Percent.segment (converted (String.ofList name))).toList := by
        simp [Piece.fill, h.1]
      rw [hfill, Carries, Percent.decode_segment]
      exact Text.ofBytes_bytes _

end Template

namespace ServiceMethod

open Template (Piece)

/-- The request of a call keeps the server of the base and has the segments of the
template, with each name replaced by an encoding of the text of its argument. -/
theorem segments_of_buildRequest {b : MethodBuilder} {m : ServiceMethod}
    (hbuild : b.build = .ok m) (hstandard : ∀ p ∈ m.parameters, p.isStandard = true)
    (hpath : ∀ p ∈ m.parameters, p.EncodesPath) {first : List Char} {rest : List Piece}
    (htemplate : m.path.text.toList = (.text first :: rest).flatMap fun p => '/' :: p.render)
    (hsegments : ∀ p ∈ .text first :: rest, p.IsSegment) (hapart : m.path.NamesApart)
    {base : Url} (hscheme : base.scheme = "http" ∨ base.scheme = "https") {boundary : String}
    {arguments : List Json.Value} {r : Request}
    (h : m.buildRequest boundary base arguments = .ok r) :
    ∃ converted : String → String,
      (∀ name ∈ m.path.placeholders,
        ∃! i : Nat, ∃ c, m.parameters[i]? = some (.path name false c)) ∧
      (∀ (i : Nat) (name : String) (c : StringConverter) (value : Json.Value),
        m.parameters[i]? = some (.path name false c) → arguments[i]? = some value →
          c.convert value = .ok (converted name)) ∧
      r.url.server = base.server ∧
      List.Forall₂ (Piece.Carries converted) (.text first :: rest) r.url.segments := by
  have hmakes := MethodBuilder.build_eq_ok.1 hbuild
  have hne : m.path.text.toList ≠ [] := htemplate ▸ List.cons_ne_nil _ _
  obtain ⟨cs, joined, hcs, hjoined, hserver, hpathText⟩ :=
    exists_join_of_buildRequest hmakes hstandard hne h
  obtain ⟨texts, htexts⟩ := hcs.pathTexts hpath
  have hnodup : (texts.map Prod.fst).Nodup := by
    rw [htexts.names, ← pathNames_eq]
    exact hmakes.names_nodup
  obtain ⟨hfirst, -⟩ := hsegments _ List.mem_cons_self
  obtain ⟨c, more, rfl⟩ := List.exists_cons_of_ne_nil hfirst
  rw [replaceTokens_of_texts hmakes hapart htexts,
    Template.substitute_segments _ htemplate fun p hp => (hsegments p hp).isPlain,
    ← List.flatMap_map] at hjoined
  have hstays : ∀ w ∈ (Piece.text (c :: more) :: rest).map
      (Piece.fill fun name => (Percent.segment ((texts.lookup name).getD "")).toList),
      Url.StaysSegment w := by
    intro w hw
    obtain ⟨p, hp, rfl⟩ := List.mem_map.1 hw
    exact (hsegments p hp).staysSegment_fill _ (htexts.lookup_ne_dots hcs hnodup)
  obtain ⟨hkept, hwritten⟩ := Url.segments_of_join? (Url.kind_eq_special hscheme) hstays hjoined
  refine ⟨fun name => (texts.lookup name).getD "",
    fun name hname => existsUnique_path hmakes hstandard hpath hname,
    fun i name c value hi hvalue => ?_, hserver.trans hkept, ?_⟩
  · obtain ⟨text, htext, hmem⟩ := htexts.converted i name c value hi hvalue
    simp only [htext, lookup_eq_some_of_mem hnodup hmem, Option.getD_some]
  · rw [Url.segments, hpathText, ← Url.segments, hwritten]
    exact List.forall₂_map_right_iff.2
      (List.forall₂_same.2 fun p hp => (hsegments p hp).carries_fill _)

theorem segments_of_buildRequest_getting :
    ∃ m r, (MethodBuilder.getting "/s/{a}/{b}"
        [.path "a" false .scalar, .path "b" false .scalar]).build = .ok m ∧
      m.buildRequest "" .localhost [.string "x/..%", .string ""] = .ok r ∧
      r.url.server = Url.localhost.server ∧
      ∃ converted : String → String, converted "a" = "x/..%" ∧ converted "b" = "" ∧
        List.Forall₂ (Piece.Carries converted)
          [.text ['s'], .slot ['a'], .slot ['b']] r.url.segments := by
  have hrun : ∃ m r, (MethodBuilder.getting "/s/{a}/{b}"
        [.path "a" false .scalar, .path "b" false .scalar]).build = .ok m ∧
      m.parameters = [.path "a" false .scalar, .path "b" false .scalar] ∧
      m.path = ⟨"/s/{a}/{b}"⟩ ∧
      m.buildRequest "" .localhost [.string "x/..%", .string ""] = .ok r :=
    ⟨_, _, rfl, rfl, rfl, rfl⟩
  obtain ⟨m, r, hbuild, hparameters, htemplate, hrequest⟩ := hrun
  have hstandard : ∀ p ∈ m.parameters, p.isStandard = true := by
    simp [hparameters, Parameter.isStandard]
  have hpath : ∀ p ∈ m.parameters, p.EncodesPath := by
    simp [hparameters, Parameter.EncodesPath]
  have htext : m.path.text.toList =
      [Piece.text ['s'], .slot ['a'], .slot ['b']].flatMap fun p => '/' :: p.render := by
    rw [htemplate]
    rfl
  have hsegments : ∀ p ∈ [Piece.text ['s'], .slot ['a'], .slot ['b']], p.IsSegment :=
    List.forall_mem_cons.2 ⟨⟨by decide, List.forall_mem_singleton.2 (by decide)⟩,
      List.forall_mem_cons.2 ⟨⟨by decide, by decide⟩,
        List.forall_mem_singleton.2 ⟨by decide, by decide⟩⟩⟩
  have hapart : m.path.NamesApart := by
    rw [htemplate]
    exact Template.namesApart_of_not_mem (by decide)
  obtain ⟨converted, -, hconverted, hserver, hcarries⟩ :=
    segments_of_buildRequest hbuild hstandard hpath htext hsegments hapart (Or.inl rfl) hrequest
  have ha := hconverted 0 "a" .scalar (.string "x/..%") (by rw [hparameters]; rfl) rfl
  have hb := hconverted 1 "b" .scalar (.string "") (by rw [hparameters]; rfl) rfl
  exact ⟨m, r, hbuild, hrequest, hserver, converted, (Except.ok.inj ha).symm,
    (Except.ok.inj hb).symm, hcarries⟩

/-- A name that ends with the token of another one loses this end to the other value. -/
theorem segments_of_nested_name :
    ∃ m, (MethodBuilder.getting "/s/\x7ba\x7bb\x7d/{b}"
        [.path "b" false .scalar, .path "a\x7bb" false .scalar]).build = .ok m ∧
      m.path.placeholders = ["a\x7bb", "b"] ∧
      ((m.buildRequest "" .localhost [.string "x", .string "y"]).toOption.map fun r =>
        r.url.segments.map String.ofList) = some ["s", "%7Bax", "x"] := by
  refine ⟨_, rfl, ?_, ?_⟩ <;> decide +kernel

end ServiceMethod

end WebClient
