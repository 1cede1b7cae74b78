import WebClient.Proofs.Service.PathResolution

/-!
# What resolving makes of values that are encoded already

A value that is encoded already is put into the path as it is, and resolving cuts it
into segments of its own.  The check for dot segments looks for `.` and `..` between
slashes, but resolving knows more spellings of both: it takes a backslash for a slash
and `%2e` for a dot, drops tabs and line breaks, and stops at a query or a fragment.  The
segments of the template stay as long as, in this reading, the value does not climb out
of its place.
-/

namespace WebClient

open Reference (codedSegments)
open UrlPath (climbsOut)

/-! ## The piece of one parameter -/

/-- An argument that is encoded already is written as it is. -/
theorem ContributesAll.mem_paths {ps : List Parameter} {values : List Json.Value}
    {cs : List Contribution} (h : ContributesAll ps values cs) {i : Nat} {name : String}
    {c : StringConverter} {value : Json.Value} (hp : ps[i]? = some (.path name true c))
    (hvalue : values[i]? = some value) :
    ∃ text, c.convert value = .ok text ∧ (name, text) ∈ cs.filterMap Contribution.path? := by
  obtain ⟨own, hown, hsubset⟩ := h.contributes_at hp hvalue
  cases hown with
  | @path _ _ _ _ text _ htext _ =>
      exact ⟨text, htext, List.mem_filterMap.2 ⟨_, hsubset List.mem_cons_self, rfl⟩⟩

/-! ## Templates that end with a name -/

namespace Template

theorem eq_of_mem_placeholders {t : Template} {front : List Char} {name : String}
    (ht : t.text.toList = front ++ token name) (hopen : '{' ∉ front)
    (hclose : '}' ∉ name.toList) {other : String} (hother : other ∈ t.placeholders) :
    other = name := by
  have hpieces : pieces (token name) = [.slot name.toList] := by
    have hcollect := collect_append hclose [] []
    rwa [List.reverse_nil, List.nil_append] at hcollect
  have hscan := (mem_placeholders.1 hother).1
  rw [← slots_pieces, ht, pieces_append hopen, hpieces, List.filterMap_append,
    List.filterMap_map] at hscan
  have hname : other.toList = name.toList := by simpa [Piece.slot?] using hscan
  exact String.toList_injective hname

theorem replaceTokens_of_end {front : List Char} (hopen : '{' ∉ front) (name text : String) :
    replaceTokens (front ++ token name) [(name, text)] = front ++ text.toList := by
  have hcopy : Text.replaceAll (token name) text.toList (front ++ token name) =
      front ++ Text.replaceAll (token name) text.toList (token name) :=
    Text.replaceAll_append_of_not_mem hopen _
  have htoken : Text.replaceAll (token name) text.toList (token name ++ []) =
      text.toList ++ Text.replaceAll (token name) text.toList [] :=
    Text.replaceAll_token_append (List.cons_ne_nil _ _) []
  rw [List.append_nil] at htoken
  rw [replaceTokens_cons, replaceTokens_nil, hcopy, htoken]
  exact congrArg (front ++ ·) (List.append_nil _)

end Template

theorem eq_singleton_of_mem {bs : List (String × String)} (hnodup : (bs.map Prod.fst).Nodup)
    {name text : String} (hall : ∀ b ∈ bs, b.1 = name) (hmem : (name, text) ∈ bs) :
    bs = [(name, text)] := by
  cases bs with
  | nil => exact absurd hmem List.not_mem_nil
  | cons first bs =>
      have hnil : bs = [] := by
        refine List.eq_nil_iff_forall_not_mem.2 fun b hb => ?_
        rw [List.map_cons, List.nodup_cons] at hnodup
        refine hnodup.1 (List.mem_map.2 ⟨b, hb, ?_⟩)
        rw [hall b (List.mem_cons_of_mem _ hb), hall first List.mem_cons_self]
      subst hnil
      rw [List.mem_singleton.1 hmem]

namespace ServiceMethod

/-- A call whose path ends with a name puts the text of its argument behind the rest of the
path. -/
theorem exists_join_of_end {b : MethodBuilder} {m : ServiceMethod} (h : b.Makes m)
    (hstandard : ∀ p ∈ m.parameters, p.isStandard = true) {front : List Char} {name : String}
    (htemplate : m.path.text.toList = front ++ Template.token name) (hopen : '{' ∉ front)
    {i : Nat} {c : StringConverter} (hparameter : m.parameters[i]? = some (.path name true c))
    {boundary : String} {base : Url} {arguments : List Json.Value} {r : Request}
    (hrequest : m.buildRequest boundary base arguments = .ok r) :
    ∃ value text joined, arguments[i]? = some value ∧ c.convert value = .ok text ∧
      Parameter.traverses true text = false ∧ base.join? (front ++ text.toList) = .ok joined ∧
      r.url.pathText = joined.pathText := by
  have hne : m.path.text.toList ≠ [] := by
    rw [htemplate]
    exact List.append_ne_nil_of_right_ne_nil _ (List.cons_ne_nil _ _)
  obtain ⟨cs, joined, hcs, hjoined, -, hpathText⟩ :=
    exists_join_of_buildRequest h hstandard hne hrequest
  obtain ⟨hi, -⟩ := List.getElem?_eq_some_iff.1 hparameter
  obtain ⟨harity, -⟩ := buildRequest_eq_ok.1 hrequest
  obtain ⟨value, hvalue⟩ : ∃ value, arguments[i]? = some value :=
    ⟨_, List.getElem?_eq_getElem (harity ▸ hi)⟩
  obtain ⟨text, htext, hmem⟩ := hcs.mem_paths hparameter hvalue
  have hnames : (cs.filterMap Contribution.path?).map Prod.fst = m.pathNames := by
    rw [hcs.map_fst_paths, pathNames_eq]
  have hplaceholder {other : String} (hother : other ∈ m.pathNames) :
      other ∈ m.path.placeholders := (h.names_placeholders other).1 hother
  have hname : name ∈ m.pathNames := hnames ▸ List.mem_map.2 ⟨_, hmem, rfl⟩
  have hclose := (Template.name_of_mem_placeholders (hplaceholder hname)).2
  -- The template has no other name, so nothing else is written into it.
  have hone : cs.filterMap Contribution.path? = [(name, text)] := by
    refine eq_singleton_of_mem (hnames ▸ h.names_nodup) (fun binding hbinding => ?_) hmem
    have hown : binding.1 ∈ m.pathNames := hnames ▸ List.mem_map.2 ⟨_, hbinding, rfl⟩
    exact Template.eq_of_mem_placeholders htemplate hopen hclose (hplaceholder hown)
  rw [hone, htemplate, Template.replaceTokens_of_end hopen] at hjoined
  exact ⟨value, text, joined, hvalue, htext, hcs.traverses_eq_false hparameter hvalue htext,
    hjoined, hpathText⟩

end ServiceMethod

/-- The check for dot segments is enough for a text without the characters that resolving
reads in another way. -/
theorem climbsOut_of_traverses {text : String} (hstays : Parameter.traverses true text = false)
    (h : ∀ x ∈ text.toList, Percent.isPathChar x = true ∧ x ≠ '%' ∧ x ≠ '\\') :
    climbsOut 0 (codedSegments text.toList) = false := by
  rw [Reference.codedSegments_eq_splitAll fun x hx => ⟨(h x hx).1, (h x hx).2.2⟩]
  refine UrlPath.climbsOut_eq_false (fun w hw hdots => ?_) 0
  have hpercent : '%' ∉ w := fun hmem => (h _ (Text.of_mem_splitAll hw hmem).1).2.1 rfl
  rw [Parameter.traverses, if_pos rfl, List.any_eq_false] at hstays
  refine hstays w hw ?_
  rcases UrlPath.eq_of_isDots hpercent hdots with rfl | rfl <;> decide

namespace ServiceMethod

/-- The segments of a template in front of an encoded value stay when the value does not
climb out of its place, as it never does when it has no character that a path escapes, no
percent sign and no backslash. -/
theorem prefix_of_buildRequest {b : MethodBuilder} {m : ServiceMethod}
    (hbuild : b.build = .ok m) (hstandard : ∀ p ∈ m.parameters, p.isStandard = true)
    {literals : List (List Char)} (hliterals : literals ≠ [])
    (hplain : ∀ w ∈ literals, w ≠ [] ∧ ∀ c ∈ w, c.isAlphanum = true) {name : String}
    (htemplate : m.path.text.toList =
      literals.flatMap ('/' :: ·) ++ '/' :: Template.token name)
    {i : Nat} {c : StringConverter} (hparameter : m.parameters[i]? = some (.path name true c))
    {base : Url} (hscheme : base.scheme = "http" ∨ base.scheme = "https") {boundary : String}
    {arguments : List Json.Value} {r : Request}
    (h : m.buildRequest boundary base arguments = .ok r) :
    ∃ value text, arguments[i]? = some value ∧ c.convert value = .ok text ∧
      (climbsOut 0 (codedSegments text.toList) = false →
        literals.flatMap ('/' :: ·) ++ ['/'] <+: r.url.pathText) ∧
      ((∀ x ∈ text.toList, Percent.isPathChar x = true ∧ x ≠ '%' ∧ x ≠ '\\') →
        literals.flatMap ('/' :: ·) ++ ['/'] <+: r.url.pathText) := by
  have hmakes := MethodBuilder.build_eq_ok.1 hbuild
  have hfront : m.path.text.toList =
      (literals.flatMap ('/' :: ·) ++ ['/']) ++ Template.token name := by
    rw [htemplate, List.append_assoc, List.singleton_append]
  have hopen : '{' ∉ literals.flatMap ('/' :: ·) ++ ['/'] := by
    rw [← UrlPath.cons_flatMap_slash]
    intro hmem
    rcases List.mem_cons.1 hmem with hslash | hmem
    · exact absurd hslash (by decide)
    · obtain ⟨w, hw, hbrace⟩ := List.mem_flatMap.1 hmem
      rcases List.mem_append.1 hbrace with hbrace | hslash
      · exact absurd ((hplain w hw).2 _ hbrace) (by decide)
      · exact absurd (List.mem_singleton.1 hslash) (by decide)
  obtain ⟨value, text, joined, hvalue, htext, hchecked, hjoined, hpathText⟩ :=
    exists_join_of_end hmakes hstandard hfront hopen hparameter h
  rw [List.append_assoc, List.singleton_append] at hjoined
  have hprefix (hstays : climbsOut 0 (codedSegments text.toList) = false) :
      literals.flatMap ('/' :: ·) ++ ['/'] <+: r.url.pathText :=
    hpathText ▸ Url.prefix_of_join? (Url.kind_eq_special hscheme) hliterals
      (fun w hw => ⟨(hplain w hw).1, Url.staysSegment_of_isAlphanum (hplain w hw).2⟩) hjoined hstays
  exact ⟨value, text, hvalue, htext, hprefix,
    fun hsafe => hprefix (climbsOut_of_traverses hchecked hsafe)⟩

theorem prefix_of_buildRequest_getting :
    ∃ m r, (MethodBuilder.getting "/files/{name}" [.path "name" true .scalar]).build = .ok m ∧
      m.buildRequest "" .localhost [.string "x/%2e%2E/y"] = .ok r ∧
      climbsOut 0 (codedSegments "x/%2e%2E/y".toList) = false ∧
      "/files/".toList <+: r.url.pathText := by
  have hrun : ∃ m r,
      (MethodBuilder.getting "/files/{name}" [.path "name" true .scalar]).build = .ok m ∧
      m.parameters = [.path "name" true .scalar] ∧ m.path = ⟨"/files/{name}"⟩ ∧
      m.buildRequest "" .localhost [.string "x/%2e%2E/y"] = .ok r :=
    ⟨_, _, rfl, rfl, rfl, rfl⟩
  obtain ⟨m, r, hbuild, hparameters, htemplate, hrequest⟩ := hrun
  have hstandard : ∀ p ∈ m.parameters, p.isStandard = true := by
    simp [hparameters, Parameter.isStandard]
  have hplain : ∀ w ∈ ["files".toList], w ≠ [] ∧ ∀ c ∈ w, c.isAlphanum = true :=
    List.forall_mem_singleton.2 ⟨by decide, List.all_eq_true.1 rfl⟩
  have htext : m.path.text.toList =
      ["files".toList].flatMap ('/' :: ·) ++ '/' :: Template.token "name" := by
    rw [htemplate]
    rfl
  have hparameter : m.parameters[0]? = some (.path "name" true .scalar) := by
    rw [hparameters]
    rfl
  obtain ⟨value, text, hvalue, hconverted, hkeeps, -⟩ :=
    prefix_of_buildRequest hbuild hstandard (List.cons_ne_nil _ _) hplain htext hparameter
      (Or.inl rfl) hrequest
  cases hvalue
  cases hconverted
  have hstays : climbsOut 0 (codedSegments "x/%2e%2E/y".toList) = false := by decide +kernel
  exact ⟨m, r, hbuild, hrequest, hstays, hkeeps hstays⟩

/-- Escaped dots pass the check, and resolving takes the segment of the template back. -/
theorem path_of_escaped_dots :
    ∃ m, (MethodBuilder.getting "/files/{name}" [.path "name" true .scalar]).build = .ok m ∧
      ((m.buildRequest "" .localhost [.string "%2e%2e/admin"]).toOption.map fun r =>
        String.ofList r.url.pathText) = some "/admin" := by
  refine ⟨_, rfl, ?_⟩
  decide +kernel

end ServiceMethod

end WebClient
