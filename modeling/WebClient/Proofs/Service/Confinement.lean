import WebClient.Proofs.Service.PathSubstitution
import WebClient.Proofs.Url.Resolution

/-!
# Which server a call reaches

The path of a call is put together as a text before it is resolved, so what stands
at its front decides which server is called.  An encoded value cannot bring a slash
with it, but an empty one lets the slash behind its place move to the front: the
path then names a server itself, which the next value can choose.
-/

namespace WebClient

/-- Adding to the query stays on the server. -/
theorem Draft.server_appendQuery (items : List (String × Option String)) (u : Url) :
    (appendQuery items u).server = u.server := by
  unfold appendQuery
  split
  · rfl
  · dsimp only
    split
    · split <;> rfl
    · rfl

/-! ## The front of a path -/

namespace Template

open Reference (namesAuthority clean)

/-- The first character of an encoded value that is not empty is no slash and is not
dropped. -/
theorem head_segment {text : String} (htext : text ≠ "") :
    ∃ c more, (Percent.segment text).toList = c :: more ∧ UrlPath.isLineBlank c = false ∧
      c ≠ '/' ∧ c ≠ '\\' := by
  cases hsegment : (Percent.segment text).toList with
  | nil => exact absurd (Percent.segment_eq_nil.1 hsegment) htext
  | cons c more =>
      have hmem : c ∈ (Percent.segment text).toList := hsegment ▸ List.mem_cons_self
      have hnot {x : Char} (hx : Percent.isSegmentChar x = false) (hpercent : x ≠ '%') :
          c ≠ x := by
        rintro rfl
        exact Percent.not_mem_segment hx hpercent hmem
      refine ⟨c, more, rfl, ?_, hnot rfl (by decide), hnot rfl (by decide)⟩
      have htab : c ≠ '\t' := hnot rfl (by decide)
      have hfeed : c ≠ '\n' := hnot rfl (by decide)
      have hreturn : c ≠ '\r' := hnot rfl (by decide)
      simp [UrlPath.isLineBlank, htab, hfeed, hreturn]

theorem replaceAll_token_slash (name : String) (value s : List Char) :
    Text.replaceAll (token name) value ('/' :: s) =
      '/' :: Text.replaceAll (token name) value s :=
  Text.replaceAll_cons rfl

theorem replaceTokens_slash (bindings : List (String × String)) (s : List Char) :
    replaceTokens ('/' :: s) bindings = '/' :: replaceTokens s bindings := by
  induction bindings generalizing s with
  | nil => rfl
  | cons b bindings ih => rw [replaceTokens_cons, replaceTokens_cons, replaceAll_token_slash, ih]

/-- A path with encoded values that are not empty names a server only if it does so
without them. -/
theorem namesAuthority_of_replaceTokens {texts : List (String × String)}
    (htexts : ∀ binding ∈ texts, binding.2 ≠ "") {s : List Char}
    (h : namesAuthority (replaceTokens ('/' :: s)
      (texts.map fun (name, text) => (name, Percent.segment text))) = true) :
    namesAuthority ('/' :: s) = true := by
  -- Replacing one name at a time, the first character behind the slash either stays
  -- or becomes one that an encoded value starts with, which is no slash.
  induction texts generalizing s with
  | nil => exact h
  | cons first texts ih =>
      obtain ⟨name, text⟩ := first
      have hrest := fun binding hb => htexts binding (List.mem_cons_of_mem _ hb)
      rw [List.map_cons, replaceTokens_cons, replaceAll_token_slash] at h
      obtain ⟨d, hd, hhead⟩ := (Reference.namesAuthority_slash _).1 (ih hrest h)
      obtain ⟨c, more, hvalue, hkept, hslash, hback⟩ :=
        head_segment (htexts _ List.mem_cons_self)
      dsimp only at hhead hvalue
      rw [hvalue] at hhead
      have hv : (!UrlPath.isLineBlank c) = true := by rw [hkept]; rfl
      rcases Text.head?_filter_replaceAll (fun c => !UrlPath.isLineBlank c) hv s with
        hsame | hnew
      · rw [Reference.namesAuthority_slash]
        exact ⟨d, hd, hsame ▸ hhead⟩
      · obtain rfl : c = d := Option.some.inj (hnew.symm.trans hhead)
        rcases hd with rfl | rfl
        · exact absurd rfl hslash
        · exact absurd rfl hback

end Template

/-! ## Calls -/

namespace ServiceMethod

open Reference (ofText namesAuthority authorityText)

/-- A call of a method without a URL parameter reaches the server of the base unless
its path names one; the path names a server only if it does so without any values or
some value of it is empty. -/
theorem server_of_buildRequest {m : ServiceMethod}
    (hstandard : ∀ p ∈ m.parameters, p.isStandard = true)
    (hpath : ∀ p ∈ m.parameters, p.EncodesPath) (hurl : Role.url ∉ m.roles)
    {rest : List Char} (hslash : m.path.text.toList = '/' :: rest) {base : Url}
    (hscheme : base.scheme = "http" ∨ base.scheme = "https") {boundary : String}
    {arguments : List Json.Value} {r : Request}
    (h : m.buildRequest boundary base arguments = .ok r) :
    ∃ draft, applyAll m.parameters arguments (m.startDraft boundary base) = .ok draft ∧
      (namesAuthority draft.path = false → r.url.server = base.server) ∧
      (namesAuthority draft.path = true →
        ∃ u, Url.readAuthority base.scheme (ofText draft.path)
          (authorityText (ofText draft.path).main) = .ok u ∧ r.url.server = u.server) ∧
      (namesAuthority draft.path = true → namesAuthority m.path.text.toList = true ∨
        ∃ (i : Nat) (name : String) (c : StringConverter) (value : Json.Value),
          m.parameters[i]? = some (.path name false c) ∧ arguments[i]? = some value ∧
            c.convert value = .ok "") := by
  have hkind : base.kind = .special := by
    rcases hscheme with hscheme | hscheme <;> rw [Url.kind, hscheme] <;> rfl
  obtain ⟨harity, draft, happly, hfinish⟩ := buildRequest_eq_ok.1 h
  obtain ⟨cs, hcs, hextends⟩ := extends_of_applyAll hstandard harity happly
  obtain ⟨texts, htexts⟩ := hcs.pathTexts hpath
  obtain ⟨joined, hjoined, hr⟩ := Draft.build_eq_ok.1 hfinish
  rw [resolveTarget_of_extends hcs hextends hurl, Outcome.mapError_eq_ok] at hjoined
  subst hr
  have hfront : draft.path = Template.replaceTokens ('/' :: rest)
      (texts.map fun (name, text) => (name, Percent.segment text)) := by
    rw [hextends.path, htexts.written, ← hslash]
    rfl
  have hdraft := hfront.trans (Template.replaceTokens_slash _ _)
  rw [hdraft] at hjoined
  refine ⟨draft, happly, fun hnames => ?_, fun hnames => ?_, fun hnames => ?_⟩
  · rw [hdraft] at hnames
    exact (Draft.server_appendQuery _ _).trans (Url.server_of_join? hkind hnames hjoined)
  · rw [hdraft] at hnames ⊢
    exact ⟨joined, Url.join?_of_namesAuthority hkind hnames hjoined,
      Draft.server_appendQuery _ _⟩
  · -- Only a value that is empty can let a slash of the path move to the front.
    by_cases hempty : ∃ binding ∈ texts, binding.2 = ""
    · obtain ⟨⟨name, text⟩, hmem, rfl⟩ := hempty
      obtain ⟨i, c, value, hi, hvalue, htext⟩ := htexts.source _ hmem
      exact Or.inr ⟨i, name, c, value, hi, hvalue, htext⟩
    · left
      rw [hfront] at hnames
      rw [hslash]
      exact Template.namesAuthority_of_replaceTokens
        (fun binding hmem heq => hempty ⟨binding, hmem, heq⟩) hnames

theorem server_of_buildRequest_getting :
    ∃ m r, (MethodBuilder.getting "/{a}/{b}"
        [.path "a" false .scalar, .path "b" false .scalar]).build = .ok m ∧
      (∀ p ∈ m.parameters, p.isStandard = true) ∧ (∀ p ∈ m.parameters, p.EncodesPath) ∧
      Role.url ∉ m.roles ∧ m.path.text.toList = '/' :: "{a}/{b}".toList ∧
      (Url.localhost.scheme = "http" ∨ Url.localhost.scheme = "https") ∧
      m.buildRequest "" .localhost [.string "x", .string "//evil.com"] = .ok r ∧
      r.url.server = Url.localhost.server := by
  have hrun : ∃ m r draft, (MethodBuilder.getting "/{a}/{b}"
        [.path "a" false .scalar, .path "b" false .scalar]).build = .ok m ∧
      m.parameters = [.path "a" false .scalar, .path "b" false .scalar] ∧
      m.path.text.toList = '/' :: "{a}/{b}".toList ∧
      m.buildRequest "" .localhost [.string "x", .string "//evil.com"] = .ok r ∧
      applyAll m.parameters [.string "x", .string "//evil.com"] (m.startDraft "" .localhost) =
        .ok draft ∧
      namesAuthority draft.path = false :=
    ⟨_, _, _, rfl, rfl, rfl, rfl, rfl, rfl⟩
  obtain ⟨m, r, draft, hbuild, hparameters, hslash, hrequest, happly, hnames⟩ := hrun
  have hstandard : ∀ p ∈ m.parameters, p.isStandard = true := by
    simp [hparameters, Parameter.isStandard]
  have hpath : ∀ p ∈ m.parameters, p.EncodesPath := by
    simp [hparameters, Parameter.EncodesPath]
  have hurl : Role.url ∉ m.roles := by
    simp [roles, hparameters, Parameter.role]
  have hscheme : Url.localhost.scheme = "http" ∨ Url.localhost.scheme = "https" := Or.inl rfl
  obtain ⟨other, hother, hkeeps, -⟩ :=
    server_of_buildRequest hstandard hpath hurl hslash hscheme hrequest
  obtain rfl : draft = other := Except.ok.inj (happly.symm.trans hother)
  exact ⟨m, r, hbuild, hstandard, hpath, hurl, hslash, hscheme, hrequest, hkeeps hnames⟩

/-- An empty value in front of a slash lets the next value name the server. -/
theorem server_of_empty_value :
    ∃ m, (MethodBuilder.getting "/{a}/{b}"
        [.path "a" false .scalar, .path "b" false .scalar]).build = .ok m ∧
      ((m.buildRequest "" .localhost [.string "", .string "evil.com"]).toOption.map fun r =>
        r.url.server) = some ("http", "", "", some (.named "evil.com"), none) ∧
      Url.localhost.server = ("http", "", "", some (.named "localhost"), none) := by
  refine ⟨_, rfl, ?_, rfl⟩
  decide +kernel

end ServiceMethod

end WebClient
