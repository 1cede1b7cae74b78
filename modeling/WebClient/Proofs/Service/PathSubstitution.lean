import WebClient.Proofs.Percent.Alphabet
import WebClient.Proofs.Service.Building
import WebClient.Proofs.Service.Contribution

/-!
# The path of a call

A built method has one path parameter for each name of its path, and a parameter
that encodes its value never writes a brace.  So the draft of a call ends up with
the path in which every name is replaced by its own value, although it replaces
one name after the other in a text that holds the values already written.
-/

namespace WebClient

/-- The values that arguments give the names of the path, in the order of the
parameters. -/
structure PathTexts (ps : List Parameter) (values : List Json.Value)
    (cs : List Contribution) (texts : List (String × String)) : Prop where
  written : cs.filterMap Contribution.path? =
    texts.map fun (name, text) => (name, Percent.segment text)
  names : texts.map Prod.fst = ps.filterMap fun p => p.role.pathName?
  converted : ∀ (i : Nat) (name : String) (c : StringConverter) (value : Json.Value),
    ps[i]? = some (.path name false c) → values[i]? = some value →
      ∃ text, c.convert value = .ok text ∧ (name, text) ∈ texts
  source : ∀ binding ∈ texts, ∃ (i : Nat) (c : StringConverter) (value : Json.Value),
    ps[i]? = some (.path binding.1 false c) ∧ values[i]? = some value ∧
      c.convert value = .ok binding.2

namespace Parameter

/-- The parameter encodes what it puts into the path. -/
def EncodesPath : Parameter → Prop
  | .path _ encoded _ => encoded = false
  | _ => True

/-- A parameter writes the name of the path that it stands for. -/
theorem Contributes.map_fst_paths {p : Parameter} {value : Json.Value} {cs : List Contribution}
    (h : p.Contributes value cs) :
    (cs.filterMap Contribution.path?).map Prod.fst = (p.role.pathName?).toList := by
  cases h with
  | path => rfl
  | _ => simp [List.filterMap_map, Function.comp_def, role, Role.pathName?]

/-- What one argument gives the names of the path. -/
theorem Contributes.pathTexts {p : Parameter} {value : Json.Value} {cs : List Contribution}
    (h : p.Contributes value cs) (hp : p.EncodesPath) :
    ∃ texts, PathTexts [p] [value] cs texts := by
  -- A parameter of any other role writes nothing into the path.
  have hother (hname : p.role.pathName? = none)
      (hcs : cs.filterMap Contribution.path? = []) : PathTexts [p] [value] cs [] := by
    refine ⟨hcs, by simp [hname], fun i name c value' hi hvalue => ?_, fun _ hmem => ?_⟩
    · cases i with
      | zero =>
          cases hi
          cases hname
      | succ i => cases hi
    · exact absurd hmem List.not_mem_nil
  cases h with
  | @path name encoded c value text hvalue htext hstays =>
      obtain rfl : encoded = false := hp
      refine ⟨[(name, text)], rfl, rfl, fun i name' c' value' hi hvalue' => ?_,
        fun binding hmem => ?_⟩
      · cases i with
        | zero =>
            cases hi
            cases hvalue'
            exact ⟨text, htext, List.mem_singleton.2 rfl⟩
        | succ i => cases hi
      · rw [List.mem_singleton.1 hmem]
        exact ⟨0, c, value, rfl, rfl, htext⟩
  | _ => exact ⟨[], hother rfl (by simp [List.filterMap_map, Function.comp_def])⟩

end Parameter

/-- The names that are written are those that the parameters stand for. -/
theorem ContributesAll.map_fst_paths {ps : List Parameter} {values : List Json.Value}
    {cs : List Contribution} (h : ContributesAll ps values cs) :
    (cs.filterMap Contribution.path?).map Prod.fst = ps.filterMap fun p => p.role.pathName? := by
  induction h with
  | nil => rfl
  | @cons p _ _ _ _ _ hfirst hrest ih =>
      rw [List.filterMap_append, List.map_append, hfirst.map_fst_paths, ih]
      cases hname : p.role.pathName? <;> simp [hname]

theorem ContributesAll.pathTexts {ps : List Parameter} {values : List Json.Value}
    {cs : List Contribution} (h : ContributesAll ps values cs)
    (hps : ∀ p ∈ ps, p.EncodesPath) : ∃ texts, PathTexts ps values cs texts := by
  induction h with
  | nil =>
      refine ⟨[], rfl, rfl, fun i _ _ _ hi => ?_, fun _ hmem => ?_⟩
      · cases hi
      · cases hmem
  | cons hfirst hrest ih =>
      obtain ⟨texts, hwritten, hnames, hconverted, hsource⟩ :=
        hfirst.pathTexts (hps _ List.mem_cons_self)
      obtain ⟨more, hmoreWritten, hmoreNames, hmoreConverted, hmoreSource⟩ :=
        ih fun p hp => hps p (List.mem_cons_of_mem _ hp)
      refine ⟨texts ++ more, ?_, ?_, fun i name c value hi hvalue => ?_,
        fun binding hmem => ?_⟩
      · rw [List.filterMap_append, List.map_append, hwritten, hmoreWritten]
      · rw [List.map_append, hnames, hmoreNames, ← List.filterMap_append]
        rfl
      · cases i with
        | zero =>
            obtain ⟨text, htext, hmem⟩ := hconverted 0 name c value hi hvalue
            exact ⟨text, htext, List.mem_append_left _ hmem⟩
        | succ i =>
            obtain ⟨text, htext, hmem⟩ := hmoreConverted i name c value hi hvalue
            exact ⟨text, htext, List.mem_append_right _ hmem⟩
      · rcases List.mem_append.1 hmem with hmem | hmem
        · obtain ⟨i, c, value, hi, hvalue, htext⟩ := hsource binding hmem
          cases i with
          | zero => exact ⟨0, c, value, hi, hvalue, htext⟩
          | succ i => cases hi
        · obtain ⟨i, c, value, hi, hvalue, htext⟩ := hmoreSource binding hmem
          exact ⟨i + 1, c, value, hi, hvalue, htext⟩

theorem lookup_eq_some_of_mem {texts : List (String × String)}
    (hnodup : (texts.map Prod.fst).Nodup) {name text : String} (h : (name, text) ∈ texts) :
    texts.lookup name = some text := by
  induction texts with
  | nil => exact absurd h List.not_mem_nil
  | cons first texts ih =>
      obtain ⟨own, value⟩ := first
      rw [List.map_cons, List.nodup_cons] at hnodup
      rw [List.lookup_cons]
      rcases List.mem_cons.1 h with heq | hmem
      · cases heq
        rw [beq_self_eq_true]
      · have hne : name ≠ own := by
          rintro rfl
          exact hnodup.1 (List.mem_map.2 ⟨_, hmem, rfl⟩)
        rw [beq_false_of_ne hne]
        exact ih hnodup.2 hmem

theorem lookup_eq_none_of_not_mem {texts : List (String × String)} {name : String}
    (h : name ∉ texts.map Prod.fst) : texts.lookup name = none := by
  rw [List.lookup_eq_none_iff]
  intro binding hmem
  rw [bne_iff_ne]
  rintro rfl
  exact h (List.mem_map.2 ⟨binding, hmem, rfl⟩)

namespace ServiceMethod

/-- The names of the path are those of the roles of the parameters. -/
theorem pathNames_eq (m : ServiceMethod) :
    m.pathNames = m.parameters.filterMap fun p => p.role.pathName? := by
  rw [pathNames, roles, List.filterMap_map]
  rfl

/-- Each name of the path has its parameter, and no other one has the same name. -/
theorem existsUnique_path {b : MethodBuilder} {m : ServiceMethod} (h : b.Makes m)
    (hstandard : ∀ p ∈ m.parameters, p.isStandard = true)
    (hpath : ∀ p ∈ m.parameters, p.EncodesPath) {name : String}
    (hname : name ∈ m.path.placeholders) :
    ∃! i : Nat, ∃ c, m.parameters[i]? = some (.path name false c) := by
  have hnodup := h.names_nodup
  have hbound := (h.names_placeholders name).2 hname
  rw [pathNames_eq] at hnodup hbound
  obtain ⟨p, hp, hown⟩ := List.mem_filterMap.1 hbound
  obtain ⟨i, hi, hget⟩ := List.mem_iff_getElem.1 hp
  have hsome : m.parameters[i]? = some p := by rw [List.getElem?_eq_getElem hi, hget]
  have hplain := hpath p hp
  have hkind := hstandard p hp
  cases p with
  | path own encoded c =>
      cases hown
      obtain rfl : encoded = false := hplain
      refine ⟨i, ⟨c, hsome⟩, fun j hother => ?_⟩
      obtain ⟨c', hother⟩ := hother
      obtain ⟨hj, hgetOther⟩ := List.getElem?_eq_some_iff.1 hother
      -- Two places with this name would make it appear twice among the distinct names.
      have hdistinct := List.pairwise_iff_getElem.1 (List.pairwise_filterMap.1 hnodup)
      rcases Nat.lt_trichotomy i j with hlt | heq | hlt
      · exact absurd rfl (hdistinct i j hi hj hlt name (by rw [hget]; rfl) name
          (by rw [hgetOther]; rfl))
      · exact heq.symm
      · exact absurd rfl (hdistinct j i hj hi hlt name (by rw [hgetOther]; rfl) name
          (by rw [hget]; rfl))
  | custom parameter => cases hkind
  | _ => cases hown

/-- Replacing the tokens of names that are apart one after the other puts the texts of
all names in at once. -/
theorem replaceTokens_of_namesApart {m : ServiceMethod} {b : MethodBuilder} (h : b.Makes m)
    (hapart : m.path.NamesApart) {bindings : List (String × String)}
    (hnames : bindings.map Prod.fst = m.pathNames)
    (hvalues : ∀ binding ∈ bindings, '{' ∉ binding.2.toList) :
    Template.replaceTokens m.path.text.toList bindings =
      m.path.substitute fun name => ((bindings.lookup name).getD "").toList := by
  have hnodup : (bindings.map Prod.fst).Nodup := hnames ▸ h.names_nodup
  refine Template.replaceTokens_eq_substitute hapart ?_ hvalues ?_
  · intro binding hbinding
    rw [← h.names_placeholders, ← hnames]
    exact List.mem_map.2 ⟨_, hbinding, rfl⟩
  · intro name hname
    rw [← h.names_placeholders, ← hnames] at hname
    obtain ⟨⟨own, text⟩, hmem, rfl⟩ := List.mem_map.1 hname
    have hlookup := lookup_eq_some_of_mem hnodup hmem
    exact ⟨text, hlookup, by rw [hlookup]; rfl⟩

theorem lookup_map_segment (texts : List (String × String)) (name : String) :
    ((texts.map fun (name, text) => (name, Percent.segment text)).lookup name).getD "" =
      Percent.segment ((texts.lookup name).getD "") := by
  induction texts with
  | nil => rfl
  | cons first texts ih =>
      obtain ⟨own, text⟩ := first
      rw [List.map_cons, List.lookup_cons, List.lookup_cons]
      cases name == own with
      | true => rfl
      | false => exact ih

/-- Replacing the tokens of names that are apart one after the other puts the encoded
texts of the arguments in all at once. -/
theorem replaceTokens_of_texts {m : ServiceMethod} {b : MethodBuilder} (h : b.Makes m)
    (hapart : m.path.NamesApart) {values : List Json.Value} {cs : List Contribution}
    {texts : List (String × String)} (htexts : PathTexts m.parameters values cs texts) :
    Template.replaceTokens m.path.text.toList (cs.filterMap Contribution.path?) =
      m.path.substitute fun name =>
        (Percent.segment ((texts.lookup name).getD "")).toList := by
  rw [htexts.written, replaceTokens_of_namesApart h hapart]
  · simp only [lookup_map_segment]
  · rw [List.map_map, pathNames_eq, ← htexts.names]
    rfl
  · intro binding hbinding
    obtain ⟨⟨name, text⟩, -, rfl⟩ := List.mem_map.1 hbinding
    exact Percent.not_mem_segment rfl (by decide)

/-- Names without opening braces are apart. -/
theorem replaceTokens_of_pathTexts {m : ServiceMethod} {b : MethodBuilder} (h : b.Makes m)
    (hopen : ∀ name ∈ m.path.placeholders, '{' ∉ name.toList) {values : List Json.Value}
    {cs : List Contribution} {texts : List (String × String)}
    (htexts : PathTexts m.parameters values cs texts) :
    Template.replaceTokens m.path.text.toList (cs.filterMap Contribution.path?) =
      m.path.substitute fun name =>
        (Percent.segment ((texts.lookup name).getD "")).toList :=
  replaceTokens_of_texts h (Template.namesApart_of_not_mem hopen) htexts

/-- Without a URL parameter the path of the draft is resolved. -/
theorem resolveTarget_of_extends {m : ServiceMethod} {boundary : String} {base : Url}
    {values : List Json.Value} {cs : List Contribution} {draft : Draft}
    (hcs : ContributesAll m.parameters values cs)
    (hextends : (m.startDraft boundary base).Extends cs draft) (hurl : Role.url ∉ m.roles) :
    draft.resolveTarget = (base.join? draft.path).mapError .invalidUrl := by
  have htarget : draft.target = none := by
    rw [hextends.target, hcs.targets_eq_nil hurl]
    rfl
  rw [Draft.resolveTarget, hextends.base, htarget]
  rfl

/-- The draft of a call that is accepted has the path in which the names are replaced
by the encoded texts of the arguments, all at once, and resolves it. -/
theorem path_of_applyAll {b : MethodBuilder} {m : ServiceMethod} (hbuild : b.build = .ok m)
    (hstandard : ∀ p ∈ m.parameters, p.isStandard = true)
    (hpath : ∀ p ∈ m.parameters, p.EncodesPath)
    (hopen : ∀ name ∈ m.path.placeholders, '{' ∉ name.toList)
    {boundary : String} {base : Url} {arguments : List Json.Value} {draft : Draft}
    (harity : arguments.length = m.arity)
    (happly : applyAll m.parameters arguments (m.startDraft boundary base) = .ok draft) :
    ∃ converted : String → String,
      (∀ name ∈ m.path.placeholders,
        ∃! i : Nat, ∃ c, m.parameters[i]? = some (.path name false c)) ∧
      (∀ (i : Nat) (name : String) (c : StringConverter) (value : Json.Value),
        m.parameters[i]? = some (.path name false c) → arguments[i]? = some value →
          c.convert value = .ok (converted name)) ∧
      draft.path =
        m.path.substitute (fun name => (Percent.segment (converted name)).toList) ∧
      (Role.url ∉ m.roles →
        draft.resolveTarget = (base.join? draft.path).mapError .invalidUrl) := by
  have hmakes := MethodBuilder.build_eq_ok.1 hbuild
  obtain ⟨cs, hcs, hextends⟩ := extends_of_applyAll hstandard harity happly
  obtain ⟨texts, htexts⟩ := hcs.pathTexts hpath
  have hnodup : (texts.map Prod.fst).Nodup := by
    rw [htexts.names, ← pathNames_eq]
    exact hmakes.names_nodup
  refine ⟨fun name => (texts.lookup name).getD "",
    fun name hname => existsUnique_path hmakes hstandard hpath hname,
    fun i name c value hi hvalue => ?_, ?_, resolveTarget_of_extends hcs hextends⟩
  · obtain ⟨text, htext, hmem⟩ := htexts.converted i name c value hi hvalue
    have hlookup := lookup_eq_some_of_mem hnodup hmem
    simp only [htext, hlookup, Option.getD_some]
  · rw [hextends.path]
    exact replaceTokens_of_pathTexts hmakes hopen htexts

theorem path_of_applyAll_getting :
    ∃ m draft, (MethodBuilder.getting "/a{x}{}/{x}\x7b" [.path "x" false .scalar]).build = .ok m ∧
      (∀ p ∈ m.parameters, p.isStandard = true) ∧ (∀ p ∈ m.parameters, p.EncodesPath) ∧
      (∀ name ∈ m.path.placeholders, '{' ∉ name.toList) ∧
      [Json.Value.string "b c"].length = m.arity ∧
      applyAll m.parameters [.string "b c"] (m.startDraft "" .localhost) = .ok draft ∧
      draft.path = "/ab%20c{}/b%20c\x7b".toList ∧
      ∃ converted : String → String,
        converted "x" = "b c" ∧
        draft.path =
          m.path.substitute (fun name => (Percent.segment (converted name)).toList) := by
  have hbuild :
      (MethodBuilder.getting "/a{x}{}/{x}\x7b" [.path "x" false .scalar]).build = .ok _ := rfl
  have hstandard : ∀ p ∈ [Parameter.path "x" false .scalar], p.isStandard = true := by
    intro p hp
    rw [List.mem_singleton.1 hp]
    rfl
  have hpath : ∀ p ∈ [Parameter.path "x" false .scalar], p.EncodesPath := by
    intro p hp
    rw [List.mem_singleton.1 hp]
    rfl
  have hopen : ∀ name ∈ Template.placeholders ⟨"/a{x}{}/{x}\x7b"⟩, '{' ∉ name.toList := by decide
  obtain ⟨converted, -, hconverted, hdraft, -⟩ :=
    @path_of_applyAll _ _ hbuild hstandard hpath hopen "" .localhost [.string "b c"] _ rfl rfl
  refine ⟨_, _, hbuild, hstandard, hpath, hopen, rfl, rfl, rfl, converted, ?_, hdraft⟩
  exact (Except.ok.inj (hconverted 0 "x" .scalar (.string "b c") rfl rfl)).symm

end ServiceMethod

end WebClient
