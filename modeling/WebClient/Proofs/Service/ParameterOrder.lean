import Mathlib.Data.List.Perm.Basic
import WebClient.Proofs.Service.PathSubstitution

/-!
# The order of path parameters

Each path parameter replaces its token in a text that may hold the values of others
already.  When no value brings an opening brace with it and the names are apart, every
order of the parameters leads to the template with all values put in at once, and so to
the same request.  An encoded value with a brace can make a new token, which a later
parameter takes for its own.
-/

namespace WebClient

namespace Parameter

/-- The parameter stands for a name of the path. -/
def IsPath : Parameter → Prop
  | .path .. => True
  | _ => False

theorem IsPath.isStandard {p : Parameter} (h : p.IsPath) : p.isStandard = true := by
  cases p with
  | path => rfl
  | _ => exact h.elim

theorem IsPath.bodyKind?_eq {p : Parameter} (h : p.IsPath) : p.bodyKind? = none := by
  cases p with
  | path => rfl
  | _ => exact h.elim

/-- A parameter gives a name of the path its text for an argument. -/
def Gives (pair : Parameter × Json.Value) (binding : String × String) : Prop :=
  pair.1.Contributes pair.2 [.path binding.1 binding.2]

theorem exists_gives {p : Parameter} (hp : p.IsPath) {value : Json.Value}
    {cs : List Contribution} (h : p.Contributes value cs) :
    ∃ binding, Gives (p, value) binding := by
  cases h with
  | path hvalue htext hstays => exact ⟨(_, _), .path hvalue htext hstays⟩
  | _ => exact hp.elim

/-- The text for a name holds no opening brace unless an encoded value brings it. -/
theorem Gives.not_mem {pair : Parameter × Json.Value} {binding : String × String}
    (h : Gives pair binding) (hp : pair.1.IsPath)
    (hopen : ∀ name c text, pair.1 = .path name true c → c.convert pair.2 = .ok text →
      '{' ∉ text.toList) : '{' ∉ binding.2.toList := by
  obtain ⟨p, value⟩ := pair
  obtain ⟨name, text⟩ := binding
  unfold Gives at h
  cases p with
  | path own encoded c =>
      cases h with
      | path hvalue htext hstays =>
          cases encoded with
          | true => exact hopen _ _ _ rfl htext
          | false => exact Percent.not_mem_segment rfl (by decide)
  | _ => exact hp.elim

end Parameter

open Parameter (Gives)

/-- What the arguments contribute are the texts that they give the names. -/
theorem contributesAll_of_gives {ps : List Parameter} {values : List Json.Value}
    {bs : List (String × String)} (hlength : values.length = ps.length)
    (h : List.Forall₂ Gives (ps.zip values) bs) :
    ContributesAll ps values (bs.map fun b => .path b.1 b.2) := by
  induction ps generalizing values bs with
  | nil =>
      cases List.eq_nil_of_length_eq_zero hlength
      cases h
      exact .nil
  | cons p ps ih =>
      cases values with
      | nil => exact absurd hlength (by simp)
      | cons value values =>
          cases h with
          | cons hfirst hrest => exact .cons hfirst (ih (Nat.succ.inj hlength) hrest)

theorem names_of_gives {ps : List Parameter} {values : List Json.Value}
    {bs : List (String × String)} (hlength : values.length = ps.length)
    (h : List.Forall₂ Gives (ps.zip values) bs) :
    bs.map Prod.fst = ps.filterMap fun p => p.role.pathName? := by
  rw [← (contributesAll_of_gives hlength h).map_fst_paths]
  simp [List.filterMap_map, Function.comp_def, Contribution.path?]

/-- Texts for names of the path replace the tokens of these names, one after the other,
and change nothing else of a draft. -/
theorem Draft.addAll_paths (bs : List (String × String)) (d : Draft) :
    d.addAll ((bs.map fun b => Contribution.path b.1 b.2).map .ok) =
      .ok { d with path := Template.replaceTokens d.path bs } := by
  induction bs generalizing d with
  | nil => rfl
  | cons b bs ih => exact ih (d.bindPath b.1 b.2)

theorem lookup_eq_of_perm {bs cs : List (String × String)}
    (hnodup : (bs.map Prod.fst).Nodup) (h : bs.Perm cs) (name : String) :
    bs.lookup name = cs.lookup name := by
  have hnodup' : (cs.map Prod.fst).Nodup := (h.map Prod.fst).nodup_iff.1 hnodup
  by_cases hname : name ∈ bs.map Prod.fst
  · obtain ⟨⟨own, text⟩, hmem, rfl⟩ := List.mem_map.1 hname
    rw [lookup_eq_some_of_mem hnodup hmem, lookup_eq_some_of_mem hnodup' (h.mem_iff.1 hmem)]
  · rw [lookup_eq_none_of_not_mem hname,
      lookup_eq_none_of_not_mem fun hmem => hname ((h.map Prod.fst).mem_iff.2 hmem)]

/-- Steps that set the path parameters of a method in another order make the method with
that order. -/
theorem MethodBuilder.Makes.reorder {b : MethodBuilder} {m : ServiceMethod} (h : b.Makes m)
    (hpath : ∀ p ∈ m.parameters, p.IsPath) {qs : List Parameter}
    (hqs : qs.Perm m.parameters) {places : List (Nat × Parameter)}
    (hplaces : ∀ i < b.arity, places.lookup i = qs[i]?) :
    MethodBuilder.Makes { b with parameters := places } { m with parameters := qs } := by
  have hroles : (qs.map Parameter.role).Perm m.roles := hqs.map Parameter.role
  have hnames : ((qs.map Parameter.role).filterMap Role.pathName?).Perm m.pathNames :=
    hroles.filterMap Role.pathName?
  have hurls : (qs.map Parameter.role).count .url = m.roles.count .url := hroles.count_eq .url
  -- Path parameters need no body, so the order of the kinds does not matter.
  have hkinds : qs.filterMap Parameter.bodyKind? = m.bodyKinds := by
    have hnone : ∀ p ∈ m.parameters, p.bodyKind? = none := fun p hp => (hpath p hp).bodyKind?_eq
    rw [ServiceMethod.bodyKinds, List.filterMap_eq_nil_iff.2 hnone, List.filterMap_eq_nil_iff]
    exact fun q hq => hnone q (hqs.mem_iff.1 hq)
  exact {
    service := h.service
    name := h.name
    http := h.http
    headers := h.headers
    response := h.response
    asynchronous := h.asynchronous
    length := hqs.length_eq.trans h.length
    places := hplaces
    sameKind := by rw [ServiceMethod.bodyKinds, hkinds]; exact h.sameKind
    oneRaw := by rw [ServiceMethod.bodyKinds, hkinds]; exact h.oneRaw
    bodyKind := by rw [ServiceMethod.bodyKinds, hkinds]; exact h.bodyKind
    oneUrl := Nat.le_trans (Nat.le_of_eq hurls) h.oneUrl
    urlOrPath := by rw [ServiceMethod.roles, hurls]; exact h.urlOrPath
    names_nodup := hnames.nodup_iff.2 h.names_nodup
    names_placeholders := fun name => hnames.mem_iff.trans (h.names_placeholders name) }

namespace ServiceMethod

/-- A call whose arguments are texts for the names of the path resolves the template with
all of them put in at once. -/
theorem buildRequest_of_gives {b : MethodBuilder} {m : ServiceMethod} (h : b.Makes m)
    (hpath : ∀ p ∈ m.parameters, p.IsPath) (hapart : m.path.NamesApart)
    {values : List Json.Value} {bs : List (String × String)}
    (hlength : values.length = m.arity)
    (hgives : List.Forall₂ Gives (m.parameters.zip values) bs)
    (hopen : ∀ binding ∈ bs, '{' ∉ binding.2.toList) (boundary : String) (base : Url) :
    m.buildRequest boundary base values =
      Draft.build { m.startDraft boundary base with
        path := m.path.substitute fun name => ((bs.lookup name).getD "").toList } := by
  have hnames : bs.map Prod.fst = m.pathNames := by
    rw [pathNames_eq]
    exact names_of_gives hlength hgives
  have happly := applyAll_eq_addAll (contributesAll_of_gives hlength hgives)
    (fun p hp => (hpath p hp).isStandard) (m.startDraft boundary base)
  rw [buildRequest, if_neg (not_not_intro hlength), happly, Draft.addAll_paths,
    ← replaceTokens_of_namesApart h hapart hnames hopen]
  rfl

/-- Path parameters in another order, each with its argument, make the same request when
no encoded value has an opening brace and the names of the path are apart. -/
theorem buildRequest_of_perm {b : MethodBuilder} {m : ServiceMethod} (hbuild : b.build = .ok m)
    (hpath : ∀ p ∈ m.parameters, p.IsPath) (hapart : m.path.NamesApart)
    {arguments : List Json.Value} (harity : arguments.length = m.arity)
    (haccepts : ∀ pair ∈ m.parameters.zip arguments, ∃ cs, pair.1.Contributes pair.2 cs)
    (hopen : ∀ pair ∈ m.parameters.zip arguments, ∀ name c text,
      pair.1 = .path name true c → c.convert pair.2 = .ok text → '{' ∉ text.toList)
    {qs : List Parameter} {places : List (Nat × Parameter)}
    (hplaces : ∀ i < b.arity, places.lookup i = qs[i]?) {others : List Json.Value}
    (hothers : others.length = qs.length)
    (hperm : (qs.zip others).Perm (m.parameters.zip arguments)) :
    ∃ m', ({ b with parameters := places } : MethodBuilder).build = .ok m' ∧
      m'.parameters = qs ∧ ∀ boundary base,
        m'.buildRequest boundary base others = m.buildRequest boundary base arguments := by
  have hmakes := MethodBuilder.build_eq_ok.1 hbuild
  have hqs : qs.Perm m.parameters := by
    have hfirst := hperm.map Prod.fst
    rwa [List.map_fst_zip (Nat.le_of_eq hothers.symm),
      List.map_fst_zip (Nat.le_of_eq harity.symm)] at hfirst
  have hqsPath : ∀ q ∈ qs, q.IsPath := fun q hq => hpath q (hqs.mem_iff.1 hq)
  have hmakes' := hmakes.reorder hpath hqs hplaces
  refine ⟨{ m with parameters := qs }, MethodBuilder.build_eq_ok.2 hmakes', rfl,
    fun boundary base => ?_⟩
  -- Each pair of a parameter and its argument gives one text, in whatever place it stands.
  have hgive : ∀ pair ∈ m.parameters.zip arguments, ∃ binding, Gives pair binding := by
    intro pair hpair
    obtain ⟨cs, hcs⟩ := haccepts pair hpair
    exact Parameter.exists_gives (hpath _ (List.of_mem_zip hpair).1) hcs
  choose! text htext using hgive
  have htext' : ∀ pair ∈ qs.zip others, Gives pair (text pair) :=
    fun pair hpair => htext pair (hperm.mem_iff.1 hpair)
  have hgives := List.forall₂_map_right_iff.2 (List.forall₂_same.2 htext)
  have hgives' := List.forall₂_map_right_iff.2 (List.forall₂_same.2 htext')
  have hbraces : ∀ binding ∈ (m.parameters.zip arguments).map text, '{' ∉ binding.2.toList := by
    intro binding hbinding
    obtain ⟨pair, hpair, rfl⟩ := List.mem_map.1 hbinding
    exact (htext pair hpair).not_mem (hpath _ (List.of_mem_zip hpair).1) (hopen pair hpair)
  have hsame := hperm.map text
  have hnodup : (((qs.zip others).map text).map Prod.fst).Nodup := by
    rw [names_of_gives hothers hgives', ← pathNames_eq { m with parameters := qs }]
    exact hmakes'.names_nodup
  rw [buildRequest_of_gives hmakes hpath hapart harity hgives hbraces,
    buildRequest_of_gives hmakes' hqsPath hapart hothers hgives'
      fun binding hbinding => hbraces binding (hsame.mem_iff.1 hbinding)]
  simp only [lookup_eq_of_perm hnodup hsame]
  rfl

theorem buildRequest_of_perm_getting :
    ∃ m m', (MethodBuilder.getting "/{a}/{b}"
        [.path "a" true .scalar, .path "b" false .scalar]).build = .ok m ∧
      (MethodBuilder.getting "/{a}/{b}"
        [.path "b" false .scalar, .path "a" true .scalar]).build = .ok m' ∧
      ∀ boundary base,
        m'.buildRequest boundary base [.string "{a}", .string "x"] =
          m.buildRequest boundary base [.string "x", .string "{a}"] := by
  have hbuild : (MethodBuilder.getting "/{a}/{b}"
      [.path "a" true .scalar, .path "b" false .scalar]).build = .ok _ := rfl
  have hpath : ∀ p ∈ [Parameter.path "a" true .scalar, .path "b" false .scalar], p.IsPath := by
    simp [Parameter.IsPath]
  have hapart : Template.NamesApart ⟨"/{a}/{b}"⟩ := Template.namesApart_of_not_mem (by decide)
  have haccepts : ∀ pair ∈ [Parameter.path "a" true .scalar, .path "b" false .scalar].zip
      [Json.Value.string "x", .string "{a}"], ∃ cs, pair.1.Contributes pair.2 cs :=
    List.forall_mem_cons.2 ⟨⟨_, .path Json.Value.noConfusion rfl rfl⟩,
      List.forall_mem_singleton.2 ⟨_, .path Json.Value.noConfusion rfl rfl⟩⟩
  have hopen : ∀ pair ∈ [Parameter.path "a" true .scalar, .path "b" false .scalar].zip
      [Json.Value.string "x", .string "{a}"], ∀ name c text,
      pair.1 = .path name true c → c.convert pair.2 = .ok text → '{' ∉ text.toList := by
    refine List.forall_mem_cons.2 ⟨?_, List.forall_mem_singleton.2 ?_⟩
    · intro name c text hown htext
      cases hown
      cases htext
      decide
    · intro name c text hown
      cases hown
  have hplaces : ∀ i < 2,
      ([Parameter.path "b" false .scalar, .path "a" true .scalar].zipIdx.map Prod.swap).lookup i =
        [Parameter.path "b" false .scalar, .path "a" true .scalar][i]? := by
    intro i hi
    obtain rfl | rfl : i = 0 ∨ i = 1 := by omega
    · rfl
    · rfl
  have hperm : ([Parameter.path "b" false .scalar, .path "a" true .scalar].zip
      [Json.Value.string "{a}", .string "x"]).Perm
      ([Parameter.path "a" true .scalar, .path "b" false .scalar].zip
        [.string "x", .string "{a}"]) := .swap _ _ _
  obtain ⟨m', hbuild', -, hrequest⟩ :=
    buildRequest_of_perm hbuild hpath hapart rfl haccepts hopen hplaces rfl hperm
  exact ⟨_, m', hbuild, hbuild', hrequest⟩

/-- An encoded value that is the token of a later name is taken for that name. -/
theorem path_of_encoded_token :
    ∃ m m', (MethodBuilder.getting "/{a}/{b}"
        [.path "a" true .scalar, .path "b" true .scalar]).build = .ok m ∧
      (MethodBuilder.getting "/{a}/{b}"
        [.path "b" true .scalar, .path "a" true .scalar]).build = .ok m' ∧
      ((m.buildRequest "" .localhost [.string "{b}", .string "x"]).toOption.map fun r =>
        String.ofList r.url.pathText) = some "/x/x" ∧
      ((m'.buildRequest "" .localhost [.string "x", .string "{b}"]).toOption.map fun r =>
        String.ofList r.url.pathText) = some "/%7Bb%7D/x" := by
  refine ⟨_, _, rfl, rfl, ?_, ?_⟩ <;> decide +kernel

end ServiceMethod

end WebClient
