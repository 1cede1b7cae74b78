import WebClient.Proofs.Service.Resolving

/-!
# Which declarations are accepted

A declared service is resolved when each of its methods is well-formed by itself:
the right directives in the right places, one kind of body, a URL or a path whose
names are all bound, and a converter for every type that needs one.  The methods of
the service are then those that the declarations describe, in their order.
-/

namespace WebClient

open ServiceResolver (ofConverters Binds Fills placed slotKinds configured)

variable {converters : ConverterRegistry}

/-- The parameters of a method fit together and fit its path. -/
structure ServiceMethod.Consistent (m : ServiceMethod) : Prop where
  sameKind : AllSame m.bodyKinds
  oneRaw : m.bodyKinds.count .raw ≤ 1
  oneUrl : m.roles.count .url ≤ 1
  urlOrPath : m.roles.count .url = 1 ↔ m.path.text = ""
  names_nodup : m.pathNames.Nodup
  names_placeholders : ∀ name, name ∈ m.pathNames ↔ name ∈ m.path.placeholders

namespace MethodDeclaration

/-- The roles that the directives of the parameters stand for. -/
def roles (d : MethodDeclaration) : List Role :=
  d.parameters.flatMap fun p => p.directives.filterMap Directive.role?

/-- The kinds of body that the directives of the parameters need. -/
def bodyKinds (d : MethodDeclaration) : List BodyKind := d.roles.filterMap Role.bodyKind?

/-- The names of the path that the directives of the parameters stand for. -/
def pathNames (d : MethodDeclaration) : List String := d.roles.filterMap Role.pathName?

/-- What a declaration says about the method that it resolves to. -/
structure Describes (converters : ConverterRegistry) (service : String) (d : MethodDeclaration)
    (m : ServiceMethod) : Prop where
  service : m.service = service
  name : m.name = d.name
  http : d.directives.filterMap Directive.http? = [(m.method, m.path)]
  headers : List.Forall₂ DirectiveHandler.HeaderLine
    (d.directives.flatMap Directive.headerLines) m.headers
  asynchronous : m.asynchronous = decide (.asynchronous ∈ d.directives)
  parameters : List.Forall₂ (fun p q => ∃ e, p.directives = [e] ∧ Binds converters p.type e q)
    d.parameters m.parameters
  bodyKind : m.bodyKind = m.bodyKinds.head?
  responseType : m.responseType = d.returns
  response : converters.resolve d.returns .responseBody = .ok (.response m.responseConverter)

/-- What is asked of the declaration of a method with a verb and a path. -/
structure WellFormed (converters : ConverterRegistry) (d : MethodDeclaration) (verb : Method)
    (path : Template) : Prop where
  onMethod : ∀ e ∈ d.directives, e.target = .method
  oneHttp : d.directives.filterMap Directive.http? = [(verb, path)]
  headers : ∀ lines, .headers lines ∈ d.directives → ∀ line ∈ lines,
    ∃ name value, line.toList = name ++ ':' :: value ∧ ':' ∉ name ∧
      ∃ c ∈ name, Text.isBlank c = false
  onParameter : ∀ p ∈ d.parameters, ∃ e, p.directives = [e] ∧ e.target = .parameter
  bodyRoles : d.bodyKinds = [] ∨ (∀ kind ∈ d.bodyKinds, kind = .form) ∨
    (∀ kind ∈ d.bodyKinds, kind = .multipart) ∨ d.bodyKinds = [.raw]
  oneUrl : d.roles.count .url ≤ 1
  urlOrPath : d.roles.count .url = 1 ↔ path.text = ""
  names_nodup : d.pathNames.Nodup
  names_placeholders : ∀ name, name ∈ d.pathNames ↔ name ∈ path.placeholders
  provided : ∀ p ∈ d.parameters, ∀ e ∈ p.directives, ∀ capability,
    e.capability? = some capability → ∃ c, converters.resolve p.type capability = .ok c
  response : ∃ c, converters.resolve d.returns .responseBody = .ok c

end MethodDeclaration

/-! ## Kinds of body -/

theorem allSame_head_filter {α : Type} {l : List α} (p : α → Bool) :
    AllSame ((l.filter p).head?.toList ++ l) ↔ AllSame l := by
  cases hhead : (l.filter p).head? with
  | none => rfl
  | some a =>
      have ha : a ∈ l := List.mem_of_mem_filter (List.mem_of_head? hhead)
      rw [Option.toList_some, List.singleton_append, allSame_cons]
      constructor
      · exact fun h b hb c hc => (h b hb).trans (h c hc).symm
      · exact fun h b hb => h b hb a ha

theorem head?_head_filter {α : Type} {l : List α} (p : α → Bool) (h : AllSame l) :
    ((l.filter p).head?.toList ++ l).head? = l.head? := by
  cases hhead : (l.filter p).head? with
  | none => rfl
  | some a =>
      have ha : a ∈ l := List.mem_of_mem_filter (List.mem_of_head? hhead)
      cases l with
      | nil => exact absurd ha List.not_mem_nil
      | cons first l => rw [h first List.mem_cons_self a ha]; rfl

/-- One kind of body is needed and at most one raw body: no body, the fields of a form,
the parts of a multipart form, or one raw body. -/
theorem sameKind_iff {kinds : List BodyKind} :
    AllSame kinds ∧ kinds.count .raw ≤ 1 ↔
      kinds = [] ∨ (∀ kind ∈ kinds, kind = .form) ∨ (∀ kind ∈ kinds, kind = .multipart) ∨
        kinds = [.raw] := by
  cases kinds with
  | nil => simp [allSame_nil]
  | cons first rest =>
      rw [allSame_cons]
      constructor
      · rintro ⟨hsame, hcount⟩
        have hall : ∀ kind ∈ first :: rest, kind = first := List.forall_mem_cons.2 ⟨rfl, hsame⟩
        cases first with
        | form => exact Or.inr (Or.inl hall)
        | multipart => exact Or.inr (Or.inr (Or.inl hall))
        | raw =>
            cases rest with
            | nil => exact Or.inr (Or.inr (Or.inr rfl))
            | cons second rest =>
                rw [hsame second List.mem_cons_self, List.count_cons_self,
                  List.count_cons_self] at hcount
                omega
      · rintro (h | h | h | h)
        · cases h
        · obtain ⟨rfl, hrest⟩ := List.forall_mem_cons.1 h
          refine ⟨hrest, ?_⟩
          rw [List.count_eq_zero.2 fun hraw => absurd (h _ hraw) (by decide)]
          exact Nat.zero_le _
        · obtain ⟨rfl, hrest⟩ := List.forall_mem_cons.1 h
          refine ⟨hrest, ?_⟩
          rw [List.count_eq_zero.2 fun hraw => absurd (h _ hraw) (by decide)]
          exact Nat.zero_le _
        · obtain ⟨rfl, rfl⟩ := List.cons_eq_cons.1 h
          exact ⟨fun _ hnil => absurd hnil List.not_mem_nil, Nat.le_refl _⟩

theorem slotKinds_map_some (ps : List Parameter) :
    slotKinds (ps.map some) = (ps.filterMap Parameter.bodyKind?).filter (· ≠ .raw) := by
  rw [slotKinds, List.filterMap_map, List.filter_filterMap]
  rfl

/-! ## Parameters -/

/-- All slots of a built method are filled. -/
theorem slots_eq_of_places {slots : List (Option Parameter)} {ps : List Parameter}
    (hlength : ps.length = slots.length)
    (hplaces : ∀ i < slots.length, (placed 0 slots).lookup i = ps[i]?) :
    slots = ps.map some := by
  refine List.ext_getElem (by rw [List.length_map, hlength]) fun i hi _ => ?_
  have hlookup := ServiceResolver.lookup_placed 0 slots i
  rw [Nat.zero_add, hplaces i hi, List.getElem?_eq_getElem hi,
    List.getElem?_eq_getElem (hlength ▸ hi), Option.join_some] at hlookup
  rw [List.getElem_map]
  exact hlookup.symm

theorem lookup_placed_map_some (ps : List Parameter) (i : Nat) :
    (placed 0 (ps.map some)).lookup i = ps[i]? := by
  have h := ServiceResolver.lookup_placed 0 (ps.map some) i
  rw [Nat.zero_add, List.getElem?_map] at h
  rw [h]
  cases ps[i]? <;> rfl

theorem fills_some {p : ParameterDeclaration} {q : Parameter} :
    Fills converters p (some q) ↔ ∃ e, p.directives = [e] ∧ Binds converters p.type e q := by
  constructor
  · intro h
    cases h with
    | one hone hbinds => exact ⟨_, hone, hbinds⟩
  · rintro ⟨e, hone, hbinds⟩
    exact .one hone hbinds

theorem forall₂_filterMap {α β : Type} {f : α → Option β} {l : List α}
    (h : ∀ a ∈ l, (f a).isSome) : List.Forall₂ (fun a b => f a = some b) l (l.filterMap f) := by
  induction l with
  | nil => exact .nil
  | cons a l ih =>
      obtain ⟨b, hb⟩ := Option.isSome_iff_exists.1 (h a List.mem_cons_self)
      rw [List.filterMap_cons_some hb]
      exact .cons hb (ih fun x hx => h x (List.mem_cons_of_mem _ hx))

theorem filterMap_of_forall₂ {α β : Type} {f : α → Option β} {l : List α} {m : List β}
    (h : List.Forall₂ (fun a b => f a = some b) l m) :
    (∀ a ∈ l, (f a).isSome) ∧ l.filterMap f = m := by
  induction h with
  | nil => exact ⟨fun _ h => absurd h List.not_mem_nil, rfl⟩
  | cons hfirst hrest ih =>
      rw [List.filterMap_cons_some hfirst, ih.2]
      exact ⟨List.forall_mem_cons.2 ⟨Option.isSome_of_eq_some hfirst, ih.1⟩, rfl⟩

/-! ## One method -/

namespace ServiceResolver

theorem resolveMethod_outcome {service : String} {d : MethodDeclaration} {m : ServiceMethod} :
    (ofConverters converters).resolveMethod service d = .ok m ↔
      ∃ b, ((ofConverters converters).configure d).outcome
        (MethodBuilder.start service d.name d.parameters.length) = (.ok (), b) ∧
        b.Makes m := by
  have hrun : (ofConverters converters).resolveMethod service d =
      (match ((ofConverters converters).configure d).outcome
          (MethodBuilder.start service d.name d.parameters.length) with
        | (.ok (), built) => built.build
        | (.error e, _) => .error e).mapError (ConfigError.inMethod service d.name) := rfl
  rw [hrun, Outcome.mapError_eq_ok]
  obtain ⟨result, b⟩ := ((ofConverters converters).configure d).outcome
    (MethodBuilder.start service d.name d.parameters.length)
  cases result with
  | error e => simp
  | ok answer =>
      dsimp only
      rw [MethodBuilder.build_eq_ok]
      constructor
      · exact fun h => ⟨b, rfl, h⟩
      · rintro ⟨_, hb, h⟩
        cases hb
        exact h

/-- What the steps of a declared method make is what the declaration describes. -/
theorem makes_configured_iff {service : String} {d : MethodDeclaration} {m : ServiceMethod}
    {slots : List (Option Parameter)} {c : ResponseConverter}
    (hhttp : (d.directives.filterMap Directive.http?).length ≤ 1)
    (hlines : ∀ line ∈ d.directives.flatMap Directive.headerLines,
      (DirectiveHandler.headerPair? line).isSome)
    (hslots : List.Forall₂ (Fills converters) d.parameters slots)
    (hc : converters.resolve d.returns .responseBody = .ok (.response c)) :
    (configured service d slots c).Makes m ↔
      slots = m.parameters.map some ∧ d.Describes converters service m ∧ m.Consistent := by
  have harity := hslots.length_eq
  constructor
  · intro h
    obtain rfl : slots = m.parameters.map some :=
      slots_eq_of_places (h.length.trans harity) fun i hi =>
        h.places i (Nat.lt_of_lt_of_eq hi harity.symm)
    -- The kinds declared on the way are among those that the parameters need in the end.
    have hkinds : slotKinds (m.parameters.map some) = m.bodyKinds.filter (· ≠ .raw) :=
      slotKinds_map_some _
    have hsame : AllSame ((slotKinds (m.parameters.map some)).head?.toList ++ m.bodyKinds) :=
      h.sameKind
    have hkind : m.bodyKind =
        ((slotKinds (m.parameters.map some)).head?.toList ++ m.bodyKinds).head? := h.bodyKind
    rw [hkinds, allSame_head_filter] at hsame
    rw [hkinds, head?_head_filter _ hsame] at hkind
    have hlines := (forall₂_filterMap hlines).imp fun _ _ h =>
      DirectiveHandler.headerPair?_eq_some.1 h
    have hresponse : some (d.returns, c) = some (m.responseType, m.responseConverter) :=
      h.response
    obtain ⟨htype, hconverter⟩ := Prod.mk.inj (Option.some.inj hresponse)
    obtain ⟨more, hmore⟩ := List.head?_eq_some_iff.1 h.http
    rw [hmore, List.length_cons] at hhttp
    obtain rfl : more = [] := List.eq_nil_of_length_eq_zero (by omega)
    refine ⟨rfl, ?_, ?_⟩
    · exact {
        service := h.service
        name := h.name
        http := hmore
        headers := h.headers ▸ hlines
        asynchronous := h.asynchronous
        parameters := (List.forall₂_map_right_iff.1 hslots).imp fun _ _ h => fills_some.1 h
        bodyKind := hkind
        responseType := htype.symm
        response := hconverter ▸ hc }
    · exact {
        sameKind := hsame
        oneRaw := h.oneRaw
        oneUrl := h.oneUrl
        urlOrPath := h.urlOrPath
        names_nodup := h.names_nodup
        names_placeholders := h.names_placeholders }
  · rintro ⟨rfl, hdescribes, hconsistent⟩
    have hkinds : slotKinds (m.parameters.map some) = m.bodyKinds.filter (· ≠ .raw) :=
      slotKinds_map_some _
    have hheaders := (filterMap_of_forall₂ (hdescribes.headers.imp fun _ _ h =>
      DirectiveHandler.headerPair?_eq_some.2 h)).2
    have hconverter : c = m.responseConverter :=
      Converter.response.inj (Except.ok.inj (hc.symm.trans hdescribes.response))
    exact {
      service := hdescribes.service
      name := hdescribes.name
      http := by rw [configured, hdescribes.http]; rfl
      headers := hheaders.symm
      response := by rw [configured, hconverter, hdescribes.responseType]
      asynchronous := hdescribes.asynchronous
      length := by rw [configured, harity, List.length_map]
      places := fun i _ => lookup_placed_map_some m.parameters i
      sameKind := by
        rw [configured, hkinds, allSame_head_filter]
        exact hconsistent.sameKind
      oneRaw := hconsistent.oneRaw
      bodyKind := by
        rw [configured, hkinds, head?_head_filter _ hconsistent.sameKind]
        exact hdescribes.bodyKind
      oneUrl := hconsistent.oneUrl
      urlOrPath := hconsistent.urlOrPath
      names_nodup := hconsistent.names_nodup
      names_placeholders := hconsistent.names_placeholders }

/-- A standard declaration of a method resolves to a method when it describes it and the
parameters of the method fit together. -/
theorem resolveMethod_eq_ok {service : String} {d : MethodDeclaration} {m : ServiceMethod}
    (hstandard : d.IsStandard) :
    (ofConverters converters).resolveMethod service d = .ok m ↔
      (∀ e ∈ d.directives, e.target = .method) ∧ d.Describes converters service m ∧
        m.Consistent := by
  rw [resolveMethod_outcome]
  constructor
  · rintro ⟨b, hconfigure, hmakes⟩
    obtain ⟨slots, c, htargets, hhttp, hlines, hslots, -, hc, rfl⟩ :=
      (configure_eq_ok hstandard).1 hconfigure
    exact ⟨htargets, ((makes_configured_iff hhttp hlines hslots hc).1 hmakes).2⟩
  · rintro ⟨htargets, hdescribes, hconsistent⟩
    have hlines := filterMap_of_forall₂ (hdescribes.headers.imp fun _ _ h =>
      DirectiveHandler.headerPair?_eq_some.2 h)
    have hhttp : (d.directives.filterMap Directive.http?).length ≤ 1 := by
      rw [hdescribes.http]
      exact Nat.le_refl _
    have hslots : List.Forall₂ (Fills converters) d.parameters (m.parameters.map some) :=
      List.forall₂_map_right_iff.2 (hdescribes.parameters.imp fun _ _ h => fills_some.2 h)
    refine ⟨_, (configure_eq_ok hstandard).2 ⟨_, _, htargets, hhttp, hlines.1, hslots, ?_,
      hdescribes.response, rfl⟩, ?_⟩
    · rw [slotKinds_map_some]
      exact fun a ha b hb => hconsistent.sameKind a (List.mem_of_mem_filter ha) b
        (List.mem_of_mem_filter hb)
    · exact (makes_configured_iff hhttp hlines.1 hslots hdescribes.response).2
        ⟨rfl, hdescribes, hconsistent⟩

end ServiceResolver

/-! ## Well-formed declarations -/

namespace MethodDeclaration

/-- The roles of the parameters are those of the directives that they stand for. -/
theorem roles_of_binds {ps : List ParameterDeclaration} {qs : List Parameter}
    (h : List.Forall₂ (fun p q => ∃ e, p.directives = [e] ∧ Binds converters p.type e q) ps qs) :
    (ps.flatMap fun p => p.directives.filterMap Directive.role?) = qs.map Parameter.role ∧
      (qs.map Parameter.role).filterMap Role.bodyKind? =
        qs.filterMap Parameter.bodyKind? := by
  induction h with
  | nil => exact ⟨rfl, rfl⟩
  | @cons p q ps qs hfirst hrest ih =>
      obtain ⟨e, hone, -, capability, c, -, -, hq⟩ := hfirst
      have hrole := Directive.role_of_parameter? hq
      have hkind : q.bodyKind? = q.role.bodyKind? := by
        have hstandard := Directive.isStandard_of_parameter? hq
        cases q with
        | custom parameter => cases hstandard
        | _ => rfl
      constructor
      · rw [List.flatMap_cons, hone, ih.1, List.filterMap_cons_some hrole]
        rfl
      · rw [List.map_cons, List.filterMap_cons, List.filterMap_cons, ih.2, hkind]

theorem Describes.roles_eq {service : String} {d : MethodDeclaration} {m : ServiceMethod}
    (h : d.Describes converters service m) : d.roles = m.roles :=
  (roles_of_binds h.parameters).1

theorem Describes.bodyKinds_eq {service : String} {d : MethodDeclaration} {m : ServiceMethod}
    (h : d.Describes converters service m) : d.bodyKinds = m.bodyKinds := by
  rw [bodyKinds, h.roles_eq]
  exact (roles_of_binds h.parameters).2

theorem Describes.pathNames_eq {service : String} {d : MethodDeclaration} {m : ServiceMethod}
    (h : d.Describes converters service m) : d.pathNames = m.pathNames := by
  rw [pathNames, h.roles_eq]
  rfl

/-- A declaration that describes a method whose parameters fit together is well-formed. -/
theorem Describes.wellFormed {service : String} {d : MethodDeclaration} {m : ServiceMethod}
    (h : d.Describes converters service m) (htargets : ∀ e ∈ d.directives, e.target = .method)
    (hconsistent : m.Consistent) : d.WellFormed converters m.method m.path where
  onMethod := htargets
  oneHttp := h.http
  headers lines hlines line hline := by
    have hmem : line ∈ d.directives.flatMap Directive.headerLines :=
      List.mem_flatMap.2 ⟨.headers lines, hlines, hline⟩
    obtain ⟨_, name, value, hparts, hcolon, hthere, -⟩ :=
      exists_forall₂_iff.1 ⟨_, h.headers⟩ line hmem
    exact ⟨name, value, hparts, hcolon, hthere⟩
  onParameter p hp := by
    obtain ⟨q, e, hone, htarget, -⟩ := exists_forall₂_iff.1 ⟨_, h.parameters⟩ p hp
    exact ⟨e, hone, htarget⟩
  bodyRoles := by
    rw [h.bodyKinds_eq]
    exact sameKind_iff.1 ⟨hconsistent.sameKind, hconsistent.oneRaw⟩
  oneUrl := h.roles_eq ▸ hconsistent.oneUrl
  urlOrPath := h.roles_eq ▸ hconsistent.urlOrPath
  names_nodup := h.pathNames_eq ▸ hconsistent.names_nodup
  names_placeholders := h.pathNames_eq ▸ hconsistent.names_placeholders
  provided p hp e he capability hcapability := by
    obtain ⟨q, own, hone, -, found, c, hfound, hc, -⟩ :=
      exists_forall₂_iff.1 ⟨_, h.parameters⟩ p hp
    rw [hone, List.mem_singleton] at he
    subst he
    obtain rfl : capability = found := Option.some.inj (hcapability.symm.trans hfound)
    exact ⟨c, hc⟩
  response := ⟨_, h.response⟩

/-- A well-formed declaration describes a method whose parameters fit together. -/
theorem WellFormed.exists_describes {d : MethodDeclaration} {verb : Method} {path : Template}
    (h : d.WellFormed converters verb path) (hstandard : d.IsStandard) (service : String) :
    ∃ m, d.Describes converters service m ∧ m.Consistent := by
  have hparameters : ∀ p ∈ d.parameters,
      ∃ q, ∃ e, p.directives = [e] ∧ Binds converters p.type e q := by
    intro p hp
    obtain ⟨e, hone, htarget⟩ := h.onParameter p hp
    have he : e ∈ p.directives := hone ▸ List.mem_cons_self
    obtain ⟨capability, hcapability, hfits⟩ :=
      Directive.exists_parameter? (hstandard.2 p hp e he) htarget
    obtain ⟨c, hc⟩ := h.provided p hp e he capability hcapability
    obtain ⟨q, hq⟩ := hfits c (ServiceResolver.capability_of_resolve hc)
    exact ⟨q, e, hone, htarget, capability, c, hcapability, hc, hq⟩
  have hheaders : ∀ line ∈ d.directives.flatMap Directive.headerLines,
      ∃ pair, DirectiveHandler.HeaderLine line pair := by
    intro line hline
    obtain ⟨e, he, hmem⟩ := List.mem_flatMap.1 hline
    cases e with
    | headers lines =>
        obtain ⟨name, value, hparts, hcolon, hthere⟩ := h.headers lines he line hmem
        exact ⟨_, name, value, hparts, hcolon, hthere, rfl⟩
    | _ => exact absurd hmem List.not_mem_nil
  obtain ⟨qs, hqs⟩ := exists_forall₂_iff.2 hparameters
  obtain ⟨pairs, hpairs⟩ := exists_forall₂_iff.2 hheaders
  obtain ⟨c, hc⟩ := h.response
  obtain ⟨c, rfl⟩ := Converter.eq_response (ServiceResolver.capability_of_resolve hc)
  have hdescribes : d.Describes converters service {
      service := service
      name := d.name
      method := verb
      path := path
      headers := pairs
      bodyKind := (qs.filterMap Parameter.bodyKind?).head?
      parameters := qs
      responseType := d.returns
      responseConverter := c
      asynchronous := decide (.asynchronous ∈ d.directives) } :=
    ⟨rfl, rfl, h.oneHttp, hpairs, rfl, hqs, rfl, rfl, hc⟩
  have hkinds := sameKind_iff.2 h.bodyRoles
  rw [hdescribes.bodyKinds_eq] at hkinds
  refine ⟨_, hdescribes, ?_⟩
  exact {
    sameKind := hkinds.1
    oneRaw := hkinds.2
    oneUrl := hdescribes.roles_eq ▸ h.oneUrl
    urlOrPath := hdescribes.roles_eq ▸ h.urlOrPath
    names_nodup := hdescribes.pathNames_eq ▸ h.names_nodup
    names_placeholders := hdescribes.pathNames_eq ▸ h.names_placeholders }

end MethodDeclaration

/-! ## Services -/

/-- No directive of a service is of another kind. -/
def ServiceDeclaration.IsStandard (d : ServiceDeclaration) : Prop :=
  ∀ m ∈ d.methods, m.IsStandard

namespace ServiceResolver

theorem resolveMethods_eq_ok {service : String} {ds : List MethodDeclaration}
    {ms : List ServiceMethod} :
    (ofConverters converters).resolveMethods service ds = .ok ms ↔
      List.Forall₂ (fun d m => (ofConverters converters).resolveMethod service d = .ok m)
        ds ms := by
  induction ds generalizing ms with
  | nil =>
      rw [resolveMethods, Except.ok.injEq, eq_comm, List.forall₂_nil_left_iff]
  | cons d ds ih =>
      rw [resolveMethods, Outcome.bind_eq_ok]
      constructor
      · rintro ⟨m, hm, h⟩
        obtain ⟨rest, hrest, hms⟩ := Outcome.bind_eq_ok.1 h
        rw [Outcome.pure_eq_ok] at hms
        subst hms
        exact .cons hm (ih.1 hrest)
      · intro h
        cases h with
        | cons hm hrest => exact ⟨_, hm, Outcome.bind_eq_ok.2 ⟨_, ih.2 hrest, rfl⟩⟩

theorem resolve_eq_ok {declaration : ServiceDeclaration} {base : Url}
    {definition : ServiceDefinition} :
    (ofConverters converters).resolve declaration base = .ok definition ↔
      definition.name = declaration.name ∧ definition.base = base ∧
        List.Forall₂
          (fun d m => (ofConverters converters).resolveMethod declaration.name d = .ok m)
          declaration.methods definition.methods := by
  rw [resolve, Outcome.bind_eq_ok]
  simp only [resolveMethods_eq_ok, Outcome.pure_eq_ok]
  constructor
  · rintro ⟨ms, hms, rfl⟩
    exact ⟨rfl, rfl, hms⟩
  · rintro ⟨hname, hbase, hms⟩
    refine ⟨definition.methods, hms, ?_⟩
    rw [← hname, ← hbase]

/-- A standard declaration of a service resolves exactly when each of its methods is
well-formed, and then to the methods that the declarations describe, in their order. -/
theorem resolve_iff_wellFormed {declaration : ServiceDeclaration}
    (hstandard : declaration.IsStandard) (converters : ConverterRegistry) (base : Url) :
    ((∃ definition, (ofConverters converters).resolve declaration base = .ok definition) ↔
      ∀ d ∈ declaration.methods, ∃ verb path, d.WellFormed converters verb path) ∧
    ∀ definition, (ofConverters converters).resolve declaration base = .ok definition →
      definition.name = declaration.name ∧ definition.base = base ∧
        List.Forall₂ (fun d m => d.Describes converters declaration.name m)
          declaration.methods definition.methods := by
  have hmethod (d : MethodDeclaration) (hd : d ∈ declaration.methods) :
      (∃ m, (ofConverters converters).resolveMethod declaration.name d = .ok m) ↔
        ∃ verb path, d.WellFormed converters verb path := by
    simp only [resolveMethod_eq_ok (hstandard d hd)]
    constructor
    · rintro ⟨m, htargets, hdescribes, hconsistent⟩
      exact ⟨m.method, m.path, hdescribes.wellFormed htargets hconsistent⟩
    · rintro ⟨verb, path, h⟩
      obtain ⟨m, hdescribes, hconsistent⟩ :=
        h.exists_describes (hstandard d hd) declaration.name
      exact ⟨m, h.onMethod, hdescribes, hconsistent⟩
  refine ⟨⟨?_, ?_⟩, ?_⟩
  · rintro ⟨definition, h⟩ d hd
    obtain ⟨-, -, hmethods⟩ := resolve_eq_ok.1 h
    exact (hmethod d hd).1 (exists_forall₂_iff.1 ⟨_, hmethods⟩ d hd)
  · intro h
    obtain ⟨ms, hms⟩ := exists_forall₂_iff.2 fun d hd => (hmethod d hd).2 (h d hd)
    exact ⟨⟨declaration.name, base, ms⟩, resolve_eq_ok.2 ⟨rfl, rfl, hms⟩⟩
  · intro definition h
    obtain ⟨hname, hbase, hmethods⟩ := resolve_eq_ok.1 h
    have hboth := (List.forall₂_and_left _ _).2 ⟨hstandard, hmethods⟩
    exact ⟨hname, hbase, hboth.imp fun _ _ h => ((resolveMethod_eq_ok h.1).1 h.2).2.1⟩

/-- A service with one method, to try things on. -/
def users : ServiceDeclaration where
  name := "Users"
  methods := [{
    name := "get"
    directives := [.asynchronous, .http .get ⟨"/users/{id}"⟩, .headers ["Accept: text/plain"]]
    parameters := [⟨"tags", ⟨"Vec<String>"⟩, [.query "tag" false]⟩,
      ⟨"id", ⟨"u32"⟩, [.path "id" false]⟩]
    returns := ⟨"User"⟩ }]

theorem resolve_iff_wellFormed_users :
    users.IsStandard ∧
      ∃ definition, (ofConverters .standard).resolve users .localhost = .ok definition ∧
        (∀ d ∈ users.methods, ∃ verb path, d.WellFormed .standard verb path) ∧
        List.Forall₂ (fun d m => d.Describes .standard users.name m)
          users.methods definition.methods := by
  have hstandard : users.IsStandard := by
    simp [users, ServiceDeclaration.IsStandard, MethodDeclaration.IsStandard,
      Directive.isStandard]
  have hsome : ((ofConverters .standard).resolve users .localhost).toOption.isSome = true := by
    decide +kernel
  obtain ⟨definition, hresolve⟩ :
      ∃ definition, (ofConverters .standard).resolve users .localhost = .ok definition := by
    cases h : (ofConverters .standard).resolve users .localhost with
    | ok definition => exact ⟨definition, rfl⟩
    | error e =>
        rw [h] at hsome
        cases hsome
  obtain ⟨hiff, hmethods⟩ := resolve_iff_wellFormed hstandard .standard .localhost
  exact ⟨hstandard, definition, hresolve, hiff.1 ⟨_, hresolve⟩, (hmethods _ hresolve).2.2⟩

end ServiceResolver

end WebClient
