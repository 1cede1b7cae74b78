import WebClient.Proofs.Directive.Failing
import WebClient.Proofs.Directive.Registering
import WebClient.Proofs.Service.Acceptance

/-!
# Resolvers with further handlers and factories

All that resolving a declared method looks up is the handler of each directive of the
declaration and the converter of each type that it asks for (`AgreeOn`).  So resolvers that
find the same there resolve the method alike, and what is added to a resolver without being
looked up, or behind what is found, changes nothing (`resolve_conservative`).
-/

namespace WebClient

/-! ## What a declaration asks for -/

namespace MethodDeclaration

/-- The directives of a declared method and of its parameters. -/
def allDirectives (m : MethodDeclaration) : List Directive :=
  m.directives ++ m.parameters.flatMap ParameterDeclaration.directives

/-- A declared method asks for a converter: a directive of a parameter asks for one for the
type of the parameter, and the answer for one that converts it. -/
def Asks (m : MethodDeclaration) (type : TypeName) (capability : Capability) : Prop :=
  (type = m.returns ∧ capability = .responseBody) ∨
    ∃ p ∈ m.parameters, p.type = type ∧ ∃ d ∈ p.directives, d.capability? = some capability

theorem mem_allDirectives_of_parameter {m : MethodDeclaration} {p : ParameterDeclaration}
    {d : Directive} (hp : p ∈ m.parameters) (hd : d ∈ p.directives) : d ∈ m.allDirectives :=
  List.mem_append_right _ (List.mem_flatMap.2 ⟨p, hp, hd⟩)

end MethodDeclaration

namespace ServiceDeclaration

/-- The directives of all methods of a declared service. -/
def allDirectives (s : ServiceDeclaration) : List Directive :=
  s.methods.flatMap MethodDeclaration.allDirectives

/-- One of the methods asks for a converter. -/
def Asks (s : ServiceDeclaration) (type : TypeName) (capability : Capability) : Prop :=
  ∃ m ∈ s.methods, m.Asks type capability

end ServiceDeclaration

namespace ServiceResolver

/-! ## Resolvers that find the same -/

/-- What a declared method is resolved with is found alike by two resolvers. -/
structure AgreeOn (r r' : ServiceResolver) (m : MethodDeclaration) : Prop where
  handler : ∀ d ∈ m.allDirectives, r'.handlers.get? d.variant = r.handlers.get? d.variant
  converter : ∀ type capability, m.Asks type capability →
    r'.converters.resolve type capability = r.converters.resolve type capability

variable {r r' : ServiceResolver}

theorem apply_congr {declaredOn : Target} {type : Option TypeName} {index : Option Nat}
    {d : Directive} (hhandler : r'.handlers.get? d.variant = r.handlers.get? d.variant)
    (hconverter : r'.converterFor d type = r.converterFor d type) :
    r'.apply declaredOn type index d = r.apply declaredOn type index d := by
  rw [apply, apply, hhandler, hconverter]

/-- No converter is looked up for a directive of a method. -/
theorem applyToMethod_congr {ds : List Directive}
    (h : ∀ d ∈ ds, r'.handlers.get? d.variant = r.handlers.get? d.variant) :
    r'.applyToMethod ds = r.applyToMethod ds := by
  induction ds with
  | nil => rfl
  | cons d ds ih =>
      obtain ⟨hd, hds⟩ := List.forall_mem_cons.1 h
      have hconverter : r'.converterFor d none = r.converterFor d none := by
        unfold converterFor
        cases d.capability? <;> rfl
      rw [applyToMethod, applyToMethod, apply_congr hd hconverter, ih hds]

theorem applyToParameter_congr {type : TypeName} {index : Nat} {ds : List Directive}
    (hhandler : ∀ d ∈ ds, r'.handlers.get? d.variant = r.handlers.get? d.variant)
    (hconverter : ∀ d ∈ ds, ∀ capability, d.capability? = some capability →
      r'.converters.resolve type capability = r.converters.resolve type capability) :
    r'.applyToParameter type index ds = r.applyToParameter type index ds := by
  induction ds with
  | nil => rfl
  | cons d ds ih =>
      obtain ⟨hd, hds⟩ := List.forall_mem_cons.1 hhandler
      obtain ⟨hown, hrest⟩ := List.forall_mem_cons.1 hconverter
      have hfound : r'.converterFor d (some type) = r.converterFor d (some type) := by
        unfold converterFor
        cases hcapability : d.capability? with
        | none => rfl
        | some capability =>
            dsimp only
            rw [hown capability hcapability]
      rw [applyToParameter, applyToParameter, apply_congr hd hfound, ih hds hrest]

theorem applyToParameters_congr {index : Nat} {ps : List ParameterDeclaration}
    (hhandler : ∀ p ∈ ps, ∀ d ∈ p.directives,
      r'.handlers.get? d.variant = r.handlers.get? d.variant)
    (hconverter : ∀ p ∈ ps, ∀ d ∈ p.directives, ∀ capability, d.capability? = some capability →
      r'.converters.resolve p.type capability = r.converters.resolve p.type capability) :
    r'.applyToParameters index ps = r.applyToParameters index ps := by
  induction ps generalizing index with
  | nil => rfl
  | cons p ps ih =>
      obtain ⟨hp, hps⟩ := List.forall_mem_cons.1 hhandler
      obtain ⟨hown, hrest⟩ := List.forall_mem_cons.1 hconverter
      rw [applyToParameters, applyToParameters, applyToParameter_congr hp hown, ih hps hrest]

namespace AgreeOn

variable {m : MethodDeclaration}

/-- Resolvers that find the same for a method take the same steps to build it. -/
theorem configure_eq (h : AgreeOn r r' m) : r'.configure m = r.configure m := by
  have hmethod : r'.applyToMethod m.directives = r.applyToMethod m.directives :=
    applyToMethod_congr fun d hd => h.handler d (List.mem_append_left _ hd)
  have hparameters : r'.applyToParameters 0 m.parameters = r.applyToParameters 0 m.parameters :=
    applyToParameters_congr
      (fun p hp d hd =>
        h.handler d (MethodDeclaration.mem_allDirectives_of_parameter hp hd))
      fun p hp d hd capability hcapability =>
        h.converter p.type capability (Or.inr ⟨p, hp, rfl, d, hd, hcapability⟩)
  have hanswer : r'.converters.resolve m.returns .responseBody =
      r.converters.resolve m.returns .responseBody :=
    h.converter m.returns .responseBody (Or.inl ⟨rfl, rfl⟩)
  rw [configure, configure, hmethod, hparameters, hanswer]

theorem resolveMethod_eq (h : AgreeOn r r' m) (service : String) :
    r'.resolveMethod service m = r.resolveMethod service m := by
  rw [resolveMethod, resolveMethod, h.configure_eq]

end AgreeOn

theorem resolveMethods_congr {service : String} {ms : List MethodDeclaration}
    (h : ∀ m ∈ ms, AgreeOn r r' m) : r'.resolveMethods service ms = r.resolveMethods service ms := by
  induction ms with
  | nil => rfl
  | cons m ms ih =>
      obtain ⟨hm, hms⟩ := List.forall_mem_cons.1 h
      rw [resolveMethods, resolveMethods, hm.resolveMethod_eq service, ih hms]

/-- Resolvers that find the same for each method of a declared service resolve it alike,
whether they resolve it or not. -/
theorem resolve_congr {declaration : ServiceDeclaration}
    (h : ∀ m ∈ declaration.methods, AgreeOn r r' m) (base : Url) :
    r'.resolve declaration base = r.resolve declaration base := by
  rw [resolve, resolve, resolveMethods_congr h]

/-! ## Resolvers with the standard handlers -/

/-- Standard directives are carried out as usual. -/
def HasStandardHandlers (r : ServiceResolver) : Prop :=
  ∀ d : Directive, d.isStandard = true →
    r.handlers.get? d.variant = DirectiveHandler.standard? d

theorem hasStandardHandlers_ofConverters (converters : ConverterRegistry) :
    (ofConverters converters).HasStandardHandlers :=
  fun _ => DirectiveHandler.get?_standard

/-- Further handlers may be added. -/
theorem HasStandardHandlers.withHandler {handler : DirectiveHandler}
    (h : r.HasStandardHandlers) (hadd : r.withHandler handler = .ok r') :
    r'.HasStandardHandlers := by
  obtain ⟨handlers, hregister, rfl⟩ := Outcome.map_eq_ok.1 hadd
  obtain ⟨-, rfl⟩ := HandlerRegistry.register_eq_ok.1 hregister
  intro d hd
  obtain ⟨known, hknown⟩ := DirectiveHandler.exists_standard? hd
  have hget := h d hd
  rw [hknown] at hget
  rw [hknown, HandlerRegistry.get?_append, hget, Option.some_or]

theorem HasStandardHandlers.agreeOn (h : r.HasStandardHandlers) {m : MethodDeclaration}
    (hm : m.IsStandard) : AgreeOn (ofConverters r.converters) r m where
  handler d hd := by
    have hstandard : d.isStandard = true := by
      rcases List.mem_append.1 hd with hown | hparameter
      · exact hm.1 d hown
      · obtain ⟨p, hp, hd⟩ := List.mem_flatMap.1 hparameter
        exact hm.2 p hp d hd
    rw [h d hstandard]
    exact (DirectiveHandler.get?_standard hstandard).symm
  converter _ _ _ := rfl

/-- Further handlers change nothing about standard declarations. -/
theorem HasStandardHandlers.resolve_eq (h : r.HasStandardHandlers)
    {declaration : ServiceDeclaration} (hstandard : ∀ m ∈ declaration.methods, m.IsStandard)
    (base : Url) :
    r.resolve declaration base = (ofConverters r.converters).resolve declaration base :=
  resolve_congr (fun m hm => h.agreeOn (hstandard m hm)) base

/-! ## What is added without being looked up -/

/-- A handler for a variant that no directive of a method has is not looked up. -/
theorem agreeOn_withHandler {handler : DirectiveHandler} {m : MethodDeclaration}
    (hadd : r.withHandler handler = .ok r')
    (hunused : ∀ d ∈ m.allDirectives, d.variant ≠ handler.variant) : AgreeOn r r' m := by
  obtain ⟨handlers, hregister, rfl⟩ := Outcome.map_eq_ok.1 hadd
  obtain ⟨-, rfl⟩ := HandlerRegistry.register_eq_ok.1 hregister
  constructor
  case handler =>
    intro d hd
    rw [HandlerRegistry.get?_append, if_neg (hunused d hd).symm, Option.or_none]
  case converter => exact fun _ _ _ => rfl

end ServiceResolver

/-- The factory has no converter of a capability for a type, or one that was added to the
registry earlier has one. -/
def ConverterRegistry.Precedes (registry : ConverterRegistry) (factory : ConverterFactory)
    (type : TypeName) (capability : Capability) : Prop :=
  factory.provide? type capability = none ∨
    ∃ earlier ∈ registry.factories, (earlier.provide? type capability).isSome

/-- A factory that is added behind others decides only what none of them decides. -/
theorem ConverterRegistry.resolve_addFactory {registry : ConverterRegistry}
    {factory : ConverterFactory} {type : TypeName} {capability : Capability}
    (h : registry.Precedes factory type capability) :
    (registry.addFactory factory).resolve type capability =
      registry.resolve type capability := by
  have hfound : (registry.factories ++ [factory]).findSome? (·.provide? type capability) =
      registry.factories.findSome? (·.provide? type capability) := by
    rw [List.findSome?_append]
    rcases h with hnone | ⟨earlier, hearlier, hsome⟩
    · rw [List.findSome?_singleton, hnone, Option.or_none]
    · have hdecided : (registry.factories.findSome? (·.provide? type capability)).isSome :=
        List.findSome?_isSome_iff.2 ⟨earlier, hearlier, hsome⟩
      exact Option.or_of_isSome hdecided
  rw [resolve, resolve, addFactory, List.findSome?_append, hfound, ← List.findSome?_append]

namespace ServiceResolver

theorem agreeOn_addFactory (r : ServiceResolver) {factory : ConverterFactory}
    {m : MethodDeclaration}
    (h : ∀ type capability, m.Asks type capability →
      r.converters.Precedes factory type capability) :
    AgreeOn r (r.addFactory factory) m where
  handler _ _ := rfl
  converter type capability hasks := ConverterRegistry.resolve_addFactory (h type capability hasks)

/-- Resolving is the same, whether it succeeds or not, with one more handler for a variant that
no directive of the declaration has, and with one more factory behind the others that provides
none of the converters that the declaration asks for and no earlier factory provides.  A
handler is refused when its variant has one, and then the registry stays as it is. -/
theorem resolve_conservative (r : ServiceResolver) (declaration : ServiceDeclaration)
    (base : Url) :
    (∀ (handler : DirectiveHandler) (r' : ServiceResolver), r.withHandler handler = .ok r' →
        (∀ d ∈ declaration.allDirectives, d.variant ≠ handler.variant) →
        r'.resolve declaration base = r.resolve declaration base) ∧
      (∀ factory : ConverterFactory,
        (∀ type capability, declaration.Asks type capability →
          r.converters.Precedes factory type capability) →
        (r.addFactory factory).resolve declaration base = r.resolve declaration base) ∧
      ∀ (handler : DirectiveHandler) (e : ConfigError) (left : HandlerRegistry),
        (HandlerRegistry.enter handler).run r.handlers = (.error e, left) ↔
          (r.handlers.get? handler.variant).isSome ∧
            e = .of (.duplicateHandler handler.variant) ∧ left = r.handlers := by
  refine ⟨fun handler r' hadd hunused => ?_, fun factory hprecedes => ?_, ?_⟩
  · refine resolve_congr (fun m hm => agreeOn_withHandler hadd fun d hd => ?_) base
    exact hunused d (List.mem_flatMap.2 ⟨m, hm, hd⟩)
  · refine resolve_congr (fun m hm => r.agreeOn_addFactory fun type capability hasks => ?_) base
    exact hprecedes type capability ⟨m, hm, hasks⟩
  · exact fun _ _ _ => HandlerRegistry.run_enter_eq_error

/-- A service that takes texts and answers with texts. -/
def notes : ServiceDeclaration where
  name := "Notes"
  methods := [{
    name := "write"
    directives := [.http .post ⟨"/notes/{id}"⟩]
    parameters := [⟨"id", ⟨"u32"⟩, [.path "id" false]⟩, ⟨"text", ⟨"String"⟩, [.body]⟩]
    returns := ⟨"String"⟩ }]

/-- The standard handlers, with plain texts in front of JSON. -/
def plainFirst : ServiceResolver := ⟨.standard, ConverterRegistry.standard.addFactory .plainText⟩

/-- Lets methods be marked as ones whose answers are kept. -/
def keeping : DirectiveHandler := ⟨"Kept", fun _ _ _ => pure (), .word "KeepingHandler"⟩

/-- Plain texts once more are behind the plain texts that are provided already, and provide
nothing for other types. -/
theorem notes_precedes (type : TypeName) (capability : Capability)
    (hasks : notes.Asks type capability) :
    plainFirst.converters.Precedes .plainText type capability := by
  obtain ⟨m, hm, hasks⟩ := hasks
  obtain rfl := List.mem_singleton.1 hm
  obtain ⟨rfl, rfl⟩ | ⟨p, hp, rfl, d, hd, hcapability⟩ := hasks
  · exact Or.inr ⟨.plainText, List.mem_singleton_self _, rfl⟩
  · simp only [List.mem_cons, List.not_mem_nil, or_false] at hp
    obtain rfl | rfl := hp
    · obtain rfl := List.mem_singleton.1 hd
      cases hcapability
      exact Or.inl rfl
    · obtain rfl := List.mem_singleton.1 hd
      cases hcapability
      exact Or.inr ⟨.plainText, List.mem_singleton_self _, rfl⟩

theorem resolve_conservative_notes :
    ∃ r definition, plainFirst.withHandler keeping = .ok r ∧
      plainFirst.resolve notes .localhost = .ok definition ∧
      r.resolve notes .localhost = .ok definition ∧
      (plainFirst.addFactory .plainText).resolve notes .localhost = .ok definition ∧
      (HandlerRegistry.enter .path).run plainFirst.handlers =
        (.error (.of (.duplicateHandler "Path")), plainFirst.handlers) := by
  obtain ⟨hhandler, hfactory, hrefused⟩ := resolve_conservative plainFirst notes .localhost
  obtain ⟨definition, hdefinition⟩ : ∃ definition,
      plainFirst.resolve notes .localhost = .ok definition :=
    Outcome.exists_ok_of_isSome (by decide +kernel)
  have hadd : plainFirst.withHandler keeping = .ok
      ⟨⟨plainFirst.handlers.handlers ++ [keeping]⟩, plainFirst.converters⟩ := rfl
  have hunused : ∀ d ∈ notes.allDirectives, d.variant ≠ keeping.variant := by decide
  exact ⟨_, definition, hadd, hdefinition, (hhandler keeping _ hadd hunused).trans hdefinition,
    (hfactory .plainText notes_precedes).trans hdefinition,
    (hrefused .path _ _).2 ⟨rfl, rfl, rfl⟩⟩

end ServiceResolver

end WebClient
