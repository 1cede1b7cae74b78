import WebClient.Json.Data
import WebClient.Proofs.Interface.Emission
import WebClient.Proofs.Interface.Generating
import WebClient.Proofs.Service.Acceptance
import WebClient.Proofs.Service.Extending
import WebClient.Proofs.Service.Twin

/-!
# Calls of a generated client

The tokens that are made from a trait build a declaration, and they have a function for each
method of the trait that hands its arguments on under a name, in one of the two ways to call.
The two are made apart from each other; `ClientMethod.Mirrors` says in what they agree with each
other and with the trait.  Once the declaration is resolved, the name reaches the method that was
declared at the same place, in the way that it wants to be called and with as many arguments as
it takes.  So no call is refused for its name, its way or its number of arguments
(`Interface.reaches_of_resolve`).
-/

namespace WebClient

open Source (Attribute Input Phrase Signature Token Trait TraitMethod)

/-! ## What the generated declaration is -/

/-- Markers that are standard directives have the directives that they are. -/
theorem Marker.mapM_directive?_of_isStandard {markers : List Marker}
    (h : ∀ m ∈ markers, m.IsStandard) :
    ∃ ds, markers.mapM Marker.directive? = some ds ∧ markers = ds.map .directive ∧
      ∀ d ∈ ds, d.isStandard = true := by
  induction markers with
  | nil => exact ⟨[], rfl, rfl, by simp⟩
  | cons marker markers ih =>
      obtain ⟨⟨d, rfl, hd⟩, hrest⟩ := List.forall_mem_cons.1 h
      obtain ⟨ds, hds, rfl, hstandard⟩ := ih hrest
      refine ⟨d :: ds, ?_, rfl, List.forall_mem_cons.2 ⟨hd, hstandard⟩⟩
      rw [List.mapM_cons, hds]
      rfl

namespace Interface

/-- A parameter is declared under its name, with standard directives, and written so. -/
structure DeclaresParameter (p : InterfaceParameter) (declaration : ParameterDeclaration) :
    Prop where
  value : parameterDeclaration? p = some declaration
  written : declaration.IsWritten (declaredParameter p).tokens
  isStandard : ∀ d ∈ declaration.directives, d.isStandard = true
  name : declaration.name = p.name

theorem exists_declaresParameter {p : InterfaceParameter} (h : ∀ m ∈ p.markers, m.IsStandard) :
    ∃ declaration, DeclaresParameter p declaration := by
  obtain ⟨ds, hds, hmap, hstandard⟩ := Marker.mapM_directive?_of_isStandard h
  refine ⟨⟨p.name, .ofText (Token.compact p.type.tokens), ds⟩, ?_, ?_, hstandard, rfl⟩
  · rw [parameterDeclaration?, hds]
    rfl
  · have hwritten := ParameterDeclaration.IsWritten.new (Token.isText_quote p.name)
      (Token.isText_quote (Token.compact p.type.tokens)) (Marker.sends_additions hstandard)
    rw [← hmap] at hwritten
    rw [DeclaredParameter.tokens, Token.library_eq]
    exact hwritten

/-- A method is declared under its name, with its parameters and with standard directives, and
written so. -/
structure Declares (i : Interface) (m : InterfaceMethod) (declaration : MethodDeclaration) :
    Prop where
  value : i.methodDeclaration? m = some declaration
  written : declaration.IsWritten (i.declaredMethod m).tokens
  isStandard : declaration.IsStandard
  name : declaration.name = m.signature.name
  parameters : declaration.parameters.map ParameterDeclaration.name =
    m.parameters.map InterfaceParameter.name
  asynchronous : .asynchronous ∈ declaration.directives ↔ .directive .asynchronous ∈ m.markers

theorem exists_declares {i : Interface} {m : InterfaceMethod}
    (hmarkers : ∀ marker ∈ i.markersOf m, marker.IsStandard)
    (hparameters : ∀ p ∈ m.parameters, ∀ marker ∈ p.markers, marker.IsStandard) :
    ∃ declaration, i.Declares m declaration := by
  obtain ⟨ds, hds, hmap, hstandard⟩ := Marker.mapM_directive?_of_isStandard hmarkers
  obtain ⟨ps, hps⟩ := exists_forall₂_iff.2 fun p hp => exists_declaresParameter (hparameters p hp)
  have hvalues : m.parameters.mapM parameterDeclaration? = some ps :=
    Outcome.mapM_eq_some.2 (hps.imp fun _ _ h => h.value)
  refine ⟨⟨m.signature.name, ds, ps, .ofText (Token.compact m.answer.tokens)⟩, ?_, ?_,
    ⟨hstandard, ?_⟩, rfl, ?_, ?_⟩
  · rw [methodDeclaration?, hds, hvalues]
    rfl
  · have htaken : List.Forall₂ (fun (p : ParameterDeclaration) (d : DeclaredParameter) =>
        p.IsWritten d.tokens) ps (m.parameters.map declaredParameter) := by
      rw [List.forall₂_map_right_iff]
      exact hps.flip.imp fun _ _ h => h.written
    have hwritten := MethodDeclaration.IsWritten.new (Token.isText_quote m.signature.name)
      (Token.isText_quote (Token.compact m.answer.tokens)) (Marker.sends_additions hstandard)
      (Token.sends_flatMap htaken)
    rw [← hmap] at hwritten
    rw [DeclaredMethod.tokens, Token.library_eq, List.append_assoc, List.append_assoc]
    exact hwritten
  · intro p hp
    obtain ⟨own, hown⟩ := exists_forall₂_iff.1 ⟨_, hps.flip⟩ p hp
    exact hown.isStandard
  · rw [← List.forall₂_eq_eq_eq, List.forall₂_map_left_iff, List.forall₂_map_right_iff]
    exact hps.flip.imp fun _ _ h => h.name
  · have hmem : .asynchronous ∈ ds ↔ .directive .asynchronous ∈ i.markersOf m := by
      simp [hmap]
    rw [hmem, mem_markersOf]
    simp

end Interface

/-! ## What the methods of a client do -/

/-- What the arguments of a client method are handed on as, where its parameters are bound to
data. -/
def ClientMethod.values (c : ClientMethod) (bound : String → Json.Data) :
    Except Error (List Json.Value) :=
  c.arguments.mapM fun name => (bound name).toValue.mapError .jsonSerialization

/-- What a client method does where its parameters are bound to data; the answer of a deferred
call is waited for. -/
def ClientMethod.run {σ α : Type} (c : ClientMethod) (s : ServiceClient σ)
    (decode : Json.Value → Except Error α) (boundary : String) (bound : String → Json.Data) :
    Action σ (Except Error α) :=
  match c.values bound with
  | .error e => pure (.error e)
  | .ok values =>
      if c.deferred then s.callAndWait decode boundary c.name values
      else s.call decode boundary c.name values

/-- The request of arguments of which there are as many as parameters. -/
def ServiceMethod.requestFor (m : ServiceMethod) (boundary : String) (base : Url)
    (arguments : List Json.Value) : Except Error Request := do
  let draft ← applyAll m.parameters arguments (m.startDraft boundary base)
  draft.build

/-- What a client method does is to hand its arguments to one method of a service: the name
and the way of calling are those of that method, as many arguments are handed on as it takes,
and nothing is refused but for a value of an argument or for the URL. -/
structure ClientMethod.Reaches {σ : Type} (c : ClientMethod) (s : ServiceClient σ)
    (m : ServiceMethod) : Prop where
  lookup : s.lookup c.name c.deferred = .ok m
  arity : m.arity = c.arguments.length
  run_eq {α : Type} (decode : Json.Value → Except Error α) (boundary : String)
    (bound : String → Json.Data) :
    c.run s decode boundary bound =
      match c.values bound with
      | .error e => pure (.error e)
      | .ok values =>
          match m.requestFor boundary s.base values with
          | .error e => pure (.error e)
          | .ok request => m.perform decode s.client request

theorem ClientMethod.reaches_of_lookup {σ : Type} {c : ClientMethod} {s : ServiceClient σ}
    {m : ServiceMethod} (hlookup : s.lookup c.name c.deferred = .ok m)
    (harity : m.arity = c.arguments.length) : c.Reaches s m := by
  refine ⟨hlookup, harity, fun decode boundary bound => ?_⟩
  unfold ClientMethod.run
  cases hvalues : c.values bound with
  | error e => rfl
  | ok values =>
      have hlength : values.length = m.arity := by
        rw [harity]
        exact (Outcome.mapM_eq_ok.1 hvalues).length_eq.symm
      have hrequest : m.buildRequest boundary s.base values =
          m.requestFor boundary s.base values :=
        if_neg (not_not_intro hlength)
      -- Both ways to call are the method's own way to be invoked, once it is found.
      cases hmode : c.deferred with
      | true =>
          rw [hmode] at hlookup
          have hcall := s.callAndWait_of_lookup decode boundary c.name values hlookup
          rw [m.invokeAndWait_eq, hrequest] at hcall
          exact hcall
      | false =>
          rw [hmode] at hlookup
          have hcall := s.call_of_lookup decode boundary c.name values hlookup
          rw [m.invokeAndWait_eq, hrequest] at hcall
          exact hcall

/-- Among methods of distinct names, each is found under its own. -/
theorem ServiceClient.method?_of_nodup {σ : Type} {s : ServiceClient σ}
    (hnames : (s.methods.map ServiceMethod.name).Nodup) {m : ServiceMethod}
    (hm : m ∈ s.methods) : s.method? m.name = some m := by
  unfold ServiceClient.method?
  generalize s.methods = methods at hnames hm
  induction methods with
  | nil => cases hm
  | cons first rest ih =>
      obtain ⟨hfirst, hrest⟩ := List.nodup_cons.1 hnames
      obtain rfl | hm := List.mem_cons.1 hm
      · exact List.find?_cons_of_pos (decide_eq_true rfl)
      · have hother : first.name ≠ m.name := fun hsame =>
          hfirst (hsame ▸ List.mem_map_of_mem hm)
        rw [List.find?_cons_of_neg (by simpa using hother)]
        exact ih hrest hm

/-! ## What the declaration and the client have in common -/

namespace Source

theorem Input.pattern?_keeping (keep : Attribute → Bool) (input : Input) :
    (input.keeping keep).pattern? = input.pattern? := by
  cases input <;> rfl

theorem Signature.patterns_mapInputs_keeping (s : Signature) (keep : Attribute → Bool) :
    (s.mapInputs (Input.keeping keep)).patterns = s.patterns := by
  simp [patterns, mapInputs, List.map_map, List.filterMap_map, Function.comp_def,
    Input.pattern?_keeping]

end Source

/-- The function of a client and the declaration of a method are made from one method of the
trait: under one name, with the typed inputs in their order, and deferred exactly when the type
that is returned says so, when the method is not asynchronous, and when a directive of the
declaration says that the answer comes later. -/
structure ClientMethod.Mirrors (t : TraitMethod) (d : MethodDeclaration) (c : ClientMethod) :
    Prop where
  signature : ∃ inputs, c.signature = { t.signature with inputs := inputs }
  patterns : c.signature.patterns = t.signature.patterns
  traitName : d.name = t.signature.name
  name : c.name = d.name
  arguments : t.signature.patterns.map Phrase.name? = c.arguments.map some
  parameters : d.parameters.map ParameterDeclaration.name = c.arguments
  deferred : c.deferred = true ↔ t.signature.ReturnsDeferred
  synchronous : c.deferred = true ↔ t.signature.isAsynchronous = false
  asynchronous : c.deferred = true ↔ .asynchronous ∈ d.directives

namespace Interface

variable {i : Interface}

theorem mirrors_of_reads {t : TraitMethod} {m : InterfaceMethod} {d : MethodDeclaration}
    (h : InterfaceMethod.Reads t m) (hdeclares : i.Declares m d) :
    ClientMethod.Mirrors t d (clientMethod m) := by
  have hsignature : m.plainSignature =
      t.signature.mapInputs (Input.keeping fun a => !Marker.isParameterAttribute a) := by
    rw [InterfaceMethod.plainSignature, h.signature]
  exact {
    signature := ⟨_, hsignature⟩
    patterns := by
      rw [clientMethod, hsignature]
      exact t.signature.patterns_mapInputs_keeping _
    traitName := hdeclares.name.trans (congrArg Signature.name h.signature)
    name := hdeclares.name.symm
    arguments := by
      rw [h.names, clientMethod, List.map_map]
      rfl
    parameters := hdeclares.parameters
    deferred := h.deferred_iff
    synchronous := h.synchronous_iff
    asynchronous := h.asynchronous_mem_iff.trans hdeclares.asynchronous.symm }

/-- The methods of an accepted trait without expressions for directives are declared one by
one. -/
theorem exists_forall₂_declares {settings item : List Token} (h : ofTokens settings item = .ok i)
    (hplain : ∀ t ∈ i.source.methods, t.IsPlain) :
    ∃ declarations, List.Forall₂ i.Declares i.methods declarations := by
  refine exists_forall₂_iff.2 fun m hm => ?_
  have hreads := (List.forall₂_and_left _ _).2 ⟨hplain, (reads_of_ofTokens h).2⟩
  obtain ⟨t, ht, hread⟩ := exists_forall₂_iff.1 ⟨_, hreads.flip⟩ m hm
  exact exists_declares (markersOf_isStandard hread ht) (hread.parameters_isStandard ht)

/-- A method that is declared next to a function of the client resolves to one that the function
can call. -/
theorem fits_of_resolveMethod {converters : ConverterRegistry} {service : String}
    {t : TraitMethod} {c : ClientMethod} {declaration : MethodDeclaration} {m : ServiceMethod}
    (hmirrors : c.Mirrors t declaration) (hstandard : declaration.IsStandard)
    (h : (ServiceResolver.ofConverters converters).resolveMethod service declaration = .ok m) :
    m.name = t.signature.name ∧ c.name = m.name ∧ m.asynchronous = c.deferred ∧
      m.arity = c.arguments.length := by
  obtain ⟨-, hdescribes, -⟩ := (ServiceResolver.resolveMethod_eq_ok hstandard).1 h
  have hmode : m.asynchronous = true ↔ c.deferred = true := by
    rw [hdescribes.asynchronous, decide_eq_true_eq]
    exact hmirrors.asynchronous.symm
  refine ⟨hdescribes.name.trans hmirrors.traitName, hmirrors.name.trans hdescribes.name.symm,
    Bool.eq_iff_iff.2 hmode, ?_⟩
  rw [ServiceMethod.arity, ← hdescribes.parameters.length_eq, ← hmirrors.parameters,
    List.length_map]

/-- The tokens that are made from a trait build a declaration of standard directives and
implement the trait; at each place of the trait, what is declared and the function of the client
mirror each other. -/
structure Implemented (i : Interface) (declaration : ServiceDeclaration) : Prop where
  implements : Implements i.source.name declaration i.client.methods i.client.tokens
  value : i.declaration? = some declaration
  isStandard : declaration.IsStandard
  declared : declaration.methods.length = i.source.methods.length
  functions : i.client.methods.length = i.source.methods.length
  mirrors {k : Nat} {t : TraitMethod} (ht : i.source.methods[k]? = some t) :
    ∃ (d : MethodDeclaration) (c : ClientMethod), declaration.methods[k]? = some d ∧
      i.client.methods[k]? = some c ∧ c.Mirrors t d

theorem exists_implemented {settings item : List Token} (h : ofTokens settings item = .ok i)
    (hplain : ∀ t ∈ i.source.methods, t.IsPlain) :
    ∃ declaration, i.Implemented declaration := by
  have hreads := (reads_of_ofTokens h).2
  obtain ⟨declarations, hdeclares⟩ := exists_forall₂_declares h hplain
  have hwritten : List.Forall₂ (fun (m : MethodDeclaration) (d : DeclaredMethod) =>
      m.IsWritten d.tokens) declarations i.client.declared := by
    rw [client, List.forall₂_map_right_iff]
    exact hdeclares.flip.imp fun _ _ h => h.written
  refine ⟨⟨i.name, declarations⟩, i.client.implements_tokens rfl hwritten, ?value, ?isStandard,
    ?declared, ?functions, ?mirrors⟩
  case value =>
    rw [declaration?, Outcome.mapM_eq_some.2 (hdeclares.imp fun _ _ h => h.value)]
    rfl
  case isStandard =>
    intro d hd
    obtain ⟨m, hm⟩ := exists_forall₂_iff.1 ⟨_, hdeclares.flip⟩ d hd
    exact hm.isStandard
  case declared => exact hdeclares.length_eq.symm.trans hreads.length_eq.symm
  case functions => rw [client, List.length_map, hreads.length_eq]
  case mirrors =>
    intro k t ht
    obtain ⟨m, hm, hread⟩ := Outcome.exists_getElem?_of_forall₂ hreads ht
    obtain ⟨d, hd, hdeclare⟩ := Outcome.exists_getElem?_of_forall₂ hdeclares hm
    exact ⟨d, clientMethod m, hd, by simp [client, hm], mirrors_of_reads hread hdeclare⟩

section

variable {declaration : ServiceDeclaration} {converters : ConverterRegistry} {base : Url}
  {definition : ServiceDefinition}

/-- At each place of a trait, the declared method resolves to one that the function of the client
can call. -/
theorem Implemented.fits (h : i.Implemented declaration)
    (hresolve : (ServiceResolver.ofConverters converters).resolve declaration base =
      .ok definition) {k : Nat} {t : TraitMethod} (ht : i.source.methods[k]? = some t) :
    ∃ (c : ClientMethod) (m : ServiceMethod), i.client.methods[k]? = some c ∧
      definition.methods[k]? = some m ∧ m.name = t.signature.name ∧ c.name = m.name ∧
      m.asynchronous = c.deferred ∧ m.arity = c.arguments.length := by
  obtain ⟨-, -, hresolved⟩ := ServiceResolver.resolve_eq_ok.1 hresolve
  obtain ⟨d, c, hd, hc, hmirror⟩ := h.mirrors ht
  obtain ⟨m, hm, hmethod⟩ := Outcome.exists_getElem?_of_forall₂ hresolved hd
  exact ⟨c, m, hc, hm,
    fits_of_resolveMethod hmirror (h.isStandard d (List.mem_of_getElem? hd)) hmethod⟩

/-- The methods of the definition have the names of the methods of the trait. -/
theorem Implemented.names (h : i.Implemented declaration)
    (hresolve : (ServiceResolver.ofConverters converters).resolve declaration base =
      .ok definition) :
    definition.methods.map ServiceMethod.name = i.source.methods.map fun t => t.signature.name := by
  obtain ⟨-, -, hresolved⟩ := ServiceResolver.resolve_eq_ok.1 hresolve
  have hlength : definition.methods.length = i.source.methods.length :=
    hresolved.length_eq.symm.trans h.declared
  refine List.ext_getElem (by simp [hlength]) fun k _ hk => ?_
  rw [List.length_map] at hk
  obtain ⟨-, m, -, hm, hname, -⟩ := h.fits hresolve (List.getElem?_eq_getElem hk)
  obtain ⟨_, hm⟩ := List.getElem?_eq_some_iff.1 hm
  simp [hm, hname]

/-- Where no name is that of two methods, each function of the client reaches the method that was
declared at its place. -/
theorem Implemented.reaches (h : i.Implemented declaration)
    (hnames : (i.source.methods.map fun t => t.signature.name).Nodup)
    (hresolve : (ServiceResolver.ofConverters converters).resolve declaration base =
      .ok definition) {σ : Type} (http : HttpClient σ) {k : Nat} {c : ClientMethod}
    (hc : i.client.methods[k]? = some c) :
    ∃ m, definition.methods[k]? = some m ∧
      c.Reaches ⟨definition.name, definition.base, http, definition.methods⟩ m := by
  obtain ⟨hk, -⟩ := List.getElem?_eq_some_iff.1 hc
  rw [h.functions] at hk
  obtain ⟨own, m, hown, hm, -, hname, hmode, harity⟩ :=
    h.fits hresolve (List.getElem?_eq_getElem hk)
  obtain rfl : c = own := Option.some.inj (hc.symm.trans hown)
  have hdistinct : (definition.methods.map ServiceMethod.name).Nodup := by
    rw [h.names hresolve]
    exact hnames
  refine ⟨m, hm, ClientMethod.reaches_of_lookup ?_ harity⟩
  rw [ServiceClient.lookup_eq_ok, hname]
  exact ⟨ServiceClient.method?_of_nodup hdistinct (List.mem_of_getElem? hm), hmode⟩

end

/-- From a trait whose methods have distinct names and no expressions for directives, tokens are
made that build a declaration and that implement the trait; the declaration and the functions of
the client mirror each other and the trait, method by method; and once the declaration is
resolved, with the standard handlers and any further ones, each function of the client reaches
the method that was declared with it. -/
theorem reaches_of_resolve {settings item : List Token} {i : Interface}
    (h : ofTokens settings item = .ok i)
    (hnames : (i.source.methods.map fun t => t.signature.name).Nodup)
    (hplain : ∀ t ∈ i.source.methods, t.IsPlain) :
    Trait.ofTokens? item = some i.source ∧
      ∃ (declaration : ServiceDeclaration) (methods : List ClientMethod),
        Implements i.source.name declaration methods i.client.tokens ∧
        i.declaration? = some declaration ∧
        declaration.methods.length = i.source.methods.length ∧
        methods.length = i.source.methods.length ∧
        (∀ (k : Nat) (t : TraitMethod), i.source.methods[k]? = some t →
          ∃ (d : MethodDeclaration) (c : ClientMethod), declaration.methods[k]? = some d ∧
            methods[k]? = some c ∧ c.Mirrors t d) ∧
        ∀ r : ServiceResolver, r.HasStandardHandlers → ∀ (base : Url)
          (definition : ServiceDefinition), r.resolve declaration base = .ok definition →
          ∀ {σ : Type} (http : HttpClient σ), ∃ s : ServiceClient σ,
            (Emitter.client http).drive definition .none = .ok s ∧
            ∀ (k : Nat) (c : ClientMethod), methods[k]? = some c →
              ∃ m, definition.methods[k]? = some m ∧ c.Reaches s m := by
  obtain ⟨declaration, himplemented⟩ := exists_implemented h hplain
  refine ⟨(reads_of_ofTokens h).1, declaration, i.client.methods, himplemented.implements,
    himplemented.value, himplemented.declared, himplemented.functions,
    fun k t ht => himplemented.mirrors ht, ?_⟩
  intro r hr base definition hresolve σ http
  rw [hr.resolve_eq himplemented.isStandard] at hresolve
  exact ⟨_, Emitter.drive_client http definition .none,
    fun k c hc => himplemented.reaches hnames hresolve http hc⟩

/-- Methods without expressions for directives can be told from others. -/
instance decidableIsPlain (t : TraitMethod) : Decidable t.IsPlain :=
  inferInstanceAs (Decidable (_ ∧ _))

open Source.Token in
/-- A trait with a method that answers at once and one that answers later. -/
def usersTrait : List Token :=
  let user := [.word "User"]
  let route (path : String) := hashed (call [.word "get"] [[.literal path]])
  let returned (type : List Token) :=
    marks "->" ++ [.word "Result"] ++ marks "<" ++ type ++ marks ">" ++ marks ";"
  words ["trait", "Users"] ++ inside .brace (
    route "r\"/users/\x7bid\x7d\"" ++ words ["async", "fn", "get"] ++
      inside .parenthesis (reference [.word "self"] ++ marks "," ++ [.word "id"] ++ marks ":" ++
        [.word "u64"]) ++ returned user ++
    route "r\"/users\"" ++ words ["fn", "watch"] ++
      inside .parenthesis (reference [.word "self"]) ++
      returned ([.word "Deferred"] ++ marks "<" ++ user ++ marks ">"))

/-- The texts that the methods of its client are written with. -/
def usersTexts : List String := [
  "impl", "Users", "for", "UsersClient", "\x7b",
  "async", "fn", "get", "(", "&", "self", ",", "id", ":", "u64", ")", "-", ">",
  "Result", "<", "User", ">", "\x7b", "self", ".", "service", ".", "call", "(", "\"get\"", ",",
  "&", "[", ":", ":", "rivet", ":", ":", "to_argument", "(", "&", "id", ")", "?", "]", ")",
  ".", "await", "\x7d",
  "fn", "watch", "(", "&", "self", ")", "-", ">", "Result", "<", "Deferred", "<", "User", ">", ">",
  "\x7b", "self", ".", "service", ".", "call_deferred", "(", "\"watch\"", ",", "&", "[", "]", ")",
  "\x7d", "\x7d"]

theorem reaches_of_resolve_users :
    ∃ i, ofTokens [] usersTrait = .ok i ∧
      (i.source.methods.map fun t => t.signature.name) = ["get", "watch"] ∧
      (∀ t ∈ i.source.methods, t.IsPlain) ∧
      Token.leavesOf i.client.methodTokens = usersTexts ∧
      ∃ declaration methods definition,
        Implements i.source.name declaration methods i.client.tokens ∧
        (ServiceResolver.ofConverters .standard).resolve declaration .localhost =
          .ok definition ∧
        ∀ {σ : Type} (http : HttpClient σ), ∃ s : ServiceClient σ,
          (Emitter.client http).drive definition .none = .ok s ∧
          ∀ (k : Nat) (c : ClientMethod), methods[k]? = some c →
            ∃ m, definition.methods[k]? = some m ∧ c.Reaches s m := by
  have hread : ((ofTokens [] usersTrait).toOption.any fun i =>
      decide ((i.source.methods.map fun t => t.signature.name) = ["get", "watch"]) &&
        decide (∀ t ∈ i.source.methods, t.IsPlain) &&
        decide (Token.leavesOf i.client.methodTokens = usersTexts) &&
        (i.declaration?.any fun declaration =>
          ((ServiceResolver.ofConverters .standard).resolve declaration
            .localhost).toOption.isSome)) = true := by
    decide +kernel
  obtain ⟨i, h, hread⟩ := Outcome.exists_ok_of_any hread
  rw [Bool.and_eq_true, Bool.and_eq_true, Bool.and_eq_true, decide_eq_true_eq, decide_eq_true_eq,
    decide_eq_true_eq, Option.any_eq_true] at hread
  obtain ⟨⟨⟨hnames, hplain⟩, htexts⟩, own, hown, hresolve⟩ := hread
  obtain ⟨definition, hdefinition⟩ := Outcome.exists_ok_of_isSome hresolve
  have hnodup : (i.source.methods.map fun t => t.signature.name).Nodup := by
    rw [hnames]
    decide
  obtain ⟨-, declaration, methods, himplements, hvalue, -, -, -, hreaches⟩ :=
    reaches_of_resolve h hnodup hplain
  obtain rfl : own = declaration := Option.some.inj (hown.symm.trans hvalue)
  exact ⟨i, h, hnames, hplain, htexts, own, methods, definition, himplements, hdefinition,
    hreaches _ (ServiceResolver.hasStandardHandlers_ofConverters .standard) .localhost
      definition hdefinition⟩

end Interface

end WebClient
