import WebClient.Proofs.Service.Fault

/-!
# Which fault a service is rejected for

The methods of a declared service are resolved one after the other and without regard to
each other, so the service is rejected for the first fault of its first method that is not
resolved alone.  The error names a parameter exactly when its cause lies with one; and it
is never that the handlers, the directives and the converters do not fit together.
-/

namespace WebClient

open ServiceResolver (ofConverters)

variable {converters : ConverterRegistry}

namespace ConfigCause

/-- A handler, a directive and a converter do not fit together, or a handler does not fit the
method that it builds. -/
def isMismatch : ConfigCause → Bool
  | .wrongDirective .. | .notEncodable .. | .wrongConverter .. | .unknownDirective ..
  | .missingParameterIndex .. | .parameterOutOfRange .. | .duplicateResponseConverter
  | .missingResponseConverter => true
  | _ => false

/-- The cause lies with one parameter. -/
def isOfParameter : ConfigCause → Bool
  | .misplacedDirective _ declaredOn => declaredOn = .parameter
  | .missingConverter _ capability => capability ≠ .responseBody
  | .duplicateParameter .. | .missingParameterHandler .. | .conflictingBody .. | .duplicateBody
  | .duplicateUrl | .urlWithPath .. | .unknownPlaceholder .. | .duplicatePlaceholder .. => true
  | _ => false

/-- The cause of an error with the place of a parameter, or without. -/
structure Suits (cause : ConfigCause) (place : Option Nat) : Prop where
  noMismatch : cause.isMismatch = false
  place : place.isSome = cause.isOfParameter

end ConfigCause

/-! ## Causes of faults -/

theorem MethodFault.suits {http : Option (Method × Template)} {d : Directive}
    {cause : ConfigCause} (h : MethodFault http d cause) : cause.Suits none := by
  cases h with
  | misplaced htarget => exact ⟨rfl, rfl⟩
  | verb hhttp => exact ⟨rfl, rfl⟩
  | header hfront hline => exact ⟨rfl, rfl⟩

/-- A standard directive of a parameter never asks for a converter of answers. -/
theorem Directive.capability_ne_responseBody {d : Directive} (hstandard : d.isStandard = true)
    {capability : Capability} (h : d.capability? = some capability) :
    capability ≠ .responseBody := by
  cases d with
  | custom d => cases hstandard
  | _ => cases h <;> decide

theorem ParameterFault.suits {type : TypeName} {index : Nat} {kind : Option BodyKind}
    {taken : Bool} {d : Directive} {cause : ConfigCause} (hstandard : d.isStandard = true)
    (h : ParameterFault converters type index kind taken d cause) (place : Nat) :
    cause.Suits (some place) := by
  cases h with
  | misplaced htarget => exact ⟨rfl, rfl⟩
  | unprovided htarget hcapability hnone =>
      have hother := Directive.capability_ne_responseBody hstandard hcapability
      exact ⟨rfl, (decide_eq_true hother).symm⟩
  | conflict hbinds hown hfirst hne => exact ⟨rfl, rfl⟩
  | taken hbinds hkind htaken => exact ⟨rfl, rfl⟩

namespace MethodBuilder

theorem BodyClash.suits {kind : Option BodyKind} {ps : List Parameter} {i : Nat}
    {cause : ConfigCause} (h : BodyClash kind ps i cause) : cause.Suits (some i) := by
  cases h with
  | duplicate hfront hp hraw => exact ⟨rfl, rfl⟩
  | conflict hfront hfirst hp hne => exact ⟨rfl, rfl⟩

theorem UrlClash.suits {path : Template} {roles : List Role} {place : Option Nat}
    {cause : ConfigCause} (h : UrlClash path roles place cause) : cause.Suits place := by
  cases h with
  | duplicate hfront => exact ⟨rfl, rfl⟩
  | withPath hfront hrest hpath => exact ⟨rfl, rfl⟩
  | emptyPath hroles hpath => exact ⟨rfl, rfl⟩

theorem NameClash.suits {path : Template} {roles : List Role} {place : Option Nat}
    {cause : ConfigCause} (h : NameClash path roles place cause) : cause.Suits place := by
  cases h with
  | duplicate hfront hname => exact ⟨rfl, rfl⟩
  | unknown hfront hnew hname => exact ⟨rfl, rfl⟩
  | unresolved hroles hsplit hbefore hname => exact ⟨rfl, rfl⟩

/-- A builder with a converter of answers never lacks one. -/
theorem Rejects.suits {b : MethodBuilder} {place : Option Nat} {cause : ConfigCause}
    (h : b.Rejects place cause) (hresponse : b.response ≠ none) : cause.Suits place := by
  cases h with
  | verb hhttp => exact ⟨rfl, rfl⟩
  | place hhttp hi hbefore hmissing => exact ⟨rfl, rfl⟩
  | body hhttp hplaces hbody => exact hbody.suits
  | url hhttp hplaces hbody hurl => exact hurl.suits
  | names hhttp hplaces hbody hurl hnames => exact hnames.suits
  | response hhttp hplaces hbody hurl hnames hnone => exact absurd hnone hresponse

end MethodBuilder

namespace MethodDeclaration

theorem Misdeclared.suits {d : MethodDeclaration} (hstandard : d.IsStandard)
    {place : Option Nat} {cause : ConfigCause} (h : d.Misdeclared converters place cause) :
    cause.Suits place := by
  cases h with
  | onMethod hsplit hfront hfault => exact hfault.suits
  | @onParameter front rest p before after e _ _ _ hmethod hsplit hds hbefore hfault =>
      have hp : p ∈ d.parameters := by simp [hsplit]
      have he : e ∈ p.directives := by simp [hds]
      exact hfault.suits (hstandard.2 p hp e he) front.length
  | noResponse hmethod hslots hnone => exact ⟨rfl, rfl⟩

theorem Fault.suits {service : String} {d : MethodDeclaration} (hstandard : d.IsStandard)
    {place : Option Nat} {cause : ConfigCause} (h : d.Fault converters service place cause) :
    cause.Suits place := by
  cases h with
  | misdeclared hfault => exact hfault.suits hstandard
  | unbuilt hmethod hslots hc hrejects =>
      -- The steps have set a converter of answers, so the method that is built has one.
      exact hrejects.suits (by simp [ServiceResolver.configured])

end MethodDeclaration

/-! ## Services -/

/-- The service with one method alone. -/
def ServiceDeclaration.alone (declaration : ServiceDeclaration) (d : MethodDeclaration) :
    ServiceDeclaration :=
  ⟨declaration.name, [d]⟩

namespace ServiceResolver

/-- Methods are resolved in order, up to the first one that is not. -/
theorem resolveMethods_eq_error {r : ServiceResolver} {service : String}
    {ds : List MethodDeclaration} {e : ConfigError} :
    r.resolveMethods service ds = .error e ↔
      ∃ front d rest, ds = front ++ d :: rest ∧
        (∀ m ∈ front, ∃ resolved, r.resolveMethod service m = .ok resolved) ∧
        r.resolveMethod service d = .error e := by
  induction ds with
  | nil => simp [resolveMethods]
  | cons first ds ih =>
      rw [resolveMethods, Outcome.bind_eq_error]
      simp only [Outcome.bind_eq_error, ih]
      constructor
      · rintro (h | ⟨resolved, hfirst, ⟨front, d, rest, rfl, hfront, hd⟩ | ⟨_, _, h⟩⟩)
        · exact ⟨[], first, ds, rfl, by simp, h⟩
        · exact ⟨first :: front, d, rest, rfl, List.forall_mem_cons.2 ⟨⟨_, hfirst⟩, hfront⟩, hd⟩
        · cases h
      · rintro ⟨front, d, rest, hsplit, hfront, hd⟩
        cases front with
        | nil =>
            obtain ⟨rfl, rfl⟩ := List.cons_eq_cons.1 hsplit
            exact Or.inl hd
        | cons own front =>
            obtain ⟨rfl, rfl⟩ := List.cons_eq_cons.1 hsplit
            obtain ⟨⟨resolved, hfirst⟩, hfront⟩ := List.forall_mem_cons.1 hfront
            exact Or.inr ⟨resolved, hfirst, Or.inl ⟨front, d, rest, rfl, hfront, hd⟩⟩

theorem resolve_eq_error {r : ServiceResolver} {declaration : ServiceDeclaration} {base : Url}
    {e : ConfigError} :
    r.resolve declaration base = .error e ↔
      ∃ front d rest, declaration.methods = front ++ d :: rest ∧
        (∀ m ∈ front, ∃ resolved, r.resolveMethod declaration.name m = .ok resolved) ∧
        r.resolveMethod declaration.name d = .error e := by
  rw [resolve, Outcome.bind_eq_error, ← resolveMethods_eq_error]
  constructor
  · rintro (h | ⟨_, _, h⟩)
    · exact h
    · cases h
  · exact Or.inl

/-- A service with one method is resolved as the method is. -/
theorem resolve_alone (r : ServiceResolver) (declaration : ServiceDeclaration)
    (d : MethodDeclaration) (base : Url) :
    r.resolve (declaration.alone d) base =
      (r.resolveMethod declaration.name d).map fun m => ⟨declaration.name, base, [m]⟩ := by
  have hrun : r.resolve (declaration.alone d) base =
      r.resolveMethods declaration.name [d] >>= fun methods =>
        pure ⟨declaration.name, base, methods⟩ := rfl
  rw [hrun, resolveMethods]
  cases r.resolveMethod declaration.name d <;> rfl

theorem resolve_alone_eq_ok {r : ServiceResolver} {declaration : ServiceDeclaration}
    {d : MethodDeclaration} {base : Url} :
    (∃ single, r.resolve (declaration.alone d) base = .ok single) ↔
      ∃ m, r.resolveMethod declaration.name d = .ok m := by
  simp [resolve_alone]

theorem resolve_alone_eq_error {r : ServiceResolver} {declaration : ServiceDeclaration}
    {d : MethodDeclaration} {base : Url} {e : ConfigError} :
    r.resolve (declaration.alone d) base = .error e ↔
      r.resolveMethod declaration.name d = .error e := by
  rw [resolve_alone, Outcome.map_eq_error]

/-- A service is rejected for the first fault of a method. -/
theorem exists_fault_of_resolve_eq_error {declaration : ServiceDeclaration}
    (hstandard : declaration.IsStandard) {base : Url} {e : ConfigError}
    (h : (ofConverters converters).resolve declaration base = .error e) :
    ∃ d ∈ declaration.methods, ∃ place cause,
      d.Fault converters declaration.name place cause ∧ cause.Suits place ∧
        e = ⟨some declaration.name, some d.name, place, cause⟩ := by
  obtain ⟨front, d, rest, hsplit, -, hd⟩ := resolve_eq_error.1 h
  have hmem : d ∈ declaration.methods := by simp [hsplit]
  obtain ⟨place, cause, hfault, he⟩ := (resolveMethod_eq_error (hstandard d hmem)).1 hd
  exact ⟨d, hmem, place, cause, hfault, hfault.suits (hstandard d hmem), he⟩

/-- No standard declaration is rejected because a handler, a directive and a converter do
not fit together. -/
theorem isMismatch_eq_false_of_resolve_eq_error {declaration : ServiceDeclaration}
    (hstandard : declaration.IsStandard) (converters : ConverterRegistry) (base : Url)
    {e : ConfigError} (h : (ofConverters converters).resolve declaration base = .error e) :
    e.cause.isMismatch = false := by
  obtain ⟨d, -, place, cause, -, hsuits, rfl⟩ := exists_fault_of_resolve_eq_error hstandard h
  exact hsuits.noMismatch

/-- A service whose only method has a directive of parameters. -/
def misplaced : ServiceDeclaration where
  name := "Users"
  methods := [{
    name := "update"
    directives := [.http .put ⟨"/users"⟩, .body]
    parameters := [⟨"user", ⟨"User"⟩, [.body]⟩]
    returns := ⟨"User"⟩ }]

theorem isMismatch_eq_false_misplaced :
    misplaced.IsStandard ∧
      (ofConverters .standard).resolve misplaced .localhost =
        .error ⟨some "Users", some "update", none, .misplacedDirective "Body" .method⟩ ∧
      (ConfigCause.misplacedDirective "Body" .method).isMismatch = false := by
  have hstandard : misplaced.IsStandard := by
    simp [misplaced, ServiceDeclaration.IsStandard, MethodDeclaration.IsStandard,
      Directive.isStandard]
  have hresolve : (ofConverters .standard).resolve misplaced .localhost =
      .error ⟨some "Users", some "update", none, .misplacedDirective "Body" .method⟩ := rfl
  exact ⟨hstandard, hresolve,
    isMismatch_eq_false_of_resolve_eq_error hstandard .standard .localhost hresolve⟩

/-- A standard declaration of a service is resolved when each of its methods is resolved
alone, and then to the methods that these are resolved to, in their order.  Else it is
rejected with the error of the first method that is not resolved alone, and that error names
the service, the method and, if its first fault lies with a parameter, the place of it. -/
theorem resolve_by_method {declaration : ServiceDeclaration}
    (hstandard : declaration.IsStandard) (converters : ConverterRegistry) (base : Url) :
    ((∃ definition, (ofConverters converters).resolve declaration base = .ok definition) ↔
      ∀ d ∈ declaration.methods, ∃ single,
        (ofConverters converters).resolve (declaration.alone d) base = .ok single) ∧
    (∀ definition, (ofConverters converters).resolve declaration base = .ok definition →
      definition.name = declaration.name ∧ definition.base = base ∧
        List.Forall₂ (fun d m => (ofConverters converters).resolve (declaration.alone d) base =
          .ok ⟨declaration.name, base, [m]⟩) declaration.methods definition.methods) ∧
    (∀ e, (ofConverters converters).resolve declaration base = .error e ↔
      ∃ front d rest, declaration.methods = front ++ d :: rest ∧
        (∀ m ∈ front, ∃ single,
          (ofConverters converters).resolve (declaration.alone m) base = .ok single) ∧
        (ofConverters converters).resolve (declaration.alone d) base = .error e) ∧
    ∀ d ∈ declaration.methods, ∀ e,
      (ofConverters converters).resolve (declaration.alone d) base = .error e ↔
        ∃ place cause, d.Fault converters declaration.name place cause ∧
          place.isSome = cause.isOfParameter ∧
          e = ⟨some declaration.name, some d.name, place, cause⟩ := by
  refine ⟨?_, ?_, ?_, ?_⟩
  · simp only [resolve_alone_eq_ok]
    constructor
    · rintro ⟨definition, h⟩ d hd
      obtain ⟨-, -, hmethods⟩ := resolve_eq_ok.1 h
      exact exists_forall₂_iff.1 ⟨_, hmethods⟩ d hd
    · intro h
      obtain ⟨ms, hms⟩ := exists_forall₂_iff.2 h
      exact ⟨⟨declaration.name, base, ms⟩, resolve_eq_ok.2 ⟨rfl, rfl, hms⟩⟩
  · intro definition h
    obtain ⟨hname, hbase, hmethods⟩ := resolve_eq_ok.1 h
    refine ⟨hname, hbase, hmethods.imp fun d m hm => ?_⟩
    rw [resolve_alone, hm]
    rfl
  · intro e
    rw [resolve_eq_error]
    simp only [resolve_alone_eq_ok, resolve_alone_eq_error]
  · -- Every fault lies with a parameter or not by its cause, which needs no second look.
    intro d hd e
    rw [resolve_alone_eq_error, resolveMethod_eq_error (hstandard d hd)]
    constructor
    · rintro ⟨place, cause, hfault, he⟩
      exact ⟨place, cause, hfault, (hfault.suits (hstandard d hd)).place, he⟩
    · rintro ⟨place, cause, hfault, -, he⟩
      exact ⟨place, cause, hfault, he⟩

/-- A method with a parameter that has two directives. -/
def rename : MethodDeclaration where
  name := "rename"
  directives := [.http .put ⟨"/users/{id}"⟩]
  parameters := [⟨"id", ⟨"u32"⟩, [.path "id" false]⟩,
    ⟨"name", ⟨"String"⟩, [.query "name" false, .body]⟩]
  returns := ⟨"User"⟩

/-- A service with a method that is resolved, one that is not, and one without a verb. -/
def accounts : ServiceDeclaration where
  name := "Accounts"
  methods := users.methods ++ [rename, ⟨"close", [], [], ⟨"User"⟩⟩]

theorem resolve_by_method_accounts :
    accounts.IsStandard ∧
      (ofConverters .standard).resolve accounts .localhost =
        .error ⟨some "Accounts", some "rename", some 1, .duplicateParameter 1⟩ ∧
      rename.Fault .standard "Accounts" (some 1) (.duplicateParameter 1) := by
  have hstandard : accounts.IsStandard := by
    simp [accounts, users, rename, ServiceDeclaration.IsStandard, MethodDeclaration.IsStandard,
      Directive.isStandard]
  obtain ⟨-, -, herror, hfault⟩ := resolve_by_method hstandard .standard .localhost
  have halone : (ofConverters .standard).resolve (accounts.alone rename) .localhost =
      .error ⟨some "Accounts", some "rename", some 1, .duplicateParameter 1⟩ := rfl
  have hfront : ∀ m ∈ users.methods, ∃ single,
      (ofConverters .standard).resolve (accounts.alone m) .localhost = .ok single := by
    simp only [users, List.mem_singleton, forall_eq]
    exact Outcome.exists_ok_of_isSome (by decide +kernel)
  have hmem : rename ∈ accounts.methods := by simp [accounts]
  obtain ⟨place, cause, hcause, -, he⟩ := (hfault rename hmem _).1 halone
  cases he
  exact ⟨hstandard, (herror _).2 ⟨_, rename, _, rfl, hfront, halone⟩, hcause⟩

end ServiceResolver

end WebClient
