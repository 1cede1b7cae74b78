import WebClient.Proofs.Directive.Registering
import WebClient.Proofs.Service.Resolving

/-!
# One directive more

No step of building a method looks at whether the method answers later, and neither does
any standard handler (`DirectiveHandler.ignoresMode_of_mem`).  A directive that lets a
method answer later can therefore be added to a declaration that resolves anywhere among the
directives of the method; the service still resolves, and only that method becomes another
one, by its mode (`ServiceResolver.resolve_of_defers`).
-/

namespace WebClient

/-- The builder of the method that answers later. -/
def MethodBuilder.deferred (b : MethodBuilder) : MethodBuilder := { b with asynchronous := true }

/-- The method, but answering later. -/
def ServiceMethod.deferred (m : ServiceMethod) : ServiceMethod := { m with asynchronous := true }

namespace Configure

variable {α β : Type}

/-- Steps that do not look at whether the method answers later. -/
def IgnoresMode (x : Configure α) : Prop :=
  ∀ b, x.outcome b.deferred = ((x.outcome b).1, (x.outcome b).2.deferred)

theorem ignoresMode_pure (a : α) : IgnoresMode (pure a : Configure α) := fun _ => rfl

theorem ignoresMode_throw (e : ConfigError) : IgnoresMode (throw e : Configure α) := fun _ => rfl

theorem ignoresMode_reject (cause : ConfigCause) : IgnoresMode (reject cause : Configure α) :=
  fun _ => rfl

theorem IgnoresMode.bind {x : Configure α} {f : α → Configure β} (hx : x.IgnoresMode)
    (hf : ∀ a, (f a).IgnoresMode) : (x >>= f).IgnoresMode := by
  intro b
  rw [outcome_bind, outcome_bind, hx b]
  obtain ⟨result, mid⟩ := x.outcome b
  cases result with
  | error e => rfl
  | ok a => exact hf a mid

theorem IgnoresMode.adapt {x : Configure α} (hx : x.IgnoresMode)
    (f : ConfigError → ConfigError) : IgnoresMode (x.adapt f) := by
  intro b
  rw [outcome_adapt, outcome_adapt, hx b]

/-- Steps that do the same, except that after the second ones the method answers later. -/
def Defers (x x' : Configure α) : Prop :=
  ∀ b, match x.outcome b with
    | (.ok a, after) => x'.outcome b = (.ok a, after.deferred)
    | (.error e, _) => (x'.outcome b).1 = .error e

theorem Defers.bind {x x' : Configure α} {f : α → Configure β} (hx : Defers x x')
    (hf : ∀ a, (f a).IgnoresMode) : Defers (x >>= f) (x' >>= f) := by
  intro b
  have hfirst := hx b
  rw [outcome_bind, outcome_bind]
  cases hrun : x.outcome b with
  | mk result mid =>
      rw [hrun] at hfirst
      cases result with
      | error e =>
          -- The first steps may fail on either side of the one for the mode, so that only
          -- their errors agree, not the builders that they leave.
          dsimp only at hfirst ⊢
          cases hrun' : x'.outcome b with
          | mk result' mid' =>
              rw [hrun'] at hfirst
              cases hfirst
              rfl
      | ok a =>
          dsimp only at hfirst ⊢
          rw [hfirst]
          dsimp only
          rw [hf a mid]
          cases (f a).outcome mid with
          | mk last after => cases last <;> rfl

/-- Steps in front of both change nothing. -/
theorem Defers.after {x : Configure α} {f f' : α → Configure β} (h : ∀ a, Defers (f a) (f' a)) :
    Defers (x >>= f) (x >>= f') := by
  intro b
  rw [outcome_bind, outcome_bind]
  cases x.outcome b with
  | mk result mid =>
      cases result with
      | error e => rfl
      | ok a => exact h a mid

end Configure

namespace MethodBuilder

open Configure (IgnoresMode)

theorem ignoresMode_setHttp (method : Method) (path : Template) :
    (setHttp method path).IgnoresMode := by
  intro b
  rw [setHttp_outcome, setHttp_outcome]
  obtain ⟨service, name, arity, http, headers, kind, parameters, response, later⟩ := b
  cases http <;> rfl

theorem ignoresMode_setBodyKind (kind : BodyKind) : (setBodyKind kind).IgnoresMode := by
  intro b
  rw [setBodyKind_outcome, setBodyKind_outcome]
  obtain ⟨service, name, arity, http, headers, known, parameters, response, later⟩ := b
  cases known with
  | none => rfl
  | some first =>
      by_cases hsame : first = kind
      · simp [deferred, hsame]
      · simp [deferred, hsame]

theorem ignoresMode_setParameter (index : Nat) (p : Parameter) :
    (setParameter index p).IgnoresMode := by
  intro b
  rw [setParameter_outcome, setParameter_outcome]
  show (if b.arity ≤ index then _ else if (b.parameters.lookup index).isSome then _ else _) = _
  split
  · rfl
  · split <;> rfl

theorem ignoresMode_setResponse (type : TypeName) (converter : Converter) :
    (setResponse type converter).IgnoresMode := by
  intro b
  rw [setResponse_outcome, setResponse_outcome]
  obtain ⟨service, name, arity, http, headers, kind, parameters, response, later⟩ := b
  cases converter with
  | response c => cases response <;> rfl
  | string c => rfl
  | request c => rfl

end MethodBuilder

namespace DirectiveHandler

open Configure (IgnoresMode)

/-- A handler that does not look at whether the method answers later. -/
def IgnoresMode (handler : DirectiveHandler) : Prop :=
  ∀ d converter index, (handler.handle d converter index).IgnoresMode

theorem ignoresMode_placeOf (variant : Variant) (index : Option Nat) :
    (placeOf variant index).IgnoresMode := by
  cases index with
  | none => exact Configure.ignoresMode_reject _
  | some index => exact Configure.ignoresMode_pure index

theorem ignoresMode_stringConverter (converter : Option Converter) :
    (stringConverter converter).IgnoresMode := by
  unfold stringConverter
  split
  · exact Configure.ignoresMode_pure _
  · exact Configure.ignoresMode_reject _

theorem ignoresMode_requestConverter (converter : Option Converter) :
    (requestConverter converter).IgnoresMode := by
  unfold requestConverter
  split
  · exact Configure.ignoresMode_pure _
  · exact Configure.ignoresMode_reject _

theorem ignoresMode_setStringParameter (variant : Variant) (converter : Option Converter)
    (index : Option Nat) (p : StringConverter → Parameter) :
    (setStringParameter variant converter index p).IgnoresMode :=
  (ignoresMode_placeOf variant index).bind fun _ =>
    (ignoresMode_stringConverter converter).bind fun _ =>
      MethodBuilder.ignoresMode_setParameter _ _

theorem ignoresMode_addHeaders (lines : List String) : (addHeaders lines).IgnoresMode := by
  induction lines with
  | nil => exact Configure.ignoresMode_pure ()
  | cons line lines ih =>
      have hline : (addHeaders.liftExcept (parseHeader line)).IgnoresMode := by
        cases parseHeader line with
        | error e => exact Configure.ignoresMode_throw e
        | ok pair => exact Configure.ignoresMode_pure pair
      exact hline.bind fun _ => IgnoresMode.bind (fun _ => rfl) fun _ => ih

/-- A parameter that declares a kind of body, once its place and its converter are known. -/
theorem ignoresMode_declare (kind : BodyKind) (index : Nat) (p : Parameter) :
    (do
      MethodBuilder.setBodyKind kind
      MethodBuilder.setParameter index p : Configure Unit).IgnoresMode :=
  (MethodBuilder.ignoresMode_setBodyKind kind).bind fun _ =>
    MethodBuilder.ignoresMode_setParameter index p

theorem ignoresMode_http (method : Method) : (http method).IgnoresMode := by
  intro d converter index
  cases d with
  | http own template =>
      rw [http]
      dsimp only
      split
      · exact MethodBuilder.ignoresMode_setHttp own template
      · exact Configure.ignoresMode_reject _
  | _ => exact Configure.ignoresMode_reject _

theorem ignoresMode_asynchronous : asynchronous.IgnoresMode := by
  intro d converter index
  cases d with
  | asynchronous => exact fun _ => rfl
  | _ => exact Configure.ignoresMode_reject _

theorem ignoresMode_headers : headers.IgnoresMode := by
  intro d converter index
  cases d with
  | headers lines => exact ignoresMode_addHeaders lines
  | _ => exact Configure.ignoresMode_reject _

/-- The handlers that set a parameter that converts values to texts, and nothing else. -/
theorem ignoresMode_string {handler : DirectiveHandler}
    (h : handler ∈ [path, url, query, queryMap, queryName, header, headerMap]) :
    handler.IgnoresMode := by
  intro d converter index
  simp only [List.mem_cons, List.not_mem_nil, or_false] at h
  rcases h with rfl | rfl | rfl | rfl | rfl | rfl | rfl <;> cases d <;>
    first
      | exact ignoresMode_setStringParameter _ _ _ _
      | exact Configure.ignoresMode_reject _

theorem ignoresMode_field : field.IgnoresMode := by
  intro d converter index
  cases d with
  | field name encoded =>
      exact (ignoresMode_placeOf _ index).bind fun _ =>
        (ignoresMode_stringConverter converter).bind fun _ => ignoresMode_declare _ _ _
  | _ => exact Configure.ignoresMode_reject _

theorem ignoresMode_fieldMap : fieldMap.IgnoresMode := by
  intro d converter index
  rw [fieldMap]
  dsimp only
  split
  · exact Configure.ignoresMode_reject _
  · split
    · exact Configure.ignoresMode_reject _
    · exact (ignoresMode_placeOf _ index).bind fun _ =>
        (ignoresMode_stringConverter converter).bind fun _ => ignoresMode_declare _ _ _

theorem ignoresMode_part : part.IgnoresMode := by
  intro d converter index
  cases d with
  | part name =>
      exact (ignoresMode_placeOf _ index).bind fun _ =>
        (ignoresMode_requestConverter converter).bind fun _ => ignoresMode_declare _ _ _
  | _ => exact Configure.ignoresMode_reject _

theorem ignoresMode_partMap : partMap.IgnoresMode := by
  intro d converter index
  cases d with
  | partMap =>
      exact (ignoresMode_placeOf _ index).bind fun _ =>
        (MethodBuilder.ignoresMode_setBodyKind .multipart).bind fun _ =>
          (ignoresMode_requestConverter converter).bind fun _ =>
            MethodBuilder.ignoresMode_setParameter _ _
  | _ => exact Configure.ignoresMode_reject _

theorem ignoresMode_body : body.IgnoresMode := by
  intro d converter index
  cases d with
  | body =>
      exact (ignoresMode_placeOf _ index).bind fun _ =>
        (ignoresMode_requestConverter converter).bind fun _ =>
          MethodBuilder.ignoresMode_setParameter _ _
  | _ => exact Configure.ignoresMode_reject _

theorem ignoresMode_of_mem {handler : DirectiveHandler} (h : handler ∈ standard) :
    handler.IgnoresMode := by
  rcases List.mem_append.1 h with hverb | hother
  · obtain ⟨method, -, rfl⟩ := List.mem_map.1 hverb
    exact ignoresMode_http method
  · simp only [List.mem_cons, List.not_mem_nil, or_false] at hother
    rcases hother with rfl | rfl | rfl | rfl | rfl | rfl | rfl | rfl | rfl | rfl | rfl | rfl |
      rfl | rfl
    · exact ignoresMode_headers
    · exact ignoresMode_asynchronous
    iterate 7 exact ignoresMode_string (by simp)
    · exact ignoresMode_field
    · exact ignoresMode_fieldMap
    · exact ignoresMode_part
    · exact ignoresMode_partMap
    · exact ignoresMode_body

end DirectiveHandler

namespace MethodBuilder

theorem finish_deferred (b : MethodBuilder) :
    b.deferred.finish = b.finish.map ServiceMethod.deferred := by
  obtain ⟨service, name, arity, http, headers, kind, parameters, response, later⟩ := b
  cases http with
  | none => rfl
  | some http =>
      obtain ⟨method, path⟩ := http
      rw [deferred, finish, finish]
      dsimp only
      -- The checks are the same on both sides; the first that fails decides.
      cases collectParameters parameters 0 arity with
      | error e => rfl
      | ok ps =>
          rw [Outcome.bind_of_ok rfl, Outcome.bind_of_ok rfl]
          cases resolveBodyKind kind false 0 ps with
          | error e => rfl
          | ok agreed =>
              rw [Outcome.bind_of_ok rfl, Outcome.bind_of_ok rfl]
              cases checkUrl (ps.map Parameter.role) path with
              | error e => rfl
              | ok _ =>
                  rw [Outcome.bind_of_ok rfl, Outcome.bind_of_ok rfl]
                  cases checkPlaceholders (ps.map Parameter.role) path with
                  | error e => rfl
                  | ok _ => cases response <;> rfl

/-- Whether the method answers later decides neither whether it can be built nor what else
it is. -/
theorem build_deferred (b : MethodBuilder) :
    b.deferred.build = b.build.map ServiceMethod.deferred := by
  rw [build, build, finish_deferred]
  cases b.finish <;> rfl

end MethodBuilder

namespace ServiceResolver

open Configure (IgnoresMode Defers)

/-- The directive that lets a method answer later is carried out as usual, and no handler
looks at whether the method does. -/
structure TellsMode (r : ServiceResolver) : Prop where
  asynchronous : r.handlers.get? Directive.asynchronous.variant = some .asynchronous
  ignores : ∀ handler ∈ r.handlers.handlers, handler.IgnoresMode

theorem tellsMode_ofConverters (converters : ConverterRegistry) :
    (ofConverters converters).TellsMode where
  asynchronous := DirectiveHandler.get?_standard (d := .asynchronous) rfl
  ignores _ := DirectiveHandler.ignoresMode_of_mem

/-- Further handlers may be added as long as they do not look at whether methods answer
later. -/
theorem TellsMode.withHandler {r r' : ServiceResolver} {handler : DirectiveHandler}
    (h : r.TellsMode) (hhandler : handler.IgnoresMode) (hadd : r.withHandler handler = .ok r') :
    r'.TellsMode := by
  obtain ⟨handlers, hregister, rfl⟩ := Outcome.map_eq_ok.1 hadd
  obtain ⟨-, rfl⟩ := HandlerRegistry.register_eq_ok.1 hregister
  constructor
  · rw [HandlerRegistry.get?_append, h.asynchronous, Option.some_or]
  · intro other hother
    rcases List.mem_append.1 hother with hknown | hnew
    · exact h.ignores other hknown
    · obtain rfl := List.mem_singleton.1 hnew
      exact hhandler

variable {r : ServiceResolver}

theorem TellsMode.ignoresMode_apply (h : r.TellsMode) (declaredOn : Target)
    (type : Option TypeName) (index : Option Nat) (d : Directive) :
    (r.apply declaredOn type index d).IgnoresMode := by
  rw [apply]
  split
  · exact Configure.ignoresMode_reject _
  · next handler hget =>
      have hmem : handler ∈ r.handlers.handlers := List.mem_of_find?_eq_some hget
      split
      · exact Configure.ignoresMode_reject _
      · split
        · exact h.ignores handler hmem d _ _
        · exact Configure.ignoresMode_throw _

theorem TellsMode.apply_asynchronous (h : r.TellsMode) :
    r.apply .method none none .asynchronous = MethodBuilder.setAsynchronous := by
  rw [apply, h.asynchronous]
  rfl

theorem TellsMode.ignoresMode_applyToMethod (h : r.TellsMode) (ds : List Directive) :
    (r.applyToMethod ds).IgnoresMode := by
  induction ds with
  | nil => exact Configure.ignoresMode_pure ()
  | cons d ds ih => exact (h.ignoresMode_apply .method none none d).bind fun _ => ih

theorem TellsMode.ignoresMode_applyToParameter (h : r.TellsMode) (type : TypeName) (index : Nat)
    (ds : List Directive) : (r.applyToParameter type index ds).IgnoresMode := by
  induction ds with
  | nil => exact Configure.ignoresMode_pure ()
  | cons d ds ih =>
      exact ((h.ignoresMode_apply .parameter type index d).adapt _).bind fun _ => ih

theorem TellsMode.ignoresMode_applyToParameters (h : r.TellsMode) (index : Nat)
    (ps : List ParameterDeclaration) : (r.applyToParameters index ps).IgnoresMode := by
  induction ps generalizing index with
  | nil => exact Configure.ignoresMode_pure ()
  | cons p ps ih =>
      exact (h.ignoresMode_applyToParameter p.type index p.directives).bind fun _ => ih (index + 1)

/-- The directive that lets the method answer later may stand anywhere among the others. -/
theorem TellsMode.defers_applyToMethod (h : r.TellsMode) (ds es : List Directive) :
    Defers (r.applyToMethod (ds ++ es)) (r.applyToMethod (ds ++ .asynchronous :: es)) := by
  induction ds with
  | nil =>
      intro b
      rw [List.nil_append, List.nil_append, applyToMethod, h.apply_asynchronous]
      have hlater : (MethodBuilder.setAsynchronous >>= fun _ => r.applyToMethod es).outcome b =
          (r.applyToMethod es).outcome b.deferred := rfl
      rw [hlater, h.ignoresMode_applyToMethod es b]
      cases (r.applyToMethod es).outcome b with
      | mk result after => cases result <;> rfl
  | cons d ds ih => exact Defers.after fun _ => ih

theorem TellsMode.defers_configure (h : r.TellsMode) {m : MethodDeclaration}
    {ds es : List Directive} (hm : m.directives = ds ++ es) :
    Defers (r.configure m)
      (r.configure { m with directives := ds ++ .asynchronous :: es }) := by
  rw [configure, configure, hm]
  refine (h.defers_applyToMethod ds es).bind fun _ =>
    (h.ignoresMode_applyToParameters 0 m.parameters).bind fun _ => ?_
  split
  · exact MethodBuilder.ignoresMode_setResponse _ _
  · exact Configure.ignoresMode_throw _

/-- A method with the directive that lets it answer later resolves to the method without
it, but answering later, or fails with the same error. -/
theorem TellsMode.resolveMethod_eq (h : r.TellsMode) (service : String) {m : MethodDeclaration}
    {ds es : List Directive} (hm : m.directives = ds ++ es) :
    r.resolveMethod service { m with directives := ds ++ .asynchronous :: es } =
      (r.resolveMethod service m).map ServiceMethod.deferred := by
  have hrun (m : MethodDeclaration) : r.resolveMethod service m =
      (match (r.configure m).outcome
          (MethodBuilder.start service m.name m.parameters.length) with
        | (.ok (), built) => built.build
        | (.error e, _) => .error e).mapError (ConfigError.inMethod service m.name) := rfl
  -- Both methods start with the same builder, as their names and parameters are the same.
  have hdefers := h.defers_configure hm (MethodBuilder.start service m.name m.parameters.length)
  rw [hrun, hrun]
  dsimp only
  cases houtcome : (r.configure m).outcome
      (MethodBuilder.start service m.name m.parameters.length) with
  | mk result built =>
      rw [houtcome] at hdefers
      cases result with
      | ok _ =>
          dsimp only at hdefers ⊢
          rw [hdefers]
          dsimp only
          rw [built.build_deferred]
          cases built.build <;> rfl
      | error e =>
          dsimp only at hdefers ⊢
          cases houtcome' : (r.configure { m with directives := ds ++ .asynchronous :: es }).outcome
              (MethodBuilder.start service m.name m.parameters.length) with
          | mk result' built' =>
              rw [houtcome'] at hdefers
              cases hdefers
              rfl

end ServiceResolver

/-! ## Services -/

/-- The second declaration is the first one with a directive more on the method of a place,
the one that lets the method answer later. -/
inductive ServiceDeclaration.Defers : Nat → ServiceDeclaration → ServiceDeclaration → Prop
  | intro (service : String) (front rest : List MethodDeclaration) (m : MethodDeclaration)
      (ds es : List Directive) (hm : m.directives = ds ++ es) :
      Defers front.length ⟨service, front ++ m :: rest⟩
        ⟨service, front ++ { m with directives := ds ++ .asynchronous :: es } :: rest⟩

/-- The second service is the first one, but its method of a place answers later. -/
inductive ServiceDefinition.Defers : Nat → ServiceDefinition → ServiceDefinition → Prop
  | intro (name : String) (base : Url) (front rest : List ServiceMethod) (m : ServiceMethod) :
      Defers front.length ⟨name, base, front ++ m :: rest⟩
        ⟨name, base, front ++ m.deferred :: rest⟩

namespace ServiceResolver

variable {r : ServiceResolver}

theorem resolveMethods_of_eq_map {service : String} {m m' : MethodDeclaration}
    (hm : r.resolveMethod service m' = (r.resolveMethod service m).map ServiceMethod.deferred)
    {front rest : List MethodDeclaration} {methods : List ServiceMethod}
    (h : r.resolveMethods service (front ++ m :: rest) = .ok methods) :
    ∃ before t after, before.length = front.length ∧ methods = before ++ t :: after ∧
      r.resolveMethods service (front ++ m' :: rest) = .ok (before ++ t.deferred :: after) := by
  induction front generalizing methods with
  | nil =>
      rw [List.nil_append, resolveMethods] at h
      obtain ⟨t, ht, hafter⟩ := Outcome.bind_eq_ok.1 h
      obtain ⟨after, hrest, hall⟩ := Outcome.bind_eq_ok.1 hafter
      rw [Outcome.pure_eq_ok] at hall
      rw [ht] at hm
      refine ⟨[], t, after, rfl, hall.symm, ?_⟩
      rw [List.nil_append, resolveMethods, hm, hrest]
      rfl
  | cons other front ih =>
      rw [List.cons_append, resolveMethods] at h
      obtain ⟨first, hfirst, hafter⟩ := Outcome.bind_eq_ok.1 h
      obtain ⟨methods, hrest, hall⟩ := Outcome.bind_eq_ok.1 hafter
      rw [Outcome.pure_eq_ok] at hall
      obtain ⟨before, t, after, hlength, rfl, hrest'⟩ := ih hrest
      refine ⟨first :: before, t, after, congrArg Nat.succ hlength, hall.symm, ?_⟩
      rw [List.cons_append, resolveMethods, hfirst, hrest']
      rfl

/-- A service that resolves still does when one of its methods is to answer later; only that
method becomes another one, by its mode. -/
theorem resolve_of_defers (htells : r.TellsMode) {i : Nat} {d d' : ServiceDeclaration}
    (hdefers : d.Defers i d') {base : Url} {definition : ServiceDefinition}
    (h : r.resolve d base = .ok definition) :
    ∃ definition', r.resolve d' base = .ok definition' ∧ definition.Defers i definition' := by
  cases hdefers with
  | intro service front rest m ds es hm =>
      obtain ⟨methods, hmethods, hdefinition⟩ := Outcome.bind_eq_ok.1 h
      rw [Outcome.pure_eq_ok] at hdefinition
      obtain ⟨before, t, after, hlength, rfl, hmethods'⟩ :=
        resolveMethods_of_eq_map (htells.resolveMethod_eq service hm) hmethods
      refine ⟨_, Outcome.bind_eq_ok.2 ⟨_, hmethods', rfl⟩, ?_⟩
      rw [← hdefinition, ← hlength]
      exact .intro service base before after t

end ServiceResolver

end WebClient
