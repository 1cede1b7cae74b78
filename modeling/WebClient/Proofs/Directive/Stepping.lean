import WebClient.Proofs.Directive.Registering
import WebClient.Proofs.Service.Trace

/-!
# Handlers that take steps

Carrying out a directive is to take steps of building the method, as a program could by itself.
A step lets the method answer later only where the directive says so
(`DirectiveHandler.TakesSteps`), and none changes its name or the number of its arguments.  So
these and the mode of a resolved method are as they are declared
(`ServiceResolver.TakesSteps.resolveMethod`).  It is so with the standard handlers and with any
further ones that take steps.
-/

namespace WebClient

namespace Configure

variable {α β : Type}

/-- Once it has succeeded, a computation has taken some steps, with one among them that lets
the method answer later, or without any. -/
def Takes (later : Bool) (x : Configure α) : Prop :=
  ∀ a b b', x.outcome b = (.ok a, b') →
    ∃ steps : List MethodStep, b' = b.takeAll steps ∧
      steps.any MethodStep.isAsynchronous = later

theorem takes_pure (a : α) : Takes false (pure a : Configure α) := by
  rintro _ b _ ⟨⟩
  exact ⟨[], rfl, rfl⟩

theorem takes_throw (later : Bool) (e : ConfigError) : Takes later (throw e : Configure α) := by
  rintro _ _ _ ⟨⟩

theorem takes_reject (later : Bool) (cause : ConfigCause) :
    Takes later (reject cause : Configure α) := by
  rintro _ _ _ ⟨⟩

theorem takes_run (step : MethodStep) : Takes step.isAsynchronous step.run := by
  intro _ b b' h
  refine ⟨[step], ?_, Bool.or_false _⟩
  exact (congrArg Prod.snd h).symm

theorem Takes.bind {l l' : Bool} {x : Configure α} {f : α → Configure β} (hx : Takes l x)
    (hf : ∀ a, Takes l' (f a)) : Takes (l || l') (x >>= f) := by
  intro c b b' h
  obtain ⟨a, mid, hfirst, hrest⟩ := outcome_bind_eq_ok.1 h
  obtain ⟨steps, rfl, hsteps⟩ := hx a b mid hfirst
  obtain ⟨more, rfl, hmore⟩ := hf a c _ b' hrest
  refine ⟨steps ++ more, ?_, ?_⟩
  · rw [MethodBuilder.takeAll, MethodBuilder.takeAll, MethodBuilder.takeAll, List.foldl_append]
  · rw [List.any_append, hsteps, hmore]

theorem Takes.adapt {l : Bool} {x : Configure α} (hx : Takes l x)
    (f : ConfigError → ConfigError) : Takes l (x.adapt f) := by
  intro a b b' h
  rw [outcome_adapt, Prod.mk.injEq, Outcome.mapError_eq_ok] at h
  exact hx a b b' (Prod.ext h.1 h.2)

end Configure

/-! ## The standard handlers -/

namespace DirectiveHandler

open Configure (Takes)

/-- For a directive, a handler takes steps; one of them lets the method answer later when the
directive is the one for that. -/
def TakesSteps (handler : DirectiveHandler) : Prop :=
  ∀ d converter index, Takes (decide (d = .asynchronous)) (handler.handle d converter index)

theorem takes_placeOf (variant : Variant) (index : Option Nat) :
    Takes false (placeOf variant index) := by
  cases index with
  | none => exact Configure.takes_reject _ _
  | some index => exact Configure.takes_pure index

theorem takes_stringConverter (converter : Option Converter) :
    Takes false (stringConverter converter) := by
  unfold stringConverter
  split
  · exact Configure.takes_pure _
  · exact Configure.takes_reject _ _

theorem takes_requestConverter (converter : Option Converter) :
    Takes false (requestConverter converter) := by
  unfold requestConverter
  split
  · exact Configure.takes_pure _
  · exact Configure.takes_reject _ _

theorem takes_setParameter (index : Nat) (p : Parameter) :
    Takes false (MethodBuilder.setParameter index p) :=
  Configure.takes_run (.parameter index p)

theorem takes_setBodyKind (kind : BodyKind) : Takes false (MethodBuilder.setBodyKind kind) :=
  Configure.takes_run (.bodyKind kind)

theorem takes_setStringParameter (variant : Variant) (converter : Option Converter)
    (index : Option Nat) (p : StringConverter → Parameter) :
    Takes false (setStringParameter variant converter index p) :=
  (takes_placeOf variant index).bind fun _ =>
    (takes_stringConverter converter).bind fun _ => takes_setParameter _ _

theorem takes_addHeaders (lines : List String) : Takes false (addHeaders lines) := by
  induction lines with
  | nil => exact Configure.takes_pure ()
  | cons line lines ih =>
      have hline : Takes false (addHeaders.liftExcept (parseHeader line)) := by
        cases parseHeader line with
        | error e => exact Configure.takes_throw _ e
        | ok pair => exact Configure.takes_pure pair
      exact hline.bind fun pair =>
        (Configure.takes_run (.header pair.1 pair.2)).bind fun _ => ih

theorem takesSteps_http (method : Method) : (http method).TakesSteps := by
  intro d converter index
  cases d with
  | http own template =>
      rw [http]
      dsimp only
      split
      · exact Configure.takes_run (.http own template)
      · exact Configure.takes_reject _ _
  | _ => exact Configure.takes_reject _ _

theorem takesSteps_asynchronous : asynchronous.TakesSteps := by
  intro d converter index
  cases d with
  | asynchronous => exact Configure.takes_run .asynchronous
  | _ => exact Configure.takes_reject _ _

theorem takesSteps_headers : headers.TakesSteps := by
  intro d converter index
  cases d with
  | headers lines => exact takes_addHeaders lines
  | _ => exact Configure.takes_reject _ _

/-- The handlers that set a parameter that converts values to texts, and nothing else. -/
theorem takesSteps_string {handler : DirectiveHandler}
    (h : handler ∈ [path, url, query, queryMap, queryName, header, headerMap]) :
    handler.TakesSteps := by
  intro d converter index
  simp only [List.mem_cons, List.not_mem_nil, or_false] at h
  rcases h with rfl | rfl | rfl | rfl | rfl | rfl | rfl <;> cases d <;>
    first
      | exact takes_setStringParameter _ _ _ _
      | exact Configure.takes_reject _ _

theorem takesSteps_field : field.TakesSteps := by
  intro d converter index
  cases d with
  | field name encoded =>
      exact (takes_placeOf _ index).bind fun _ => (takes_stringConverter converter).bind fun _ =>
        (takes_setBodyKind .form).bind fun _ => takes_setParameter _ _
  | _ => exact Configure.takes_reject _ _

theorem takesSteps_fieldMap : fieldMap.TakesSteps := by
  intro d converter index
  rw [fieldMap]
  dsimp only
  split
  · exact Configure.takes_reject _ _
  · next hvariant =>
      have hother : d ≠ .asynchronous := by
        rintro rfl
        exact hvariant (by decide)
      rw [decide_eq_false hother]
      split
      · exact Configure.takes_reject _ _
      · exact (takes_placeOf _ index).bind fun _ =>
          (takes_stringConverter converter).bind fun _ =>
            (takes_setBodyKind .form).bind fun _ => takes_setParameter _ _

theorem takesSteps_part : part.TakesSteps := by
  intro d converter index
  cases d with
  | part name =>
      exact (takes_placeOf _ index).bind fun _ => (takes_requestConverter converter).bind fun _ =>
        (takes_setBodyKind .multipart).bind fun _ => takes_setParameter _ _
  | _ => exact Configure.takes_reject _ _

theorem takesSteps_partMap : partMap.TakesSteps := by
  intro d converter index
  cases d with
  | partMap =>
      exact (takes_placeOf _ index).bind fun _ => (takes_setBodyKind .multipart).bind fun _ =>
        (takes_requestConverter converter).bind fun _ => takes_setParameter _ _
  | _ => exact Configure.takes_reject _ _

theorem takesSteps_body : body.TakesSteps := by
  intro d converter index
  cases d with
  | body =>
      exact (takes_placeOf _ index).bind fun _ => (takes_requestConverter converter).bind fun _ =>
        takes_setParameter _ _
  | _ => exact Configure.takes_reject _ _

theorem takesSteps_of_mem {handler : DirectiveHandler} (h : handler ∈ standard) :
    handler.TakesSteps := by
  rcases List.mem_append.1 h with hverb | hother
  · obtain ⟨method, -, rfl⟩ := List.mem_map.1 hverb
    exact takesSteps_http method
  · simp only [List.mem_cons, List.not_mem_nil, or_false] at hother
    rcases hother with rfl | rfl | rfl | rfl | rfl | rfl | rfl | rfl | rfl | rfl | rfl | rfl |
      rfl | rfl
    · exact takesSteps_headers
    · exact takesSteps_asynchronous
    iterate 7 exact takesSteps_string (by simp)
    · exact takesSteps_field
    · exact takesSteps_fieldMap
    · exact takesSteps_part
    · exact takesSteps_partMap
    · exact takesSteps_body

end DirectiveHandler

/-! ## Resolvers -/

namespace ServiceResolver

open Configure (Takes)

/-- All handlers take steps. -/
def TakesSteps (r : ServiceResolver) : Prop := ∀ handler ∈ r.handlers.handlers, handler.TakesSteps

theorem takesSteps_ofConverters (converters : ConverterRegistry) :
    (ofConverters converters).TakesSteps :=
  fun _ => DirectiveHandler.takesSteps_of_mem

/-- Further handlers may be added as long as they take steps. -/
theorem TakesSteps.withHandler {r r' : ServiceResolver} {handler : DirectiveHandler}
    (h : r.TakesSteps) (hhandler : handler.TakesSteps) (hadd : r.withHandler handler = .ok r') :
    r'.TakesSteps := by
  obtain ⟨handlers, hregister, rfl⟩ := Outcome.map_eq_ok.1 hadd
  obtain ⟨-, rfl⟩ := HandlerRegistry.register_eq_ok.1 hregister
  exact List.forall_mem_append.2 ⟨h, List.forall_mem_singleton.2 hhandler⟩

variable {r : ServiceResolver}

theorem TakesSteps.takes_apply (h : r.TakesSteps) (declaredOn : Target)
    (type : Option TypeName) (index : Option Nat) (d : Directive) :
    Takes (decide (d = .asynchronous)) (r.apply declaredOn type index d) := by
  rw [apply]
  split
  · exact Configure.takes_reject _ _
  · next handler hget =>
      have hmem : handler ∈ r.handlers.handlers := List.mem_of_find?_eq_some hget
      split
      · exact Configure.takes_reject _ _
      · split
        · exact h handler hmem d _ _
        · exact Configure.takes_throw _ _

theorem TakesSteps.takes_applyToMethod (h : r.TakesSteps) (ds : List Directive) :
    Takes (decide (.asynchronous ∈ ds)) (r.applyToMethod ds) := by
  induction ds with
  | nil => exact Configure.takes_pure ()
  | cons d ds ih =>
      have hboth := (h.takes_apply .method none none d).bind fun _ => ih
      have hlater : decide (.asynchronous ∈ d :: ds) =
          (decide (d = .asynchronous) || decide (.asynchronous ∈ ds)) := by
        simp [eq_comm]
      rw [hlater]
      exact hboth

/-- A directive on a parameter is not the one that lets the method answer later, as that is
refused there. -/
theorem TakesSteps.takes_apply_parameter (h : r.TakesSteps) (type : Option TypeName)
    (index : Option Nat) (d : Directive) : Takes false (r.apply .parameter type index d) := by
  by_cases hd : d = .asynchronous
  · subst hd
    rw [apply]
    split
    · exact Configure.takes_reject _ _
    · exact Configure.takes_reject _ _
  · have htakes := h.takes_apply .parameter type index d
    rwa [decide_eq_false hd] at htakes

theorem TakesSteps.takes_applyToParameter (h : r.TakesSteps) (type : TypeName) (index : Nat)
    (ds : List Directive) : Takes false (r.applyToParameter type index ds) := by
  induction ds with
  | nil => exact Configure.takes_pure ()
  | cons d ds ih =>
      exact ((h.takes_apply_parameter type index d).adapt _).bind fun _ => ih

theorem TakesSteps.takes_applyToParameters (h : r.TakesSteps) (index : Nat)
    (ps : List ParameterDeclaration) : Takes false (r.applyToParameters index ps) := by
  induction ps generalizing index with
  | nil => exact Configure.takes_pure ()
  | cons p ps ih =>
      exact (h.takes_applyToParameter p.type index p.directives).bind fun _ => ih (index + 1)

theorem TakesSteps.takes_configure (h : r.TakesSteps) (m : MethodDeclaration) :
    Takes (decide (.asynchronous ∈ m.directives)) (r.configure m) := by
  have hlater : decide (.asynchronous ∈ m.directives) =
      (decide (.asynchronous ∈ m.directives) || (false || false)) := by
    rw [Bool.or_false, Bool.or_false]
  rw [configure, hlater]
  refine (h.takes_applyToMethod m.directives).bind fun _ =>
    (h.takes_applyToParameters 0 m.parameters).bind fun _ => ?_
  split
  · exact Configure.takes_run (.response _ _)
  · exact Configure.takes_throw _ _

/-- A method resolves to one of its name, with its number of arguments and in its mode. -/
theorem TakesSteps.of_resolveMethod (h : r.TakesSteps) {service : String} {d : MethodDeclaration}
    {m : ServiceMethod} (hm : r.resolveMethod service d = .ok m) :
    m.name = d.name ∧ m.arity = d.parameters.length ∧
      m.asynchronous = decide (.asynchronous ∈ d.directives) := by
  have hrun : r.resolveMethod service d =
      (match (r.configure d).outcome
          (MethodBuilder.start service d.name d.parameters.length) with
        | (.ok (), built) => built.build
        | (.error e, _) => .error e).mapError (ConfigError.inMethod service d.name) := rfl
  rw [hrun, Outcome.mapError_eq_ok] at hm
  cases houtcome : (r.configure d).outcome
      (MethodBuilder.start service d.name d.parameters.length) with
  | mk result built =>
      rw [houtcome] at hm
      cases result with
      | error e => cases hm
      | ok _ =>
          obtain ⟨steps, rfl, hlater⟩ := h.takes_configure d _ _ _ houtcome
          -- Steps keep the name and the number of arguments that the builder starts with.
          have hmakes := MethodBuilder.build_eq_ok.1 hm
          have hrecords := MethodBuilder.records_takeAll
            (MethodBuilder.start service d.name d.parameters.length) steps
          refine ⟨hmakes.name.trans hrecords.name, hmakes.length.trans hrecords.arity, ?_⟩
          rw [hmakes.asynchronous, hrecords.asynchronous, hlater]
          exact Bool.false_or _

end ServiceResolver

end WebClient
