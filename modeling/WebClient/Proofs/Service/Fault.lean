import WebClient.Proofs.Directive.Failing
import WebClient.Proofs.Service.Acceptance
import WebClient.Proofs.Service.Rejection

/-!
# Why a declared method is not resolved

A declared method is resolved in one pass: its own directives, those of its parameters
from left to right, the converter of its answer, and the checks of the method that is
built.  `MethodDeclaration.Fault` says what stops the pass first, in terms of the
declaration, and which parameter is at fault, if one is.
-/

namespace WebClient

open ServiceResolver (ofConverters Binds Fills fill placed slotKinds configured)

variable {converters : ConverterRegistry}

/-- Directives that can be carried out on a method, one after the other. -/
structure Directive.OnMethod (ds : List Directive) : Prop where
  targets : ∀ d ∈ ds, d.target = .method
  oneHttp : (ds.filterMap Directive.http?).length ≤ 1
  lines : ∀ line ∈ ds.flatMap Directive.headerLines, (DirectiveHandler.headerPair? line).isSome

/-- Declared parameters whose directives can be carried out, one after the other, with what
they leave in the places. -/
def ParameterDeclaration.Fill (converters : ConverterRegistry) (ps : List ParameterDeclaration)
    (slots : List (Option Parameter)) : Prop :=
  List.Forall₂ (Fills converters) ps slots ∧ AllSame (slotKinds slots)

namespace MethodDeclaration

/-- What stops the steps of a declared method first: the place of the parameter that is at
fault, if one is, and the cause. -/
inductive Misdeclared (converters : ConverterRegistry) (d : MethodDeclaration) :
    Option Nat → ConfigCause → Prop
  /-- A directive of the method, behind some that can be carried out. -/
  | onMethod {front rest : List Directive} {e : Directive} {cause : ConfigCause}
      (hsplit : d.directives = front ++ e :: rest) (hfront : Directive.OnMethod front)
      (hfault : MethodFault (front.filterMap Directive.http?).head? e cause) :
      Misdeclared converters d none cause
  /-- A directive of a parameter, behind some of that parameter and those of the parameters
  in front of it. -/
  | onParameter {front rest : List ParameterDeclaration} {p : ParameterDeclaration}
      {before after : List Directive} {e : Directive} {slots : List (Option Parameter)}
      {slot : Option Parameter} {cause : ConfigCause}
      (hmethod : Directive.OnMethod d.directives) (hsplit : d.parameters = front ++ p :: rest)
      (hdirectives : p.directives = before ++ e :: after)
      (hbefore : ParameterDeclaration.Fill converters
        (front ++ [{ p with directives := before }]) (slots ++ [slot]))
      (hfault : ParameterFault converters p.type front.length
        (slotKinds (slots ++ [slot])).head? slot.isSome e cause) :
      Misdeclared converters d (some front.length) cause
  /-- No converter is provided for the answer. -/
  | noResponse {slots : List (Option Parameter)} (hmethod : Directive.OnMethod d.directives)
      (hslots : ParameterDeclaration.Fill converters d.parameters slots)
      (hnone : ∀ c, converters.resolve d.returns .responseBody ≠ .ok c) :
      Misdeclared converters d none (.missingConverter d.returns .responseBody)

/-- What stops the resolving of a declared method first: one of its steps, or the first rule
that the method breaks which they make. -/
inductive Fault (converters : ConverterRegistry) (service : String) (d : MethodDeclaration) :
    Option Nat → ConfigCause → Prop
  | misdeclared {place : Option Nat} {cause : ConfigCause}
      (hfault : d.Misdeclared converters place cause) : Fault converters service d place cause
  | unbuilt {slots : List (Option Parameter)} {c : ResponseConverter} {place : Option Nat}
      {cause : ConfigCause} (hmethod : Directive.OnMethod d.directives)
      (hslots : ParameterDeclaration.Fill converters d.parameters slots)
      (hc : converters.resolve d.returns .responseBody = .ok (.response c))
      (hrejects : (configured service d slots c).Rejects place cause) :
      Fault converters service d place cause

end MethodDeclaration

namespace ServiceResolver

/-! ## Directives of a method -/

theorem applyToMethod_start_eq_ok {ds : List Directive}
    (hstandard : ∀ d ∈ ds, d.isStandard = true) {b b' : MethodBuilder} (hhttp : b.http = none) :
    ((ofConverters converters).applyToMethod ds).outcome b = (.ok (), b') ↔
      Directive.OnMethod ds ∧ b' = DirectiveHandler.describe ds b := by
  rw [applyToMethod_eq_ok hstandard, hhttp]
  constructor
  · rintro ⟨htargets, hone, hlines, hleft⟩
    exact ⟨⟨htargets, hone, hlines⟩, hleft⟩
  · rintro ⟨⟨htargets, hone, hlines⟩, hleft⟩
    exact ⟨htargets, hone, hlines, hleft⟩

theorem applyToMethod_failsWith {ds : List Directive}
    (hstandard : ∀ d ∈ ds, d.isStandard = true) {b : MethodBuilder} (hhttp : b.http = none)
    {e : ConfigError} :
    ((ofConverters converters).applyToMethod ds).FailsWith b e ↔
      ∃ front d rest cause, ds = front ++ d :: rest ∧ Directive.OnMethod front ∧
        MethodFault (front.filterMap Directive.http?).head? d cause ∧ e = .of cause := by
  refine (@Configure.failsWith_run _ (fun _ => (ofConverters converters).applyToMethod)
    (fun _ => (ofConverters converters).apply .method none none) (fun _ => rfl)
    (fun _ _ _ => rfl) 0 ds b e).trans ?_
  have hdescribed (front : List Directive) :
      (DirectiveHandler.describe front b).http = (front.filterMap Directive.http?).head? := by
    rw [DirectiveHandler.describe, hhttp, Option.none_or]
  constructor
  · rintro ⟨front, d, rest, mid, rfl, happlied, hd⟩
    have hstandardFront := fun x hx => hstandard x (List.mem_append_left _ hx)
    obtain ⟨hfront, rfl⟩ := (applyToMethod_start_eq_ok hstandardFront hhttp).1 happlied
    obtain ⟨cause, hfault, rfl⟩ := (apply_failsWith_of_method (hstandard d (by simp))).1 hd
    rw [hdescribed] at hfault
    exact ⟨front, d, rest, cause, rfl, hfront, hfault, rfl⟩
  · rintro ⟨front, d, rest, cause, rfl, hfront, hfault, rfl⟩
    have hstandardFront := fun x hx => hstandard x (List.mem_append_left _ hx)
    rw [← hdescribed] at hfault
    exact ⟨front, d, rest, _, rfl,
      (applyToMethod_start_eq_ok hstandardFront hhttp).2 ⟨hfront, rfl⟩,
      (apply_failsWith_of_method (hstandard d (by simp))).2 ⟨cause, hfault, rfl⟩⟩

/-! ## Directives of parameters -/

/-- The directives of one more parameter are carried out at the next place. -/
theorem applyToParameters_concat (r : ServiceResolver) (index : Nat)
    (front : List ParameterDeclaration) (p : ParameterDeclaration) :
    r.applyToParameters index (front ++ [p]) =
      r.applyToParameters index front >>= fun _ =>
        r.applyToParameter p.type (index + front.length) p.directives := by
  induction front generalizing index with
  | nil =>
      rw [List.nil_append, applyToParameters, applyToParameters]
      exact bind_pure_unit
  | cons q front ih =>
      rw [List.cons_append, applyToParameters, applyToParameters, ih, bind_assoc,
        MethodBuilder.place_cons]

/-- The directives of parameters fail at one directive of one parameter, behind those in
front of it, which leave its place as they would if no other directive followed. -/
theorem applyToParameters_failsWith {r : ServiceResolver} {ps : List ParameterDeclaration}
    {b : MethodBuilder} {e : ConfigError} :
    (r.applyToParameters 0 ps).FailsWith b e ↔
      ∃ front p rest before d after mid, ps = front ++ p :: rest ∧
        p.directives = before ++ d :: after ∧
        (r.applyToParameters 0 (front ++ [{ p with directives := before }])).outcome b =
          (.ok (), mid) ∧
        Configure.FailsWith (ExceptT.adapt (ConfigError.atParameter front.length)
          (r.apply .parameter (some p.type) (some front.length) d)) mid e := by
  have hparameter (type : TypeName) (i : Nat) (ds : List Directive) (mid : MethodBuilder) :=
    @Configure.failsWith_run _ (fun _ => r.applyToParameter type i)
      (fun _ d => ExceptT.adapt (ConfigError.atParameter i)
        (r.apply .parameter (some type) (some i) d))
      (fun _ => rfl) (fun _ _ _ => rfl) 0 ds mid e
  refine (@Configure.failsWith_run _ r.applyToParameters
    (fun i p => r.applyToParameter p.type i p.directives) (fun _ => rfl) (fun _ _ _ => rfl)
    0 ps b e).trans ?_
  simp only [hparameter, applyToParameters_concat, Configure.outcome_bind_eq_ok, Nat.zero_add]
  constructor
  · rintro ⟨front, p, rest, mid, hsplit, hfront, before, d, after, last, hds, hbefore, hd⟩
    exact ⟨front, p, rest, before, d, after, last, hsplit, hds, ⟨(), mid, hfront, hbefore⟩, hd⟩
  · rintro ⟨front, p, rest, before, d, after, last, hsplit, hds, ⟨_, mid, hfront, hbefore⟩, hd⟩
    exact ⟨front, p, rest, mid, hsplit, hfront, before, d, after, last, hds, hbefore, hd⟩

/-- A builder of which no parameter is known. -/
structure Unfilled (b : MethodBuilder) : Prop where
  parameters : b.parameters = []
  bodyKind : b.bodyKind = none

theorem Unfilled.bodyKind_fill {b : MethodBuilder} (hb : Unfilled b)
    (slots : List (Option Parameter)) : (fill 0 slots b).bodyKind = (slotKinds slots).head? := by
  rw [fill, hb.bodyKind, Option.none_or]

theorem Unfilled.lookup_fill {b : MethodBuilder} (hb : Unfilled b)
    (slots : List (Option Parameter)) (slot : Option Parameter) :
    (fill 0 (slots ++ [slot]) b).parameters.lookup slots.length = slot := by
  have hplaced := lookup_placed 0 (slots ++ [slot]) slots.length
  rw [Nat.zero_add, List.getElem?_concat_length, Option.join_some] at hplaced
  rw [fill, hb.parameters, List.nil_append, hplaced]

/-- The directives of parameters are carried out when they leave something in each place. -/
theorem Unfilled.applyToParameters_eq_ok {b b' : MethodBuilder} (hb : Unfilled b)
    {ps : List ParameterDeclaration}
    (hstandard : ∀ p ∈ ps, ∀ d ∈ p.directives, d.isStandard = true)
    (harity : ps.length ≤ b.arity) :
    ((ofConverters converters).applyToParameters 0 ps).outcome b = (.ok (), b') ↔
      ∃ slots, ParameterDeclaration.Fill converters ps slots ∧ b' = fill 0 slots b := by
  have hfresh (i : Nat) (_ : 0 ≤ i) : b.parameters.lookup i = none := by
    rw [hb.parameters]
    rfl
  have hplaces : 0 + ps.length ≤ b.arity := by omega
  rw [ServiceResolver.applyToParameters_eq_ok hstandard hfresh hplaces, hb.bodyKind]
  constructor
  · rintro ⟨slots, hslots, hsame, hleft⟩
    exact ⟨slots, ⟨hslots, hsame⟩, hleft⟩
  · rintro ⟨slots, ⟨hslots, hsame⟩, hleft⟩
    exact ⟨slots, hslots, hsame, hleft⟩

/-- The directives of parameters fail at the first one that cannot be carried out. -/
theorem Unfilled.applyToParameters_failsWith {b : MethodBuilder} (hb : Unfilled b)
    {ps : List ParameterDeclaration}
    (hstandard : ∀ p ∈ ps, ∀ d ∈ p.directives, d.isStandard = true)
    (harity : ps.length ≤ b.arity) {e : ConfigError} :
    ((ofConverters converters).applyToParameters 0 ps).FailsWith b e ↔
      ∃ front p rest before d after slots slot cause, ps = front ++ p :: rest ∧
        p.directives = before ++ d :: after ∧
        ParameterDeclaration.Fill converters (front ++ [{ p with directives := before }])
          (slots ++ [slot]) ∧
        ParameterFault converters p.type front.length (slotKinds (slots ++ [slot])).head?
          slot.isSome d cause ∧
        e = ⟨none, none, some front.length, cause⟩ := by
  -- What is carried out before a directive of a parameter is a declaration of its own.
  have hbefore {front rest : List ParameterDeclaration} {p : ParameterDeclaration}
      {before after : List Directive} {d : Directive} (hsplit : ps = front ++ p :: rest)
      (hds : p.directives = before ++ d :: after) :
      d.isStandard = true ∧ front.length < b.arity ∧
        ∀ mid, ((ofConverters converters).applyToParameters 0
            (front ++ [{ p with directives := before }])).outcome b = (.ok (), mid) ↔
          ∃ slots, ParameterDeclaration.Fill converters
            (front ++ [{ p with directives := before }]) slots ∧ mid = fill 0 slots b := by
    subst hsplit
    rw [List.length_append, List.length_cons] at harity
    refine ⟨hstandard p (by simp) d (by simp [hds]), by omega, fun mid => ?_⟩
    refine hb.applyToParameters_eq_ok (fun q hq own hown => ?_) ?_
    · simp only [List.mem_append, List.mem_singleton] at hq
      obtain hq | rfl := hq
      · exact hstandard q (by simp [hq]) own hown
      · exact hstandard p (by simp) own (by simp [hds, hown])
    · rw [List.length_append, List.length_singleton]
      omega
  -- The last slot is the one of that parameter.
  have hfault {front : List ParameterDeclaration} {q : ParameterDeclaration} {type : TypeName}
      {slots : List (Option Parameter)} {slot : Option Parameter} {d : Directive}
      (hslots : ParameterDeclaration.Fill converters (front ++ [q]) (slots ++ [slot]))
      (hd : d.isStandard = true) (hplace : front.length < b.arity) (e : ConfigError) :
      Configure.FailsWith (ExceptT.adapt (ConfigError.atParameter front.length)
          ((ofConverters converters).apply .parameter (some type) (some front.length) d))
          (fill 0 (slots ++ [slot]) b) e ↔
        ∃ cause, ParameterFault converters type front.length (slotKinds (slots ++ [slot])).head?
          slot.isSome d cause ∧ e = ⟨none, none, some front.length, cause⟩ := by
    have hlength : front.length = slots.length := by
      simpa using hslots.1.length_eq
    have hplace : front.length < (fill 0 (slots ++ [slot]) b).arity := hplace
    rw [apply_failsWith_of_parameter hd hplace, hb.bodyKind_fill, hlength, hb.lookup_fill]
  rw [ServiceResolver.applyToParameters_failsWith]
  constructor
  · rintro ⟨front, p, rest, before, d, after, mid, hsplit, hds, happlied, hd⟩
    obtain ⟨hstandard, hplace, hok⟩ := hbefore hsplit hds
    obtain ⟨slots, hslots, rfl⟩ := (hok mid).1 happlied
    obtain rfl | ⟨slots, slot, rfl⟩ := List.eq_nil_or_concat slots
    · have hlength := hslots.1.length_eq
      simp at hlength
    · rw [List.concat_eq_append] at hslots hd
      obtain ⟨cause, hcause, rfl⟩ := (hfault hslots hstandard hplace e).1 hd
      exact ⟨front, p, rest, before, d, after, slots, slot, cause, hsplit, hds, hslots, hcause,
        rfl⟩
  · rintro ⟨front, p, rest, before, d, after, slots, slot, cause, hsplit, hds, hslots, hcause,
      rfl⟩
    obtain ⟨hstandard, hplace, hok⟩ := hbefore hsplit hds
    exact ⟨front, p, rest, before, d, after, _, hsplit, hds, (hok _).2 ⟨_, hslots, rfl⟩,
      (hfault hslots hstandard hplace _).2 ⟨cause, hcause, rfl⟩⟩

/-! ## The whole method -/

theorem unfilled_describe_start (service name : String) (arity : Nat) (ds : List Directive) :
    Unfilled (DirectiveHandler.describe ds (MethodBuilder.start service name arity)) :=
  ⟨rfl, rfl⟩

/-- Setting the converter of the answer fails only if none is provided for its type. -/
theorem setResponse_failsWith {type : TypeName} {b : MethodBuilder} (hb : b.response = none)
    {e : ConfigError} :
    Configure.FailsWith (match converters.resolve type .responseBody with
        | .ok converter => MethodBuilder.setResponse type converter
        | .error e => throw e) b e ↔
      (∀ c, converters.resolve type .responseBody ≠ .ok c) ∧
        e = .of (.missingConverter type .responseBody) := by
  cases hresolve : converters.resolve type .responseBody with
  | error own =>
      obtain ⟨hnone, rfl⟩ := ConverterRegistry.resolve_eq_error.1 hresolve
      simp
  | ok converter =>
      -- A converter that is provided is one of answers, and the builder has none yet.
      obtain ⟨c, rfl⟩ := Converter.eq_response (capability_of_resolve hresolve)
      have hset : (MethodBuilder.setResponse type (.response c)).outcome b =
          (.ok (), { b with response := some (type, c) }) :=
        MethodBuilder.setResponse_eq_ok.2 ⟨c, rfl, hb, rfl⟩
      simp [Configure.FailsWith, hset]

/-- The steps of a declared method fail for what stops them first. -/
theorem configure_failsWith {service : String} {d : MethodDeclaration}
    (hstandard : d.IsStandard) {e : ConfigError} :
    ((ofConverters converters).configure d).FailsWith
        (MethodBuilder.start service d.name d.parameters.length) e ↔
      ∃ place cause, d.Misdeclared converters place cause ∧ e = ⟨none, none, place, cause⟩ := by
  have hunfilled := unfilled_describe_start service d.name d.parameters.length
  have harity := Nat.le_refl d.parameters.length
  have hdescribe (mid : MethodBuilder) :
      ((ofConverters converters).applyToMethod d.directives).outcome
          (MethodBuilder.start service d.name d.parameters.length) = (.ok (), mid) ↔
        Directive.OnMethod d.directives ∧ mid = DirectiveHandler.describe d.directives
          (MethodBuilder.start service d.name d.parameters.length) :=
    applyToMethod_start_eq_ok hstandard.1 rfl
  have hanswer (slots : List (Option Parameter)) :
      (fill 0 slots (DirectiveHandler.describe d.directives
        (MethodBuilder.start service d.name d.parameters.length))).response = none := rfl
  rw [configure, Configure.failsWith_bind, applyToMethod_failsWith hstandard.1 rfl]
  simp only [hdescribe, Configure.failsWith_bind]
  constructor
  · rintro (⟨front, own, rest, cause, hsplit, hfront, hfault, rfl⟩ |
      ⟨_, mid, ⟨hmethod, rfl⟩, hrest⟩)
    · exact ⟨none, cause, .onMethod hsplit hfront hfault, rfl⟩
    obtain hfails | ⟨_, last, happlied, hfails⟩ := hrest
    · obtain ⟨front, p, rest, before, own, after, slots, slot, cause, hsplit, hds, hbefore,
        hfault, rfl⟩ :=
        ((hunfilled d.directives).applyToParameters_failsWith hstandard.2 harity).1 hfails
      exact ⟨_, cause, .onParameter hmethod hsplit hds hbefore hfault, rfl⟩
    · obtain ⟨slots, hslots, rfl⟩ :=
        ((hunfilled d.directives).applyToParameters_eq_ok hstandard.2 harity).1 happlied
      obtain ⟨hnone, rfl⟩ := (setResponse_failsWith (hanswer slots)).1 hfails
      exact ⟨_, _, .noResponse hmethod hslots hnone, rfl⟩
  · rintro ⟨place, cause, hfault, rfl⟩
    cases hfault with
    | onMethod hsplit hfront hfault =>
        exact Or.inl ⟨_, _, _, _, hsplit, hfront, hfault, rfl⟩
    | onParameter hmethod hsplit hds hbefore hfault =>
        refine Or.inr ⟨(), _, ⟨hmethod, rfl⟩, Or.inl ?_⟩
        exact ((hunfilled d.directives).applyToParameters_failsWith hstandard.2 harity).2
          ⟨_, _, _, _, _, _, _, _, _, hsplit, hds, hbefore, hfault, rfl⟩
    | @noResponse slots hmethod hslots hnone =>
        refine Or.inr ⟨(), _, ⟨hmethod, rfl⟩, Or.inr ⟨(), _, ?_,
          (setResponse_failsWith (hanswer slots)).2 ⟨hnone, rfl⟩⟩⟩
        exact ((hunfilled d.directives).applyToParameters_eq_ok hstandard.2 harity).2
          ⟨slots, hslots, rfl⟩

theorem configure_eq_ok_iff {service : String} {d : MethodDeclaration}
    (hstandard : d.IsStandard) {b : MethodBuilder} :
    ((ofConverters converters).configure d).outcome
        (MethodBuilder.start service d.name d.parameters.length) = (.ok (), b) ↔
      ∃ slots c, Directive.OnMethod d.directives ∧
        ParameterDeclaration.Fill converters d.parameters slots ∧
        converters.resolve d.returns .responseBody = .ok (.response c) ∧
        b = configured service d slots c := by
  rw [configure_eq_ok hstandard]
  constructor
  · rintro ⟨slots, c, htargets, hone, hlines, hslots, hsame, hc, rfl⟩
    exact ⟨slots, c, ⟨htargets, hone, hlines⟩, ⟨hslots, hsame⟩, hc, rfl⟩
  · rintro ⟨slots, c, ⟨htargets, hone, hlines⟩, ⟨hslots, hsame⟩, hc, rfl⟩
    exact ⟨slots, c, htargets, hone, hlines, hslots, hsame, hc, rfl⟩

/-- A method is not resolved when its steps fail, or when they make a builder that does not
build. -/
theorem resolveMethod_failure {service : String} {d : MethodDeclaration} {e : ConfigError} :
    (ofConverters converters).resolveMethod service d = .error e ↔
      ∃ own, own.inMethod service d.name = e ∧
        (((ofConverters converters).configure d).FailsWith
            (MethodBuilder.start service d.name d.parameters.length) own ∨
          ∃ b, ((ofConverters converters).configure d).outcome
              (MethodBuilder.start service d.name d.parameters.length) = (.ok (), b) ∧
            b.build = .error own) := by
  have hrun : (ofConverters converters).resolveMethod service d =
      (match ((ofConverters converters).configure d).outcome
          (MethodBuilder.start service d.name d.parameters.length) with
        | (.ok (), built) => built.build
        | (.error e, _) => .error e).mapError (ConfigError.inMethod service d.name) := rfl
  rw [hrun, Outcome.mapError_eq_error]
  unfold Configure.FailsWith
  obtain ⟨result, b⟩ := ((ofConverters converters).configure d).outcome
    (MethodBuilder.start service d.name d.parameters.length)
  cases result with
  | error own => simp [and_comm, eq_comm]
  | ok answer => simp [and_comm]

/-- A standard declaration of a method fails to be resolved with its first fault; the error
names the service, the method and the place of the parameter at fault. -/
theorem resolveMethod_eq_error {service : String} {d : MethodDeclaration}
    (hstandard : d.IsStandard) {e : ConfigError} :
    (ofConverters converters).resolveMethod service d = .error e ↔
      ∃ place cause, d.Fault converters service place cause ∧
        e = ⟨some service, some d.name, place, cause⟩ := by
  rw [resolveMethod_failure]
  simp only [configure_failsWith hstandard, configure_eq_ok_iff hstandard,
    MethodBuilder.build_eq_error]
  constructor
  · rintro ⟨_, rfl, ⟨place, cause, hfault, rfl⟩ |
      ⟨_, ⟨slots, c, hmethod, hslots, hc, rfl⟩, place, cause, hrejects, rfl⟩⟩
    · exact ⟨place, cause, .misdeclared hfault, rfl⟩
    · exact ⟨place, cause, .unbuilt hmethod hslots hc hrejects, rfl⟩
  · rintro ⟨place, cause, hfault, rfl⟩
    cases hfault with
    | misdeclared hfault => exact ⟨_, rfl, Or.inl ⟨place, cause, hfault, rfl⟩⟩
    | unbuilt hmethod hslots hc hrejects =>
        exact ⟨_, rfl, Or.inr ⟨_, ⟨_, _, hmethod, hslots, hc, rfl⟩, place, cause, hrejects, rfl⟩⟩

end ServiceResolver

end WebClient
