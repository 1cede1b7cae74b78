import Mathlib.Data.List.Forall2
import WebClient.Service.Resolver
import WebClient.Proofs.Directive.Handling

/-!
# How a declaration configures a builder

The directives of a declared method are carried out one after the other on one
builder.  What they leave is described here at once: by the directives of the method
as a whole, and by the parameters that the directives of the parameters stand for.
-/

namespace WebClient

/-- No directive of a method or its parameters is of another kind. -/
def MethodDeclaration.IsStandard (d : MethodDeclaration) : Prop :=
  (∀ e ∈ d.directives, e.isStandard = true) ∧
    ∀ p ∈ d.parameters, ∀ e ∈ p.directives, e.isStandard = true

namespace ServiceResolver

/-- The resolver with the standard handlers and some converters. -/
def ofConverters (converters : ConverterRegistry) : ServiceResolver := ⟨.standard, converters⟩

variable {converters : ConverterRegistry}

/-! ## Directives of a method -/

theorem apply_method_eq_ok {d : Directive} (hstandard : d.isStandard = true)
    {b b' : MethodBuilder} :
    ((ofConverters converters).apply .method none none d).outcome b = (.ok (), b') ↔
      d.target = .method ∧ (b.http.toList ++ d.http?.toList).length ≤ 1 ∧
        (∀ line ∈ d.headerLines, (DirectiveHandler.headerPair? line).isSome) ∧
        b' = DirectiveHandler.describe [d] b := by
  have hget : (ofConverters converters).handlers.get? d.variant = DirectiveHandler.standard? d :=
    DirectiveHandler.get?_standard hstandard
  have hconverter : (ofConverters converters).converterFor d none = .ok none := by
    unfold converterFor
    cases d.capability? <;> rfl
  rw [apply, hget]
  by_cases htarget : d.target = .method
  · obtain ⟨handler, hhandler, hhandle⟩ := DirectiveHandler.handle_of_method hstandard htarget
    simp only [hhandler, htarget, ne_eq, not_true_eq_false, if_false, hconverter, true_and]
    exact hhandle b b'
  · cases DirectiveHandler.standard? d with
    | none => simp [htarget]
    | some handler => simp [htarget]

/-- The verb and the path that a builder knows and those of directives. -/
theorem length_http_describe (d : Directive) (ds : List Directive) (b : MethodBuilder) :
    (b.http.toList ++ d.http?.toList).length ≤ 1 ∧
        ((DirectiveHandler.describe [d] b).http.toList ++
          ds.filterMap Directive.http?).length ≤ 1 ↔
      (b.http.toList ++ (d :: ds).filterMap Directive.http?).length ≤ 1 := by
  cases hhttp : b.http with
  | none => cases hd : d.http? <;> simp [DirectiveHandler.describe, hhttp, hd]
  | some known => cases hd : d.http? <;> simp [DirectiveHandler.describe, hhttp, hd]

theorem applyToMethod_eq_ok {ds : List Directive} (hstandard : ∀ d ∈ ds, d.isStandard = true)
    {b b' : MethodBuilder} :
    ((ofConverters converters).applyToMethod ds).outcome b = (.ok (), b') ↔
      (∀ d ∈ ds, d.target = .method) ∧
        (b.http.toList ++ ds.filterMap Directive.http?).length ≤ 1 ∧
        (∀ line ∈ ds.flatMap Directive.headerLines,
          (DirectiveHandler.headerPair? line).isSome) ∧
        b' = DirectiveHandler.describe ds b := by
  induction ds generalizing b with
  | nil =>
      rw [applyToMethod, Configure.outcome_pure, DirectiveHandler.describe_nil]
      constructor
      · intro h
        cases h
        cases b'.http <;> simp
      · rintro ⟨-, -, -, rfl⟩
        rfl
  | cons d ds ih =>
      have hd := hstandard d List.mem_cons_self
      have hds := fun e he => hstandard e (List.mem_cons_of_mem _ he)
      have happend := DirectiveHandler.describe_append [d] ds b
      rw [List.singleton_append] at happend
      rw [applyToMethod, Configure.outcome_bind_eq_ok, happend, ← length_http_describe]
      constructor
      · rintro ⟨_, mid, hfirst, hrest⟩
        obtain ⟨htarget, hhttp, hlines, rfl⟩ := (apply_method_eq_ok hd).1 hfirst
        obtain ⟨htargets, hhttps, hmore, rfl⟩ := (ih hds).1 hrest
        exact ⟨List.forall_mem_cons.2 ⟨htarget, htargets⟩, ⟨hhttp, hhttps⟩,
          List.forall_mem_append.2 ⟨hlines, hmore⟩, rfl⟩
      · rintro ⟨htargets, ⟨hhttp, hhttps⟩, hlines, rfl⟩
        obtain ⟨htarget, htargets⟩ := List.forall_mem_cons.1 htargets
        obtain ⟨hlines, hmore⟩ := List.forall_mem_append.1 hlines
        exact ⟨(), _, (apply_method_eq_ok hd).2 ⟨htarget, hhttp, hlines, rfl⟩,
          (ih hds).2 ⟨htargets, hhttps, hmore, rfl⟩⟩

/-! ## Directives of parameters -/

theorem capability_of_resolve {type : TypeName} {capability : Capability} {c : Converter}
    (h : converters.resolve type capability = .ok c) : c.capability = capability := by
  unfold ConverterRegistry.resolve at h
  split at h
  · next found hfound =>
      cases h
      obtain ⟨factory, -, hprovide⟩ := List.exists_of_findSome?_eq_some hfound
      cases capability with
      | string =>
          obtain ⟨s, -, rfl⟩ := Option.map_eq_some_iff.1 hprovide
          rfl
      | requestBody =>
          obtain ⟨s, -, rfl⟩ := Option.map_eq_some_iff.1 hprovide
          rfl
      | responseBody =>
          obtain ⟨s, -, rfl⟩ := Option.map_eq_some_iff.1 hprovide
          rfl
  · cases h

/-- A directive on a declared type stands for a parameter, with the converter that the
registry provides. -/
def Binds (converters : ConverterRegistry) (type : TypeName) (d : Directive) (p : Parameter) :
    Prop :=
  d.target = .parameter ∧ ∃ capability c, d.capability? = some capability ∧
    converters.resolve type capability = .ok c ∧ d.parameter? c = some p

theorem converterFor_some {d : Directive} {capability : Capability}
    (h : d.capability? = some capability) (type : TypeName) :
    (ofConverters converters).converterFor d (some type) =
      (converters.resolve type capability).map some := by
  unfold converterFor
  rw [h]
  rfl

theorem apply_parameter_eq_ok {d : Directive} (hstandard : d.isStandard = true)
    {type : TypeName} {index : Nat} {b b' : MethodBuilder} :
    ((ofConverters converters).apply .parameter (some type) (some index) d).outcome b =
        (.ok (), b') ↔
      ∃ p, Binds converters type d p ∧
        (MethodBuilder.declareParameter index p).outcome b = (.ok (), b') := by
  have hget : (ofConverters converters).handlers.get? d.variant = DirectiveHandler.standard? d :=
    DirectiveHandler.get?_standard hstandard
  rw [apply, hget]
  by_cases htarget : d.target = .parameter
  · obtain ⟨capability, hcapability, hfits⟩ := Directive.exists_parameter? hstandard htarget
    have hconverter : (ofConverters converters).converterFor d (some type) = _ :=
      converterFor_some hcapability type
    cases hresolve : converters.resolve type capability with
    | error e =>
        -- Without a converter the directive stands for no parameter.
        have hnone (p : Parameter) : ¬ Binds converters type d p := by
          rintro ⟨-, own, c, hown, hfound, -⟩
          obtain rfl : capability = own := Option.some.inj (hcapability.symm.trans hown)
          rw [hresolve] at hfound
          cases hfound
        rw [hresolve] at hconverter
        cases DirectiveHandler.standard? d with
        | none => simp [hnone]
        | some handler =>
            simp only [htarget, ne_eq, not_true_eq_false, if_false, hconverter, hnone,
              false_and, exists_false, iff_false]
            intro h
            cases h
    | ok c =>
        obtain ⟨p, hp⟩ := hfits c (capability_of_resolve hresolve)
        obtain ⟨handler, hhandler, hhandle⟩ := DirectiveHandler.handle_of_parameter? hp
        rw [hresolve] at hconverter
        simp only [hhandler, htarget, ne_eq, not_true_eq_false, if_false, hconverter]
        constructor
        · intro h
          exact ⟨p, ⟨htarget, capability, c, hcapability, hresolve, hp⟩, hhandle index b ▸ h⟩
        · rintro ⟨q, ⟨-, own, other, hown, hfound, hq⟩, hdeclare⟩
          obtain rfl : capability = own := Option.some.inj (hcapability.symm.trans hown)
          obtain rfl : c = other := Except.ok.inj (hresolve.symm.trans hfound)
          obtain rfl : p = q := Option.some.inj (hp.symm.trans hq)
          exact (hhandle index b).trans hdeclare
  · cases DirectiveHandler.standard? d with
    | none => simp [Binds, htarget]
    | some handler => simp [Binds, htarget]

/-- A parameter takes at most one directive: a second one would be for a place that is
taken. -/
theorem applyToParameter_eq_ok {ds : List Directive} (hstandard : ∀ d ∈ ds, d.isStandard = true)
    {type : TypeName} {index : Nat} {b b' : MethodBuilder}
    (hfresh : b.parameters.lookup index = none) :
    ((ofConverters converters).applyToParameter type index ds).outcome b = (.ok (), b') ↔
      (ds = [] ∧ b' = b) ∨
        ∃ d p, ds = [d] ∧ Binds converters type d p ∧
          (MethodBuilder.declareParameter index p).outcome b = (.ok (), b') := by
  -- An error is labelled with the place, which changes nothing about success.
  have hadapt {d : Directive} (hd : d ∈ ds) {b b' : MethodBuilder} :
      Configure.outcome (ExceptT.adapt (ConfigError.atParameter index)
          ((ofConverters converters).apply .parameter (some type) (some index) d)) b =
          (.ok (), b') ↔
        ∃ p, Binds converters type d p ∧
          (MethodBuilder.declareParameter index p).outcome b = (.ok (), b') := by
    rw [← apply_parameter_eq_ok (hstandard d hd), Configure.outcome_adapt, Prod.mk.injEq,
      Outcome.mapError_eq_ok]
    constructor
    · rintro ⟨hresult, hleft⟩
      exact Prod.ext hresult hleft
    · intro h
      rw [h]
      exact ⟨rfl, rfl⟩
  cases ds with
  | nil =>
      rw [applyToParameter, Configure.outcome_pure]
      simp [eq_comm]
  | cons d rest =>
      rw [applyToParameter, Configure.outcome_bind_eq_ok]
      constructor
      · rintro ⟨_, mid, hfirst, hrest⟩
        obtain ⟨p, hbinds, hdeclare⟩ := (hadapt List.mem_cons_self).1 hfirst
        right
        cases rest with
        | nil =>
            cases hrest
            exact ⟨d, p, rfl, hbinds, hdeclare⟩
        | cons second rest =>
            -- The first directive has taken the place that the second one asks for.
            rw [applyToParameter, Configure.outcome_bind_eq_ok] at hrest
            obtain ⟨_, _, hsecond, -⟩ := hrest
            obtain ⟨q, -, hagain⟩ := (hadapt (by simp)).1 hsecond
            obtain ⟨-, -, -, rfl⟩ := MethodBuilder.declareParameter_eq_ok.1 hdeclare
            obtain ⟨-, -, hfree, -⟩ := MethodBuilder.declareParameter_eq_ok.1 hagain
            simp [List.lookup_append, hfresh] at hfree
      · rintro (⟨hds, -⟩ | ⟨own, p, hds, hbinds, hdeclare⟩)
        · cases hds
        · obtain ⟨rfl, rfl⟩ := List.cons_eq_cons.1 hds
          exact ⟨(), b', (hadapt List.mem_cons_self).2 ⟨p, hbinds, hdeclare⟩, rfl⟩

/-! ## Slots -/

/-- What the directives of a declared parameter leave in its place: nothing, or the
parameter that its only directive stands for. -/
inductive Fills (converters : ConverterRegistry) :
    ParameterDeclaration → Option Parameter → Prop
  | nothing {p : ParameterDeclaration} (hnone : p.directives = []) : Fills converters p none
  | one {p : ParameterDeclaration} {d : Directive} {q : Parameter} (hone : p.directives = [d])
      (hbinds : Binds converters p.type d q) : Fills converters p (some q)

/-- The parameters in slots, each with its place. -/
def placed : Nat → List (Option Parameter) → List (Nat × Parameter)
  | _, [] => []
  | index, none :: slots => placed (index + 1) slots
  | index, some p :: slots => (index, p) :: placed (index + 1) slots

/-- The kinds of body that the parameters in slots declare. -/
def slotKinds (slots : List (Option Parameter)) : List BodyKind :=
  slots.filterMap fun slot => slot.bind MethodBuilder.declaredKind?

/-- A builder with slots filled from a place on. -/
def fill (index : Nat) (slots : List (Option Parameter)) (b : MethodBuilder) : MethodBuilder :=
  { b with
    bodyKind := b.bodyKind.or (slotKinds slots).head?
    parameters := b.parameters ++ placed index slots }

theorem fill_nil (index : Nat) (b : MethodBuilder) : fill index [] b = b := by
  simp [fill, placed, slotKinds]

theorem slotKinds_cons (p : Parameter) (slots : List (Option Parameter)) :
    slotKinds (some p :: slots) =
      (MethodBuilder.declaredKind? p).toList ++ slotKinds slots := by
  rw [slotKinds, List.filterMap_cons, Option.bind_some]
  cases MethodBuilder.declaredKind? p <;> rfl

theorem lookup_placed_of_lt {index : Nat} {slots : List (Option Parameter)} {i : Nat}
    (h : i < index) : (placed index slots).lookup i = none := by
  induction slots generalizing index with
  | nil => rfl
  | cons slot slots ih =>
      have hrest := ih (Nat.lt_succ_of_lt h)
      cases slot with
      | none => exact hrest
      | some p =>
          have hother : (i == index) = false := by
            rw [beq_eq_false_iff_ne]
            omega
          rw [placed, List.lookup_cons, hother]
          exact hrest

theorem lookup_placed (index : Nat) (slots : List (Option Parameter)) (i : Nat) :
    (placed index slots).lookup (index + i) = slots[i]?.join := by
  induction slots generalizing index i with
  | nil => rfl
  | cons slot slots ih =>
      cases i with
      | zero =>
          cases slot with
          | none =>
              rw [placed, Nat.add_zero, lookup_placed_of_lt (Nat.lt_succ_self index)]
              rfl
          | some p => rw [placed, Nat.add_zero, List.lookup_cons_self]; rfl
      | succ i =>
          have hnext : index + (i + 1) = index + 1 + i := by omega
          rw [List.getElem?_cons_succ, ← ih (index + 1) i, hnext]
          cases slot with
          | none => rfl
          | some p =>
              have hlater : (index + 1 + i == index) = false := by
                rw [beq_eq_false_iff_ne]
                omega
              rw [placed, List.lookup_cons, hlater]

/-- Declaring one more kind of body. -/
theorem allSame_declare {known own : Option BodyKind} {kinds : List BodyKind} :
    (∀ kind ∈ own, ∀ first ∈ known, first = kind) ∧
        AllSame ((own.or known).toList ++ kinds) ↔
      AllSame (known.toList ++ (own.toList ++ kinds)) := by
  cases known with
  | none => cases own <;> simp
  | some first =>
      cases own with
      | none => simp
      | some kind =>
          simp only [Option.mem_some_iff, forall_eq', Option.some_or, Option.toList_some,
            List.cons_append, List.nil_append, allSame_cons, List.forall_mem_cons]
          constructor
          · rintro ⟨rfl, hkinds⟩
            exact ⟨rfl, hkinds⟩
          · rintro ⟨rfl, hkinds⟩
            exact ⟨rfl, hkinds⟩

theorem fill_declare {index : Nat} {p : Parameter} {slots : List (Option Parameter)}
    {b : MethodBuilder}
    (h : ∀ kind ∈ MethodBuilder.declaredKind? p, ∀ first ∈ b.bodyKind, first = kind) :
    fill (index + 1) slots { b with
      bodyKind := (MethodBuilder.declaredKind? p).or b.bodyKind
      parameters := b.parameters ++ [(index, p)] } = fill index (some p :: slots) b := by
  have hkind : ((MethodBuilder.declaredKind? p).or b.bodyKind).or (slotKinds slots).head? =
      b.bodyKind.or (slotKinds (some p :: slots)).head? := by
    rw [slotKinds_cons]
    cases hown : MethodBuilder.declaredKind? p with
    | none => rfl
    | some kind =>
        cases hknown : b.bodyKind with
        | none => rfl
        | some first =>
            obtain rfl : first = kind := h kind hown first hknown
            rfl
  simp [fill, placed, hkind]

theorem applyToParameters_eq_ok {ps : List ParameterDeclaration}
    (hstandard : ∀ p ∈ ps, ∀ d ∈ p.directives, d.isStandard = true) {index : Nat}
    {b b' : MethodBuilder} (hfresh : ∀ i, index ≤ i → b.parameters.lookup i = none)
    (harity : index + ps.length ≤ b.arity) :
    ((ofConverters converters).applyToParameters index ps).outcome b = (.ok (), b') ↔
      ∃ slots, List.Forall₂ (Fills converters) ps slots ∧
        AllSame (b.bodyKind.toList ++ slotKinds slots) ∧ b' = fill index slots b := by
  induction ps generalizing index b with
  | nil =>
      rw [applyToParameters, Configure.outcome_pure]
      constructor
      · intro h
        cases h
        refine ⟨[], .nil, ?_, (fill_nil _ _).symm⟩
        cases b'.bodyKind <;> simp [slotKinds, allSame_nil, allSame_cons]
      · rintro ⟨slots, hslots, -, rfl⟩
        cases hslots
        rw [fill_nil]
  | cons p ps ih =>
      have hp := hstandard p List.mem_cons_self
      have hps := fun q hq => hstandard q (List.mem_cons_of_mem _ hq)
      rw [List.length_cons] at harity
      rw [applyToParameters, Configure.outcome_bind_eq_ok]
      simp only [applyToParameter_eq_ok hp (hfresh index (Nat.le_refl _))]
      -- What is set at this place leaves the later ones free.
      have hlater (q : Parameter) (i : Nat) (hi : index + 1 ≤ i) :
          (b.parameters ++ [(index, q)]).lookup i = none := by
        have hother : (i == index) = false := by
          rw [beq_eq_false_iff_ne]
          omega
        rw [List.lookup_append, hfresh i (by omega), List.lookup_cons, hother]
        rfl
      constructor
      · rintro ⟨_, mid, ⟨hnone, rfl⟩ | ⟨d, q, hone, hbinds, hdeclare⟩, hrest⟩
        · obtain ⟨slots, hslots, hsame, rfl⟩ :=
            (ih hps (fun i hi => hfresh i (by omega)) (by omega)).1 hrest
          exact ⟨none :: slots, .cons (.nothing hnone) hslots, hsame, rfl⟩
        · obtain ⟨hkind, -, -, rfl⟩ := MethodBuilder.declareParameter_eq_ok.1 hdeclare
          obtain ⟨slots, hslots, hsame, rfl⟩ :=
            (ih hps (hlater q) (by rw [Nat.add_right_comm]; exact harity)).1 hrest
          refine ⟨some q :: slots, .cons (.one hone hbinds) hslots, ?_, fill_declare hkind⟩
          rw [slotKinds_cons]
          exact allSame_declare.1 ⟨hkind, hsame⟩
      · rintro ⟨slots, hslots, hsame, rfl⟩
        cases hslots with
        | @cons _ slot _ slots hfills hslots =>
            cases hfills with
            | nothing hnone =>
                exact ⟨(), b, Or.inl ⟨hnone, rfl⟩,
                  (ih hps (fun i hi => hfresh i (by omega)) (by omega)).2
                    ⟨slots, hslots, hsame, rfl⟩⟩
            | @one d q hone hbinds =>
                rw [slotKinds_cons, ← allSame_declare] at hsame
                obtain ⟨hkind, hsame⟩ := hsame
                have hdeclare := MethodBuilder.declareParameter_eq_ok.2
                  ⟨hkind, by omega, hfresh index (Nat.le_refl _), rfl⟩
                refine ⟨(), _, Or.inr ⟨d, q, hone, hbinds, hdeclare⟩, ?_⟩
                refine (ih hps (hlater q) (by rw [Nat.add_right_comm]; exact harity)).2 ?_
                exact ⟨slots, hslots, hsame, (fill_declare hkind).symm⟩

/-! ## The whole declaration -/

/-- A builder as the directives of a declared method leave it. -/
def configured (service : String) (d : MethodDeclaration) (slots : List (Option Parameter))
    (c : ResponseConverter) : MethodBuilder where
  service := service
  name := d.name
  arity := d.parameters.length
  http := (d.directives.filterMap Directive.http?).head?
  headers :=
    (d.directives.flatMap Directive.headerLines).filterMap DirectiveHandler.headerPair?
  bodyKind := (slotKinds slots).head?
  parameters := placed 0 slots
  response := some (d.returns, c)
  asynchronous := decide (.asynchronous ∈ d.directives)

theorem configure_eq_ok {d : MethodDeclaration} (hstandard : d.IsStandard) {service : String}
    {b : MethodBuilder} :
    ((ofConverters converters).configure d).outcome
        (MethodBuilder.start service d.name d.parameters.length) = (.ok (), b) ↔
      ∃ slots c, (∀ e ∈ d.directives, e.target = .method) ∧
        (d.directives.filterMap Directive.http?).length ≤ 1 ∧
        (∀ line ∈ d.directives.flatMap Directive.headerLines,
          (DirectiveHandler.headerPair? line).isSome) ∧
        List.Forall₂ (Fills converters) d.parameters slots ∧ AllSame (slotKinds slots) ∧
        converters.resolve d.returns .responseBody = .ok (.response c) ∧
        b = configured service d slots c := by
  have hplaces : 0 + d.parameters.length ≤ d.parameters.length := by omega
  rw [configure, Configure.outcome_bind_eq_ok]
  simp only [applyToMethod_eq_ok hstandard.1, Configure.outcome_bind_eq_ok]
  constructor
  · rintro ⟨_, mid, ⟨htargets, hhttp, hlines, rfl⟩, _, next, hparameters, hrest⟩
    obtain ⟨slots, hslots, hsame, rfl⟩ :=
      (applyToParameters_eq_ok hstandard.2 (fun _ _ => rfl) hplaces).1 hparameters
    cases hresolve : (ofConverters converters).converters.resolve d.returns .responseBody with
    | error e => simp [hresolve] at hrest
    | ok converter =>
        simp only [hresolve] at hrest
        obtain ⟨c, rfl, -, rfl⟩ := MethodBuilder.setResponse_eq_ok.1 hrest
        exact ⟨slots, c, htargets, hhttp, hlines, hslots, hsame, hresolve, rfl⟩
  · rintro ⟨slots, c, htargets, hhttp, hlines, hslots, hsame, hc, rfl⟩
    let described := DirectiveHandler.describe d.directives
      (MethodBuilder.start service d.name d.parameters.length)
    have hparameters : ((ofConverters converters).applyToParameters 0 d.parameters).outcome
        described = (.ok (), fill 0 slots described) :=
      (applyToParameters_eq_ok hstandard.2 (fun _ _ => rfl) hplaces).2
        ⟨slots, hslots, hsame, rfl⟩
    have hresolve : (ofConverters converters).converters.resolve d.returns .responseBody =
        .ok (.response c) := hc
    refine ⟨(), described, ⟨htargets, hhttp, hlines, rfl⟩, (), fill 0 slots described,
      hparameters, ?_⟩
    simp only [hresolve]
    exact MethodBuilder.setResponse_eq_ok.2 ⟨c, rfl, rfl, rfl⟩

end ServiceResolver

end WebClient
