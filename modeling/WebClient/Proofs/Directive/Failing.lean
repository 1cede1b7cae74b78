import WebClient.Proofs.Directive.Refusing
import WebClient.Proofs.Service.Resolving

/-!
# Where carrying out directives fails

Directives are carried out one after the other, so they fail at the first one that cannot
be carried out on what the ones in front of it have left.  `MethodFault` and
`ParameterFault` say which directives those are and why, without following the handlers.
-/

namespace WebClient

namespace Configure

variable {α β : Type}

/-- Steps that fail on a builder with an error. -/
def FailsWith (x : Configure α) (b : MethodBuilder) (e : ConfigError) : Prop :=
  ∃ b', x.outcome b = (.error e, b')

@[simp] theorem failsWith_pure {a : α} {b : MethodBuilder} {e : ConfigError} :
    ¬ (pure a : Configure α).FailsWith b e := by
  simp [FailsWith]

@[simp] theorem failsWith_throw {e e' : ConfigError} {b : MethodBuilder} :
    FailsWith (throw e : Configure α) b e' ↔ e' = e := by
  simp [FailsWith, eq_comm]

@[simp] theorem failsWith_reject {cause : ConfigCause} {b : MethodBuilder} {e : ConfigError} :
    (reject cause : Configure α).FailsWith b e ↔ e = .of cause := by
  simp [FailsWith, eq_comm]

theorem failsWith_bind {x : Configure α} {f : α → Configure β} {b : MethodBuilder}
    {e : ConfigError} :
    (x >>= f).FailsWith b e ↔
      x.FailsWith b e ∨ ∃ a mid, x.outcome b = (.ok a, mid) ∧ (f a).FailsWith mid e := by
  unfold FailsWith
  simp only [outcome_bind_eq_error]
  constructor
  · rintro ⟨b', h | ⟨a, mid, hfirst, h⟩⟩
    · exact Or.inl ⟨b', h⟩
    · exact Or.inr ⟨a, mid, hfirst, b', h⟩
  · rintro (⟨b', h⟩ | ⟨a, mid, hfirst, b', h⟩)
    · exact ⟨b', Or.inl h⟩
    · exact ⟨b', Or.inr ⟨a, mid, hfirst, h⟩⟩

theorem failsWith_adapt {x : Configure α} {f : ConfigError → ConfigError} {b : MethodBuilder}
    {e : ConfigError} :
    FailsWith (x.adapt f) b e ↔ ∃ e', x.FailsWith b e' ∧ f e' = e := by
  simp only [FailsWith, outcome_adapt, Prod.mk.injEq, Outcome.mapError_eq_error]
  constructor
  · rintro ⟨b', ⟨e', h, he⟩, hleft⟩
    exact ⟨e', ⟨b', Prod.ext h hleft⟩, he⟩
  · rintro ⟨e', ⟨b', h⟩, he⟩
    rw [h]
    exact ⟨b', ⟨e', rfl, he⟩, rfl⟩

/-- Steps for the members of a list, each with its place, fail at the member behind a
front for which all steps succeed. -/
theorem failsWith_run {run : Nat → List α → Configure Unit} {step : Nat → α → Configure Unit}
    (hnil : ∀ index, run index [] = pure ())
    (hcons : ∀ index x xs, run index (x :: xs) = step index x >>= fun _ => run (index + 1) xs)
    {index : Nat} {xs : List α} {b : MethodBuilder} {e : ConfigError} :
    (run index xs).FailsWith b e ↔
      ∃ front x rest mid, xs = front ++ x :: rest ∧
        (run index front).outcome b = (.ok (), mid) ∧
        (step (index + front.length) x).FailsWith mid e := by
  -- The steps of a member leave another builder, at which the next place is looked at.
  induction xs generalizing index b with
  | nil => simp [hnil]
  | cons first xs ih =>
      rw [hcons, failsWith_bind]
      simp only [ih]
      constructor
      · rintro (h | ⟨_, mid, hfirst, front, x, rest, last, rfl, hfront, hx⟩)
        · exact ⟨[], first, xs, b, rfl, by rw [hnil, outcome_pure], h⟩
        · refine ⟨first :: front, x, rest, last, rfl, ?_, ?_⟩
          · rw [hcons]
            exact outcome_bind_eq_ok.2 ⟨(), mid, hfirst, hfront⟩
          · rw [List.length_cons, Nat.add_comm front.length, ← Nat.add_assoc]
            exact hx
      · rintro ⟨front, x, rest, last, hsplit, hfront, hx⟩
        cases front with
        | nil =>
            obtain ⟨rfl, rfl⟩ := List.cons_eq_cons.1 hsplit
            rw [hnil, outcome_pure] at hfront
            cases hfront
            exact Or.inl hx
        | cons own front =>
            obtain ⟨rfl, rfl⟩ := List.cons_eq_cons.1 hsplit
            rw [hcons] at hfront
            obtain ⟨_, mid, hown, hfront⟩ := outcome_bind_eq_ok.1 hfront
            refine Or.inr ⟨(), mid, hown, front, x, rest, last, rfl, hfront, ?_⟩
            rw [List.length_cons, Nat.add_comm front.length, ← Nat.add_assoc] at hx
            exact hx

end Configure

namespace MethodBuilder

/-! ## Steps that fail -/

theorem setHttp_failsWith {method : Method} {path : Template} {b : MethodBuilder}
    {e : ConfigError} :
    (setHttp method path).FailsWith b e ↔
      ∃ existing known, b.http = some (existing, known) ∧
        e = .of (.duplicateHttpMethod existing method) := by
  rw [Configure.FailsWith, setHttp_outcome]
  cases b.http with
  | none => simp
  | some http =>
      obtain ⟨existing, known⟩ := http
      simp [eq_comm]

theorem setBodyKind_failsWith {kind : BodyKind} {b : MethodBuilder} {e : ConfigError} :
    (setBodyKind kind).FailsWith b e ↔
      ∃ first, b.bodyKind = some first ∧ first ≠ kind ∧ e = .of (.conflictingBody first kind) := by
  rw [Configure.FailsWith, setBodyKind_outcome]
  cases b.bodyKind with
  | none => simp
  | some first =>
      by_cases hsame : first = kind
      · simp [hsame]
      · constructor
        · rintro ⟨b', h⟩
          dsimp only at h
          rw [if_neg hsame] at h
          cases h
          exact ⟨first, rfl, hsame, rfl⟩
        · rintro ⟨_, hfirst, -, rfl⟩
          cases hfirst
          exact ⟨b, if_neg hsame⟩

/-- At a place of the method, setting a parameter fails only if the place is taken. -/
theorem setParameter_failsWith {index : Nat} {p : Parameter} {b : MethodBuilder}
    {e : ConfigError} (hindex : index < b.arity) :
    (setParameter index p).FailsWith b e ↔
      (b.parameters.lookup index).isSome ∧ e = errorAt index (.duplicateParameter index) := by
  rw [Configure.FailsWith, setParameter_outcome, if_neg (Nat.not_le.2 hindex)]
  by_cases htaken : (b.parameters.lookup index).isSome = true
  · simp [htaken, errorAt, eq_comm]
  · simp [htaken]

/-- Declaring a parameter fails if it declares another kind of body than is known, or else
if its place is taken. -/
theorem declareParameter_failsWith {index : Nat} {p : Parameter} {b : MethodBuilder}
    {e : ConfigError} (hindex : index < b.arity) :
    (declareParameter index p).FailsWith b e ↔
      (∃ kind first, declaredKind? p = some kind ∧ b.bodyKind = some first ∧ first ≠ kind ∧
        e = .of (.conflictingBody first kind)) ∨
      ((∀ kind ∈ declaredKind? p, ∀ first ∈ b.bodyKind, first = kind) ∧
        (b.parameters.lookup index).isSome ∧ e = errorAt index (.duplicateParameter index)) := by
  unfold declareParameter
  cases declaredKind? p with
  | none => simp [setParameter_failsWith hindex]
  | some kind =>
      refine Configure.failsWith_bind.trans (or_congr ?_ ?_)
      · simp [setBodyKind_failsWith]
      · -- The kind that is set leaves the places as they are.
        have hset := @setParameter_failsWith index p { b with bodyKind := some kind } e hindex
        constructor
        · rintro ⟨_, mid, hkind, hfails⟩
          obtain ⟨hsame, rfl⟩ := setBodyKind_eq_ok.1 hkind
          refine ⟨fun own hown => ?_, hset.1 hfails⟩
          cases hown
          exact hsame
        · rintro ⟨hsame, htaken⟩
          exact ⟨(), _, setBodyKind_eq_ok.2 ⟨hsame kind rfl, rfl⟩, hset.2 htaken⟩

end MethodBuilder

namespace DirectiveHandler

/-- A line that cannot be read fails with its own error. -/
theorem parseHeader_eq_error {line : String} {e : ConfigError} :
    parseHeader line = .error e ↔
      headerPair? line = none ∧ e = .of (.invalidHeader line) := by
  unfold headerPair?
  have hread : (∃ pair, parseHeader line = .ok pair) ∨
      parseHeader line = .error (.of (.invalidHeader line)) := by
    unfold parseHeader
    dsimp only
    split
    · split
      · exact Or.inr rfl
      · exact Or.inl ⟨_, rfl⟩
    · exact Or.inr rfl
  obtain ⟨pair, hpair⟩ | hfail := hread
  · simp [hpair, Except.toOption]
  · simp [hfail, Except.toOption, eq_comm]

/-- Adding the headers of lines fails at the first line that cannot be read. -/
theorem addHeaders_failsWith {lines : List String} {b : MethodBuilder} {e : ConfigError} :
    (addHeaders lines).FailsWith b e ↔
      ∃ front line rest, lines = front ++ line :: rest ∧
        (∀ known ∈ front, (headerPair? known).isSome) ∧ headerPair? line = none ∧
        e = .of (.invalidHeader line) := by
  -- A line that is read never stops the steps, so only reading can fail.
  let step (line : String) : Configure Unit :=
    addHeaders.liftExcept (parseHeader line) >>= fun pair =>
      MethodBuilder.addHeader pair.1 pair.2
  have hcons (line : String) (rest : List String) :
      addHeaders (line :: rest) = step line >>= fun _ => addHeaders rest := by
    rw [addHeaders, bind_assoc]
  have hstep (line : String) (mid : MethodBuilder) :
      (step line).FailsWith mid e ↔ headerPair? line = none ∧ e = .of (.invalidHeader line) := by
    rw [← parseHeader_eq_error, Configure.failsWith_bind]
    cases parseHeader line with
    | error own => simp [addHeaders.liftExcept, eq_comm]
    | ok pair =>
        have hadd : ¬ (MethodBuilder.addHeader pair.1 pair.2).FailsWith mid e := by
          rintro ⟨_, h⟩
          cases h
        simp [addHeaders.liftExcept, hadd]
  refine (@Configure.failsWith_run _ (fun _ => addHeaders) (fun _ => step) (fun _ => rfl)
    (fun _ => hcons) 0 lines b e).trans ?_
  simp only [hstep, addHeaders_eq_ok]
  constructor
  · rintro ⟨front, line, rest, _, hsplit, ⟨hfront, -⟩, hline⟩
    exact ⟨front, line, rest, hsplit, hfront, hline⟩
  · rintro ⟨front, line, rest, hsplit, hfront, hline⟩
    exact ⟨front, line, rest, _, hsplit, ⟨hfront, rfl⟩, hline⟩

end DirectiveHandler

/-! ## Directives that cannot be carried out -/

/-- Why a directive cannot be carried out on a method with a verb and a path, or without:
it belongs on a parameter, it has another verb, or one of its lines is no header. -/
inductive MethodFault (http : Option (Method × Template)) : Directive → ConfigCause → Prop
  | misplaced {d : Directive} (htarget : d.target = .parameter) :
      MethodFault http d (.misplacedDirective d.variant .method)
  | verb {existing new : Method} {path template : Template}
      (hhttp : http = some (existing, path)) :
      MethodFault http (.http new template) (.duplicateHttpMethod existing new)
  | header {front rest : List String} {line : String}
      (hfront : ∀ known ∈ front, (DirectiveHandler.headerPair? known).isSome)
      (hline : DirectiveHandler.headerPair? line = none) :
      MethodFault http (.headers (front ++ line :: rest)) (.invalidHeader line)

/-- Why a directive cannot be carried out on a parameter of a type, where a kind of body may
be known and the place may be taken: it belongs on a method, no converter is provided for
the type, it declares another kind of body, or else the place is taken. -/
inductive ParameterFault (converters : ConverterRegistry) (type : TypeName) (index : Nat)
    (kind : Option BodyKind) (taken : Bool) : Directive → ConfigCause → Prop
  | misplaced {d : Directive} (htarget : d.target = .method) :
      ParameterFault converters type index kind taken d
        (.misplacedDirective d.variant .parameter)
  | unprovided {d : Directive} {capability : Capability} (htarget : d.target = .parameter)
      (hcapability : d.capability? = some capability)
      (hnone : ∀ c, converters.resolve type capability ≠ .ok c) :
      ParameterFault converters type index kind taken d (.missingConverter type capability)
  | conflict {d : Directive} {p : Parameter} {first own : BodyKind}
      (hbinds : ServiceResolver.Binds converters type d p)
      (hown : MethodBuilder.declaredKind? p = some own) (hfirst : kind = some first)
      (hne : first ≠ own) :
      ParameterFault converters type index kind taken d (.conflictingBody first own)
  | taken {d : Directive} {p : Parameter} (hbinds : ServiceResolver.Binds converters type d p)
      (hkind : ∀ own ∈ MethodBuilder.declaredKind? p, ∀ first ∈ kind, first = own)
      (htaken : taken = true) :
      ParameterFault converters type index kind taken d (.duplicateParameter index)

theorem Target.eq_parameter {target : Target} (h : target ≠ .method) : target = .parameter := by
  cases target with
  | method => exact absurd rfl h
  | parameter => rfl

namespace DirectiveHandler

theorem exists_standard? {d : Directive} (hstandard : d.isStandard = true) :
    ∃ handler, standard? d = some handler := by
  cases d with
  | custom d => cases hstandard
  | _ => exact ⟨_, rfl⟩

/-- The handler of a directive of a method fails for the reason that the directive cannot
be carried out. -/
theorem handle_failsWith_of_method {d : Directive} {handler : DirectiveHandler}
    (hhandler : standard? d = some handler) (htarget : d.target = .method) {b : MethodBuilder}
    {e : ConfigError} :
    (handler.handle d none none).FailsWith b e ↔
      ∃ cause, MethodFault b.http d cause ∧ e = .of cause := by
  cases d with
  | http own template =>
      cases hhandler
      have hhandle : (http own).handle (.http own template) none none =
          MethodBuilder.setHttp own template := by
        simp [http]
      rw [hhandle, MethodBuilder.setHttp_failsWith]
      constructor
      · rintro ⟨existing, known, hhttp, rfl⟩
        exact ⟨_, .verb hhttp, rfl⟩
      · rintro ⟨cause, hfault, rfl⟩
        cases hfault with
        | misplaced hother => cases hother
        | verb hhttp => exact ⟨_, _, hhttp, rfl⟩
  | headers lines =>
      cases hhandler
      refine addHeaders_failsWith.trans ?_
      constructor
      · rintro ⟨front, line, rest, rfl, hfront, hline, rfl⟩
        exact ⟨_, .header hfront hline, rfl⟩
      · rintro ⟨cause, hfault, rfl⟩
        cases hfault with
        | misplaced hother => cases hother
        | header hfront hline => exact ⟨_, _, _, rfl, hfront, hline, rfl⟩
  | asynchronous =>
      cases hhandler
      constructor
      · rintro ⟨_, h⟩
        cases h
      · rintro ⟨cause, hfault, rfl⟩
        cases hfault with
        | misplaced hother => cases hother
  | custom d => cases hhandler
  | _ => cases htarget

end DirectiveHandler

namespace ConverterRegistry

theorem resolve_eq_error {converters : ConverterRegistry} {type : TypeName}
    {capability : Capability} {e : ConfigError} :
    converters.resolve type capability = .error e ↔
      (∀ c, converters.resolve type capability ≠ .ok c) ∧
        e = .of (.missingConverter type capability) := by
  unfold resolve
  split <;> simp [eq_comm]

end ConverterRegistry

namespace ServiceResolver

variable {converters : ConverterRegistry}

theorem apply_failsWith_of_method {d : Directive} (hstandard : d.isStandard = true)
    {b : MethodBuilder} {e : ConfigError} :
    ((ofConverters converters).apply .method none none d).FailsWith b e ↔
      ∃ cause, MethodFault b.http d cause ∧ e = .of cause := by
  have hget : (ofConverters converters).handlers.get? d.variant = DirectiveHandler.standard? d :=
    DirectiveHandler.get?_standard hstandard
  have hconverter : (ofConverters converters).converterFor d none = .ok none := by
    unfold converterFor
    cases d.capability? <;> rfl
  obtain ⟨handler, hhandler⟩ := DirectiveHandler.exists_standard? hstandard
  rw [apply, hget, hhandler]
  by_cases htarget : d.target = .method
  · simp only [htarget, ne_eq, not_true_eq_false, if_false, hconverter]
    exact DirectiveHandler.handle_failsWith_of_method hhandler htarget
  · have hother := Target.eq_parameter htarget
    simp only [ne_eq, htarget, not_false_eq_true, if_true, Configure.failsWith_reject]
    constructor
    · rintro rfl
      exact ⟨_, .misplaced hother, rfl⟩
    · rintro ⟨cause, hfault, rfl⟩
      cases hfault with
      | misplaced _ => rfl
      | verb _ => cases hother
      | header _ _ => cases hother

/-- A directive that stands for a parameter fails where declaring the parameter does. -/
theorem declareParameter_failsWith_of_binds {d : Directive} {type : TypeName} {index : Nat}
    {p : Parameter} (hbinds : Binds converters type d p) {b : MethodBuilder}
    (hindex : index < b.arity) {e : ConfigError} :
    (∃ own, (MethodBuilder.declareParameter index p).FailsWith b own ∧
        own.atParameter index = e) ↔
      ∃ cause, ParameterFault converters type index b.bodyKind
          (b.parameters.lookup index).isSome d cause ∧
        e = ⟨none, none, some index, cause⟩ := by
  simp only [MethodBuilder.declareParameter_failsWith hindex]
  constructor
  · rintro ⟨_, ⟨own, first, hown, hfirst, hne, rfl⟩ | ⟨hkind, htaken, rfl⟩, rfl⟩
    · exact ⟨_, .conflict hbinds hown hfirst hne, rfl⟩
    · exact ⟨_, .taken hbinds hkind htaken, rfl⟩
  · obtain ⟨htarget, capability, c, hcapability, hc, hp⟩ := hbinds
    -- The directive stands for no other parameter.
    have hunique {q : Parameter} (hq : Binds converters type d q) : q = p := by
      obtain ⟨-, own, found, hown, hfound, hq⟩ := hq
      obtain rfl : capability = own := Option.some.inj (hcapability.symm.trans hown)
      obtain rfl : c = found := Except.ok.inj (hc.symm.trans hfound)
      exact Option.some.inj (hq.symm.trans hp)
    rintro ⟨cause, hfault, rfl⟩
    cases hfault with
    | misplaced hother =>
        rw [htarget] at hother
        cases hother
    | unprovided _ hown hnone =>
        obtain rfl := Option.some.inj (hcapability.symm.trans hown)
        exact absurd hc (hnone c)
    | conflict hq hown hfirst hne =>
        obtain rfl := hunique hq
        exact ⟨_, Or.inl ⟨_, _, hown, hfirst, hne, rfl⟩, rfl⟩
    | taken hq hkind htaken =>
        obtain rfl := hunique hq
        exact ⟨_, Or.inr ⟨hkind, htaken, rfl⟩, rfl⟩

/-- At a place of the method, a directive of a parameter fails for the reason that it cannot
be carried out; the error names the place. -/
theorem apply_failsWith_of_parameter {d : Directive} (hstandard : d.isStandard = true)
    {type : TypeName} {index : Nat} {b : MethodBuilder} (hindex : index < b.arity)
    {e : ConfigError} :
    Configure.FailsWith (ExceptT.adapt (ConfigError.atParameter index)
        ((ofConverters converters).apply .parameter (some type) (some index) d)) b e ↔
      ∃ cause, ParameterFault converters type index b.bodyKind
          (b.parameters.lookup index).isSome d cause ∧
        e = ⟨none, none, some index, cause⟩ := by
  have hget : (ofConverters converters).handlers.get? d.variant = DirectiveHandler.standard? d :=
    DirectiveHandler.get?_standard hstandard
  obtain ⟨handler, hhandler⟩ := DirectiveHandler.exists_standard? hstandard
  rw [Configure.failsWith_adapt, apply, hget, hhandler]
  by_cases htarget : d.target = .parameter
  · -- The converter comes first: without one no parameter is declared at all.
    obtain ⟨capability, hcapability, hfits⟩ := Directive.exists_parameter? hstandard htarget
    have hconverter : (ofConverters converters).converterFor d (some type) = _ :=
      converterFor_some hcapability type
    simp only [htarget, ne_eq, not_true_eq_false, if_false, hconverter]
    cases hresolve : converters.resolve type capability with
    | error own =>
        obtain ⟨hnone, rfl⟩ := ConverterRegistry.resolve_eq_error.1 hresolve
        simp only [Except.map, Configure.failsWith_throw]
        constructor
        · rintro ⟨_, rfl, rfl⟩
          exact ⟨_, .unprovided htarget hcapability hnone, rfl⟩
        · rintro ⟨cause, hfault, rfl⟩
          have hfree (p : Parameter) : ¬ Binds converters type d p := by
            rintro ⟨-, own, c, hown, hc, -⟩
            obtain rfl := Option.some.inj (hcapability.symm.trans hown)
            exact hnone c hc
          cases hfault with
          | misplaced hother =>
              rw [htarget] at hother
              cases hother
          | unprovided _ hown _ =>
              obtain rfl := Option.some.inj (hcapability.symm.trans hown)
              exact ⟨_, rfl, rfl⟩
          | conflict hbinds _ _ _ => exact absurd hbinds (hfree _)
          | taken hbinds _ _ => exact absurd hbinds (hfree _)
    | ok c =>
        obtain ⟨p, hp⟩ := hfits c (capability_of_resolve hresolve)
        have hbinds : Binds converters type d p := ⟨htarget, capability, c, hcapability,
          hresolve, hp⟩
        obtain ⟨own, hown, hhandle⟩ := DirectiveHandler.handle_of_parameter? hp
        obtain rfl := Option.some.inj (hhandler.symm.trans hown)
        simp only [Except.map, Configure.FailsWith, hhandle]
        exact declareParameter_failsWith_of_binds hbinds hindex
  · have hother : d.target = .method := by
      cases hd : d.target with
      | method => rfl
      | parameter => exact absurd hd htarget
    simp only [ne_eq, htarget, not_false_eq_true, if_true, Configure.failsWith_reject]
    constructor
    · rintro ⟨_, rfl, rfl⟩
      exact ⟨_, .misplaced hother, rfl⟩
    · rintro ⟨cause, hfault, rfl⟩
      cases hfault with
      | misplaced _ => exact ⟨_, rfl, rfl⟩
      | unprovided hown _ _ => exact absurd hown htarget
      | conflict hbinds _ _ _ => exact absurd hbinds.1 htarget
      | taken hbinds _ _ => exact absurd hbinds.1 htarget

end ServiceResolver

end WebClient
