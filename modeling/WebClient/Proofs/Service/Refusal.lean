import WebClient.Proofs.Service.Acceptance
import WebClient.Proofs.Service.Taking

/-!
# Which arguments are refused

The standard converters convert every value, so an argument of a resolved method is
refused for one of a few reasons that depend on the role of its parameter alone.
`ServiceMethod.Ends` says how a call of such a method can end: with the wrong number
of arguments, with the first argument that is refused, or, all arguments taken, with
what resolving the URL gives.
-/

namespace WebClient

namespace Parameter

/-- The converter of the parameter converts every value. -/
def Converts : Parameter → Prop
  | .path _ _ c | .url c | .query _ _ c | .queryMap _ c | .queryName _ c | .header _ c
  | .headerMap c | .field _ _ c | .fieldMap _ c => ∀ value, ∃ text, c.convert value = .ok text
  | .part _ c | .partMap c | .body c => ∀ value, ∃ body, c.convert value = .ok body
  | .custom _ => False

theorem Converts.isStandard {p : Parameter} (h : p.Converts) : p.isStandard = true := by
  cases p with
  | custom => exact h.elim
  | _ => rfl

/-- The text is a segment of dots or, where it is encoded already, has one between its
slashes. -/
def HasDotSegment (encoded : Bool) (text : String) : Prop :=
  text = "." ∨ text = ".." ∨
    encoded = true ∧ ∃ piece ∈ Text.splitAll (· = '/') text.toList,
      piece = ['.'] ∨ piece = ['.', '.']

theorem isDotSegment_ofList (piece : List Char) :
    isDotSegment (String.ofList piece) = true ↔ piece = ['.'] ∨ piece = ['.', '.'] := by
  rw [isDotSegment, Bool.or_eq_true, decide_eq_true_eq, decide_eq_true_eq]
  rw [← String.toList_inj, ← String.toList_inj, String.toList_ofList]
  rfl

theorem traverses_eq_true {encoded : Bool} {text : String} :
    traverses encoded text = true ↔ HasDotSegment encoded text := by
  cases encoded with
  | false =>
      rw [traverses, if_neg Bool.false_ne_true, isDotSegment, Bool.or_eq_true,
        decide_eq_true_eq, decide_eq_true_eq]
      simp [HasDotSegment]
  | true =>
      rw [traverses, if_pos rfl, List.any_eq_true]
      simp only [isDotSegment_ofList]
      constructor
      · exact fun h => Or.inr (Or.inr ⟨rfl, h⟩)
      · rintro (rfl | rfl | ⟨-, h⟩)
        · exact ⟨['.'], by decide, Or.inl rfl⟩
        · exact ⟨['.', '.'], by decide, Or.inr rfl⟩
        · exact h

/-- What a parameter for the fields of a map is called in an error. -/
def mapRole? : Parameter → Option String
  | .queryMap _ _ => some "query map"
  | .headerMap _ => some "header map"
  | .fieldMap _ _ => some "field map"
  | .partMap _ => some "part map"
  | _ => none

/-- Why a parameter that can convert every value refuses an argument. -/
inductive Refuses : Parameter → Json.Value → ConversionCause → Prop
  | nullPath {name : String} {encoded : Bool} {c : StringConverter} :
      Refuses (.path name encoded c) .null (.nullPath name)
  | dotSegment {name : String} {encoded : Bool} {c : StringConverter} {value : Json.Value}
      {text : String} (hvalue : value ≠ .null) (htext : c.convert value = .ok text)
      (hdots : HasDotSegment encoded text) :
      Refuses (.path name encoded c) value (.dotSegment name text)
  | nullUrl {c : StringConverter} : Refuses (.url c) .null .nullUrl
  | nullBody {c : RequestConverter} : Refuses (.body c) .null .nullBody
  | notMap {p : Parameter} {value : Json.Value} {role : String} (hrole : p.mapRole? = some role)
      (hvalue : value ≠ .null) (hobject : ∀ fields, value ≠ .object fields) :
      Refuses p value (.notMap role value)

theorem fields?_eq_none {value : Json.Value} :
    fields? value = none ↔ value ≠ .null ∧ ∀ fields, value ≠ .object fields := by
  cases value <;> simp [fields?]

theorem forEntries_of_fields?_eq_none {role : String} {value : Json.Value}
    (h : fields? value = none) (f : String → Json.Value → List (Except Error Contribution)) :
    forEntries role value f = [.error (.conversion (.notMap role value))] := by
  cases value <;> first | rfl | cases h

/-- A refused argument leaves its cause in the place of the pieces. -/
theorem Refuses.contributions_eq {p : Parameter} {value : Json.Value} {cause : ConversionCause}
    (h : p.Refuses value cause) : p.contributions value = [.error (.conversion cause)] := by
  cases h with
  | nullPath | nullUrl | nullBody => rfl
  | dotSegment hvalue htext hdots =>
      rw [Ne, ← isNull_eq_true] at hvalue
      rw [contributions, pathValue_eq, if_neg hvalue, htext]
      simp only [Except.bind, traverses_eq_true.2 hdots, if_true]
  | notMap hrole hvalue hobject =>
      have hfields := fields?_eq_none.2 ⟨hvalue, hobject⟩
      cases p with
      | queryMap | headerMap | fieldMap | partMap =>
          cases hrole
          rw [contributions]
          exact forEntries_of_fields?_eq_none hfields _
      | _ => cases hrole

/-- There is at most one cause to refuse an argument. -/
theorem Refuses.cause_eq {p : Parameter} {value : Json.Value} {cause other : ConversionCause}
    (h : p.Refuses value cause) (h' : p.Refuses value other) : cause = other := by
  have heq := h.contributions_eq.symm.trans h'.contributions_eq
  cases heq
  rfl

/-! ## Arguments that are taken -/

theorem exists_ok_of_mem_forValues {c : StringConverter}
    (h : ∀ value, ∃ text, c.convert value = .ok text) {f : String → Contribution}
    {value : Json.Value} {piece : Except Error Contribution}
    (hpiece : piece ∈ forValues c f value) : ∃ made, piece = .ok made := by
  obtain ⟨item, -, rfl⟩ := List.mem_map.1 hpiece
  obtain ⟨text, htext⟩ := h item
  exact ⟨f text, by rw [htext]; rfl⟩

theorem exists_ok_of_mem_partFor {c : RequestConverter}
    (h : ∀ value, ∃ body, c.convert value = .ok body) {name : String} {value : Json.Value}
    {piece : Except Error Contribution} (hpiece : piece ∈ partFor c name value) :
    ∃ made, piece = .ok made := by
  obtain ⟨body, hbody⟩ := h value
  rw [partFor, hbody] at hpiece
  split at hpiece
  · exact absurd hpiece List.not_mem_nil
  · exact ⟨_, List.mem_singleton.1 hpiece⟩

theorem exists_ok_of_mem_forEntries {role : String} {value : Json.Value}
    {f : String → Json.Value → List (Except Error Contribution)}
    (hmap : ¬ (value ≠ .null ∧ ∀ fields, value ≠ .object fields))
    (h : ∀ name entry, ∀ piece ∈ f name entry, ∃ made, piece = .ok made)
    {piece : Except Error Contribution} (hpiece : piece ∈ forEntries role value f) :
    ∃ made, piece = .ok made := by
  cases value with
  | null => exact absurd hpiece List.not_mem_nil
  | object fields =>
      obtain ⟨⟨name, entry⟩, -, hmem⟩ := List.mem_flatMap.1 hpiece
      exact h name entry piece hmem
  | _ => exact absurd ⟨Json.Value.noConfusion, fun _ => Json.Value.noConfusion⟩ hmap

/-- A parameter that can convert every value makes all pieces of an argument that it
does not refuse. -/
theorem exists_ok_of_not_refuses {p : Parameter} (hp : p.Converts) {value : Json.Value}
    (h : ∀ cause, ¬ p.Refuses value cause) {piece : Except Error Contribution}
    (hpiece : piece ∈ p.contributions value) : ∃ made, piece = .ok made := by
  have hmap {role : String} (hrole : p.mapRole? = some role) :
      ¬ (value ≠ .null ∧ ∀ fields, value ≠ .object fields) :=
    fun hvalue => h _ (.notMap hrole hvalue.1 hvalue.2)
  cases p with
  | path name encoded c =>
      have hthere : value ≠ .null := by
        rintro rfl
        exact h _ .nullPath
      obtain ⟨text, htext⟩ := hp value
      have hstays : traverses encoded text = false := by
        rw [← Bool.not_eq_true, traverses_eq_true]
        exact fun hdots => h _ (.dotSegment hthere htext hdots)
      rw [List.mem_singleton.1 hpiece]
      exact ⟨_, pathValue_eq_ok.2 ⟨hthere, text, htext, hstays, rfl⟩⟩
  | url c =>
      cases value with
      | null => exact absurd .nullUrl (h .nullUrl)
      | _ =>
          obtain ⟨text, htext⟩ := hp _
          rw [contributions, htext] at hpiece
          exact ⟨_, List.mem_singleton.1 hpiece⟩
  | body c =>
      cases value with
      | null => exact absurd .nullBody (h .nullBody)
      | _ =>
          obtain ⟨body, hbody⟩ := hp _
          rw [contributions, hbody] at hpiece
          exact ⟨_, List.mem_singleton.1 hpiece⟩
  | query | queryName | header | field => exact exists_ok_of_mem_forValues hp hpiece
  | queryMap | headerMap | fieldMap =>
      rw [contributions] at hpiece
      exact exists_ok_of_mem_forEntries (hmap rfl)
        (fun _ _ _ => exists_ok_of_mem_forValues hp) hpiece
  | part => exact exists_ok_of_mem_partFor hp hpiece
  | partMap =>
      rw [contributions] at hpiece
      exact exists_ok_of_mem_forEntries (hmap rfl) (fun _ _ _ => exists_ok_of_mem_partFor hp)
        hpiece
  | custom => exact hp.elim

theorem exists_contributes {p : Parameter} (hp : p.Converts) {value : Json.Value}
    (h : ∀ cause, ¬ p.Refuses value cause) : ∃ cs, p.Contributes value cs := by
  obtain ⟨cs, hcs⟩ := Outcome.exists_eq_map_ok fun _ => exists_ok_of_not_refuses hp h
  exact ⟨cs, (contributions_eq_ok hp.isStandard).1 hcs⟩

end Parameter

/-! ## The first argument that is refused -/

/-- The argument at a place is refused. -/
def RefusedAt (ps : List Parameter) (values : List Json.Value) (i : Nat)
    (cause : ConversionCause) : Prop :=
  ∃ p value, ps[i]? = some p ∧ values[i]? = some value ∧ p.Refuses value cause

/-- The argument at a place is refused, and none in front of it is. -/
def FirstRefused (ps : List Parameter) (values : List Json.Value) (i : Nat)
    (cause : ConversionCause) : Prop :=
  RefusedAt ps values i cause ∧ ∀ j < i, ∀ other, ¬ RefusedAt ps values j other

theorem refusedAt_zero {p : Parameter} {ps : List Parameter} {value : Json.Value}
    {values : List Json.Value} {cause : ConversionCause} :
    RefusedAt (p :: ps) (value :: values) 0 cause ↔ p.Refuses value cause := by
  constructor
  · rintro ⟨q, given, hq, hgiven, hrefuses⟩
    cases hq
    cases hgiven
    exact hrefuses
  · exact fun hrefuses => ⟨p, value, rfl, rfl, hrefuses⟩

theorem refusedAt_succ {p : Parameter} {ps : List Parameter} {value : Json.Value}
    {values : List Json.Value} {i : Nat} {cause : ConversionCause} :
    RefusedAt (p :: ps) (value :: values) (i + 1) cause ↔ RefusedAt ps values i cause :=
  Iff.rfl

theorem FirstRefused.cons {p : Parameter} {ps : List Parameter} {value : Json.Value}
    {values : List Json.Value} {i : Nat} {cause : ConversionCause}
    (hfirst : ∀ cause, ¬ p.Refuses value cause) (h : FirstRefused ps values i cause) :
    FirstRefused (p :: ps) (value :: values) (i + 1) cause := by
  refine ⟨refusedAt_succ.2 h.1, fun j hj other hrefused => ?_⟩
  cases j with
  | zero => exact hfirst other (refusedAt_zero.1 hrefused)
  | succ j => exact h.2 j (Nat.lt_of_succ_lt_succ hj) other (refusedAt_succ.1 hrefused)

/-- There is at most one first argument that is refused, with one cause. -/
theorem FirstRefused.eq {ps : List Parameter} {values : List Json.Value} {i j : Nat}
    {cause other : ConversionCause} (h : FirstRefused ps values i cause)
    (h' : FirstRefused ps values j other) : i = j ∧ cause = other := by
  obtain rfl : i = j := by
    rcases Nat.lt_trichotomy i j with hlt | heq | hlt
    · exact absurd h.1 (h'.2 i hlt cause)
    · exact heq
    · exact absurd h'.1 (h.2 j hlt other)
  obtain ⟨p, value, hp, hvalue, hrefuses⟩ := h.1
  obtain ⟨q, given, hq, hgiven, hrefuses'⟩ := h'.1
  obtain rfl : p = q := Option.some.inj (hp.symm.trans hq)
  obtain rfl : value = given := Option.some.inj (hvalue.symm.trans hgiven)
  exact ⟨rfl, hrefuses.cause_eq hrefuses'⟩

namespace ServiceMethod

/-- Arguments for parameters that can convert every value are either refused, and then
the first one that is refused says why, or taken by a draft that they fit. -/
theorem applyAll_refused_or_taken {ps : List Parameter} (hps : ∀ p ∈ ps, p.Converts)
    {values : List Json.Value} (hlength : values.length = ps.length) {d : Draft}
    (hfits : ∀ p ∈ ps, ∀ kind, p.bodyKind? = some kind → d.body.kind? = some kind) :
    (∃ i cause, FirstRefused ps values i cause ∧
        applyAll ps values d = .error (.conversion cause)) ∨
      (∀ i cause, ¬ RefusedAt ps values i cause) ∧ ∃ d', applyAll ps values d = .ok d' := by
  -- The kind of the body does not change, so what is left to take still fits.
  induction ps generalizing values d with
  | nil =>
      refine Or.inr ⟨fun i cause hat => ?_, d, rfl⟩
      obtain ⟨p, value, hp, -⟩ := hat
      cases hp
  | cons p ps ih =>
      cases values with
      | nil => exact absurd hlength (by simp)
      | cons value values =>
          have hp := (hps p List.mem_cons_self).isStandard
          rw [applyAll_cons hp]
          by_cases hrefused : ∃ cause, p.Refuses value cause
          · obtain ⟨cause, hrefuses⟩ := hrefused
            refine Or.inl ⟨0, cause, ⟨refusedAt_zero.2 hrefuses, fun j hj => ?_⟩, ?_⟩
            · exact absurd hj (Nat.not_lt_zero j)
            · rw [hrefuses.contributions_eq]
              rfl
          · rw [not_exists] at hrefused
            obtain ⟨cs, hcs⟩ := Parameter.exists_contributes (hps p List.mem_cons_self) hrefused
            obtain ⟨next, hadds, hkind⟩ := Draft.exists_addAll (d := d) fun c hc kind hown =>
              hfits p List.mem_cons_self kind (hcs.bodyKind?_eq hc hown)
            have hstep : d.addAll (p.contributions value) = .ok next := by
              rw [(Parameter.contributions_eq_ok hp).2 hcs]
              exact hadds
            rw [hstep]
            rcases ih (fun q hq => hps q (List.mem_cons_of_mem _ hq)) (Nat.succ.inj hlength)
                (fun q hq kind hown =>
                  hkind.trans (hfits q (List.mem_cons_of_mem _ hq) kind hown)) with
              ⟨i, cause, hfirst, herror⟩ | ⟨hnone, d', htaken⟩
            · exact Or.inl ⟨i + 1, cause, hfirst.cons hrefused, herror⟩
            · refine Or.inr ⟨fun i cause hat => ?_, d', htaken⟩
              cases i with
              | zero => exact hrefused cause (refusedAt_zero.1 hat)
              | succ i => exact hnone i cause (refusedAt_succ.1 hat)

/-! ## How a call can end -/

/-- The part of a call that comes before its URL is resolved. -/
def draftFor (m : ServiceMethod) (boundary : String) (base : Url)
    (arguments : List Json.Value) : Except Error Draft :=
  if arguments.length ≠ m.arity then
    .error (.invalidRequest (.wrongArity m.service m.name m.arity arguments.length))
  else applyAll m.parameters arguments (m.startDraft boundary base)

theorem buildRequest_eq_bind (m : ServiceMethod) (boundary : String) (base : Url)
    (arguments : List Json.Value) :
    m.buildRequest boundary base arguments =
      m.draftFor boundary base arguments >>= Draft.build := by
  unfold buildRequest draftFor
  split <;> rfl

/-- A draft fails to become a request only when its URL cannot be resolved. -/
theorem exists_invalidUrl_of_build {draft : Draft} {e : Error} (h : draft.build = .error e) :
    ∃ fault, e = .invalidUrl fault := by
  rw [Draft.build, Draft.resolveTarget] at h
  cases hjoin : draft.base.join? ((draft.target.map String.toList).getD draft.path) with
  | error fault =>
      rw [hjoin] at h
      cases h
      exact ⟨fault, rfl⟩
  | ok url =>
      rw [hjoin] at h
      cases h

/-- How a call can end: before its URL is resolved, for the number of its arguments or
for the first one that is refused, or else with the URL alone left to fail. -/
structure Ends (m : ServiceMethod) (boundary : String) (base : Url)
    (arguments : List Json.Value) : Prop where
  early : (∃ e, m.draftFor boundary base arguments = .error e) ↔
    arguments.length ≠ m.arity ∨ ∃ i cause, RefusedAt m.parameters arguments i cause
  wrongArity : arguments.length ≠ m.arity →
    m.buildRequest boundary base arguments =
      .error (.invalidRequest (.wrongArity m.service m.name m.arity arguments.length))
  refused : arguments.length = m.arity → (∃ i cause, RefusedAt m.parameters arguments i cause) →
    ∃ i cause, FirstRefused m.parameters arguments i cause ∧
      m.buildRequest boundary base arguments = .error (.conversion cause)
  late : arguments.length = m.arity → (∀ i cause, ¬ RefusedAt m.parameters arguments i cause) →
    ∀ e, m.buildRequest boundary base arguments = .error e → ∃ fault, e = .invalidUrl fault
  fits : ∀ cause ∈ [RequestCause.fieldOutsideForm, .partOutsideMultipart, .bodyBesideFields],
    m.buildRequest boundary base arguments ≠ .error (.invalidRequest cause)

/-- A call of a built method ends so when its parameters can convert every value. -/
theorem ends_of_converts {b : MethodBuilder} {m : ServiceMethod} (h : b.Makes m)
    (hps : ∀ p ∈ m.parameters, p.Converts) (boundary : String) (base : Url)
    (arguments : List Json.Value) : m.Ends boundary base arguments := by
  by_cases harity : arguments.length = m.arity
  · have hstart : m.draftFor boundary base arguments =
        applyAll m.parameters arguments (m.startDraft boundary base) :=
      if_neg (not_not_intro harity)
    -- Every kind of body that a parameter needs is the kind that the draft starts with.
    have hfits : ∀ p ∈ m.parameters, ∀ kind, p.bodyKind? = some kind →
        (m.startDraft boundary base).body.kind? = some kind := by
      intro p hp kind hkind
      rw [kind?_startDraft]
      exact h.bodyKind_eq (List.mem_filterMap.2 ⟨p, hp, hkind⟩)
    rcases applyAll_refused_or_taken hps harity hfits with
      ⟨i, cause, hfirst, hrefused⟩ | ⟨hnone, draft, htaken⟩
    · have hend : m.buildRequest boundary base arguments = .error (.conversion cause) := by
        rw [buildRequest_eq_bind, hstart, hrefused]
        rfl
      exact {
        early := ⟨fun _ => Or.inr ⟨i, cause, hfirst.1⟩, fun _ => ⟨_, hstart.trans hrefused⟩⟩
        wrongArity := fun hwrong => absurd harity hwrong
        refused := fun _ _ => ⟨i, cause, hfirst, hend⟩
        late := fun _ hnone => absurd hfirst.1 (hnone i cause)
        fits := fun other _ => by rw [hend]; exact fun heq => by cases heq }
    · have hend : m.buildRequest boundary base arguments = draft.build := by
        rw [buildRequest_eq_bind, hstart, htaken]
        rfl
      have hlate (e : Error) (he : m.buildRequest boundary base arguments = .error e) :
          ∃ fault, e = .invalidUrl fault :=
        exists_invalidUrl_of_build (hend.symm.trans he)
      refine ⟨⟨?_, ?_⟩, fun hwrong => absurd harity hwrong, ?_, fun _ _ => hlate, ?_⟩
      · rintro ⟨e, he⟩
        rw [hstart, htaken] at he
        cases he
      · rintro (hwrong | ⟨i, cause, hat⟩)
        · exact absurd harity hwrong
        · exact absurd hat (hnone i cause)
      · rintro - ⟨i, cause, hat⟩
        exact absurd hat (hnone i cause)
      · intro cause _ he
        obtain ⟨fault, hfault⟩ := hlate _ he
        cases hfault
  · have hstart : m.draftFor boundary base arguments =
        .error (.invalidRequest (.wrongArity m.service m.name m.arity arguments.length)) :=
      if_pos harity
    have hend : m.buildRequest boundary base arguments =
        .error (.invalidRequest (.wrongArity m.service m.name m.arity arguments.length)) := by
      rw [buildRequest_eq_bind, hstart]
      rfl
    refine ⟨⟨fun _ => Or.inl harity, fun _ => ⟨_, hstart⟩⟩, fun _ => hend,
      fun hright => absurd hright harity, fun hright => absurd hright harity, ?_⟩
    intro cause hcause he
    rw [hend, Except.error.injEq, Error.invalidRequest.injEq] at he
    subst he
    simp at hcause

end ServiceMethod

namespace ServiceResolver

/-- The standard converters are those of scalars and of JSON bodies. -/
theorem parameter?_of_binds {type : TypeName} {d : Directive} {p : Parameter}
    (h : Binds .standard type d p) :
    d.parameter? (.string .scalar) = some p ∨ d.parameter? (.request .json) = some p := by
  obtain ⟨-, capability, c, -, hc, hp⟩ := h
  cases capability with
  | string =>
      cases hc
      exact Or.inl hp
  | requestBody =>
      cases hc
      exact Or.inr hp
  | responseBody =>
      cases hc
      cases d <;> cases hp

theorem converts_of_binds {type : TypeName} {d : Directive} {p : Parameter}
    (h : Binds .standard type d p) : p.Converts := by
  rcases parameter?_of_binds h with hp | hp <;> cases d <;> cases hp <;>
    exact fun value => ⟨_, rfl⟩

/-- Every call of a method of a service that is resolved from standard directives with
the standard handlers and converters ends in one of the ways above. -/
theorem ends_of_resolve {declaration : ServiceDeclaration} (hstandard : declaration.IsStandard)
    {base : Url} {definition : ServiceDefinition}
    (h : standard.resolve declaration base = .ok definition) {m : ServiceMethod}
    (hm : m ∈ definition.methods) (boundary : String) (target : Url)
    (arguments : List Json.Value) : m.Ends boundary target arguments := by
  have hresolve : (ofConverters .standard).resolve declaration base = .ok definition := h
  obtain ⟨-, -, hmethods⟩ := resolve_eq_ok.1 hresolve
  -- Each method comes from a declared one, and each of its parameters as well.
  have hdeclared := (List.forall₂_and_left _ _).2 ⟨hstandard, hmethods⟩
  obtain ⟨d, hd, hmethod⟩ := exists_forall₂_iff.1 ⟨_, hdeclared.flip⟩ m hm
  obtain ⟨-, hdescribes, -⟩ := (resolveMethod_eq_ok hd).1 hmethod
  obtain ⟨b, -, hmakes⟩ := resolveMethod_outcome.1 hmethod
  refine ServiceMethod.ends_of_converts hmakes (fun p hp => ?_) boundary target arguments
  obtain ⟨_, _, -, hbinds⟩ := exists_forall₂_iff.1 ⟨_, hdescribes.parameters.flip⟩ p hp
  exact converts_of_binds hbinds

theorem resolve_users :
    users.IsStandard ∧ ∃ definition m, standard.resolve users .localhost = .ok definition ∧
      m ∈ definition.methods ∧
      m.parameters = [.query "tag" false .scalar, .path "id" false .scalar] := by
  have hstandard : users.IsStandard := by
    simp [users, ServiceDeclaration.IsStandard, MethodDeclaration.IsStandard,
      Directive.isStandard]
  have hsome : (standard.resolve users .localhost).toOption.isSome = true := by decide +kernel
  cases hresolve : standard.resolve users .localhost with
  | error e =>
      rw [hresolve] at hsome
      cases hsome
  | ok definition =>
      have hconverters : (ofConverters .standard).resolve users .localhost = .ok definition :=
        hresolve
      obtain ⟨-, -, hmethods⟩ := resolve_eq_ok.1 hconverters
      obtain ⟨m, rest, hm, -, hall⟩ := List.forall₂_cons_left_iff.1 hmethods
      refine ⟨hstandard, definition, m, rfl, hall ▸ List.mem_cons_self, ?_⟩
      obtain ⟨-, hdescribes, -⟩ :=
        (resolveMethod_eq_ok (hstandard _ List.mem_cons_self)).1 hm
      obtain ⟨_, _, ⟨_, hone, htag⟩, hmore, hps⟩ :=
        List.forall₂_cons_left_iff.1 hdescribes.parameters
      obtain ⟨_, _, ⟨_, htwo, hid⟩, hnone, rfl⟩ := List.forall₂_cons_left_iff.1 hmore
      cases hone
      cases htwo
      cases hnone
      rw [hps]
      rcases parameter?_of_binds htag with h | h <;> cases h
      rcases parameter?_of_binds hid with h | h <;> cases h
      rfl

theorem ends_of_resolve_users :
    users.IsStandard ∧ ∃ definition m, standard.resolve users .localhost = .ok definition ∧
      m ∈ definition.methods ∧ m.Ends "" .localhost [.null, .string ".."] ∧
      m.buildRequest "" .localhost [.null, .string ".."] =
        .error (.conversion (.dotSegment "id" "..")) := by
  obtain ⟨hstandard, definition, m, hresolve, hm, hps⟩ := resolve_users
  have hends := ends_of_resolve hstandard hresolve hm "" .localhost [.null, .string ".."]
  have harity : [Json.Value.null, .string ".."].length = m.arity := by
    rw [ServiceMethod.arity, hps]
    rfl
  have hat : RefusedAt m.parameters [.null, .string ".."] 1 (.dotSegment "id" "..") := by
    rw [hps]
    exact ⟨_, _, rfl, rfl, .dotSegment Json.Value.noConfusion rfl (Or.inr (Or.inl rfl))⟩
  have hfirst : FirstRefused m.parameters [.null, .string ".."] 1 (.dotSegment "id" "..") := by
    refine ⟨hat, fun j hj other hother => ?_⟩
    obtain rfl : j = 0 := by omega
    rw [hps] at hother
    cases refusedAt_zero.1 hother with
    | notMap hrole => cases hrole
  obtain ⟨i, cause, hrefused, hend⟩ := hends.refused harity ⟨1, _, hat⟩
  obtain ⟨-, rfl⟩ := hrefused.eq hfirst
  exact ⟨hstandard, definition, m, hresolve, hm, hends, hend⟩

end ServiceResolver

end WebClient
