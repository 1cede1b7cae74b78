import WebClient.Proofs.Directive.Handling
import WebClient.Proofs.Service.Trace

/-!
# What a refused directive leaves

A handler that refuses a directive should leave the builder as it was.  Most do, since
they check everything before their only step.  Two kinds do not: the headers of the lines
in front of a malformed one stay, and so does the kind of body that a handler declares
before it looks at the converter or at the place of the parameter.
-/

namespace WebClient

namespace Configure

variable {α β : Type}

/-- Steps in a row fail when the first one does, or another one after it. -/
theorem outcome_bind_eq_error {x : Configure α} {f : α → Configure β} {b b' : MethodBuilder}
    {e : ConfigError} :
    (x >>= f).outcome b = (.error e, b') ↔
      x.outcome b = (.error e, b') ∨
        ∃ a mid, x.outcome b = (.ok a, mid) ∧ (f a).outcome mid = (.error e, b') := by
  rw [outcome_bind]
  obtain ⟨result, mid⟩ := x.outcome b
  cases result with
  | error e' => simp
  | ok a =>
      constructor
      · intro h
        exact Or.inr ⟨a, mid, rfl, h⟩
      · rintro (h | ⟨_, _, hfirst, h⟩)
        · cases h
        · cases hfirst
          exact h

/-- Steps that look at the builder and leave it as it is. -/
def Looks (x : Configure α) : Prop := ∀ ⦃b b' r⦄, x.outcome b = (r, b') → b' = b

/-- Steps that leave the builder as it is when they fail. -/
def IsAtomic (x : Configure α) : Prop := ∀ ⦃b b' e⦄, x.outcome b = (.error e, b') → b' = b

theorem looks_reject (cause : ConfigCause) : Looks (reject cause : Configure α) := by
  intro b b' r h
  cases h
  rfl

theorem Looks.isAtomic {x : Configure α} (hx : x.Looks) : x.IsAtomic :=
  fun _ _ _ h => hx h

/-- Looking at the builder before steps takes nothing from them. -/
theorem Looks.bind {x : Configure α} {f : α → Configure β} (hx : x.Looks)
    (hf : ∀ a, (f a).IsAtomic) : (x >>= f).IsAtomic := by
  intro b b' e h
  rcases outcome_bind_eq_error.1 h with hfirst | ⟨a, mid, hlook, hrest⟩
  · exact hx hfirst
  · obtain rfl := hx hlook
    exact hf a hrest

end Configure

/-- The parameter has no place, or its place is taken. -/
def ConfigCause.isPlace : ConfigCause → Bool
  | .parameterOutOfRange .. | .duplicateParameter .. => true
  | _ => false

/-- The converter is not of the capability that is wanted. -/
def ConfigCause.isConverter : ConfigCause → Bool
  | .wrongConverter .. => true
  | _ => false

namespace MethodBuilder

theorem isAtomic_setHttp (method : Method) (path : Template) :
    (setHttp method path).IsAtomic := by
  intro b b' e h
  rw [setHttp_outcome] at h
  split at h
  · cases h
    rfl
  · cases h

theorem setParameter_refused {index : Nat} {p : Parameter} {b b' : MethodBuilder}
    {e : ConfigError} (h : (setParameter index p).outcome b = (.error e, b')) :
    b' = b ∧ e.cause.isPlace = true := by
  rw [setParameter_outcome] at h
  split at h
  · cases h
    exact ⟨rfl, rfl⟩
  · split at h
    · cases h
      exact ⟨rfl, rfl⟩
    · cases h

theorem isAtomic_setParameter (index : Nat) (p : Parameter) :
    (setParameter index p).IsAtomic := by
  intro b b' e h
  exact (setParameter_refused h).1

/-- A builder to which a kind of body has been declared, if it had none. -/
def withKind (kind : BodyKind) (b : MethodBuilder) : MethodBuilder :=
  { b with bodyKind := b.bodyKind.or (some kind) }

/-- Another kind of body is refused; behind that the kind is declared. -/
theorem setBodyKind_bind_refused {α : Type} {kind : BodyKind} {x : Configure α}
    {b b' : MethodBuilder} {e : ConfigError}
    (h : (setBodyKind kind >>= fun _ => x).outcome b = (.error e, b')) :
    (b' = b ∧ e.cause.isPlace = false ∧ e.cause.isConverter = false) ∨
      x.outcome (b.withKind kind) = (.error e, b') := by
  rcases Configure.outcome_bind_eq_error.1 h with h | ⟨_, mid, hset, h⟩
  · rw [setBodyKind_outcome] at h
    split at h
    · split at h
      · cases h
      · cases h
        exact Or.inl ⟨rfl, rfl, rfl⟩
    · cases h
  · obtain ⟨hsame, rfl⟩ := setBodyKind_eq_ok.1 hset
    have hkind : b.withKind kind = { b with bodyKind := some kind } := by
      unfold withKind
      cases hb : b.bodyKind with
      | none => rfl
      | some first => rw [hsame first hb, Option.some_or]
    rw [hkind]
    exact Or.inr h

end MethodBuilder

namespace DirectiveHandler

open Configure (Looks IsAtomic)

/-! ## What handlers look at first -/

theorem placeOf_looks (variant : Variant) (index : Option Nat) :
    (placeOf variant index).Looks := by
  intro b b' r h
  cases index <;> cases h <;> rfl

theorem placeOf_refused {variant : Variant} {index : Option Nat} {b b' : MethodBuilder}
    {e : ConfigError} (h : (placeOf variant index).outcome b = (.error e, b')) :
    b' = b ∧ e.cause.isPlace = false ∧ e.cause.isConverter = false := by
  cases index with
  | none =>
      cases h
      exact ⟨rfl, rfl, rfl⟩
  | some index => cases h

theorem stringConverter_refused {converter : Option Converter} {b b' : MethodBuilder}
    {e : ConfigError} (h : (stringConverter converter).outcome b = (.error e, b')) :
    b' = b ∧ e.cause.isPlace = false ∧ e.cause.isConverter = true := by
  unfold stringConverter at h
  split at h
  · cases h
  · cases h
    exact ⟨rfl, rfl, rfl⟩

theorem stringConverter_looks (converter : Option Converter) :
    (stringConverter converter).Looks := by
  intro b b' r h
  unfold stringConverter at h
  split at h <;> cases h <;> rfl

theorem requestConverter_looks (converter : Option Converter) :
    (requestConverter converter).Looks := by
  intro b b' r h
  unfold requestConverter at h
  split at h <;> cases h <;> rfl

theorem setStringParameter_isAtomic (variant : Variant) (converter : Option Converter)
    (index : Option Nat) (p : StringConverter → Parameter) :
    (setStringParameter variant converter index p).IsAtomic :=
  (placeOf_looks variant index).bind fun _ =>
    (stringConverter_looks converter).bind fun _ => MethodBuilder.isAtomic_setParameter _ _

/-! ## What is left behind -/

/-- The headers that the handler of a variant adds before it refuses a directive. -/
def headersBefore (variant : Variant) (d : Directive) : List (String × String) :=
  if variant = "Headers" then
    (d.headerLines.takeWhile fun line => (headerPair? line).isSome).filterMap headerPair?
  else []

/-- The kind of body that the handler of a variant declares before it refuses a directive
for a cause. -/
def kindBefore? (variant : Variant) (cause : ConfigCause) : Option BodyKind :=
  match variant with
  | "Field" | "FieldMap" => if cause.isPlace then some .form else none
  | "Part" => if cause.isPlace then some .multipart else none
  | "PartMap" => if cause.isPlace || cause.isConverter then some .multipart else none
  | _ => none

/-- What a builder becomes when the handler of a variant refuses a directive. -/
def refusedBy (variant : Variant) (d : Directive) (e : ConfigError) (b : MethodBuilder) :
    MethodBuilder :=
  { b with
    headers := b.headers ++ headersBefore variant d
    bodyKind := b.bodyKind.or (kindBefore? variant e.cause) }

theorem refusedBy_eq_self_iff {variant : Variant} {d : Directive} {e : ConfigError}
    {b : MethodBuilder} :
    refusedBy variant d e b = b ↔
      headersBefore variant d = [] ∧
        (b.bodyKind = none → kindBefore? variant e.cause = none) := by
  obtain ⟨service, name, arity, http, headers, kind, parameters, response, later⟩ := b
  cases kind <;> simp [refusedBy]

/-- The handler leaves what it is said to leave when it refuses a directive. -/
def LeavesBehind (handler : DirectiveHandler) : Prop :=
  ∀ ⦃d converter index b b' e⦄, (handler.handle d converter index).outcome b = (.error e, b') →
    b' = refusedBy handler.variant d e b

/-- The handlers that leave nothing behind. -/
theorem leavesBehind_of_isAtomic {handler : DirectiveHandler}
    (hheaders : handler.variant ≠ "Headers")
    (hkind : ∀ cause, kindBefore? handler.variant cause = none)
    (hatomic : ∀ d converter index, (handler.handle d converter index).IsAtomic) :
    handler.LeavesBehind := by
  intro d converter index b b' e h
  rw [hatomic d converter index h]
  exact (refusedBy_eq_self_iff.2 ⟨if_neg hheaders, fun _ => hkind e.cause⟩).symm

theorem addHeaders_refused {lines : List String} {b b' : MethodBuilder} {e : ConfigError}
    (h : (addHeaders lines).outcome b = (.error e, b')) :
    b' = { b with
      headers := b.headers ++
        (lines.takeWhile fun line => (headerPair? line).isSome).filterMap headerPair? } := by
  induction lines generalizing b with
  | nil => cases h
  | cons line lines ih =>
      rw [addHeaders] at h
      cases hline : parseHeader line with
      | error e' =>
          have hpair : headerPair? line = none := by rw [headerPair?, hline]; rfl
          rw [hline] at h
          cases h
          simp [hpair]
      | ok pair =>
          have hpair : headerPair? line = some pair := by rw [headerPair?, hline]; rfl
          rw [hline] at h
          have hrest : (addHeaders lines).outcome
              { b with headers := b.headers ++ [pair] } = (.error e, b') := h
          rw [ih hrest]
          simp [hpair]

theorem leavesBehind_headers : headers.LeavesBehind := by
  intro d converter index b b' e h
  have hother (hlines : d.headerLines = []) (hself : b' = b) :
      b' = refusedBy headers.variant d e b := by
    have hnone : headersBefore headers.variant d = [] := by
      rw [headersBefore, hlines]
      rfl
    rw [hself, refusedBy_eq_self_iff.2 ⟨hnone, fun _ => rfl⟩]
  cases d with
  | headers lines =>
      have hleft := addHeaders_refused h
      rw [hleft]
      show _ = { b with
        headers := b.headers ++ headersBefore "Headers" (.headers lines)
        bodyKind := b.bodyKind.or none }
      rw [Option.or_none]
      rfl
  | _ => exact hother rfl (Configure.looks_reject _ h)

/-! ## Handlers that declare a kind of body -/

/-- When the converter is looked at before the kind of body is declared, the kind stays
only if the place of the parameter is at fault. -/
theorem setWithKind_refused {γ : Type} {variant : Variant} {kind : BodyKind}
    {convert : Configure γ} (hlooks : convert.Looks)
    (hcause : ∀ ⦃b b' e⦄, convert.outcome b = (.error e, b') → e.cause.isPlace = false)
    {p : γ → Parameter} {index : Option Nat} {b b' : MethodBuilder} {e : ConfigError}
    (h : (do
        let index ← placeOf variant index
        let c ← convert
        MethodBuilder.setBodyKind kind
        MethodBuilder.setParameter index (p c) : Configure Unit).outcome b = (.error e, b')) :
    b' = if e.cause.isPlace then b.withKind kind else b := by
  rcases Configure.outcome_bind_eq_error.1 h with hplace | ⟨i, _, hplace, hrest⟩
  · obtain ⟨rfl, hearly, -⟩ := placeOf_refused hplace
    rw [hearly, if_neg Bool.false_ne_true]
  obtain rfl := placeOf_looks variant index hplace
  rcases Configure.outcome_bind_eq_error.1 hrest with hconvert | ⟨c, _, hconvert, hdeclare⟩
  · rw [hcause hconvert, if_neg Bool.false_ne_true]
    exact hlooks hconvert
  obtain rfl := hlooks hconvert
  rcases MethodBuilder.setBodyKind_bind_refused hdeclare with ⟨rfl, hearly, -⟩ | hset
  · rw [hearly, if_neg Bool.false_ne_true]
  · obtain ⟨rfl, hlate⟩ := MethodBuilder.setParameter_refused hset
    rw [hlate, if_pos rfl]

theorem refusedBy_of_kind {variant : Variant} (hvariant : variant ≠ "Headers") {kind : BodyKind}
    {late : Bool} {d : Directive} {e : ConfigError} (b : MethodBuilder)
    (hkind : kindBefore? variant e.cause = if late then some kind else none) :
    refusedBy variant d e b = if late then b.withKind kind else b := by
  unfold refusedBy headersBefore
  rw [hkind, if_neg hvariant, List.append_nil]
  cases late with
  | true => rfl
  | false =>
      rw [if_neg Bool.false_ne_true, if_neg Bool.false_ne_true, Option.or_none]

/-- Nothing is left when a directive is refused before the converter and the place are
looked at. -/
theorem eq_refusedBy_of_early {variant : Variant} (hvariant : variant ≠ "Headers")
    {d : Directive} {cause : ConfigCause} {b : MethodBuilder} (hplace : cause.isPlace = false)
    (hconverter : cause.isConverter = false) : b = refusedBy variant d (.of cause) b := by
  refine (refusedBy_eq_self_iff.2 ⟨if_neg hvariant, fun _ => ?_⟩).symm
  show kindBefore? variant cause = none
  unfold kindBefore?
  rw [hplace, hconverter]
  split <;> rfl

theorem leavesBehind_field : field.LeavesBehind := by
  intro d converter index b b' e h
  cases d with
  | field name encoded =>
      rw [refusedBy_of_kind (by decide) b rfl]
      exact setWithKind_refused (stringConverter_looks converter)
        (fun _ _ _ hc => (stringConverter_refused hc).2.1) h
  | _ =>
      cases h
      exact eq_refusedBy_of_early (by decide) rfl rfl

theorem leavesBehind_fieldMap : fieldMap.LeavesBehind := by
  intro d converter index b b' e h
  rw [fieldMap] at h
  dsimp only at h
  split at h
  · cases h
    exact eq_refusedBy_of_early (by decide) rfl rfl
  · split at h
    · cases h
      exact eq_refusedBy_of_early (by decide) rfl rfl
    · rw [refusedBy_of_kind (by decide) b rfl]
      exact setWithKind_refused (stringConverter_looks converter)
        (fun _ _ _ hc => (stringConverter_refused hc).2.1) h

theorem requestConverter_refused {converter : Option Converter} {b b' : MethodBuilder}
    {e : ConfigError} (h : (requestConverter converter).outcome b = (.error e, b')) :
    b' = b ∧ e.cause.isPlace = false ∧ e.cause.isConverter = true := by
  unfold requestConverter at h
  split at h
  · cases h
  · cases h
    exact ⟨rfl, rfl, rfl⟩

theorem leavesBehind_part : part.LeavesBehind := by
  intro d converter index b b' e h
  cases d with
  | part name =>
      rw [refusedBy_of_kind (by decide) b rfl]
      exact setWithKind_refused (requestConverter_looks converter)
        (fun _ _ _ hc => (requestConverter_refused hc).2.1) h
  | _ =>
      cases h
      exact eq_refusedBy_of_early (by decide) rfl rfl

theorem leavesBehind_partMap : partMap.LeavesBehind := by
  intro d converter index b b' e h
  cases d with
  | partMap =>
      rw [refusedBy_of_kind (by decide) b rfl]
      rcases Configure.outcome_bind_eq_error.1 h with hplace | ⟨i, _, hplace, hrest⟩
      · obtain ⟨rfl, hearly, hearlier⟩ := placeOf_refused hplace
        rw [hearly, hearlier]
        rfl
      obtain rfl := placeOf_looks _ _ hplace
      -- Here the kind of body is declared before the converter is looked at.
      rcases MethodBuilder.setBodyKind_bind_refused hrest with ⟨rfl, hearly, hearlier⟩ | hlate
      · rw [hearly, hearlier]
        rfl
      rcases Configure.outcome_bind_eq_error.1 hlate with hconvert | ⟨c, _, hconvert, hset⟩
      · obtain ⟨rfl, -, hcause⟩ := requestConverter_refused hconvert
        rw [hcause, Bool.or_true, if_pos rfl]
      · obtain rfl := requestConverter_looks _ hconvert
        obtain ⟨rfl, hcause⟩ := MethodBuilder.setParameter_refused hset
        rw [hcause, Bool.true_or, if_pos rfl]
  | _ =>
      cases h
      exact eq_refusedBy_of_early (by decide) rfl rfl

/-! ## All handlers -/

theorem isAtomic_body (d : Directive) (converter : Option Converter) (index : Option Nat) :
    (body.handle d converter index).IsAtomic := by
  cases d with
  | body =>
      exact (placeOf_looks "Body" index).bind fun _ =>
        (requestConverter_looks converter).bind fun _ => MethodBuilder.isAtomic_setParameter _ _
  | _ => exact (Configure.looks_reject _).isAtomic

theorem leavesBehind_http (method : Method) : (http method).LeavesBehind := by
  have hheaders : method.name ≠ "Headers" := by cases method <;> decide
  have hkind (cause : ConfigCause) : kindBefore? method.name cause = none := by
    cases method <;> rfl
  refine leavesBehind_of_isAtomic hheaders hkind fun d converter index => ?_
  cases d with
  | http own template =>
      rw [http]
      dsimp only
      split
      · exact MethodBuilder.isAtomic_setHttp own template
      · exact (Configure.looks_reject _).isAtomic
  | _ => exact (Configure.looks_reject _).isAtomic

theorem leavesBehind_asynchronous : asynchronous.LeavesBehind := by
  refine leavesBehind_of_isAtomic (by decide) (fun _ => rfl) fun d converter index => ?_
  cases d with
  | asynchronous =>
      intro b b' e h
      cases h
  | _ => exact (Configure.looks_reject _).isAtomic

/-- The handlers that set a parameter that converts values to texts, and nothing else. -/
theorem leavesBehind_string {handler : DirectiveHandler}
    (h : handler ∈ [path, url, query, queryMap, queryName, header, headerMap]) :
    handler.LeavesBehind := by
  simp only [List.mem_cons, List.not_mem_nil, or_false] at h
  rcases h with rfl | rfl | rfl | rfl | rfl | rfl | rfl <;>
    refine leavesBehind_of_isAtomic (by decide) (fun _ => rfl) fun d converter index => ?_ <;>
    cases d <;>
    first
      | exact setStringParameter_isAtomic _ _ _ _
      | exact (Configure.looks_reject _).isAtomic

theorem leavesBehind_body : body.LeavesBehind :=
  leavesBehind_of_isAtomic (by decide) (fun _ => rfl) isAtomic_body

theorem leavesBehind_of_mem {handler : DirectiveHandler} (h : handler ∈ standard) :
    handler.LeavesBehind := by
  rcases List.mem_append.1 h with hverb | hother
  · obtain ⟨method, -, rfl⟩ := List.mem_map.1 hverb
    exact leavesBehind_http method
  · simp only [List.mem_cons, List.not_mem_nil, or_false] at hother
    rcases hother with rfl | rfl | rfl | rfl | rfl | rfl | rfl | rfl | rfl | rfl | rfl | rfl |
      rfl | rfl
    · exact leavesBehind_headers
    · exact leavesBehind_asynchronous
    iterate 7 exact leavesBehind_string (by simp)
    · exact leavesBehind_field
    · exact leavesBehind_fieldMap
    · exact leavesBehind_part
    · exact leavesBehind_partMap
    · exact leavesBehind_body

/-- A standard handler that refuses a directive leaves the builder as it was, so that all
steps behind build the same, exactly when it has added no header yet and has not declared
the kind of body of a builder that had none. -/
theorem unchanged_iff_of_refused {handler : DirectiveHandler} (hstandard : handler ∈ standard)
    {d : Directive} {converter : Option Converter} {index : Option Nat} {b b' : MethodBuilder}
    {e : ConfigError} (hrefused : (handler.handle d converter index).outcome b = (.error e, b')) :
    b' = refusedBy handler.variant d e b ∧
      (b' = b ↔ headersBefore handler.variant d = [] ∧
        (b.bodyKind = none → kindBefore? handler.variant e.cause = none)) ∧
      (headersBefore handler.variant d = [] →
        (b.bodyKind = none → kindBefore? handler.variant e.cause = none) →
          ∀ steps : List MethodStep, (b'.takeAll steps).build = (b.takeAll steps).build) := by
  have hleft := leavesBehind_of_mem hstandard hrefused
  have hiff := @refusedBy_eq_self_iff handler.variant d e b
  rw [← hleft] at hiff
  refine ⟨hleft, hiff, fun hheaders hkind steps => ?_⟩
  rw [hiff.2 ⟨hheaders, hkind⟩]

/-- A method with one parameter, of which nothing is known yet. -/
def uploading : MethodBuilder := .start "Files" "upload" 1

theorem unchanged_iff_of_refused_part :
    part ∈ standard ∧
      ∃ b', (part.handle (.part "file") (some (.string .scalar)) (some 0)).outcome uploading =
          (.error (.of (.wrongConverter .requestBody (some .string))), b') ∧ b' = uploading ∧
        ∀ steps : List MethodStep, (b'.takeAll steps).build = (uploading.takeAll steps).build := by
  have hmem : part ∈ standard := by simp [standard]
  have hrefused : (part.handle (.part "file") (some (.string .scalar)) (some 0)).outcome
      uploading = (.error (.of (.wrongConverter .requestBody (some .string))), _) := rfl
  obtain ⟨-, hiff, hsame⟩ := unchanged_iff_of_refused hmem hrefused
  exact ⟨hmem, _, hrefused, hiff.2 ⟨rfl, fun _ => rfl⟩, hsame rfl fun _ => rfl⟩

/-- Steps that make a method with a raw body. -/
def uploadSteps : List MethodStep :=
  [.http .post ⟨"/files"⟩, .parameter 0 (.body .json), .response .unit (.response .json)]

/-- The handler for maps of parts has declared a multipart body when it refuses the converter,
and a method that could be built before cannot be built any more. -/
theorem kind_left_by_partMap :
    partMap ∈ standard ∧
      (partMap.handle .partMap (some (.string .scalar)) (some 0)).outcome uploading =
        (.error (.of (.wrongConverter .requestBody (some .string))),
          uploading.withKind .multipart) ∧
      ((uploading.withKind .multipart).takeAll uploadSteps).build =
        .error ⟨some "Files", some "upload", some 0, .conflictingBody .multipart .raw⟩ ∧
      ∃ m, (uploading.takeAll uploadSteps).build = .ok m :=
  ⟨by simp [standard], rfl, rfl, _, rfl⟩

end DirectiveHandler

end WebClient
