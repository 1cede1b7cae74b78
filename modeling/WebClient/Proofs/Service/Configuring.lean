import WebClient.Proofs.Service.Building

/-!
# What steps of building do

Each step leaves a builder as it is and fails, or changes one part of it.  The
lemmas here say which; a sequence of steps succeeds when each one does on what
the ones before it left.
-/

namespace WebClient

namespace Configure

variable {α β : Type}

/-- What steps answer with and the builder that they leave. -/
def outcome (x : Configure α) (b : MethodBuilder) : Except ConfigError α × MethodBuilder :=
  x.run b

@[simp] theorem outcome_pure (a : α) (b : MethodBuilder) :
    (pure a : Configure α).outcome b = (.ok a, b) := rfl

@[simp] theorem outcome_throw (e : ConfigError) (b : MethodBuilder) :
    (throw e : Configure α).outcome b = (.error e, b) := rfl

@[simp] theorem outcome_reject (cause : ConfigCause) (b : MethodBuilder) :
    (reject cause : Configure α).outcome b = (.error (.of cause), b) := rfl

/-- The steps of a row are taken until one fails. -/
theorem outcome_bind (x : Configure α) (f : α → Configure β) (b : MethodBuilder) :
    (x >>= f).outcome b =
      match x.outcome b with
      | (.ok a, b') => (f a).outcome b'
      | (.error e, b') => (.error e, b') := by
  have hbind : (x >>= f).outcome b =
      ExceptT.bindCont f (x.outcome b).1 (x.outcome b).2 := rfl
  rw [hbind]
  obtain ⟨result, b'⟩ := x.outcome b
  cases result with
  | ok a => rfl
  | error e => rfl

theorem outcome_adapt (x : Configure α) (f : ConfigError → ConfigError) (b : MethodBuilder) :
    outcome (x.adapt f) b = ((x.outcome b).1.mapError f, (x.outcome b).2) := rfl

/-- Steps in a row succeed when the first one does and the others do after it. -/
theorem outcome_bind_eq_ok {x : Configure α} {f : α → Configure β} {b b' : MethodBuilder}
    {c : β} :
    (x >>= f).outcome b = (.ok c, b') ↔
      ∃ a mid, x.outcome b = (.ok a, mid) ∧ (f a).outcome mid = (.ok c, b') := by
  rw [outcome_bind]
  obtain ⟨result, mid⟩ := x.outcome b
  cases result with
  | error e => simp
  | ok a =>
      constructor
      · intro h
        exact ⟨a, mid, rfl, h⟩
      · rintro ⟨a', mid', hfirst, h⟩
        cases hfirst
        exact h

end Configure

namespace MethodBuilder

theorem setHttp_outcome (method : Method) (path : Template) (b : MethodBuilder) :
    (setHttp method path).outcome b =
      match b.http with
      | some (existing, _) => (.error (.of (.duplicateHttpMethod existing method)), b)
      | none => (.ok (), { b with http := some (method, path) }) := by
  obtain ⟨service, name, arity, http, headers, bodyKind, parameters, response, later⟩ := b
  cases http with
  | none => rfl
  | some http => rfl

theorem setBodyKind_outcome (kind : BodyKind) (b : MethodBuilder) :
    (setBodyKind kind).outcome b =
      match b.bodyKind with
      | some first =>
          if first = kind then (.ok (), b)
          else (.error (.of (.conflictingBody first kind)), b)
      | none => (.ok (), { b with bodyKind := some kind }) := by
  obtain ⟨service, name, arity, http, headers, bodyKind, parameters, response, later⟩ := b
  cases bodyKind with
  | none => rfl
  | some first =>
      cases first <;> cases kind <;> rfl

theorem setParameter_outcome (index : Nat) (p : Parameter) (b : MethodBuilder) :
    (setParameter index p).outcome b =
      if b.arity ≤ index then
        (.error ((ConfigError.of (.parameterOutOfRange index b.arity)).atParameter index), b)
      else if (b.parameters.lookup index).isSome then
        (.error ((ConfigError.of (.duplicateParameter index)).atParameter index), b)
      else (.ok (), { b with parameters := b.parameters ++ [(index, p)] }) := by
  have hget : (get : Configure MethodBuilder).outcome b = (.ok b, b) := rfl
  rw [setParameter, Configure.outcome_bind, hget]
  dsimp only
  by_cases harity : b.arity ≤ index
  · rw [if_pos harity, if_pos harity]
    rfl
  · rw [if_neg harity, if_neg harity]
    by_cases hlookup : (b.parameters.lookup index).isSome = true
    · rw [if_pos hlookup, if_pos hlookup]
      rfl
    · rw [if_neg hlookup, if_neg hlookup]
      rfl

theorem setResponse_outcome (type : TypeName) (converter : Converter) (b : MethodBuilder) :
    (setResponse type converter).outcome b =
      match converter.asResponse? with
      | none =>
          (.error (.of (.wrongConverter .responseBody (some converter.capability))), b)
      | some c =>
          if b.response.isSome then (.error (.of .duplicateResponseConverter), b)
          else (.ok (), { b with response := some (type, c) }) := by
  obtain ⟨service, name, arity, http, headers, bodyKind, parameters, response, later⟩ := b
  cases converter with
  | response c => cases response <;> rfl
  | string c => rfl
  | request c => rfl

/-! ## Steps that succeed -/

theorem setHttp_eq_ok {method : Method} {path : Template} {b b' : MethodBuilder} :
    (setHttp method path).outcome b = (.ok (), b') ↔
      b.http = none ∧ b' = { b with http := some (method, path) } := by
  rw [setHttp_outcome]
  cases b.http with
  | none => simp [eq_comm]
  | some http => simp

theorem setBodyKind_eq_ok {kind : BodyKind} {b b' : MethodBuilder} :
    (setBodyKind kind).outcome b = (.ok (), b') ↔
      (∀ first ∈ b.bodyKind, first = kind) ∧ b' = { b with bodyKind := some kind } := by
  rw [setBodyKind_outcome]
  cases hkind : b.bodyKind with
  | none => simp [eq_comm]
  | some first =>
      by_cases hsame : first = kind
      · have hb : { b with bodyKind := some kind } = b := by rw [← hsame, ← hkind]
        simp [hsame, hb, eq_comm]
      · simp [hsame]

theorem setParameter_eq_ok {index : Nat} {p : Parameter} {b b' : MethodBuilder} :
    (setParameter index p).outcome b = (.ok (), b') ↔
      index < b.arity ∧ b.parameters.lookup index = none ∧
        b' = { b with parameters := b.parameters ++ [(index, p)] } := by
  rw [setParameter_outcome]
  by_cases harity : b.arity ≤ index
  · simp [harity, Nat.not_lt.2 harity]
  · have hplace : index < b.arity := Nat.lt_of_not_le harity
    cases hlookup : b.parameters.lookup index with
    | none => simp [harity, hplace, eq_comm]
    | some known => simp [harity]

theorem setResponse_eq_ok {type : TypeName} {converter : Converter} {b b' : MethodBuilder} :
    (setResponse type converter).outcome b = (.ok (), b') ↔
      ∃ c, converter = .response c ∧ b.response = none ∧
        b' = { b with response := some (type, c) } := by
  rw [setResponse_outcome]
  cases converter with
  | string c => simp [Converter.asResponse?]
  | request c => simp [Converter.asResponse?]
  | response c =>
      cases hresponse : b.response with
      | none => simp [Converter.asResponse?, eq_comm]
      | some known => simp [Converter.asResponse?]

end MethodBuilder

end WebClient
