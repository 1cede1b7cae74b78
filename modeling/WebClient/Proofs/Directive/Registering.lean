import WebClient.Directive.Registry
import WebClient.Proofs.Outcome

/-!
# Registering handlers

A handler is entered behind the others when its variant has none.  A refused one leaves the
registry as it is, and an entered one changes only what is found under its own variant.
-/

namespace WebClient.HandlerRegistry

variable {handler : DirectiveHandler} {registry registry' : HandlerRegistry}

theorem run_enter (handler : DirectiveHandler) (registry : HandlerRegistry) :
    (enter handler).run registry =
      if (registry.get? handler.variant).isSome then
        (.error (.of (.duplicateHandler handler.variant)), registry)
      else (.ok (), ⟨registry.handlers ++ [handler]⟩) := by
  have hstep : (enter handler).run registry =
      ExceptT.run (if (registry.get? handler.variant).isSome then
          throw (.of (.duplicateHandler handler.variant))
        else modify fun known => ⟨known.handlers ++ [handler]⟩ : Registering Unit) registry := rfl
  rw [hstep]
  by_cases htaken : (registry.get? handler.variant).isSome = true
  · rw [if_pos htaken, if_pos htaken]
    rfl
  · rw [if_neg htaken, if_neg htaken]
    rfl

/-- A registration is refused when the variant has a handler, and then changes nothing. -/
theorem run_enter_eq_error {e : ConfigError} :
    (enter handler).run registry = (.error e, registry') ↔
      (registry.get? handler.variant).isSome ∧
        e = .of (.duplicateHandler handler.variant) ∧ registry' = registry := by
  rw [run_enter]
  split
  · next htaken =>
      constructor
      · intro h
        cases h
        exact ⟨htaken, rfl, rfl⟩
      · rintro ⟨-, rfl, rfl⟩
        rfl
  · next hfree =>
      constructor
      · intro h
        cases h
      · rintro ⟨htaken, -⟩
        exact absurd htaken hfree

theorem register_eq_ok :
    registry.register handler = .ok registry' ↔
      registry.get? handler.variant = none ∧ registry' = ⟨registry.handlers ++ [handler]⟩ := by
  rw [register, run_enter]
  cases hfound : registry.get? handler.variant with
  | some known => simp
  | none => simp [eq_comm]

/-- What is found once a handler is entered: what was found before, or else the handler. -/
theorem get?_append (variant : Variant) :
    (mk (registry.handlers ++ [handler])).get? variant =
      (registry.get? variant).or (if handler.variant = variant then some handler else none) := by
  rw [get?, get?, List.find?_append, List.find?_singleton]
  simp

end WebClient.HandlerRegistry
