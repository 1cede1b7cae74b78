import WebClient.Directive.Handler

/-!
# Finding handlers

A registry has at most one handler for each variant.
-/

namespace WebClient

/-- The handlers of directives, by their variants. -/
structure HandlerRegistry where
  handlers : List DirectiveHandler

namespace HandlerRegistry

/-- No handlers. -/
def empty : HandlerRegistry := ⟨[]⟩

/-- The handlers of the standard directives. -/
def standard : HandlerRegistry := ⟨DirectiveHandler.standard⟩

/-- The handler of a variant. -/
def get? (registry : HandlerRegistry) (variant : Variant) : Option DirectiveHandler :=
  registry.handlers.find? fun handler => handler.variant = variant

/-- A step on a registry; when it fails, what it did before stands. -/
abbrev Registering := ExceptT ConfigError (StateM HandlerRegistry)

/-- Enter a handler for a variant that has none. -/
def enter (handler : DirectiveHandler) : Registering Unit := do
  if ((← get).get? handler.variant).isSome then
    throw (.of (.duplicateHandler handler.variant))
  modify fun registry => ⟨registry.handlers ++ [handler]⟩

/-- Add a handler for a variant that has none. -/
def register (handler : DirectiveHandler) (registry : HandlerRegistry) :
    Except ConfigError HandlerRegistry :=
  match (enter handler).run registry with
  | (.ok (), entered) => .ok entered
  | (.error e, _) => .error e

/-- The number of handlers. -/
def size (registry : HandlerRegistry) : Nat := registry.handlers.length

end HandlerRegistry

end WebClient
