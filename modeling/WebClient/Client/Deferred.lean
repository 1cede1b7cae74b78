import WebClient.Dump
import WebClient.Session
import WebClient.Error

/-!
# Deferred answers

An answer that is still to come.  Nothing happens until it is waited for.
-/

namespace WebClient

/-- An answer that is waited for later. -/
structure Deferred (σ α : Type) where
  wait : Action σ (Except Error α)

namespace Deferred

variable {σ α β : Type}

/-- The answer that is there already. -/
def ready (answer : Except Error α) : Deferred σ α := ⟨pure answer⟩

/-- Change what is answered, unless it is an error. -/
def map (f : α → β) (d : Deferred σ α) : Deferred σ β := ⟨do return (← d.wait).map f⟩

/-- What is shown of an answer that is still to come. -/
def shown (_ : Deferred σ α) : Dump := .record "Deferred" [] false

end Deferred

end WebClient
