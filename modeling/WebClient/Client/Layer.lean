import WebClient.Client.Basic
import WebClient.Dump

/-!
# Layers

A layer is put around a carrier and sees what goes in and what comes out.
-/

namespace WebClient

/-- Something around a carrier. -/
structure Layer (σ : Type) where
  wrap : Carrier σ → Carrier σ
  /-- The layer lets requests through at all. -/
  admits : Bool := true

/-- How much a logging layer tells of a request. -/
inductive LogLevel where
  | debug
  | info
  deriving DecidableEq, Repr, Inhabited

/-- The name of a log level as a word. -/
def LogLevel.title : LogLevel → String
  | .debug => "Debug"
  | .info => "Info"

/-- The log level unless another is asked for. -/
def LogLevel.standard : LogLevel := .info

namespace Logging

/-- What is reported when a request goes in. -/
def sending (level : LogLevel) (r : Request) : List Event :=
  let span : Event := ⟨.span, "rivet_request",
    [("method", .text r.method.name), ("url", .text r.url.text)]⟩
  match level with
  | .info => [span, ⟨.info, "sending request", []⟩]
  | .debug =>
      let headers := Dump.list
        (r.headers.map fun (name, value) => .pair (.text name) (.text value))
      [span, ⟨.debug, "sending request", [("headers", .text headers.render)]⟩]

/-- What is reported when an answer comes out. -/
def received : Except Error Response → Event
  | .ok r =>
      if r.isSuccess then ⟨.info, "request completed", [("status", .number r.status)]⟩
      else ⟨.warn, "request failed with HTTP error", [("status", .number r.status)]⟩
  | .error e => ⟨.warn, "request failed", [("error", .text e.message)]⟩

end Logging

namespace Layer

/-- Reports every request and its answer. -/
def logging {σ : Type} (level : LogLevel) : Layer σ where
  wrap inner r := do
    Action.report (Logging.sending level r)
    let answer ← inner r
    Action.report [Logging.received answer]
    return answer

/-- Lets so many requests through at a time. -/
def limit {σ : Type} (max : Nat) : Layer σ where
  wrap inner := inner
  admits := 0 < max

/-- Put layers around a carrier, the first one outermost. -/
def wrapAll {σ : Type} (layers : List (Layer σ)) (inner : Carrier σ) : Carrier σ :=
  layers.foldr (fun layer carrier => layer.wrap carrier) inner

end Layer

end WebClient
