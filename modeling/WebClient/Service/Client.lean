import WebClient.Client.Basic
import WebClient.Client.Deferred
import WebClient.Service.Definition

/-!
# Clients of a service

A client of a service calls its methods by name.  A method that answers at once
is called with `call`, one that answers later with `callDeferred`; both make the
request, hand it over and decode the answer, and differ only in when the answer
is waited for.
-/

namespace WebClient

/-- The report of a call that is handed over. -/
def ServiceMethod.callEvent (m : ServiceMethod) (r : Request) : Event where
  level := .trace
  message := "dispatching call"
  fields := [("service", .text m.service), ("method", .text m.name),
    ("http_method", .text r.method.name), ("url", .text r.url.text)]

/-- Make the request of a call and hand it over; what comes back is the value of
the answer, to be waited for. -/
def ServiceMethod.invoke {σ : Type} (m : ServiceMethod) (boundary : String) (base : Url)
    (client : HttpClient σ) (arguments : List Json.Value) :
    Action σ (Except Error (Deferred σ Json.Value)) :=
  match m.buildRequest boundary base arguments with
  | .error e => pure (.error e)
  | .ok request => do
      Action.report [m.callEvent request]
      let answer ← client.execute request
      return .ok ⟨do
        match ← answer with
        | .ok response => return m.decode response
        | .error e => return .error e⟩

/-- A client of a service. -/
structure ServiceClient (σ : Type) where
  name : String
  base : Url
  client : HttpClient σ
  methods : List ServiceMethod

namespace ServiceClient

variable {σ α : Type}

/-- The first method of a name. -/
def method? (s : ServiceClient σ) (name : String) : Option ServiceMethod :=
  s.methods.find? fun m => m.name = name

/-- The method of a name that answers in the wanted way. -/
def lookup (s : ServiceClient σ) (name : String) (asynchronous : Bool) :
    Except Error ServiceMethod :=
  match s.method? name with
  | none => .error (.invalidRequest (.unknownMethod s.name name))
  | some m =>
      match m.asynchronous, asynchronous with
      | true, false => .error (.invalidRequest (.mustDefer s.name name))
      | false, true => .error (.invalidRequest (.mustCall s.name name))
      | _, _ => .ok m

/-- Call a method that answers later. -/
def callDeferred (s : ServiceClient σ) (decode : Json.Value → Except Error α)
    (boundary name : String) (arguments : List Json.Value) :
    Action σ (Except Error (Deferred σ α)) :=
  match s.lookup name true with
  | .error e => pure (.error e)
  | .ok m => do
      match ← m.invoke boundary s.base s.client arguments with
      | .error e => return .error e
      | .ok answer => return .ok ⟨do return (← answer.wait).bind decode⟩

/-- Call a method that answers at once. -/
def call (s : ServiceClient σ) (decode : Json.Value → Except Error α)
    (boundary name : String) (arguments : List Json.Value) : Action σ (Except Error α) :=
  match s.lookup name false with
  | .error e => pure (.error e)
  | .ok m => do
      match ← m.invoke boundary s.base s.client arguments with
      | .error e => return .error e
      | .ok answer => return (← answer.wait).bind decode

/-- The parts of a client that are shown. -/
def shown (s : ServiceClient σ) : Dump :=
  .record "GeneratedService"
    [("name", .text s.name), ("base_url", .text s.base.text),
      ("methods", .nat s.methods.length)]
    false

end ServiceClient

end WebClient
