import WebClient.Service.Client
import WebClient.Proofs.Outcome

/-!
# What a call does

Both ways to call a method do the same once the answer of a deferred call is waited for:
they refuse before anything is handed over, or they make one request, hand it over once,
and answer with what becomes of the one answer (`ServiceClient.call_eq`,
`ServiceClient.callAndWait_eq`).
-/

namespace WebClient

variable {σ α : Type}

/-- Hand a request over and wait for its answer. -/
def HttpClient.exchange (client : HttpClient σ) (request : Request) :
    Action σ (Except Error Response) := do
  let answer ← client.execute request
  answer

namespace ServiceMethod

variable (m : ServiceMethod) (decode : Json.Value → Except Error α)

/-- What a call answers with when its request is answered. -/
def settle (answer : Except Error Response) : Except Error α :=
  (answer.bind m.decode).bind decode

/-- Report a request of a method, hand it over and settle the call. -/
def perform (client : HttpClient σ) (request : Request) : Action σ (Except Error α) := do
  Action.report [m.callEvent request]
  let answer ← client.exchange request
  return m.settle decode answer

/-- Make the request of a call, hand it over and wait for the value. -/
def invokeAndWait (boundary : String) (base : Url) (client : HttpClient σ)
    (arguments : List Json.Value) : Action σ (Except Error α) := do
  match ← m.invoke boundary base client arguments with
  | .error e => return .error e
  | .ok answer => return (← answer.wait).bind decode

theorem invokeAndWait_eq (boundary : String) (base : Url) (client : HttpClient σ)
    (arguments : List Json.Value) :
    m.invokeAndWait decode boundary base client arguments =
      match m.buildRequest boundary base arguments with
      | .error e => pure (.error e)
      | .ok request => m.perform decode client request := by
  rw [invokeAndWait, invoke]
  cases m.buildRequest boundary base arguments with
  | error e => rfl
  | ok request =>
      simp only [perform, HttpClient.exchange, bind_assoc, pure_bind]
      -- What is left to compare are the two ways to treat the answer.
      congr 1
      funext _
      congr 1
      funext answer
      congr 1
      funext result
      cases result <;> rfl

end ServiceMethod

namespace ServiceClient

/-- A method is reached through its own entry point only. -/
theorem lookup_of_method? {s : ServiceClient σ} {name : String} {m : ServiceMethod}
    (h : s.method? name = some m) (asynchronous : Bool) :
    s.lookup name asynchronous =
      if m.asynchronous = asynchronous then .ok m
      else .error (.invalidRequest
        (if m.asynchronous then .mustDefer s.name name else .mustCall s.name name)) := by
  rw [lookup, h]
  cases hmode : m.asynchronous <;> cases asynchronous <;> simp [hmode]

theorem lookup_eq_ok {s : ServiceClient σ} {name : String} {asynchronous : Bool}
    {m : ServiceMethod} :
    s.lookup name asynchronous = .ok m ↔
      s.method? name = some m ∧ m.asynchronous = asynchronous := by
  cases hmethod : s.method? name with
  | none => simp [lookup, hmethod]
  | some found =>
      rw [lookup_of_method? hmethod, Option.some.injEq]
      by_cases hmode : found.asynchronous = asynchronous
      · rw [if_pos hmode, Except.ok.injEq]
        exact ⟨fun h => ⟨h, h ▸ hmode⟩, And.left⟩
      · rw [if_neg hmode]
        constructor
        · intro h
          cases h
        · rintro ⟨rfl, hsame⟩
          exact absurd hsame hmode

variable (s : ServiceClient σ) (decode : Json.Value → Except Error α) (boundary name : String)
  (arguments : List Json.Value)

/-- The method that a call reaches in one of the two ways, with the request of the call. -/
def prepare (asynchronous : Bool) : Except Error (ServiceMethod × Request) := do
  let m ← s.lookup name asynchronous
  let request ← m.buildRequest boundary s.base arguments
  return (m, request)

/-- Refuse a call that could not be prepared, and perform any other one. -/
def complete (prepared : Except Error (ServiceMethod × Request)) : Action σ (Except Error α) :=
  match prepared with
  | .error e => pure (.error e)
  | .ok (m, request) => m.perform decode s.client request

/-- Call a method that answers later and wait for the answer. -/
def callAndWait : Action σ (Except Error α) := do
  match ← s.callDeferred decode boundary name arguments with
  | .error e => return .error e
  | .ok deferred => deferred.wait

theorem complete_prepare (asynchronous : Bool) :
    s.complete decode (s.prepare boundary name arguments asynchronous) =
      match s.lookup name asynchronous with
      | .error e => pure (.error e)
      | .ok m => m.invokeAndWait decode boundary s.base s.client arguments := by
  rw [prepare]
  cases s.lookup name asynchronous with
  | error e => rfl
  | ok m =>
      dsimp only
      rw [m.invokeAndWait_eq]
      cases hbuild : m.buildRequest boundary s.base arguments with
      | error e => rw [Outcome.bind_of_ok rfl, Outcome.bind_of_error hbuild, complete]
      | ok request =>
          rw [Outcome.bind_of_ok rfl, Outcome.bind_of_ok hbuild]
          rfl

/-- A call is refused, or it hands its request over and settles with the answer. -/
theorem call_eq :
    s.call decode boundary name arguments =
      s.complete decode (s.prepare boundary name arguments false) :=
  (s.complete_prepare decode boundary name arguments false).symm

/-- A deferred call that is waited for does what a call does. -/
theorem callAndWait_eq :
    s.callAndWait decode boundary name arguments =
      s.complete decode (s.prepare boundary name arguments true) := by
  rw [complete_prepare, callAndWait, callDeferred]
  cases s.lookup name true with
  | error e => rfl
  | ok m =>
      dsimp only
      rw [bind_assoc, ServiceMethod.invokeAndWait]
      congr 1
      funext invoked
      cases invoked <;> rfl

theorem call_of_lookup {m : ServiceMethod} (h : s.lookup name false = .ok m) :
    s.call decode boundary name arguments =
      m.invokeAndWait decode boundary s.base s.client arguments := by
  rw [call_eq, complete_prepare, h]

theorem callAndWait_of_lookup {m : ServiceMethod} (h : s.lookup name true = .ok m) :
    s.callAndWait decode boundary name arguments =
      m.invokeAndWait decode boundary s.base s.client arguments := by
  rw [callAndWait_eq, complete_prepare, h]

end ServiceClient

end WebClient
