import WebClient.Client.Basic
import WebClient.Client.Config
import WebClient.Http.Header
import WebClient.Http.Uri

/-!
# Transport

The innermost carrier puts a request into the form it has on the wire and hands
it to the network.  A request that has no such form, or whose URL is none that
connections are made to, never reaches the network.
-/

namespace WebClient

/-- A request as it is sent. -/
structure WireRequest where
  method : Method
  target : Uri
  headers : List (String × String)
  body : Bytes
  deriving DecidableEq, Repr

namespace Transport

/-- The form of a request on the wire: the configured headers that it lacks, then
its own ones. -/
def prepare (config : ClientConfig) (r : Request) : Except RequestCause WireRequest := do
  let target ← (Uri.parse r.url.render).mapError .invalidUri
  let headers ← Header.allOnWire (config.missingHeaders r.headers ++ r.headers)
  return ⟨r.method, target, headers, r.body.getD []⟩

/-- Why no connection can be made for a target. -/
def refusal? (target : Uri) : Option Error :=
  match target.scheme with
  | none => some (.connection "client error (UserAbsoluteUriRequired)")
  | some scheme =>
      let scheme := Text.lower scheme
      if scheme = ['h', 't', 't', 'p'] || scheme = ['h', 't', 't', 'p', 's'] then none
      else some (.connection "client error (Connect)")

/-- Carry requests over a network. -/
def carrier {σ : Type} (config : ClientConfig)
    (network : WireRequest → Action σ (Except Error Response)) : Carrier σ := fun r =>
  match prepare config r with
  | .error cause => pure (.error (.invalidRequest cause))
  | .ok wire =>
      match refusal? wire.target with
      | some e => pure (.error e)
      | none => network wire

end Transport

end WebClient
