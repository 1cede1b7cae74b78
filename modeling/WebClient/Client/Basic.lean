import WebClient.Http.Request
import WebClient.Http.Response
import WebClient.Session

/-!
# Clients

A client carries requests in two steps.  Handing a request over may act at once;
what comes back is an answer that is waited for, which may act too.
-/

namespace WebClient

/-- Carries a request and answers it. -/
abbrev Carrier (σ : Type) := Request → Action σ (Except Error Response)

/-- Carries requests; the answer is waited for in a second step. -/
structure HttpClient (σ : Type) where
  execute : Request → Action σ (Action σ (Except Error Response))

namespace HttpClient

/-- The client that does nothing before its answer is waited for. -/
def ofCarrier {σ : Type} (carrier : Carrier σ) : HttpClient σ where
  execute request := pure (carrier request)

end HttpClient

end WebClient
