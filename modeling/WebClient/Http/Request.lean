import WebClient.Http.Method
import WebClient.Text.Ascii
import WebClient.Url.Basic

/-!
# Requests

A request has a verb, a URL, headers in the order in which they were added, and
a body or none.
-/

namespace WebClient

/-- A request to send. -/
structure Request where
  method : Method
  url : Url
  headers : List (String × String)
  body : Option Bytes
  deriving DecidableEq, Repr

namespace Request

/-- The value of the first header of a name, whatever its ASCII case. -/
def header? (r : Request) (name : String) : Option String :=
  (r.headers.find? fun (key, _) => Text.sameIgnoringCase key name).map Prod.snd

/-- Add a header at the end. -/
def addHeader (name value : String) (r : Request) : Request :=
  { r with headers := r.headers ++ [(name, value)] }

end Request

end WebClient
