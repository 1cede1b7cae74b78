import WebClient.Error
import WebClient.Text.Ascii

/-!
# Responses

An answer has a status, headers and a body.  Headers are a table: the last value
given for a name is the one that stands.
-/

namespace WebClient

/-- An answer to a request. -/
structure Response where
  status : Nat
  headers : List (String × String)
  body : Bytes
  deriving DecidableEq, Repr, Inhabited

namespace Response

/-- Set a header of a table: a known name takes the new value. -/
def setHeader (name value : String) :
    List (String × String) → List (String × String)
  | [] => [(name, value)]
  | (key, old) :: rest =>
      if key = name then (key, value) :: rest
      else (key, old) :: setHeader name value rest

/-- The answer with the headers of a list, of which later ones win. -/
def ofPairs (status : Nat) (pairs : List (String × String)) (body : Bytes) : Response :=
  ⟨status, pairs.foldl (fun table (name, value) => setHeader name value table) [], body⟩

/-- The header of a name; names are kept in small letters. -/
def header? (r : Response) (name : String) : Option String :=
  r.headers.lookup (String.ofList (Text.lower name.toList))

/-- The status reports success. -/
def isSuccess (r : Response) : Bool := 200 ≤ r.status && r.status < 300

/-- The reason that goes with a status outside the successes. -/
def reason? : Nat → Option String
  | 100 => some "Continue"
  | 101 => some "Switching Protocols"
  | 102 => some "Processing"
  | 103 => some "Early Hints"
  | 300 => some "Multiple Choices"
  | 301 => some "Moved Permanently"
  | 302 => some "Found"
  | 303 => some "See Other"
  | 304 => some "Not Modified"
  | 305 => some "Use Proxy"
  | 307 => some "Temporary Redirect"
  | 308 => some "Permanent Redirect"
  | 400 => some "Bad Request"
  | 401 => some "Unauthorized"
  | 402 => some "Payment Required"
  | 403 => some "Forbidden"
  | 404 => some "Not Found"
  | 405 => some "Method Not Allowed"
  | 406 => some "Not Acceptable"
  | 407 => some "Proxy Authentication Required"
  | 408 => some "Request Timeout"
  | 409 => some "Conflict"
  | 410 => some "Gone"
  | 411 => some "Length Required"
  | 412 => some "Precondition Failed"
  | 413 => some "Payload Too Large"
  | 414 => some "URI Too Long"
  | 415 => some "Unsupported Media Type"
  | 416 => some "Range Not Satisfiable"
  | 417 => some "Expectation Failed"
  | 418 => some "I'm a teapot"
  | 421 => some "Misdirected Request"
  | 422 => some "Unprocessable Entity"
  | 423 => some "Locked"
  | 424 => some "Failed Dependency"
  | 425 => some "Too Early"
  | 426 => some "Upgrade Required"
  | 428 => some "Precondition Required"
  | 429 => some "Too Many Requests"
  | 431 => some "Request Header Fields Too Large"
  | 451 => some "Unavailable For Legal Reasons"
  | 500 => some "Internal Server Error"
  | 501 => some "Not Implemented"
  | 502 => some "Bad Gateway"
  | 503 => some "Service Unavailable"
  | 504 => some "Gateway Timeout"
  | 505 => some "HTTP Version Not Supported"
  | 506 => some "Variant Also Negotiates"
  | 507 => some "Insufficient Storage"
  | 508 => some "Loop Detected"
  | 510 => some "Not Extended"
  | 511 => some "Network Authentication Required"
  | _ => none

/-- The answer itself if it reports success, and its status, reason and body as
an error otherwise. -/
def errorForStatus (r : Response) : Except Error Response :=
  if r.isSuccess then .ok r
  else .error (.http r.status ((reason? r.status).getD "Unknown Status") (some r.body))

end Response

end WebClient
