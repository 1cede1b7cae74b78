import WebClient.Client.Config
import WebClient.Service.Declaration
import WebClient.Service.Emitter
import WebClient.Text.Hex

/-!
# Views

Requests, answers, errors, methods and the journal as JSON values, for tools
that look at them.
-/

namespace WebClient.View

open Json (Value)

/-- An object. -/
def object (fields : List (String × Value)) : Value := .object fields

/-- A text. -/
def text (s : String) : Value := .string s

/-- A natural number. -/
def nat (n : Nat) : Value := .int n

/-- The view of something that may be absent. -/
def option {α : Type} (f : α → Value) : Option α → Value
  | some a => f a
  | none => .null

/-- The views of several things. -/
def list {α : Type} (f : α → Value) (items : List α) : Value := .array (items.map f)

/-- Bytes, as text where they are UTF-8 and in hexadecimal otherwise. -/
def bytes (b : Bytes) : Value :=
  match Text.ofBytes b with
  | .ok s => object [("utf8", text s)]
  | .error _ => object [("hex", text (Text.Hex.encode b))]

/-- Two texts. -/
def pair (p : String × String) : Value := .array [text p.1, text p.2]

/-- The kind and the places of a configuration error. -/
def configFields (e : ConfigError) : List (String × Value) :=
  [("kind", text e.cause.title), ("service", option text e.service),
    ("method", option text e.method), ("parameter", option nat e.parameter)]

/-- A configuration error. -/
def configError (e : ConfigError) : Value :=
  object ([("error", text "ConfigError"), ("message", text e.message)] ++ configFields e)

/-- An error. -/
def error (e : Error) : Value :=
  object ([("error", text e.title), ("message", text e.message)] ++
    match e with
    | .configuration c => configFields c
    | .http status _ body => [("status", nat status), ("body", option bytes body)]
    | _ => [])

/-- A result or its error. -/
def result {ε α : Type} (onError : ε → Value) (f : α → Value) : Except ε α → Value
  | .ok a => object [("ok", f a)]
  | .error e => onError e

/-- A body with its media type. -/
def requestBody (b : RequestBody) : Value :=
  object [("content_type", text b.contentType), ("body", bytes b.bytes)]

/-- A part of a form. -/
def part (p : Part) : Value :=
  object [("name", text p.name), ("filename", option text p.filename),
    ("content_type", option text p.contentType), ("data", bytes p.data)]

/-- A request. -/
def request (r : Request) : Value :=
  object [("method", text r.method.name), ("url", text r.url.text),
    ("headers", list pair r.headers), ("body", option bytes r.body)]

/-- The order of headers by name and value. -/
def headerBefore (a b : String × String) : Bool :=
  Json.bytesBefore a.1 b.1 || (a.1 == b.1 && !Json.bytesBefore b.2 a.2)

/-- An answer, with its headers sorted. -/
def response (r : Response) : Value :=
  object [("status", nat r.status), ("headers", list pair (r.headers.mergeSort headerBefore)),
    ("body", bytes r.body)]

/-- A method of a service. -/
def method (m : ServiceMethod) : Value :=
  object [("service", text m.service), ("name", text m.name), ("method", text m.method.name),
    ("path", text m.path.text), ("headers", list pair m.headers),
    ("body_kind", option (fun kind => text (BodyKind.text kind)) m.bodyKind),
    ("arity", nat m.arity), ("roles", list (fun p => text (Parameter.role p).text) m.parameters),
    ("response_type", text m.responseType.text), ("async", .bool m.asynchronous),
    ("listing", text m.listing)]

/-- Directives by their variants. -/
def directives (items : List Directive) : Value := list (fun d => text (Directive.variant d)) items

/-- A declared parameter. -/
def parameterDeclaration (p : ParameterDeclaration) : Value :=
  .array [text p.name, text p.type.text, directives p.directives]

/-- A declared method. -/
def methodDeclaration (m : MethodDeclaration) : Value :=
  object [("name", text m.name), ("annotations", directives m.directives),
    ("parameters", list parameterDeclaration m.parameters), ("returns", text m.returns.text)]

/-- A declared service. -/
def declaration (d : ServiceDeclaration) : Value :=
  object [("name", text d.name), ("methods", list methodDeclaration d.methods)]

/-- The value of a field of an entry of the journal. -/
def fieldValue : FieldValue → Value
  | .text s => text s
  | .number n => nat n
  | .truth b => .bool b

/-- An entry of the journal. -/
def event (e : Event) : Value :=
  object [("level", text e.level.text), ("message", text e.message),
    ("fields", object (e.fields.map fun (name, value) => (name, fieldValue value)))]

/-- The configuration of a client. -/
def clientConfig (c : ClientConfig) : Value :=
  object [("timeout_ms", nat c.timeout), ("connect_timeout_ms", nat c.connectTimeout),
    ("pool_idle_per_host", nat c.poolIdlePerHost),
    ("pool_idle_timeout_ms", nat c.poolIdleTimeout), ("user_agent", option text c.userAgent),
    ("default_headers", list pair c.defaultHeaders)]

end WebClient.View
