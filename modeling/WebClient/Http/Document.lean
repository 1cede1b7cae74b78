import WebClient.Http.Draft
import WebClient.Http.Response
import WebClient.Json.Access
import WebClient.Text.Hex

/-!
# Requests and answers as documents

Requests, answers and the parts of forms can be written down as JSON objects.
Bytes are written as the text that they are, as an object with their hexadecimal
digits, or as an object with a text and how often it is repeated.
-/

namespace WebClient

open Json (Value)

/-- The bytes that a value describes; `null` has none. -/
def Json.Value.asBytes? (v : Value) : Option Bytes :=
  match v with
  | .null => some []
  | .string s => some (Text.bytes s)
  | _ =>
      match v.text? "hex" with
      | some hex => Text.Hex.decode? hex.toList
      | none => do
          return (List.replicate (← v.nat? "n") (Text.bytes (← v.text? "repeat"))).flatten

/-- A field with bytes; an absent one has none. -/
def Json.Value.bytes? (v : Value) (name : String) : Option Bytes :=
  ((v.get? name).getD .null).asBytes?

/-- A field with names and values. -/
def Json.Value.pairs? (v : Value) (name : String) : Option (List (String × String)) :=
  v.each? Value.asPair? name

/-- The verb that a value names. -/
def Method.ofJson? (v : Value) : Option Method := v.asText?.bind Method.ofName?

/-- The kind of body that a value names. -/
def BodyKind.ofJson? (v : Value) : Option BodyKind := do
  match ← v.asText? with
  | "raw" => return .raw
  | "form" => return .form
  | "multipart" => return .multipart
  | _ => none

/-- The body that an object describes. -/
def RequestBody.ofJson? (v : Value) : Option RequestBody := do
  return ⟨← v.text? "content_type", ← v.bytes? "data"⟩

/-- The part that an object describes: by its data, or by the body that it is made
of. -/
def Part.ofJson? (v : Value) : Option Part := do
  let name ← v.text? "name"
  let part ← match v.get? "body" with
    | some body => (RequestBody.ofJson? body).map (Part.ofBody name)
    | none => (v.bytes? "data").map fun data => (⟨name, none, none, data⟩ : Part)
  return { part with
    filename := (v.text? "filename").or part.filename
    contentType := (v.text? "content_type").or part.contentType }

/-- What becomes of the step that an object describes, and the request in the making after it;
a form that is begun has the given boundary. -/
def Draft.step? (boundary : String) (d : Draft) (v : Value) :
    Option (Except Error Unit × Draft) := do
  let name := v.text? "name"
  let value := v.text? "value"
  match ← v.text? "do" with
  | "path_param" => return (.ok (), d.bindPath (← name) (← value))
  | "url" => return (.ok (), d.withTarget (← v.text? "url"))
  | "query" => return (.ok (), d.addQuery (← name) value)
  | "header" => return (.ok (), d.addHeader (← name) (← value))
  | "field" => return d.addField (← name) (← value)
  | "part" => return d.addPart (← Part.ofJson? v)
  | "body" => return d.setBody (← RequestBody.ofJson? v)
  | "body_kind" =>
      return (.ok (), d.withBodyKind ((v.get? "body_kind").bind BodyKind.ofJson?) boundary)
  | _ => none

/-- The answer that an object describes. -/
def Response.ofJson? (v : Value) : Option Response := do
  return Response.ofPairs (← v.nat? "status") (← v.pairs? "headers") (← v.bytes? "body")

/-- The failure of a kind with the details that an object gives. -/
def Error.ofJson? (kind : String) (v : Value) : Option Error :=
  let text := (v.text? "text").getD ""
  match kind with
  | "Conversion" => some (.conversion (.other text))
  | "Connection" => some (.connection text)
  | "Tls" => some (.tls text)
  | "Timeout" => some .timeout
  | "InvalidRequest" => some (.invalidRequest (.other text))
  | "Http" => some (.http ((v.nat? "status").getD 0) text none)
  | _ => none

/-- The outcome that an object describes: a failure, or what is read from it. -/
def outcome? {α : Type} (read : Value → Option α) (v : Value) : Option (Except Error α) :=
  match v.text? "fail" with
  | some kind => (Error.ofJson? kind v).map .error
  | none => (read v).map .ok

/-- The request that an object describes; a text that is no URL is an error. -/
def Request.ofJson? (v : Value) : Option (Except Error Request) := do
  let method ← (v.get? "method").bind Method.ofJson?
  let headers ← v.pairs? "headers"
  let body ← v.optional? Value.asBytes? "body"
  let url := Url.parse? (← v.text? "url")
  return (url.mapError .invalidUrl).map fun url => ⟨method, url, headers, body⟩

end WebClient
