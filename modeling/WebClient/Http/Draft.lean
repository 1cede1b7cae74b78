import WebClient.Http.Multipart
import WebClient.Http.Request
import WebClient.Template
import WebClient.Url.Parser

/-!
# Drafts of requests

A draft collects what the arguments of a call contribute and becomes a request
at the end.  The texts it is given are percent-encoded already; a draft only
puts them in their places.
-/

namespace WebClient

/-- The body of a draft so far. -/
inductive DraftBody where
  | none
  | form (fields : List (String × String))
  | multipart (form : Form)
  | raw (body : Option RequestBody)
  deriving DecidableEq, Repr

/-- A request in the making. -/
structure Draft where
  method : Method
  base : Url
  path : List Char
  /-- The URL that takes the place of the path. -/
  target : Option String
  query : List (String × Option String)
  headers : List (String × String)
  body : DraftBody
  deriving Repr

namespace Draft

/-- A draft that nothing has been added to. -/
def start (method : Method) (base : Url) (template : Template) : Draft :=
  ⟨method, base, template.text.toList, none, [], [], .none⟩

/-- The empty body of a kind; a multipart body has the given boundary. -/
def emptyBody (boundary : String) : Option BodyKind → DraftBody
  | none => .none
  | some .form => .form []
  | some .multipart => .multipart (.withBoundary boundary)
  | some .raw => .raw none

/-- Start the body over, as one of a kind. -/
def withBodyKind (kind : Option BodyKind) (boundary : String) (d : Draft) : Draft :=
  { d with body := emptyBody boundary kind }

/-- Put a value in the place of a name of the path. -/
def bindPath (name value : String) (d : Draft) : Draft :=
  { d with path := Text.replaceAll (Template.token name) value.toList d.path }

/-- Replace the path by a URL. -/
def withTarget (url : String) (d : Draft) : Draft := { d with target := some url }

/-- Add an item of the query, which may be a bare name. -/
def addQuery (name : String) (value : Option String) (d : Draft) : Draft :=
  { d with query := d.query ++ [(name, value)] }

/-- Add a header. -/
def addHeader (name value : String) (d : Draft) : Draft :=
  { d with headers := d.headers ++ [(name, value)] }

/-- Add a field of a form, unless the body is none. -/
def addField (name value : String) (d : Draft) : Except Error Unit × Draft :=
  match d.body with
  | .form fields => (.ok (), { d with body := .form (fields ++ [(name, value)]) })
  | _ => (.error (.invalidRequest .fieldOutsideForm), d)

/-- Add a part of a multipart form, unless the body is none. -/
def addPart (part : Part) (d : Draft) : Except Error Unit × Draft :=
  match d.body with
  | .multipart form => (.ok (), { d with body := .multipart (form.push part) })
  | _ => (.error (.invalidRequest .partOutsideMultipart), d)

/-- Take a body as it is, unless the body is a form. -/
def setBody (body : RequestBody) (d : Draft) : Except Error Unit × Draft :=
  match d.body with
  | .none | .raw _ => (.ok (), { d with body := .raw (some body) })
  | _ => (.error (.invalidRequest .bodyBesideFields), d)

/-- A name and a value, with an equals sign between them. -/
def renderPair (pair : String × String) : List Char :=
  pair.1.toList ++ '=' :: pair.2.toList

/-- An item of the query. -/
def renderQueryItem : String × Option String → List Char
  | (name, some value) => renderPair (name, value)
  | (name, none) => name.toList

/-- Append items to the query of a URL. -/
def appendQuery (items : List (String × Option String)) (url : Url) : Url :=
  if items.isEmpty then url
  else
    let added := Text.join ['&'] (items.map renderQueryItem)
    match url.query with
    | some old =>
        if old.isEmpty then url.setQuery added
        else url.setQuery (old.toList ++ '&' :: added)
    | none => url.setQuery added

/-- The body of the request, if it has one. -/
def finishBody : DraftBody → Option RequestBody
  | .none => none
  | .raw body => body
  | .form fields =>
      some ⟨MediaType.form.text, Text.Utf8.encode (Text.join ['&'] (fields.map renderPair))⟩
  | .multipart form => some form.toBody

/-- The headers, with the media type of the body unless one is given already. -/
def finishHeaders (headers : List (String × String)) (body : Option RequestBody) :
    List (String × String) :=
  match body with
  | none => headers
  | some body =>
      if headers.any fun (name, _) => Text.sameIgnoringCase name "content-type" then headers
      else headers ++ [("Content-Type", body.contentType)]

/-- The URL that the path or its replacement leads to. -/
def resolveTarget (d : Draft) : Except Error Url :=
  (d.base.join? ((d.target.map String.toList).getD d.path)).mapError .invalidUrl

/-- The request that a draft describes. -/
def build (d : Draft) : Except Error Request := do
  let url ← d.resolveTarget
  let body := finishBody d.body
  return {
    method := d.method
    url := appendQuery d.query url
    headers := finishHeaders d.headers body
    body := body.map RequestBody.bytes }

end Draft

end WebClient
