/-!
# Kinds of content

The media types that this library writes itself, and the three kinds of body a
request can have.
-/

namespace WebClient

/-- A media type that bodies are labelled with. -/
inductive MediaType where
  | json
  | form
  | plainText
  | octets
  deriving DecidableEq, Repr

/-- The text of a media type, as it stands in a header. -/
def MediaType.text : MediaType → String
  | .json => "application/json"
  | .form => "application/x-www-form-urlencoded"
  | .plainText => "text/plain; charset=utf-8"
  | .octets => "application/octet-stream"

/-- The kind of body of a request. -/
inductive BodyKind where
  | raw
  | form
  | multipart
  deriving DecidableEq, Repr, Inhabited

/-- The wording of a kind of body. -/
def BodyKind.text : BodyKind → String
  | .raw => "raw body"
  | .form => "form-url-encoded body"
  | .multipart => "multipart body"

/-- The name of a kind of body as a word. -/
def BodyKind.title : BodyKind → String
  | .raw => "Raw"
  | .form => "FormUrlEncoded"
  | .multipart => "Multipart"

end WebClient
