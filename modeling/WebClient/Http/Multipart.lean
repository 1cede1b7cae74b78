import WebClient.Converter.Basic
import WebClient.Text.Ascii

/-!
# Multipart forms

A form is a list of named parts and a boundary.  Its body writes the parts one
after the other, each behind a delimiter line and its own header lines, and
closes with a delimiter of its own; the data of a part is written as it is.
-/

namespace WebClient

/-- One part of a multipart form. -/
structure Part where
  name : String
  filename : Option String
  contentType : Option String
  data : Bytes
  deriving DecidableEq, Repr, Inhabited

/-- The part of a name that carries a body. -/
def Part.ofBody (name : String) (body : RequestBody) : Part :=
  ⟨name, none, some body.contentType, body.bytes⟩

/-- A multipart form. -/
structure Form where
  boundary : String
  parts : List Part
  deriving DecidableEq, Repr, Inhabited

namespace Form

/-- A form without parts. -/
def withBoundary (boundary : String) : Form := ⟨boundary, []⟩

/-- The boundary of the form that is made at a time, with a serial number that
tells the forms of one time apart. -/
def freshBoundary (time serial : Nat) : String :=
  String.ofList ("----RivetBoundary".toList ++ Text.hexNumeral time ++ Text.hexNumeral serial)

/-- Add a part at the end. -/
def push (part : Part) (form : Form) : Form := { form with parts := form.parts ++ [part] }

/-- The media type of the form, with its boundary. -/
def contentType (form : Form) : String :=
  s!"multipart/form-data; boundary={form.boundary}"

/-- The end of a line. -/
def lineEnd : Bytes := [0x0d, 0x0a]

/-- The two dashes of a delimiter. -/
def dashes : Bytes := [0x2d, 0x2d]

/-- A text in quotes, in which nothing is escaped. -/
def quote (text : String) : Bytes := 0x22 :: Text.bytes text ++ [0x22]

/-- The header lines of a part, with their line ends. -/
def partHeaders (part : Part) : Bytes :=
  Text.bytes "Content-Disposition: form-data; name=" ++ quote part.name ++
    (match part.filename with
      | some filename => Text.bytes "; filename=" ++ quote filename
      | none => []) ++
    lineEnd ++
    (match part.contentType with
      | some contentType => Text.bytes "Content-Type: " ++ Text.bytes contentType ++ lineEnd
      | none => [])

/-- One part as it stands in the body. -/
def partBytes (boundary : String) (part : Part) : Bytes :=
  dashes ++ Text.bytes boundary ++ lineEnd ++ partHeaders part ++ lineEnd ++ part.data ++ lineEnd

/-- The body of a form. -/
def bytes (form : Form) : Bytes :=
  form.parts.flatMap (partBytes form.boundary) ++
    dashes ++ Text.bytes form.boundary ++ dashes ++ lineEnd

/-- The form as a body to send. -/
def toBody (form : Form) : RequestBody := ⟨form.contentType, form.bytes⟩

end Form

end WebClient
