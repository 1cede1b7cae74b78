import WebClient.Converter.Basic
import WebClient.Json.Schema

/-!
# Standard converters

Scalars as texts, JSON bodies, and plain text bodies.
-/

namespace WebClient

/-- The text of a value: a string stands for itself, nothing is the empty text,
and every other value is its JSON text. -/
def scalarText : Json.Value → String
  | .string s => s
  | .null => ""
  | value => value.text

/-- Turns values into their scalar texts. -/
def StringConverter.scalar : StringConverter where
  convert value := .ok (scalarText value)
  shown := .word "ScalarStringConverter"

/-- The body of a value as JSON. -/
def RequestConverter.json : RequestConverter where
  convert value := .ok ⟨MediaType.json.text, value.bytes⟩
  shown := .word "JsonConverter"

/-- The body of a value as plain text. -/
def RequestConverter.plainText : RequestConverter where
  convert value := .ok ⟨MediaType.plainText.text, Text.bytes (scalarText value)⟩
  shown := .word "TextConverter"

/-- The byte is an ASCII blank. -/
def isBlankByte (b : UInt8) : Bool :=
  b = 0x20 || b = 0x09 || b = 0x0a || b = 0x0c || b = 0x0d

/-- Decode bytes that start with a JSON text of a shape. -/
def Json.Schema.decodeBytes (schema : Json.Schema) (body : Bytes) : Except Error Json.Value :=
  (schema.ofBytes body).mapError (Error.ofJsonText body)

/-- Decode a value of a shape. -/
def Json.Schema.decodeValue (schema : Json.Schema) (value : Json.Value) :
    Except Error Json.Value :=
  (schema.decode value).mapError Error.ofJsonValue

/-- The value of a JSON body; a blank body is nothing. -/
def ResponseConverter.json : ResponseConverter where
  convert body _ :=
    if body.all isBlankByte then .ok .null else Json.Schema.any.decodeBytes body
  shown := .word "JsonConverter"

/-- The text of a body. -/
def ResponseConverter.plainText : ResponseConverter where
  convert body target :=
    match Text.ofBytes body with
    | .ok s => .ok (.string s)
    | .error fault => .error (.conversion (.notUtf8 target fault))
  shown := .word "TextConverter"

end WebClient
