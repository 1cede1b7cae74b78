import WebClient.Dump
import WebClient.Error

/-!
# Converters

A converter has one capability: it turns a value into a text, a value into a
body, or a body into a value.
-/

namespace WebClient

/-- A body to send, with the media type that labels it. -/
structure RequestBody where
  contentType : String
  bytes : Bytes
  deriving DecidableEq, Repr, Inhabited

/-- Turns a value into a text. -/
structure StringConverter where
  convert : Json.Value → Except Error String
  shown : Dump

/-- Turns a value into a body. -/
structure RequestConverter where
  convert : Json.Value → Except Error RequestBody
  shown : Dump

/-- Turns a body into a value of a declared type. -/
structure ResponseConverter where
  convert : Bytes → TypeName → Except Error Json.Value
  shown : Dump

/-- A converter of one capability. -/
inductive Converter where
  | string (c : StringConverter)
  | request (c : RequestConverter)
  | response (c : ResponseConverter)

namespace Converter

/-- The capability of a converter. -/
def capability : Converter → Capability
  | .string _ => .string
  | .request _ => .requestBody
  | .response _ => .responseBody

/-- The converter of values to texts, if it is one. -/
def asString? : Converter → Option StringConverter
  | .string c => some c
  | _ => none

/-- The converter of values to bodies, if it is one. -/
def asRequest? : Converter → Option RequestConverter
  | .request c => some c
  | _ => none

/-- The converter of bodies to values, if it is one. -/
def asResponse? : Converter → Option ResponseConverter
  | .response c => some c
  | _ => none

end Converter

end WebClient
