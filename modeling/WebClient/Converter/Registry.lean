import WebClient.Converter.Standard

/-!
# Finding converters

A factory provides converters for some declared types.  A registry asks its
factories in the order in which they were added, and its fallback last; the
first one that provides a converter of the wanted capability decides.
-/

namespace WebClient

/-- Provides converters for declared types. -/
structure ConverterFactory where
  string? : TypeName → Option StringConverter
  request? : TypeName → Option RequestConverter
  response? : TypeName → Option ResponseConverter
  shown : Dump

namespace ConverterFactory

/-- The converter that a factory provides for a type and a capability. -/
def provide? (factory : ConverterFactory) (type : TypeName) : Capability → Option Converter
  | .string => (factory.string? type).map .string
  | .requestBody => (factory.request? type).map .request
  | .responseBody => (factory.response? type).map .response

/-- Provides scalar texts and JSON bodies for every type. -/
def json : ConverterFactory where
  string? _ := some .scalar
  request? _ := some .json
  response? _ := some .json
  shown := .word "JsonConverterFactory"

/-- The type is one of texts. -/
def isTextType (type : TypeName) : Bool :=
  type.text = "String" || type.text = "&str" || type.text = "&'staticstr"

/-- Provides plain text bodies for types of texts. -/
def plainText : ConverterFactory where
  string? _ := none
  request? type := if isTextType type then some .plainText else none
  response? type := if isTextType type then some .plainText else none
  shown := .word "TextConverterFactory"

end ConverterFactory

/-- The factories that converters are looked up in. -/
structure ConverterRegistry where
  factories : List ConverterFactory
  fallback : Option ConverterFactory

namespace ConverterRegistry

/-- JSON for every type. -/
def standard : ConverterRegistry := ⟨[], some .json⟩

/-- No converters. -/
def empty : ConverterRegistry := ⟨[], none⟩

/-- Add a factory after the others, in front of the fallback. -/
def addFactory (factory : ConverterFactory) (registry : ConverterRegistry) :
    ConverterRegistry :=
  { registry with factories := registry.factories ++ [factory] }

/-- The first converter of a capability that is provided for a type. -/
def resolve (registry : ConverterRegistry) (type : TypeName) (capability : Capability) :
    Except ConfigError Converter :=
  match (registry.factories ++ registry.fallback.toList).findSome?
      (·.provide? type capability) with
  | some converter => .ok converter
  | none => .error (.of (.missingConverter type capability))

end ConverterRegistry

end WebClient
