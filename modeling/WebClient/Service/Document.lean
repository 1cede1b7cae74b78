import WebClient.Http.Document
import WebClient.Service.Declaration

/-!
# Declarations as documents

A declared service can be written down as a JSON object: its name and methods,
each with its directives, its parameters and the type of its answer.
-/

namespace WebClient

open Json (Value)

/-- The capability that a value names. -/
def Capability.ofJson? (v : Value) : Option Capability := do
  match ← v.asText? with
  | "string" => return .string
  | "request" => return .requestBody
  | "response" => return .responseBody
  | _ => none

/-- The target that a value names. -/
def Target.ofJson? (v : Value) : Option Target := do
  match ← v.asText? with
  | "method" => return .method
  | "parameter" => return .parameter
  | _ => none

/-- The directive that an object describes. -/
def Directive.ofJson? (v : Value) : Option Directive := do
  let name := v.text? "name"
  let encoded := v.flag "encoded"
  match ← v.text? "a" with
  | "Http" => return .http (← (v.get? "method").bind Method.ofJson?) ⟨← v.text? "path"⟩
  | "Headers" => return .headers (← v.each? Value.asText? "lines")
  | "Async" => return .asynchronous
  | "Path" => return .path (← name) encoded
  | "Url" => return .url
  | "Query" => return .query (← name) encoded
  | "QueryMap" => return .queryMap encoded
  | "QueryName" => return .queryName encoded
  | "Header" => return .header (← name)
  | "HeaderMap" => return .headerMap
  | "Field" => return .field (← name) encoded
  | "FieldMap" => return .fieldMap encoded
  | "Part" => return .part (← name)
  | "PartMap" => return .partMap
  | "Body" => return .body
  | "Custom" =>
      let encodable := if v.get? "encoded" matches some (.bool _) then some encoded else none
      return .custom ⟨← v.text? "variant", ← (v.get? "target").bind Target.ofJson?,
        ← v.optional? Capability.ofJson? "capability", encodable⟩
  | "Bare" =>
      return .custom ⟨← v.text? "variant", ← (v.get? "target").bind Target.ofJson?, none, none⟩
  | _ => none

/-- The parameter that an object describes. -/
def ParameterDeclaration.ofJson? (v : Value) : Option ParameterDeclaration := do
  return ⟨← v.text? "name", TypeName.ofText (← v.text? "type"),
    ← v.each? Directive.ofJson? "annotations"⟩

/-- The method that an object describes; without a type, it answers nothing. -/
def MethodDeclaration.ofJson? (v : Value) : Option MethodDeclaration := do
  let returns ← v.optional? Value.asText? "returns"
  return ⟨← v.text? "name", ← v.each? Directive.ofJson? "annotations",
    ← v.each? ParameterDeclaration.ofJson? "parameters",
    (returns.map TypeName.ofText).getD TypeName.unit⟩

/-- The service that an object describes. -/
def ServiceDeclaration.ofJson? (v : Value) : Option ServiceDeclaration := do
  return ⟨← v.text? "name", ← v.each? MethodDeclaration.ofJson? "methods"⟩

end WebClient
