import WebClient.Directive.Basic
import WebClient.Interface.Options
import WebClient.Source.Grammar
import WebClient.Text.Blank

/-!
# Markers

Attributes of methods and parameters that mean directives.  An attribute may also
hold an expression that is a directive of its own making.
-/

namespace WebClient

open Source (Attribute Token)

/-- A directive, or an expression that is one. -/
inductive Marker where
  | directive (d : Directive)
  | written (expression : List Token)
  deriving Repr

namespace Marker

/-- The directive of a marker. -/
def directive? : Marker → Option Directive
  | .directive d => some d
  | .written _ => none

/-- The expression in the brackets of an attribute. -/
def ofExpression (a : Attribute) : Except InterfaceError Marker :=
  match a.form with
  | .list _ content =>
      match Source.expression? content with
      | some expression => .ok (.written expression)
      | none => .error .malformed
  | _ => .error .malformed

/-! ## Attributes of methods -/

/-- The verb that an attribute is named after. -/
def verb? (a : Attribute) : Option Method :=
  Method.all.find? fun m => a.isNamed (String.ofList (Text.lower m.name.toList))

/-- The verb and the path of a route, with a blank between them. -/
def ofRoute (route : String) : Except InterfaceError Directive :=
  match Text.splitOnce? (· = ' ') route.toList with
  | none => .error .routeFormat
  | some (verb, path) =>
      match Method.ofName? (String.ofList verb) with
      | none => .error (.unknownVerb (String.ofList verb))
      | some method => .ok (.http method ⟨Text.trim (String.ofList path)⟩)

/-- The marker of an attribute of a method, if the attribute is one. -/
def ofMethodAttribute (a : Attribute) : Except InterfaceError (Option Marker) := do
  match verb? a with
  | some method => return some (.directive (.http method ⟨← a.soleText⟩))
  | none =>
      if a.isNamed "http" then
        let route ← a.soleText
        return some (.directive (← ofRoute route))
      else if a.isNamed "headers" then return some (.directive (.headers (← a.texts)))
      else if a.isNamed "asynchronous" then
        a.checkBare
        return some (.directive .asynchronous)
      else if a.isNamed "annotation" then return some (← ofExpression a)
      else return none

/-! ## Attributes of parameters -/

/-- The attributes that markers of parameters are named by. -/
def parameterAttributes : List String := [
  "path", "url", "query", "query_map", "query_name", "header", "header_map", "field",
  "field_map", "part", "part_map", "body", "annotation"]

/-- The attribute means a directive of a parameter. -/
def isParameterAttribute (a : Attribute) : Bool := parameterAttributes.any a.isNamed

/-- The name of a header that stands for a parameter. -/
def headerName (parameter : String) : String :=
  String.ofList (parameter.toList.map fun c => if c = '_' then '-' else c)

/-- The marker of an attribute of a parameter, if the attribute is one.  A name that
is not given is that of the parameter. -/
def ofParameterAttribute (a : Attribute) (parameter : String) :
    Except InterfaceError (Option Marker) := do
  let name (o : ParameterOptions) := o.name.getD parameter
  let both := ParameterOptions.ofAttribute true true a
  let named := ParameterOptions.ofAttribute true false a
  let encodable := ParameterOptions.ofAttribute false true a
  let bare (d : Directive) : Except InterfaceError Directive := a.checkBare.map fun _ => d
  let directive ← match a.path.name? with
    | some "path" => both.map fun o => some (Directive.path (name o) o.encoded)
    | some "url" => (bare .url).map some
    | some "query" => both.map fun o => some (.query (name o) o.encoded)
    | some "query_map" => encodable.map fun o => some (.queryMap o.encoded)
    | some "query_name" => encodable.map fun o => some (.queryName o.encoded)
    | some "header" => named.map fun o => some (.header (o.name.getD (headerName parameter)))
    | some "header_map" => (bare .headerMap).map some
    | some "field" => both.map fun o => some (.field (name o) o.encoded)
    | some "field_map" => encodable.map fun o => some (.fieldMap o.encoded)
    | some "part" => named.map fun o => some (.part (name o))
    | some "part_map" => (bare .partMap).map some
    | some "body" => (bare .body).map some
    | _ => pure none
  match directive with
  | some d => return some (.directive d)
  | none => if a.isNamed "annotation" then return some (← ofExpression a) else return none

end Marker

end WebClient
