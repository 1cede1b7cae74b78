import WebClient.Interface.Marker
import WebClient.Source.Signature

/-!
# Parameters of an interface

A parameter without markers stands for the placeholder of its name, if the path has
one.  One that is left over then is the body of a method that takes a body, and more
than one can never be.
-/

namespace WebClient

open Source (Input Phrase)

/-- A parameter of a method. -/
structure InterfaceParameter where
  name : String
  type : Phrase
  markers : List Marker

namespace InterfaceParameter

/-- The names in braces of a path, the empty ones included. -/
def placeholders (path : String) : List String :=
  ((Text.splitAll (· = '{') path.toList).drop 1).filterMap fun piece =>
    (Text.splitOnce? (· = '}') piece).map fun (name, _) => String.ofList name

/-- The markers among the attributes of a parameter. -/
def readMarkers (attributes : List Source.Attribute) (name : String) :
    Except InterfaceError (List Marker) := do
  return (← attributes.mapM fun a => Marker.ofParameterAttribute a name).filterMap id

/-- The parameter of an input, if it is one; a parameter without markers stands for the
placeholder of its name. -/
def ofInput (placeholders : List String) :
    Input → Except InterfaceError (Option InterfaceParameter)
  | .receiver .. => .ok none
  | .typed attributes pattern type =>
      match pattern.name? with
      | none => .error .unnamedParameter
      | some name => do
          let markers ← readMarkers attributes name
          if markers.isEmpty && placeholders.contains name then
            return some ⟨name, type, [.directive (.path name false)]⟩
          else return some ⟨name, type, markers⟩

/-- Nothing marks the parameter. -/
def isLeftOver (p : InterfaceParameter) : Bool := p.markers.isEmpty

/-- The parameter as the body, if nothing marks it. -/
def asBody (p : InterfaceParameter) : InterfaceParameter :=
  if p.isLeftOver then { p with markers := [.directive .body] } else p

/-- A method of the verb takes a body. -/
def takesBody : Method → Bool
  | .post | .put | .patch => true
  | _ => false

/-- The parameters of a method with the given verb and path, if it has any. -/
def ofInputs (route : Option (Method × String)) (inputs : List Input) :
    Except InterfaceError (List InterfaceParameter) := do
  let names := match route with
    | some (_, path) => placeholders path
    | none => []
  let parameters := (← (inputs.drop 1).mapM (ofInput names)).filterMap id
  match parameters.filter isLeftOver with
  | [] => return parameters
  | [_] =>
      if route.any fun (method, _) => takesBody method then return parameters.map asBody
      else throw (.unmatchedParameter names)
  | _ => throw .severalUnmatched

end InterfaceParameter

end WebClient
