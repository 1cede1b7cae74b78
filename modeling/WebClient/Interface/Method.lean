import WebClient.Interface.Parameter
import WebClient.Source.Trait

/-!
# Methods of an interface

A method either is asynchronous and returns a result, or returns a result that is
deferred.  It looks at what it is called on and declares no body and no parameters in
angle brackets.
-/

namespace WebClient

open Source (Attribute Input Phrase Signature)

/-- A method of an interface. -/
structure InterfaceMethod where
  signature : Signature
  /-- The attributes that mean no directive. -/
  attributes : List Attribute
  markers : List Marker
  parameters : List InterfaceParameter
  /-- The answer is deferred. -/
  deferred : Bool
  /-- The type of the answer. -/
  answer : Phrase

namespace InterfaceMethod

/-- Whether the answer is deferred, and its type. -/
def answerOf (s : Signature) : Except InterfaceError (Bool × Phrase) :=
  match s.output?.bind (Phrase.only? "Result") with
  | none => .error .notResult
  | some type =>
      match type.only? "Deferred" with
      | some inner => .ok (true, inner)
      | none => .ok (false, type)

/-- The attributes of a method, those that mean directives apart. -/
def splitAttributes : List Attribute → Except InterfaceError (List Attribute × List Marker)
  | [] => .ok ([], [])
  | a :: rest => do
      let marker ← Marker.ofMethodAttribute a
      let (attributes, markers) ← splitAttributes rest
      match marker with
      | some marker => return (attributes, marker :: markers)
      | none => return (a :: attributes, markers)

/-- A marker says that the answer comes later. -/
def isAsynchronousMarker : Marker → Bool
  | .directive .asynchronous => true
  | _ => false

/-- The markers of a method whose answer is deferred or not: that it comes later is
said once at least, and never of a method that is asynchronous itself. -/
def completeMarkers (s : Signature) (deferred : Bool) (markers : List Marker) :
    Except InterfaceError (List Marker) :=
  let marked := markers.any isAsynchronousMarker
  if deferred then
    if s.isAsynchronous then .error .asynchronousDeferred
    else .ok (if marked then markers else markers ++ [.directive .asynchronous])
  else if marked then .error .notDeferred
  else if s.isAsynchronous then .ok markers
  else .error .notAsynchronous

/-- The first verb and path among markers. -/
def route? (markers : List Marker) : Option (Method × String) :=
  markers.findSome? fun
    | .directive (.http method path) => some (method, path.text)
    | _ => none

/-- The method of an interface that a trait declares. -/
def ofMethod (m : Source.TraitMethod) : Except InterfaceError InterfaceMethod := do
  if m.hasBody then throw .hasBody
  if m.signature.isGeneric then throw .genericMethod
  if !(m.signature.first?.any Input.isShared) then throw .notShared
  let (attributes, markers) ← splitAttributes m.attributes
  let (deferred, answer) ← answerOf m.signature
  let markers ← completeMarkers m.signature deferred markers
  let parameters ← InterfaceParameter.ofInputs (route? markers) (m.signature.inputs.map (·.1))
  return ⟨m.signature, attributes, markers, parameters, deferred, answer⟩

/-- The signature without the attributes that mean directives. -/
def plainSignature (m : InterfaceMethod) : Signature :=
  m.signature.mapInputs (Input.keeping fun a => !Marker.isParameterAttribute a)

end InterfaceMethod

end WebClient
