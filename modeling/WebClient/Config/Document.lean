import WebClient.Config.Error
import WebClient.Service.Document

/-!
# Causes of configuration errors as documents

A cause is written down as a JSON object with its title and its details.
-/

namespace WebClient

open Json (Value)

/-- The cause that an object describes.  How a converter that was found is written
down is up to the reader of its capability. -/
def ConfigCause.ofJson? (found? : Value → Option Capability) (v : Value) :
    Option ConfigCause := do
  let variant := v.text? "variant"
  let name := v.text? "name"
  let index := v.nat? "index"
  let capability? name := (v.get? name).bind Capability.ofJson?
  let kind? name := (v.get? name).bind BodyKind.ofJson?
  let verb? name := (v.get? name).bind Method.ofJson?
  match ← v.text? "kind" with
  | "WrongAnnotation" => return .wrongDirective (← v.text? "expected") (← v.text? "found")
  | "NotEncodable" => return .notEncodable (← variant)
  | "WrongConverter" =>
      return .wrongConverter (← capability? "required") (← v.optional? found? "found")
  | "MissingConverter" =>
      return .missingConverter (TypeName.ofText (← v.text? "ty")) (← capability? "capability")
  | "UnknownAnnotation" => return .unknownDirective (← variant)
  | "DuplicateHandler" => return .duplicateHandler (← variant)
  | "MisplacedAnnotation" =>
      return .misplacedDirective (← variant) (← (v.get? "target").bind Target.ofJson?)
  | "DuplicateHttpMethod" => return .duplicateHttpMethod (← verb? "existing") (← verb? "new")
  | "MissingHttpMethod" => return .missingHttpMethod
  | "EmptyPath" => return .emptyPath
  | "UrlWithPath" => return .urlWithPath (← v.text? "path")
  | "DuplicateParameter" => return .duplicateParameter (← index)
  | "ParameterOutOfRange" => return .parameterOutOfRange (← index) (← v.nat? "arity")
  | "MissingParameterIndex" => return .missingParameterIndex (← variant)
  | "MissingParameterHandler" => return .missingParameterHandler (← index)
  | "ConflictingBody" => return .conflictingBody (← kind? "first") (← kind? "second")
  | "DuplicateBody" => return .duplicateBody
  | "DuplicateUrl" => return .duplicateUrl
  | "UnresolvedPlaceholder" => return .unresolvedPlaceholder (← name)
  | "UnknownPlaceholder" => return .unknownPlaceholder (← name)
  | "DuplicatePlaceholder" => return .duplicatePlaceholder (← name)
  | "DuplicateResponseConverter" => return .duplicateResponseConverter
  | "MissingResponseConverter" => return .missingResponseConverter
  | "InvalidHeader" => return .invalidHeader (← v.text? "value")
  | "MissingBaseUrl" => return .missingBaseUrl
  | _ => none

end WebClient
