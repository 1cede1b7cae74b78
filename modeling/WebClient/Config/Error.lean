import WebClient.Directive.Target
import WebClient.Http.Media
import WebClient.Http.Method
import WebClient.TypeName

/-!
# Configuration errors

Why a declared service cannot be turned into requests.  An error has one cause
and up to three places, and a place that is known is never replaced, so the one
closest to the cause stays.
-/

namespace WebClient

/-- Why a declaration is rejected. -/
inductive ConfigCause where
  | wrongDirective (expected found : Variant)
  | notEncodable (variant : Variant)
  | wrongConverter (required : Capability) (found : Option Capability)
  | missingConverter (type : TypeName) (capability : Capability)
  | unknownDirective (variant : Variant)
  | duplicateHandler (variant : Variant)
  | misplacedDirective (variant : Variant) (target : Target)
  | duplicateHttpMethod (existing new : Method)
  | missingHttpMethod
  | emptyPath
  | urlWithPath (path : String)
  | duplicateParameter (index : Nat)
  | parameterOutOfRange (index arity : Nat)
  | missingParameterIndex (variant : Variant)
  | missingParameterHandler (index : Nat)
  | conflictingBody (first second : BodyKind)
  | duplicateBody
  | duplicateUrl
  | unresolvedPlaceholder (name : String)
  | unknownPlaceholder (name : String)
  | duplicatePlaceholder (name : String)
  | duplicateResponseConverter
  | missingResponseConverter
  | invalidHeader (line : String)
  | missingBaseUrl
  deriving DecidableEq, Repr

/-- The wording of a cause. -/
def ConfigCause.message : ConfigCause → String
  | .wrongDirective expected found =>
      s!"expected `{expected}` annotation, found `{found}`"
  | .notEncodable variant => s!"annotation `{variant}` must be encodable"
  | .wrongConverter required found =>
      s!"converter must be a {required.text} converter, {Capability.describe found} found"
  | .missingConverter type capability =>
      s!"no {capability.text} converter available for `{type.text}`"
  | .unknownDirective variant => s!"no handler registered for annotation `{variant}`"
  | .duplicateHandler variant =>
      s!"a handler is already registered for annotation `{variant}`"
  | .misplacedDirective variant target =>
      s!"annotation `{variant}` cannot be declared on a {target.text}"
  | .duplicateHttpMethod existing new =>
      s!"HTTP method already set to {existing.name}, cannot also set {new.name}"
  | .missingHttpMethod => "no HTTP method annotation"
  | .emptyPath => "empty path template requires a dynamic URL parameter"
  | .urlWithPath path =>
      s!"dynamic URL parameter requires an empty path template, found `{path}`"
  | .duplicateParameter index => s!"parameter {index} already has a handler"
  | .parameterOutOfRange index arity =>
      s!"parameter index {index} out of range for a method with {arity} parameters"
  | .missingParameterIndex variant =>
      s!"annotation `{variant}` requires a parameter index"
  | .missingParameterHandler index => s!"parameter {index} has no annotation"
  | .conflictingBody first second =>
      s!"conflicting request bodies: {first.text} and {second.text}"
  | .duplicateBody => "only one body parameter is allowed"
  | .duplicateUrl => "only one dynamic URL parameter is allowed"
  | .unresolvedPlaceholder name => s!"path placeholder `\x7b{name}\x7d` has no path parameter"
  | .unknownPlaceholder name => s!"path parameter `{name}` does not match any placeholder"
  | .duplicatePlaceholder name =>
      s!"path placeholder `\x7b{name}\x7d` is bound more than once"
  | .duplicateResponseConverter => "response converter already set"
  | .missingResponseConverter => "no response converter"
  | .invalidHeader line => s!"malformed header `{line}`, expected `Name: value`"
  | .missingBaseUrl => "missing base URL"

/-- The name of the kind of a cause. -/
def ConfigCause.title : ConfigCause → String
  | .wrongDirective .. => "WrongAnnotation"
  | .notEncodable .. => "NotEncodable"
  | .wrongConverter .. => "WrongConverter"
  | .missingConverter .. => "MissingConverter"
  | .unknownDirective .. => "UnknownAnnotation"
  | .duplicateHandler .. => "DuplicateHandler"
  | .misplacedDirective .. => "MisplacedAnnotation"
  | .duplicateHttpMethod .. => "DuplicateHttpMethod"
  | .missingHttpMethod => "MissingHttpMethod"
  | .emptyPath => "EmptyPath"
  | .urlWithPath .. => "UrlWithPath"
  | .duplicateParameter .. => "DuplicateParameter"
  | .parameterOutOfRange .. => "ParameterOutOfRange"
  | .missingParameterIndex .. => "MissingParameterIndex"
  | .missingParameterHandler .. => "MissingParameterHandler"
  | .conflictingBody .. => "ConflictingBody"
  | .duplicateBody => "DuplicateBody"
  | .duplicateUrl => "DuplicateUrl"
  | .unresolvedPlaceholder .. => "UnresolvedPlaceholder"
  | .unknownPlaceholder .. => "UnknownPlaceholder"
  | .duplicatePlaceholder .. => "DuplicatePlaceholder"
  | .duplicateResponseConverter => "DuplicateResponseConverter"
  | .missingResponseConverter => "MissingResponseConverter"
  | .invalidHeader .. => "InvalidHeader"
  | .missingBaseUrl => "MissingBaseUrl"

/-- A rejected declaration. -/
structure ConfigError where
  service : Option String
  method : Option String
  parameter : Option Nat
  cause : ConfigCause
  deriving DecidableEq, Repr

namespace ConfigError

/-- An error without a place. -/
def of (cause : ConfigCause) : ConfigError := ⟨none, none, none, cause⟩

/-- Name the parameter, unless one is named. -/
def atParameter (index : Option Nat) (e : ConfigError) : ConfigError :=
  { e with parameter := e.parameter.or index }

/-- Name the service, unless one is named. -/
def inService (service : String) (e : ConfigError) : ConfigError :=
  { e with service := e.service.or (some service) }

/-- Name the service and the method, each unless it is named. -/
def inMethod (service method : String) (e : ConfigError) : ConfigError :=
  { e with service := e.service.or (some service), method := e.method.or (some method) }

/-- The wording of the service and the method. -/
def place (e : ConfigError) : Option String :=
  match e.service, e.method with
  | some service, some method => some s!"{service}::{method}"
  | some service, none => some service
  | none, some method => some method
  | none, none => none

/-- The wording of an error. -/
def message (e : ConfigError) : String :=
  let parameter := e.parameter.map fun index => s!"(parameter {index})"
  match e.place, parameter with
  | none, none => e.cause.message
  | some place, none => s!"{place}: {e.cause.message}"
  | none, some parameter => s!"{parameter}: {e.cause.message}"
  | some place, some parameter => s!"{place} {parameter}: {e.cause.message}"

end ConfigError

end WebClient
