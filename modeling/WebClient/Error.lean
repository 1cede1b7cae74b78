import WebClient.Config.Error
import WebClient.Json.Fault
import WebClient.Url.Host

/-!
# Errors of a call

Everything that can go wrong between a declaration and a decoded answer.  Each
error is a cause; the wording of every cause is in one place, and the texts of
converters, parameters and transports that others supply are kept as they are.
-/

namespace WebClient

/-- Why an argument or a body cannot be converted. -/
inductive ConversionCause where
  | nullPath (parameter : String)
  | dotSegment (parameter converted : String)
  | nullUrl
  | nullBody
  /-- An argument that fills several places at once is no object. -/
  | notMap (role : String) (found : Json.Value)
  | notUtf8 (target : TypeName) (fault : Text.Utf8.Fault)
  | other (text : String)
  deriving Repr

/-- The wording of a failed conversion. -/
def ConversionCause.message : ConversionCause → String
  | .nullPath parameter => s!"path parameter `{parameter}` value must not be null"
  | .dotSegment parameter converted =>
      s!"path parameter `{parameter}` must not be a `.` or `..` segment, found `{converted}`"
  | .nullUrl => "URL parameter value must not be null"
  | .nullBody => "body parameter value must not be null"
  | .notMap role found => s!"{role} argument must be a map, found {found.text}"
  | .notUtf8 target fault => s!"`{target.text}` body is not UTF-8: {fault.message}"
  | .other text => text

/-- Why a text is no URI. -/
inductive UriFault where
  | invalidCharacter
  | invalidScheme
  | invalidAuthority
  | invalidFormat
  | empty
  | tooLong
  | schemeTooLong
  deriving DecidableEq, Repr

/-- The wording of a fault of a URI. -/
def UriFault.message : UriFault → String
  | .invalidCharacter => "invalid uri character"
  | .invalidScheme => "invalid scheme"
  | .invalidAuthority => "invalid authority"
  | .invalidFormat => "invalid format"
  | .empty => "empty string"
  | .tooLong => "uri too long"
  | .schemeTooLong => "scheme too long"

/-- Why no request can be made or sent. -/
inductive RequestCause where
  | unsupportedMethod (name : String)
  | fieldOutsideForm
  | partOutsideMultipart
  | bodyBesideFields
  | wrongArity (service method : String) (arity given : Nat)
  | unknownMethod (service method : String)
  /-- The method answers later and was called to answer at once. -/
  | mustDefer (service method : String)
  /-- The method answers at once and was called to answer later. -/
  | mustCall (service method : String)
  | invalidUri (fault : UriFault)
  | invalidHeaderName
  | invalidHeaderValue
  | noService
  | other (text : String)
  deriving DecidableEq, Repr

/-- The wording of a refused request. -/
def RequestCause.message : RequestCause → String
  | .unsupportedMethod name => s!"unsupported HTTP method: {name}"
  | .fieldOutsideForm => "form field on a non form-url-encoded request"
  | .partOutsideMultipart => "part on a non multipart request"
  | .bodyBesideFields => "raw body on a form or multipart request"
  | .wrongArity service method arity given =>
      s!"`{service}::{method}` takes {arity} arguments, {given} given"
  | .unknownMethod service method => s!"`{service}` has no method `{method}`"
  | .mustDefer service method =>
      s!"`{service}::{method}` is asynchronous and must be called through `call_deferred`"
  | .mustCall service method =>
      s!"`{service}::{method}` is synchronous and must be called through `call`"
  | .invalidUri fault => fault.message
  | .invalidHeaderName => "invalid HTTP header name"
  | .invalidHeaderValue => "failed to parse header value"
  | .noService => "no service started"
  | .other text => text

/-- Why a file cannot be written. -/
inductive FileFault where
  | notFound
  | alreadyExists
  | notDirectory
  | isDirectory
  | nameTooLong
  | permissionDenied
  | noSpace
  | other (text : String)
  deriving DecidableEq, Repr

/-- The wording of a fault of a file, with the number that the system gives it. -/
def FileFault.message : FileFault → String
  | .notFound => "No such file or directory (os error 2)"
  | .alreadyExists => "File exists (os error 17)"
  | .notDirectory => "Not a directory (os error 20)"
  | .isDirectory => "Is a directory (os error 21)"
  | .nameTooLong => "File name too long (os error 36)"
  | .permissionDenied => "Permission denied (os error 13)"
  | .noSpace => "No space left on device (os error 28)"
  | .other text => text

/-- What went wrong. -/
inductive Error where
  | configuration (error : ConfigError)
  | conversion (cause : ConversionCause)
  | jsonSerialization (flaw : Json.Flaw)
  | jsonDeserialization (path message : String)
  /-- An answer whose status reports a failure. -/
  | http (status : Nat) (message : String) (body : Option Bytes)
  | connection (text : String)
  | tls (text : String)
  | timeout
  | invalidRequest (cause : RequestCause)
  | invalidUrl (error : UrlError)
  | cache (fault : FileFault)
  deriving Repr

namespace Error

/-- The wording of an error. -/
def message : Error → String
  | .configuration error => s!"configuration error: {error.message}"
  | .conversion cause => s!"conversion error: {cause.message}"
  | .jsonSerialization flaw => s!"JSON serialization error: {flaw.message}"
  | .jsonDeserialization path message => s!"JSON deserialization error at '{path}': {message}"
  | .http status message _ => s!"HTTP error {status}: {message}"
  | .connection text => s!"connection error: {text}"
  | .tls text => s!"TLS error: {text}"
  | .timeout => "request timeout"
  | .invalidRequest cause => s!"invalid request: {cause.message}"
  | .invalidUrl error => s!"invalid URL: {error.message}"
  | .cache fault => s!"cache error: {fault.message}"

/-- The name of the kind of an error. -/
def title : Error → String
  | .configuration _ => "Configuration"
  | .conversion _ => "Conversion"
  | .jsonSerialization _ => "JsonSerialization"
  | .jsonDeserialization .. => "JsonDeserialization"
  | .http .. => "Http"
  | .connection _ => "Connection"
  | .tls _ => "Tls"
  | .timeout => "Timeout"
  | .invalidRequest _ => "InvalidRequest"
  | .invalidUrl _ => "InvalidUrl"
  | .cache _ => "Cache"

/-- The wording of the error below an error, where there is one. -/
def source? : Error → Option String
  | .configuration error => some error.message
  | .jsonSerialization flaw => some flaw.message
  | .invalidUrl error => some error.message
  | .cache fault => some fault.message
  | _ => none

/-- The declaration is at fault. -/
def isConfiguration : Error → Bool
  | .configuration _ => true
  | _ => false

/-- An argument or a body could not be converted. -/
def isConversion : Error → Bool
  | .conversion _ | .jsonSerialization _ | .jsonDeserialization _ _ => true
  | _ => false

/-- The time for the answer ran out. -/
def isTimeout : Error → Bool
  | .timeout => true
  | _ => false

/-- The status of a failed answer. -/
def status? : Error → Option Nat
  | .http status _ _ => some status
  | _ => none

/-- The body of a failed answer. -/
def body? : Error → Option Bytes
  | .http _ _ body => body
  | _ => none

/-- The error of decoding the bytes of a JSON text. -/
def ofJsonText (input : Bytes) (fault : Json.Fault) : Error :=
  .jsonDeserialization (Json.Step.path fault.path) (fault.message input)

/-- The error of decoding a JSON value. -/
def ofJsonValue (fault : Json.Fault) : Error :=
  .jsonDeserialization (Json.Step.path fault.path) fault.cause.message

end Error

end WebClient
