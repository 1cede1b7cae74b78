import WebClient.Directive.Target
import WebClient.Http.Method
import WebClient.Template

/-!
# Directives

A declaration carries directives that say what a method or a parameter is for.
Besides the standard ones there may be directives of other kinds; of those only
what their handlers may ask is known.
-/

namespace WebClient

/-- A directive of another kind. -/
structure CustomDirective where
  variant : Variant
  target : Target
  capability : Option Capability
  /-- Whether texts are encoded already, where the directive can say so. -/
  encoded : Option Bool
  deriving DecidableEq, Repr

/-- What a method or a parameter is declared to be for. -/
inductive Directive where
  | http (method : Method) (path : Template)
  | headers (lines : List String)
  | asynchronous
  | path (name : String) (encoded : Bool)
  | url
  | query (name : String) (encoded : Bool)
  | queryMap (encoded : Bool)
  | queryName (encoded : Bool)
  | header (name : String)
  | headerMap
  | field (name : String) (encoded : Bool)
  | fieldMap (encoded : Bool)
  | part (name : String)
  | partMap
  | body
  | custom (directive : CustomDirective)
  deriving DecidableEq, Repr

namespace Directive

/-- The directive is not of another kind. -/
def isStandard : Directive → Bool
  | .custom _ => false
  | _ => true

/-- The variant of a directive. -/
def variant : Directive → Variant
  | .http method _ => method.name
  | .headers _ => "Headers"
  | .asynchronous => "Async"
  | .path _ _ => "Path"
  | .url => "Url"
  | .query _ _ => "Query"
  | .queryMap _ => "QueryMap"
  | .queryName _ => "QueryName"
  | .header _ => "Header"
  | .headerMap => "HeaderMap"
  | .field _ _ => "Field"
  | .fieldMap _ => "FieldMap"
  | .part _ => "Part"
  | .partMap => "PartMap"
  | .body => "Body"
  | .custom d => d.variant

/-- What a directive is to be declared on. -/
def target : Directive → Target
  | .http _ _ | .headers _ | .asynchronous => .method
  | .custom d => d.target
  | _ => .parameter

/-- The capability of the converter that a directive asks for. -/
def capability? : Directive → Option Capability
  | .http _ _ | .headers _ | .asynchronous => none
  | .part _ | .partMap | .body => some .requestBody
  | .custom d => d.capability
  | _ => some .string

/-- Whether texts are encoded already, where a directive can say so. -/
def encoded? : Directive → Option Bool
  | .path _ encoded | .query _ encoded | .queryMap encoded | .queryName encoded
  | .field _ encoded | .fieldMap encoded => some encoded
  | .custom d => d.encoded
  | _ => none

end Directive

end WebClient
