import WebClient.Http.Media

/-!
# Roles of parameters

What a parameter of a method contributes to a request, as listings show it.
-/

namespace WebClient

/-- What a parameter contributes to. -/
inductive Role where
  | path (name : String) (encoded : Bool)
  | url
  | query (name : String) (encoded : Bool)
  | queryMap (encoded : Bool)
  | queryName (encoded : Bool)
  | header (name : String)
  | headerMap
  | field (name : String) (encoded : Bool)
  | fieldMap (encoded : Bool)
  | part (name : String)
  | partMap
  | body
  | custom (name : String)
  deriving DecidableEq, Repr

namespace Role

/-- The remark on texts that are taken as they are. -/
def remark (encoded : Bool) : String := if encoded then " (encoded)" else ""

/-- The wording of a role. -/
def text : Role → String
  | .path name encoded => s!"path `{name}`{remark encoded}"
  | .url => "url"
  | .query name encoded => s!"query `{name}`{remark encoded}"
  | .queryMap encoded => s!"query map{remark encoded}"
  | .queryName encoded => s!"query name{remark encoded}"
  | .header name => s!"header `{name}`"
  | .headerMap => "header map"
  | .field name encoded => s!"field `{name}`{remark encoded}"
  | .fieldMap encoded => s!"field map{remark encoded}"
  | .part name => s!"part `{name}`"
  | .partMap => "part map"
  | .body => "body"
  | .custom name => name

/-- The kind of body that a role needs. -/
def bodyKind? : Role → Option BodyKind
  | .field .. | .fieldMap _ => some .form
  | .part _ | .partMap => some .multipart
  | .body => some .raw
  | _ => none

end Role

end WebClient
