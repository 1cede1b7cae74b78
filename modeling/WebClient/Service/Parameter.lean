import WebClient.Percent
import WebClient.Service.Contribution
import WebClient.Service.Role

/-!
# Parameters

A parameter turns one argument of a call into contributions.  Where an argument
may stand for several values, `null` stands for none, an array for its items and
anything else for itself, and nothing is contributed for a `null` among them.  A
map argument contributes for each of its fields in turn.
-/

namespace WebClient

/-- A parameter of a kind of its own. -/
structure CustomParameter where
  role : Role
  bodyKind : Option BodyKind
  handle : Json.Value → Handling
  shown : Dump

/-- A parameter of a method. -/
inductive Parameter where
  | path (name : String) (encoded : Bool) (converter : StringConverter)
  | url (converter : StringConverter)
  | query (name : String) (encoded : Bool) (converter : StringConverter)
  | queryMap (encoded : Bool) (converter : StringConverter)
  | queryName (encoded : Bool) (converter : StringConverter)
  | header (name : String) (converter : StringConverter)
  | headerMap (converter : StringConverter)
  | field (name : String) (encoded : Bool) (converter : StringConverter)
  | fieldMap (encoded : Bool) (converter : StringConverter)
  | part (name : String) (converter : RequestConverter)
  | partMap (converter : RequestConverter)
  | body (converter : RequestConverter)
  | custom (parameter : CustomParameter)

namespace Parameter

/-- The parameter is not of a kind of its own. -/
def isStandard : Parameter → Bool
  | .custom _ => false
  | _ => true

/-- The role of a parameter. -/
def role : Parameter → Role
  | .path name encoded _ => .path name encoded
  | .url _ => .url
  | .query name encoded _ => .query name encoded
  | .queryMap encoded _ => .queryMap encoded
  | .queryName encoded _ => .queryName encoded
  | .header name _ => .header name
  | .headerMap _ => .headerMap
  | .field name encoded _ => .field name encoded
  | .fieldMap encoded _ => .fieldMap encoded
  | .part name _ => .part name
  | .partMap _ => .partMap
  | .body _ => .body
  | .custom parameter => parameter.role

/-- The kind of body that a parameter needs. -/
def bodyKind? : Parameter → Option BodyKind
  | .custom parameter => parameter.bodyKind
  | parameter => parameter.role.bodyKind?

/-- The parts of a parameter. -/
def shown : Parameter → Dump
  | .path name encoded c => named "PathParameter" name encoded c
  | .url c => .record "UrlParameter" [("converter", c.shown)] true
  | .query name encoded c => named "QueryParameter" name encoded c
  | .queryMap encoded c => unnamed "QueryMapParameter" encoded c
  | .queryName encoded c => unnamed "QueryNameParameter" encoded c
  | .header name c =>
      .record "HeaderParameter" [("name", .text name), ("converter", c.shown)] true
  | .headerMap c => .record "HeaderMapParameter" [("converter", c.shown)] true
  | .field name encoded c => named "FieldParameter" name encoded c
  | .fieldMap encoded c => unnamed "FieldMapParameter" encoded c
  | .part name c =>
      .record "PartParameter" [("name", .text name), ("converter", c.shown)] true
  | .partMap c => .record "PartMapParameter" [("converter", c.shown)] true
  | .body c => .record "BodyParameter" [("converter", c.shown)] true
  | .custom parameter => parameter.shown
where
  named (title name : String) (encoded : Bool) (c : StringConverter) : Dump :=
    .record title
      [("name", .text name), ("encoded", .bool encoded), ("converter", c.shown)] true
  unnamed (title : String) (encoded : Bool) (c : StringConverter) : Dump :=
    .record title [("encoded", .bool encoded), ("converter", c.shown)] true

/-! ## Contributions -/

/-- The argument is nothing. -/
def isNull : Json.Value → Bool
  | .null => true
  | _ => false

/-- The values that an argument stands for. -/
def eachValue : Json.Value → List Json.Value
  | .null => []
  | .array items => items.filter fun item => !isNull item
  | value => [value]

/-- A text for a component of a URL or a form, which may be encoded already. -/
def encodeUnless (encoded : Bool) (s : String) : String :=
  if encoded then s else Percent.component s

/-- The text is one that a path resolves away. -/
def isDotSegment (s : String) : Bool := s = "." || s = ".."

/-- Resolving the text in a path would leave the place it is put in. -/
def traverses (encoded : Bool) (s : String) : Bool :=
  if encoded then
    (Text.splitAll (· = '/') s.toList).any fun piece => isDotSegment (String.ofList piece)
  else isDotSegment s

/-- The value of a name of the path. -/
def pathValue (name : String) (encoded : Bool) (converter : StringConverter)
    (value : Json.Value) : Except Error Contribution := do
  if isNull value then throw (.conversion (.nullPath name))
  let converted ← converter.convert value
  if traverses encoded converted then throw (.conversion (.dotSegment name converted))
  return .path name (if encoded then converted else Percent.segment converted)

/-- Contribute for each field of a map argument. -/
def forEntries (role : String) (value : Json.Value)
    (f : String → Json.Value → List (Except Error Contribution)) :
    List (Except Error Contribution) :=
  match value with
  | .null => []
  | .object fields => fields.flatMap fun (name, entry) => f name entry
  | found => [.error (.conversion (.notMap role found))]

/-- Contribute a converted text for each value of an argument. -/
def forValues (converter : StringConverter) (f : String → Contribution) (value : Json.Value) :
    List (Except Error Contribution) :=
  (eachValue value).map fun item => (converter.convert item).map f

/-- An item of the query. -/
def queryItem (encoded : Bool) (name text : String) : Contribution :=
  .query (encodeUnless encoded name) (some (encodeUnless encoded text))

/-- A field of a form. -/
def formField (encoded : Bool) (name text : String) : Contribution :=
  .field (encodeUnless encoded name) (encodeUnless encoded text)

/-- The part of a name for a value; nothing for `null`. -/
def partFor (converter : RequestConverter) (name : String) (value : Json.Value) :
    List (Except Error Contribution) :=
  if isNull value then []
  else [(converter.convert value).map fun body => .part (.ofBody name body)]

/-- What an argument contributes; a parameter of a kind of its own contributes nothing but by
what it does itself. -/
def contributions (value : Json.Value) : Parameter → List (Except Error Contribution)
  | .path name encoded c => [pathValue name encoded c value]
  | .url c =>
      if isNull value then [.error (.conversion .nullUrl)]
      else [(c.convert value).map .target]
  | .query name encoded c => forValues c (queryItem encoded name) value
  | .queryMap encoded c =>
      forEntries "query map" value fun name entry =>
        forValues c (queryItem encoded name) entry
  | .queryName encoded c =>
      forValues c (fun text => .query (encodeUnless encoded text) none) value
  | .header name c => forValues c (.header name) value
  | .headerMap c =>
      forEntries "header map" value fun name entry => forValues c (.header name) entry
  | .field name encoded c => forValues c (formField encoded name) value
  | .fieldMap encoded c =>
      forEntries "field map" value fun name entry =>
        forValues c (formField encoded name) entry
  | .part name c => partFor c name value
  | .partMap c => forEntries "part map" value (partFor c)
  | .body c =>
      if isNull value then [.error (.conversion .nullBody)]
      else [(c.convert value).map .body]
  | .custom _ => []

/-- What is done to a draft for an argument. -/
def handling (value : Json.Value) : Parameter → Handling
  | .custom parameter => parameter.handle value
  | parameter => .ofPieces (parameter.contributions value)

end Parameter

end WebClient
