import WebClient.Directive.Basic
import WebClient.Service.Builder
import WebClient.Text.Blank

/-!
# Handlers of directives

A handler takes the steps of building a method that a directive of its variant
stands for.  A directive on a parameter comes with the place of the parameter
and, if it asks for one, a converter; a handler refuses what does not fit.
-/

namespace WebClient

/-- Carries out the directives of one variant. -/
structure DirectiveHandler where
  variant : Variant
  handle : Directive → Option Converter → Option Nat → Configure Unit
  shown : Dump

namespace DirectiveHandler

/-- Refuse a directive that a handler is not made for. -/
def refuse {α : Type} (expected : Variant) (d : Directive) : Configure α :=
  Configure.reject (.wrongDirective expected d.variant)

/-- The place of the parameter. -/
def placeOf (variant : Variant) (index : Option Nat) : Configure Nat :=
  match index with
  | some index => pure index
  | none => Configure.reject (.missingParameterIndex variant)

/-- The converter of values to texts. -/
def stringConverter (converter : Option Converter) : Configure StringConverter :=
  match converter.bind Converter.asString? with
  | some c => pure c
  | none => Configure.reject (.wrongConverter .string (converter.map Converter.capability))

/-- The converter of values to bodies. -/
def requestConverter (converter : Option Converter) : Configure RequestConverter :=
  match converter.bind Converter.asRequest? with
  | some c => pure c
  | none => Configure.reject (.wrongConverter .requestBody (converter.map Converter.capability))

/-- Set a parameter that converts values to texts. -/
def setStringParameter (variant : Variant) (converter : Option Converter) (index : Option Nat)
    (p : StringConverter → Parameter) : Configure Unit := do
  let index ← placeOf variant index
  let c ← stringConverter converter
  MethodBuilder.setParameter index (p c)

/-! ## Methods -/

/-- Sets the verb and the path, for one verb. -/
def http (method : Method) : DirectiveHandler where
  variant := method.name
  handle d _ _ :=
    match d with
    | .http own path =>
        if own = method then MethodBuilder.setHttp own path else refuse method.name d
    | _ => refuse method.name d
  shown := .record "HttpHandler" [("method", .word method.title)] true

/-- The name and the value of a header line. -/
def parseHeader (line : String) : Except ConfigError (String × String) :=
  match Text.splitOnce? (· = ':') line.toList with
  | some (name, value) =>
      let name := Text.trimBoth Text.isBlank name
      if name.isEmpty then .error (.of (.invalidHeader line))
      else .ok (String.ofList name, String.ofList (Text.trimBoth Text.isBlank value))
  | none => .error (.of (.invalidHeader line))

/-- Add the headers of some lines, one after the other. -/
def addHeaders : List String → Configure Unit
  | [] => pure ()
  | line :: rest => do
      let (name, value) ← liftExcept (parseHeader line)
      MethodBuilder.addHeader name value
      addHeaders rest
where
  liftExcept {α : Type} : Except ConfigError α → Configure α
    | .ok a => pure a
    | .error e => throw e

/-- Adds the headers that every request has. -/
def headers : DirectiveHandler where
  variant := "Headers"
  handle d _ _ :=
    match d with
    | .headers lines => addHeaders lines
    | _ => refuse "Headers" d
  shown := .word "HeadersHandler"

/-- Lets the method answer later. -/
def asynchronous : DirectiveHandler where
  variant := "Async"
  handle d _ _ :=
    match d with
    | .asynchronous => MethodBuilder.setAsynchronous
    | _ => refuse "Async" d
  shown := .word "AsyncHandler"

/-! ## Parameters of the URL and the headers -/

/-- Sets a parameter for a name of the path. -/
def path : DirectiveHandler where
  variant := "Path"
  handle d converter index :=
    match d with
    | .path name encoded => setStringParameter "Path" converter index (.path name encoded)
    | _ => refuse "Path" d
  shown := .word "PathHandler"

/-- Sets a parameter for the URL. -/
def url : DirectiveHandler where
  variant := "Url"
  handle d converter index :=
    match d with
    | .url => setStringParameter "Url" converter index .url
    | _ => refuse "Url" d
  shown := .word "UrlHandler"

/-- Sets a parameter for items of the query of one name. -/
def query : DirectiveHandler where
  variant := "Query"
  handle d converter index :=
    match d with
    | .query name encoded => setStringParameter "Query" converter index (.query name encoded)
    | _ => refuse "Query" d
  shown := .word "QueryHandler"

/-- Sets a parameter for items of the query. -/
def queryMap : DirectiveHandler where
  variant := "QueryMap"
  handle d converter index :=
    match d with
    | .queryMap encoded => setStringParameter "QueryMap" converter index (.queryMap encoded)
    | _ => refuse "QueryMap" d
  shown := .word "QueryMapHandler"

/-- Sets a parameter for bare names of the query. -/
def queryName : DirectiveHandler where
  variant := "QueryName"
  handle d converter index :=
    match d with
    | .queryName encoded => setStringParameter "QueryName" converter index (.queryName encoded)
    | _ => refuse "QueryName" d
  shown := .word "QueryNameHandler"

/-- Sets a parameter for headers of one name. -/
def header : DirectiveHandler where
  variant := "Header"
  handle d converter index :=
    match d with
    | .header name => setStringParameter "Header" converter index (.header name)
    | _ => refuse "Header" d
  shown := .word "HeaderHandler"

/-- Sets a parameter for headers. -/
def headerMap : DirectiveHandler where
  variant := "HeaderMap"
  handle d converter index :=
    match d with
    | .headerMap => setStringParameter "HeaderMap" converter index .headerMap
    | _ => refuse "HeaderMap" d
  shown := .word "HeaderMapHandler"

/-! ## Parameters of the body -/

/-- Sets a parameter for fields of a form of one name. -/
def field : DirectiveHandler where
  variant := "Field"
  handle d converter index :=
    match d with
    | .field name encoded => do
        let index ← placeOf "Field" index
        let c ← stringConverter converter
        MethodBuilder.setBodyKind .form
        MethodBuilder.setParameter index (.field name encoded c)
    | _ => refuse "Field" d
  shown := .word "FieldHandler"

/-- Sets a parameter for fields of a form; any directive of the variant will do
that can say whether texts are encoded already. -/
def fieldMap : DirectiveHandler where
  variant := "FieldMap"
  handle d converter index := do
    if d.variant ≠ "FieldMap" then refuse "FieldMap" d
    else
      match d.encoded? with
      | none => Configure.reject (.notEncodable d.variant)
      | some encoded =>
          let index ← placeOf d.variant index
          let c ← stringConverter converter
          MethodBuilder.setBodyKind .form
          MethodBuilder.setParameter index (.fieldMap encoded c)
  shown := .word "FieldMapHandler"

/-- Sets a parameter for a part of a multipart form. -/
def part : DirectiveHandler where
  variant := "Part"
  handle d converter index :=
    match d with
    | .part name => do
        let index ← placeOf "Part" index
        let c ← requestConverter converter
        MethodBuilder.setBodyKind .multipart
        MethodBuilder.setParameter index (.part name c)
    | _ => refuse "Part" d
  shown := .word "PartHandler"

/-- Sets a parameter for parts of a multipart form; the kind of body is set
before the converter is looked at. -/
def partMap : DirectiveHandler where
  variant := "PartMap"
  handle d converter index :=
    match d with
    | .partMap => do
        let index ← placeOf "PartMap" index
        MethodBuilder.setBodyKind .multipart
        let c ← requestConverter converter
        MethodBuilder.setParameter index (.partMap c)
    | _ => refuse "PartMap" d
  shown := .word "PartMapHandler"

/-- Sets a parameter for the body. -/
def body : DirectiveHandler where
  variant := "Body"
  handle d converter index :=
    match d with
    | .body => do
        let index ← placeOf "Body" index
        let c ← requestConverter converter
        MethodBuilder.setParameter index (.body c)
    | _ => refuse "Body" d
  shown := .word "BodyHandler"

/-- The handlers of the standard directives. -/
def standard : List DirectiveHandler :=
  Method.all.map http ++
    [headers, asynchronous, path, url, query, queryMap, queryName, header, headerMap, field,
      fieldMap, part, partMap, body]

end DirectiveHandler

end WebClient
