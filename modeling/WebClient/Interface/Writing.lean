import WebClient.Interface.Client

/-!
# Writing clients of interfaces

The tokens of what is made from an interface.
-/

namespace WebClient

open Source (Attribute Signature Token)

/-! ## Pieces -/

namespace Source.Token

/-- Words behind each other. -/
def words (texts : List String) : List Token := texts.map .word

/-- The path of something in the library that clients are written against. -/
def library (names : List String) : List Token :=
  marks "::" ++ .word "rivet" :: names.flatMap fun name => marks "::" ++ [.word name]

/-- A text as a literal. -/
def quote (s : String) : List Token := [.literal (Literal.ofText s)]

/-- Pieces with commas between them. -/
def commas (pieces : List (List Token)) : List Token := (pieces.intersperse (marks ",")).flatten

/-- A call with the given arguments. -/
def call (function : List Token) (arguments : List (List Token)) : List Token :=
  function ++ inside .parenthesis (commas arguments)

/-- A method called on a value. -/
def send (method : String) (arguments : List (List Token)) : List Token :=
  marks "." ++ call [.word method] arguments

/-- An attribute of what follows. -/
def hashed (content : List Token) : List Token := marks "#" ++ inside .bracket content

/-- A look at the value of a type. -/
def reference (type : List Token) : List Token := marks "&" ++ type

end Source.Token

open Source.Token

/-! ## Directives -/

/-- The expression of a directive. -/
def Directive.tokens (d : Directive) : List Token :=
  let path (name : String) := library ["annotation", name]
  let new (name : String) (arguments : List (List Token)) (encoded : Bool) :=
    call (path name ++ marks "::" ++ [.word "new"]) arguments ++
      if encoded then send "encoded" [] else []
  match d with
  | .http method template =>
      new "Http" [library ["Method", method.title], quote template.text] false
  | .headers lines => new "Headers" [inside .bracket (commas (lines.map quote))] false
  | .asynchronous => path "Async"
  | .path name encoded => new "Path" [quote name] encoded
  | .url => path "Url"
  | .query name encoded => new "Query" [quote name] encoded
  | .queryMap encoded => new "QueryMap" [] encoded
  | .queryName encoded => new "QueryName" [] encoded
  | .header name => new "Header" [quote name] false
  | .headerMap => path "HeaderMap"
  | .field name encoded => new "Field" [quote name] encoded
  | .fieldMap encoded => new "FieldMap" [] encoded
  | .part name => new "Part" [quote name] false
  | .partMap => path "PartMap"
  | .body => path "Body"
  | .custom d => path d.variant

/-- The expression of a marker. -/
def Marker.tokens : Marker → List Token
  | .directive d => d.tokens
  | .written expression => expression

/-- The calls that add markers to a declaration. -/
def Marker.additions (markers : List Marker) : List Token :=
  markers.flatMap fun m => send "annotate" [m.tokens]

/-! ## Declarations -/

namespace PlainTrait

/-- A trait without what means directives. -/
def tokens (t : PlainTrait) : List Token :=
  let methods := t.methods.flatMap fun (attributes, signature) =>
    Attribute.tokensOf attributes ++ signature.tokens ++ marks ";"
  Attribute.tokensOf t.attributes ++
    hashed (call [.word "allow"] [[.word "async_fn_in_trait"]]) ++
    t.visibility ++ words ["trait", t.name] ++ inside .brace methods

end PlainTrait

/-- A declared parameter. -/
def DeclaredParameter.tokens (p : DeclaredParameter) : List Token :=
  call (library ["ParameterDeclaration", "new"]) [quote p.name, quote p.type] ++
    Marker.additions p.markers

/-- A declared method. -/
def DeclaredMethod.tokens (m : DeclaredMethod) : List Token :=
  call (library ["MethodDeclaration", "new"]) [quote m.name] ++ Marker.additions m.markers ++
    (m.parameters.flatMap fun p => send "parameter" [p.tokens]) ++
    send "returns" [quote m.returns]

/-! ## Clients -/

/-- A method of a client. -/
def ClientMethod.tokens (m : ClientMethod) : List Token :=
  let handed := m.arguments.map fun name =>
    call (library ["to_argument"]) [reference [.word name]] ++ marks "?"
  let list := reference (inside .bracket (commas handed))
  let service := [.word "self"] ++ marks "." ++ [.word "service"]
  let body := if m.deferred then service ++ send "call_deferred" [quote m.name, list]
    else service ++ send "call" [quote m.name, list] ++ marks "." ++ [.word "await"]
  m.signature.tokens ++ inside .brace body

namespace InterfaceClient

/-- The type of a service that clients hand their calls to. -/
def serviceType : List Token := library ["GeneratedService"]

/-- The structure that stands for a client, and the method that shows its service. -/
def structureTokens (c : InterfaceClient) : List Token :=
  let doc := "Generated client for [`" ++ c.plain.name ++ "`]."
  let field := [.word "service"] ++ marks ":" ++ serviceType ++ marks ","
  let shown := hashed ([.word "doc"] ++ marks "=" ++
      [.literal "r\" The generated service backing this client.\""]) ++
    hashed [.word "must_use"] ++ words ["pub", "fn", "service"] ++
    inside .parenthesis (reference [.word "self"]) ++ marks "->" ++ reference serviceType ++
    inside .brace (reference ([.word "self"] ++ marks "." ++ [.word "service"]))
  hashed ([.word "doc"] ++ marks "=" ++ quote doc) ++
    hashed (call [.word "derive"] [[.word "Debug"], [.word "Clone"]]) ++
    c.plain.visibility ++ words ["struct", c.structureName] ++ inside .brace field ++
    words ["impl", c.structureName] ++ inside .brace shown

/-- The declaration of the service. -/
def declarationTokens (c : InterfaceClient) : List Token :=
  let service := call (library ["ServiceDeclaration", "new"]) [quote c.serviceName] ++
    c.declared.flatMap fun m => send "method" [m.tokens]
  let declaration := words ["fn", "declaration"] ++ inside .parenthesis [] ++ marks "->" ++
    library ["ServiceDeclaration"] ++ inside .brace service
  let ofService := words ["fn", "from_service"] ++
    inside .parenthesis ([.word "service"] ++ marks ":" ++ serviceType) ++ marks "->" ++
    [.word "Self"] ++ inside .brace ([.word "Self"] ++ inside .brace [.word "service"])
  [.word "impl"] ++ library ["ServiceInterface"] ++ words ["for", c.structureName] ++
    inside .brace (declaration ++ ofService)

/-- The methods of the client. -/
def methodTokens (c : InterfaceClient) : List Token :=
  words ["impl", c.plain.name, "for", c.structureName] ++
    inside .brace (c.methods.flatMap ClientMethod.tokens)

/-- All that is made from an interface. -/
def tokens (c : InterfaceClient) : List Token :=
  c.plain.tokens ++ c.structureTokens ++ c.declarationTokens ++ c.methodTokens

end InterfaceClient

end WebClient
