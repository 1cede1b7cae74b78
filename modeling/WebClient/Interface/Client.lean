import WebClient.Interface.Basic

/-!
# The client of an interface

From an interface four things are made: the trait without what means directives, a
structure that stands for the client, the declaration of the service, and the methods of
the client, which hand their arguments on under the names of the declaration.
-/

namespace WebClient

open Source (Attribute Signature Token)

/-- The trait without what means directives. -/
structure PlainTrait where
  attributes : List Attribute
  visibility : List Token
  name : String
  methods : List (List Attribute × Signature)

/-- A parameter as it is declared. -/
structure DeclaredParameter where
  name : String
  type : String
  markers : List Marker

/-- A method as it is declared. -/
structure DeclaredMethod where
  name : String
  markers : List Marker
  parameters : List DeclaredParameter
  returns : String

/-- A method of a client. -/
structure ClientMethod where
  signature : Signature
  /-- The name that the arguments are handed on under. -/
  name : String
  arguments : List String
  /-- The answer is handed back before it is there. -/
  deferred : Bool

/-- What is made from an interface. -/
structure InterfaceClient where
  plain : PlainTrait
  /-- The name of the structure that stands for the client. -/
  structureName : String
  serviceName : String
  declared : List DeclaredMethod
  methods : List ClientMethod

namespace Interface

/-- The attributes of a trait that stay: documentation, allowances and conditions. -/
def keepsAttribute (a : Attribute) : Bool := ["doc", "allow", "cfg"].any a.isNamed

/-- The trait without what means directives. -/
def plainTrait (i : Interface) : PlainTrait where
  attributes := i.source.attributes.filter keepsAttribute
  visibility := i.source.visibility
  name := i.source.name
  methods := i.methods.map fun m => (m.attributes, m.plainSignature)

/-- A parameter as it is declared. -/
def declaredParameter (p : InterfaceParameter) : DeclaredParameter :=
  ⟨p.name, Token.compact p.type.tokens, p.markers⟩

/-- A method as it is declared. -/
def declaredMethod (i : Interface) (m : InterfaceMethod) : DeclaredMethod where
  name := m.signature.name
  markers := i.markersOf m
  parameters := m.parameters.map declaredParameter
  returns := Token.compact m.answer.tokens

/-- A method of the client: it hands on its parameters. -/
def clientMethod (m : InterfaceMethod) : ClientMethod where
  signature := m.plainSignature
  name := m.signature.name
  arguments := m.parameters.map InterfaceParameter.name
  deferred := m.deferred

/-- A name without the mark of a name that is also a keyword. -/
def bareName (name : String) : String :=
  match name.toList with
  | 'r' :: '#' :: rest => String.ofList rest
  | _ => name

/-- What is made from an interface. -/
def client (i : Interface) : InterfaceClient where
  plain := i.plainTrait
  structureName := bareName i.source.name ++ "Client"
  serviceName := i.name
  declared := i.methods.map i.declaredMethod
  methods := i.methods.map clientMethod

end Interface

end WebClient
