import WebClient.Interface.Method
import WebClient.Service.Declaration
import WebClient.Source.Scanner

/-!
# Interfaces

An interface is a trait whose methods declare a service.  The headers among the
attributes of the trait count for each of its methods.
-/

namespace WebClient

open Source (Token Trait)

/-- A trait whose methods declare a service. -/
structure Interface where
  source : Trait
  /-- The name of the service. -/
  name : String
  /-- The headers of every method. -/
  headers : List String
  methods : List InterfaceMethod

namespace Interface

/-- The headers among the attributes of a trait. -/
def sharedHeaders (t : Trait) : Except InterfaceError (List String) := do
  let lines ← (t.attributes.filter fun a => a.isNamed "headers").mapM Source.Attribute.texts
  return lines.flatten

/-- The method that a trait declares with one of its items. -/
def methodOfItem : Source.TraitItem → Except InterfaceError InterfaceMethod
  | .method m => InterfaceMethod.ofMethod m
  | .other _ => .error .notMethod

/-- The interface of a trait with its settings. -/
def ofTokens (settings item : List Token) : Except InterfaceError Interface := do
  match Trait.ofTokens? item with
  | none => throw .malformed
  | some t =>
      let name ← serviceName? settings
      if t.isGeneric then throw .genericTrait
      let headers ← sharedHeaders t
      let methods ← t.items.mapM methodOfItem
      return ⟨t, name.getD t.name, headers, methods⟩

/-- The tokens of a text. -/
def tokens (text : String) : Except InterfaceError (List Token) :=
  match Token.scan? text with
  | some tokens => .ok tokens
  | none => .error .unreadable

/-- The interface of a text with the text of its settings. -/
def ofText (settings item : String) : Except InterfaceError Interface := do
  ofTokens (← tokens settings) (← tokens item)

/-- The directives of a method, those of the trait first. -/
def markersOf (i : Interface) (m : InterfaceMethod) : List Marker :=
  (if i.headers.isEmpty then [] else [.directive (.headers i.headers)]) ++ m.markers

/-- A declared parameter; it has to be marked by directives alone. -/
def parameterDeclaration? (p : InterfaceParameter) : Option ParameterDeclaration := do
  let directives ← p.markers.mapM Marker.directive?
  return ⟨p.name, TypeName.ofText (Token.compact p.type.tokens), directives⟩

/-- A declared method; it has to be marked by directives alone. -/
def methodDeclaration? (i : Interface) (m : InterfaceMethod) : Option MethodDeclaration := do
  let directives ← (i.markersOf m).mapM Marker.directive?
  let parameters ← m.parameters.mapM parameterDeclaration?
  return ⟨m.signature.name, directives, parameters,
    TypeName.ofText (Token.compact m.answer.tokens)⟩

/-- The declared service, unless an expression stands for a directive. -/
def declaration? (i : Interface) : Option ServiceDeclaration := do
  return ⟨i.name, ← i.methods.mapM i.methodDeclaration?⟩

end Interface

end WebClient
