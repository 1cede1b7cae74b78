import WebClient.Directive.Basic
import WebClient.TypeName

/-!
# Declarations

What is written down about a service: the methods in order, each with its
directives, its parameters and the type of its answer.
-/

namespace WebClient

/-- A declared parameter. -/
structure ParameterDeclaration where
  name : String
  type : TypeName
  directives : List Directive
  deriving DecidableEq, Repr

/-- A declared method. -/
structure MethodDeclaration where
  name : String
  directives : List Directive
  parameters : List ParameterDeclaration
  returns : TypeName
  deriving DecidableEq, Repr

/-- A declared service. -/
structure ServiceDeclaration where
  name : String
  methods : List MethodDeclaration
  deriving DecidableEq, Repr

end WebClient
