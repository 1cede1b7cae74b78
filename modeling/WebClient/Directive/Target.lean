/-!
# Where directives stand and what they convert

Directives and their handlers meet under the name of a variant.  A directive
belongs on a method or on a parameter, and may ask for one capability of a
converter.
-/

namespace WebClient

/-- The name under which directives and their handlers meet. -/
abbrev Variant := String

/-- What a directive is declared on. -/
inductive Target where
  | method
  | parameter
  deriving DecidableEq, Repr

/-- The wording of a target. -/
def Target.text : Target → String
  | .method => "method"
  | .parameter => "parameter"

/-- What a converter converts to or from. -/
inductive Capability where
  | string
  | requestBody
  | responseBody
  deriving DecidableEq, Repr

/-- The wording of a capability. -/
def Capability.text : Capability → String
  | .string => "string"
  | .requestBody => "request body"
  | .responseBody => "response body"

/-- The wording of a converter of a capability, or of none. -/
def Capability.describe : Option Capability → String
  | some capability => s!"{capability.text} converter"
  | none => "no converter"

end WebClient
