import WebClient.Service.Method

/-!
# Definitions

A service whose declaration has been resolved: its base URL and its methods in
the order of the declaration.
-/

namespace WebClient

/-- A resolved service. -/
structure ServiceDefinition where
  name : String
  base : Url
  methods : List ServiceMethod

namespace ServiceDefinition

/-- The first method of a name. -/
def method? (d : ServiceDefinition) (name : String) : Option ServiceMethod :=
  d.methods.find? fun m => m.name = name

/-- The lines that list a service, with an empty line in front of each method. -/
def listing (d : ServiceDefinition) : String :=
  s!"service {d.name} @ {d.base.text}\n" ++ String.join (d.methods.map fun m => "\n" ++ m.listing)

end ServiceDefinition

end WebClient
