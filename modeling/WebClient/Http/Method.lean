import WebClient.Text.Ascii

/-!
# Request methods

The verbs a request can carry, with the names they have on the wire.
-/

namespace WebClient

/-- The verb of a request. -/
inductive Method where
  | get
  | post
  | put
  | delete
  | patch
  | head
  | options
  deriving DecidableEq, Repr, Inhabited

namespace Method

/-- Every verb. -/
def all : List Method := [.get, .post, .put, .delete, .patch, .head, .options]

/-- The name on the wire. -/
def name : Method → String
  | .get => "GET"
  | .post => "POST"
  | .put => "PUT"
  | .delete => "DELETE"
  | .patch => "PATCH"
  | .head => "HEAD"
  | .options => "OPTIONS"

/-- The name of the verb as a word. -/
def title : Method → String
  | .get => "Get"
  | .post => "Post"
  | .put => "Put"
  | .delete => "Delete"
  | .patch => "Patch"
  | .head => "Head"
  | .options => "Options"

/-- The verb of a name, whatever its ASCII case. -/
def ofName? (s : String) : Option Method :=
  all.find? fun method => Text.sameIgnoringCase method.name s

end Method

end WebClient
