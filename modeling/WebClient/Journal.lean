/-!
# Journal

What the library reports while it works: events with a level, a message and
named fields, in the order in which they happen.  A span is an entry too; it
stands where the span is opened.
-/

namespace WebClient

/-- How much an entry of the journal matters. -/
inductive Level where
  | error
  | warn
  | info
  | debug
  | trace
  | span
  deriving DecidableEq, Repr, Inhabited

/-- The wording of a level. -/
def Level.text : Level → String
  | .error => "ERROR"
  | .warn => "WARN"
  | .info => "INFO"
  | .debug => "DEBUG"
  | .trace => "TRACE"
  | .span => "SPAN"

/-- The value of a field of an entry. -/
inductive FieldValue where
  | text (s : String)
  | number (n : Nat)
  | truth (b : Bool)
  deriving DecidableEq, Repr

/-- One entry of the journal. -/
structure Event where
  level : Level
  message : String
  fields : List (String × FieldValue)
  deriving DecidableEq, Repr

end WebClient
