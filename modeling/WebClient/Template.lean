import WebClient.Text.Ascii

/-!
# Path templates

A template is a relative path in which names in braces stand for values.  An
opening brace is paired with the next closing one; a pair with nothing inside
names no value, and neither does an opening brace that is never closed.
-/

namespace WebClient

/-- A relative path with names in braces. -/
structure Template where
  text : String
  deriving DecidableEq, Repr, Inhabited

namespace Template

/-- Nothing stands in the template. -/
def isEmpty (t : Template) : Bool := t.text.isEmpty

/-- The texts between paired braces, in order, the empty ones included. -/
def scan : List Char → List (List Char)
  | [] => []
  | c :: rest => if c = '{' then collect [] rest else scan rest
where
  /-- Read a text up to the closing brace; `read` holds its beginning, last
  character first. -/
  collect (read : List Char) : List Char → List (List Char)
    | [] => []
    | c :: rest => if c = '}' then read.reverse :: scan rest else collect (c :: read) rest

/-- The names of the values, in order. -/
def placeholders (t : Template) : List String :=
  ((scan t.text.toList).filter fun name => !name.isEmpty).map String.ofList

/-- The token that stands for a value. -/
def token (name : String) : List Char := '{' :: name.toList ++ ['}']

end Template

end WebClient
