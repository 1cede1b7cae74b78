import WebClient.Error
import WebClient.Text.Ascii

/-!
# Header fields on the wire

A field name is a non-empty token, written in small letters; a field value holds
no control character but the tab.
-/

namespace WebClient.Header

/-- The character may stand in a field name. -/
def isTokenChar (c : Char) : Bool :=
  c.isAlphanum || "!#$%&'*+-.^_\x60|~".toList.contains c

/-- The character may stand in a field value. -/
def isValueChar (c : Char) : Bool := c = '\t' || (0x20 ≤ c.toNat && c.toNat ≠ 0x7f)

/-- Length of the longest field name. -/
def maxNameLength : Nat := 65535

/-- A field as it is sent, or why it cannot be. -/
def onWire (name value : String) : Except RequestCause (String × String) :=
  let chars := name.toList
  if chars.isEmpty || maxNameLength < chars.length || !chars.all isTokenChar then
    .error .invalidHeaderName
  else if !value.toList.all isValueChar then .error .invalidHeaderValue
  else .ok (String.ofList (Text.lower chars), value)

/-- Fields as they are sent, or why the first that cannot be sent cannot be. -/
def allOnWire : List (String × String) → Except RequestCause (List (String × String))
  | [] => .ok []
  | (name, value) :: rest => do
      let field ← onWire name value
      return field :: (← allOnWire rest)

end WebClient.Header
