import WebClient.Json.Value

/-!
# Looking into values

Readers of the fields of an object.  A field that is `null` counts as absent.
-/

namespace WebClient.Json.Value

/-- The text that a value is. -/
def asText? : Value → Option String
  | .string s => some s
  | _ => none

/-- The natural number that a value is. -/
def asNat? : Value → Option Nat
  | .number (.integer n) => if 0 ≤ n then some n.toNat else none
  | _ => none

/-- The items of the array that a value is. -/
def asItems? : Value → Option (List Value)
  | .array items => some items
  | _ => none

/-- A field that is there. -/
def get? (v : Value) (name : String) : Option Value :=
  match v.field? name with
  | some .null => none
  | found => found

/-- A field that is a text. -/
def text? (v : Value) (name : String) : Option String := (v.get? name).bind asText?

/-- A field that is a natural number. -/
def nat? (v : Value) (name : String) : Option Nat := (v.get? name).bind asNat?

/-- A field that is an array; an absent one is empty. -/
def items? (v : Value) (name : String) : Option (List Value) :=
  match v.get? name with
  | none => some []
  | some items => items.asItems?

/-- A field that is true. -/
def flag (v : Value) (name : String) : Bool :=
  match v.get? name with
  | some (.bool b) => b
  | _ => false

/-- A field that may be absent, but is readable where it is there. -/
def optional? {α : Type} (read : Value → Option α) (v : Value) (name : String) :
    Option (Option α) :=
  match v.get? name with
  | none => some none
  | some found => (read found).map some

/-- The items of an array field, each of which is readable. -/
def each? {α : Type} (read : Value → Option α) (v : Value) (name : String) :
    Option (List α) :=
  (v.items? name).bind fun items => items.mapM read

/-- Two texts in an array. -/
def asPair? : Value → Option (String × String)
  | .array [.string a, .string b] => some (a, b)
  | _ => none

end WebClient.Json.Value
