import WebClient.Text.Utf8

/-!
# JSON values

Numbers are integers or floating-point numbers; the fields of an object keep
the order in which they were first written.
-/

namespace WebClient.Json

/-- A number of a JSON text. -/
inductive Number where
  /-- A number written without fraction and exponent that fits 64 bits. -/
  | integer (n : Int)
  /-- Every other number. -/
  | float (x : Float)
  deriving BEq, Repr, Inhabited

/-- A JSON value. -/
inductive Value where
  | null
  | bool (b : Bool)
  | number (n : Number)
  | string (s : String)
  | array (items : List Value)
  | object (fields : List (String × Value))
  deriving BEq, Repr, Inhabited

/-- The integer fits an unsigned or a signed 64-bit word. -/
def fitsWord (n : Int) : Bool := -0x8000000000000000 ≤ n && n < 0x10000000000000000

namespace Value

/-- An integer as a value. -/
def int (n : Int) : Value := .number (.integer n)

/-- Set a field: a known name keeps its place and takes the new value. -/
def setField (name : String) (value : Value) :
    List (String × Value) → List (String × Value)
  | [] => [(name, value)]
  | (key, old) :: rest =>
      if key = name then (key, value) :: rest
      else (key, old) :: setField name value rest

/-- The value of the first field of a name. -/
def field? (name : String) : Value → Option Value
  | .object fields => fields.lookup name
  | _ => none

end Value

end WebClient.Json
