import WebClient.Json.Fault

/-!
# Data as JSON values

The plain data that arguments are made of, and the JSON value of each.  Data can
fail to have one: an integer may need more than 64 bits, and a table may have
keys that are no texts.
-/

namespace WebClient.Json

/-- Plain data. -/
inductive Data where
  | unit
  | bool (b : Bool)
  | integer (n : Int)
  /-- A floating-point number of half the usual width. -/
  | single (x : Float32)
  | double (x : Float)
  | char (c : Char)
  | string (s : String)
  | bytes (b : Bytes)
  /-- Items in a row, as lists and tuples have. -/
  | list (items : List Data)
  /-- Nothing, or something that stands for itself. -/
  | option (content : Option Data)
  | record (fields : List (String × Data))
  /-- A variant, with or without a payload. -/
  | variant (name : String) (payload : Option Data)
  | table (entries : List (Data × Data))
  deriving Inhabited

namespace Data

/-- A floating-point number; one that is not finite has no number in JSON. -/
def ofFloat (x : Float) : Value := if x.isFinite then .number (.float x) else .null

/-- An integer, where it fits. -/
def ofInteger (n : Int) : Except Flaw Value :=
  if fitsWord n then .ok (.int n) else .error .numberOutOfRange

/-- The text of a key of a table. -/
def keyText : Data → Except Flaw String
  | .string s => .ok s
  | .char c => .ok (String.singleton c)
  | .integer n => .ok (toString n)
  | .bool b => .ok (toString b)
  | .variant name none => .ok name
  | _ => .error .keyMustBeString

mutual

/-- The JSON value of data. -/
def toValue : Data → Except Flaw Value
  | .unit => .ok .null
  | .bool b => .ok (.bool b)
  | .integer n => ofInteger n
  | .single x => .ok (ofFloat x.toFloat)
  | .double x => .ok (ofFloat x)
  | .char c => .ok (.string (String.singleton c))
  | .string s => .ok (.string s)
  | .bytes b => .ok (.array (b.map fun x => .int x.toNat))
  | .list items => (listValues items).map .array
  | .option none => .ok .null
  | .option (some d) => d.toValue
  | .record fields => (fieldValues fields).map .object
  | .variant name none => .ok (.string name)
  | .variant name (some d) => d.toValue.map fun value => .object [(name, value)]
  | .table entries => (entryValues [] entries).map .object

/-- The JSON values of items in a row. -/
def listValues : List Data → Except Flaw (List Value)
  | [] => .ok []
  | d :: rest => do return (← d.toValue) :: (← listValues rest)

/-- The JSON values of the fields of a record. -/
def fieldValues : List (String × Data) → Except Flaw (List (String × Value))
  | [] => .ok []
  | (name, d) :: rest => do return (name, ← d.toValue) :: (← fieldValues rest)

/-- The JSON values of the entries of a table, after the given ones. -/
def entryValues (known : List (String × Value)) :
    List (Data × Data) → Except Flaw (List (String × Value))
  | [] => .ok known
  | (key, d) :: rest => do
      let name ← key.keyText
      entryValues (Value.setField name (← d.toValue) known) rest

end

/-- The JSON text of data, as bytes. -/
def toBytes (d : Data) : Except Flaw Bytes := d.toValue.map Value.bytes

end Data

end WebClient.Json
