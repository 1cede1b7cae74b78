import WebClient.Json.Schema
import WebClient.TypeName

/-!
# Schemas of types

The schema of a type by its name: of the basic types, of lists, optional values and
tables, and of whatever types are named besides.
-/

namespace WebClient.Json.Schema

/-- The number of bits of an integer type, by the digits of its name. -/
def bits? (digits : List Char) : Option Nat :=
  [8, 16, 32, 64, 128].find? fun n => (toString n).toList = digits

/-- The schema of a type without anything given to it. -/
def ofBasic? (name : String) : Option Schema :=
  match name with
  | "()" => some .unit
  | "bool" => some .bool
  | "f64" => some .double
  | "String" | "&str" => some .string
  | _ =>
      match name.toList with
      | 'u' :: digits => (bits? digits).map .unsigned
      | 'i' :: digits => (bits? digits).map .signed
      | _ => none

/-- The text between a beginning and a closing angle bracket. -/
def within? (start : String) (name : List Char) : Option (List Char) := do
  let rest ← Text.stripStart? start.toList name
  if rest.getLast? = some '>' then some rest.dropLast else none

/-- The schema of a type, given those of named types; `depth` bounds how deeply types are
given to each other. -/
def ofName? (named : String → Option Schema) : Nat → List Char → Option Schema
  | 0, _ => none
  | depth + 1, name =>
      match within? "Vec<" name, within? "Option<" name, within? "BTreeMap<String," name with
      | some item, _, _ => (ofName? named depth item).map .list
      | _, some item, _ => (ofName? named depth item).map .optional
      | _, _, some item => (ofName? named depth item).map .table
      | none, none, none =>
          let name := String.ofList name
          (named name).or (ofBasic? name)

/-- The schema of a type, given those of named types. -/
def ofType? (named : String → Option Schema) (type : TypeName) : Option Schema :=
  ofName? named (type.text.length + 1) type.text.toList

end WebClient.Json.Schema
