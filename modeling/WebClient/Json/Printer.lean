import WebClient.Json.Value
import WebClient.Text.Ascii
import WebClient.Decimal.Shortest

/-!
# Compact JSON text

The text of a value, without blanks.  In a string only the quote, the backslash
and the characters below U+0020 are escaped.  A floating-point number has the
fewest digits that read back; it is written positionally from `1e-5` to below
`1e16`, and one that is not finite is written as `null`.
-/

namespace WebClient.Json

/-- How floating-point numbers are written. -/
def floatLayout : Decimal.Layout where
  low := -5
  high := 16
  integral := ".0"
  positiveMark := "e+"
  negativeMark := "e-"
  notANumber := "null"
  infinity := "null"

/-- The text of a number. -/
def Number.render : Number → List Char
  | .integer n => (toString n).toList
  | .float x => if x.isInf then "null".toList else (floatLayout.write x).toList

/-- The letter after the backslash, for the characters that have one. -/
def escapeLetter? (c : Char) : Option Char :=
  if c = '"' then some '"'
  else if c = '\\' then some '\\'
  else if c = '\x08' then some 'b'
  else if c = '\x0c' then some 'f'
  else if c = '\n' then some 'n'
  else if c = '\r' then some 'r'
  else if c = '\t' then some 't'
  else none

/-- A character as it stands in a string. -/
def renderChar (c : Char) : List Char :=
  match escapeLetter? c with
  | some letter => ['\\', letter]
  | none =>
      if c.toNat < 0x20 then
        ['\\', 'u', '0', '0', Text.lowerHex (c.toNat / 16), Text.lowerHex (c.toNat % 16)]
      else [c]

/-- The text of a string, with its quotes. -/
def renderString (s : List Char) : List Char :=
  '"' :: s.flatMap renderChar ++ ['"']

mutual

/-- The text of a value. -/
def Value.render : Value → List Char
  | .null => ['n', 'u', 'l', 'l']
  | .bool true => ['t', 'r', 'u', 'e']
  | .bool false => ['f', 'a', 'l', 's', 'e']
  | .number n => n.render
  | .string s => renderString s.toList
  | .array items => '[' :: renderItems items ++ [']']
  | .object fields => '{' :: renderFields fields ++ ['}']

/-- The texts of the items of an array, with commas between them. -/
def renderItems : List Value → List Char
  | [] => []
  | item :: rest => item.render ++ renderMoreItems rest

/-- The texts of further items, each after a comma. -/
def renderMoreItems : List Value → List Char
  | [] => []
  | item :: rest => ',' :: item.render ++ renderMoreItems rest

/-- The texts of the fields of an object, with commas between them. -/
def renderFields : List (String × Value) → List Char
  | [] => []
  | (name, value) :: rest =>
      renderString name.toList ++ ':' :: value.render ++ renderMoreFields rest

/-- The texts of further fields, each after a comma. -/
def renderMoreFields : List (String × Value) → List Char
  | [] => []
  | (name, value) :: rest =>
      ',' :: renderString name.toList ++ ':' :: value.render ++ renderMoreFields rest

end

/-- The compact text of a value. -/
def Value.text (value : Value) : String := String.ofList value.render

/-- The UTF-8 bytes of the compact text of a value. -/
def Value.bytes (value : Value) : Bytes := Text.Utf8.encode value.render

end WebClient.Json
