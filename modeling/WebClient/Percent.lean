import WebClient.Text.Ascii
import WebClient.Text.Utf8

/-!
# Percent-encoding

A text is encoded character by character: a character that a place keeps stands
for itself, and every other one is written as its UTF-8 bytes, each as a percent
sign and two capital hexadecimal digits.  Decoding reads such escapes of either
case and takes everything else as it stands.
-/

namespace WebClient.Percent

open Text (isAscii isControl upperHex hexValue?)

/-- The escape of one byte. -/
def escape (b : UInt8) : List Char :=
  ['%', upperHex (b.toNat / 16), upperHex (b.toNat % 16)]

/-- A character in a place that keeps some characters. -/
def encodeChar (keeps : Char → Bool) (c : Char) : List Char :=
  if keeps c then [c] else (Text.Utf8.encodeChar c).flatMap escape

/-- A text in a place that keeps some characters. -/
def encode (keeps : Char → Bool) (s : List Char) : List Char := s.flatMap (encodeChar keeps)

/-- The bytes of a text whose escapes are undone. -/
def decode : List Char → Bytes
  | '%' :: h :: l :: rest =>
      match hexValue? h, hexValue? l with
      | some high, some low => UInt8.ofNat (high * 16 + low) :: decode rest
      | _, _ => 0x25 :: decode (h :: l :: rest)
  | c :: rest => Text.Utf8.encodeChar c ++ decode rest
  | [] => []

/-- The characters that need no escape in any component of a URL. -/
def isUnreserved (c : Char) : Bool :=
  c.isAlphanum || c = '-' || c = '.' || c = '_' || c = '~'

/-- The characters that stand for themselves inside one segment of a path. -/
def isSegmentChar (c : Char) : Bool :=
  isAscii c && !isControl c &&
    !(c = ' ' || c = '"' || c = '#' || c = '<' || c = '>' || c = '\x60' || c = '?' ||
      c = '{' || c = '}' || c = '/' || c = '\\' || c = '%')

/-- Encode a name or a value of a query or a form. -/
def component (s : String) : String := String.ofList (encode isUnreserved s.toList)

/-- Encode the text of one segment of a path. -/
def segment (s : String) : String := String.ofList (encode isSegmentChar s.toList)

/-! ## The places of a URL -/

/-- The characters kept in a bare path. -/
def isPlain (c : Char) : Bool := isAscii c && !isControl c

/-- The characters kept in a fragment. -/
def isFragmentChar (c : Char) : Bool :=
  isPlain c && !(c = ' ' || c = '"' || c = '<' || c = '>' || c = '\x60')

/-- The characters kept in a path; an escape is kept as it is. -/
def isPathChar (c : Char) : Bool :=
  isFragmentChar c && !(c = '#' || c = '?' || c = '{' || c = '}')

/-- The characters kept in the user name and the password. -/
def isUserChar (c : Char) : Bool :=
  isPathChar c &&
    !(c = '/' || c = ':' || c = ';' || c = '=' || c = '@' || c = '[' || c = '\\' || c = ']' ||
      c = '^' || c = '|')

/-- The characters kept in a query; the apostrophe only where the scheme is not a
special one. -/
def isQueryChar (special : Bool) (c : Char) : Bool :=
  isPlain c &&
    !(c = ' ' || c = '"' || c = '#' || c = '<' || c = '>' || (special && c = '\''))

end WebClient.Percent
