/-!
# ASCII classes and lists of characters

Case folding, hexadecimal digits and the cuts of a list of characters that the
formats of this library are described with.  Every class here is an ASCII
class: a character above U+007F belongs to none of them.
-/

namespace WebClient.Text

/-- The character is one of the 128 ASCII characters. -/
def isAscii (c : Char) : Bool := c.toNat < 0x80

/-- The character is an ASCII control character. -/
def isControl (c : Char) : Bool := c.toNat < 0x20 || c.toNat == 0x7f

/-- Fold the ASCII capitals of a text to small letters. -/
def lower (s : List Char) : List Char := s.map Char.toLower

/-- Fold the ASCII small letters of a text to capitals. -/
def upper (s : List Char) : List Char := s.map Char.toUpper

/-- Two texts agree once ASCII case is folded away. -/
def sameIgnoringCase (a b : String) : Bool := lower a.toList == lower b.toList

/-- The capital hexadecimal digit of a value below sixteen. -/
def upperHex (n : Nat) : Char :=
  if n < 10 then Char.ofNat (48 + n) else Char.ofNat (55 + n)

/-- The small hexadecimal digit of a value below sixteen. -/
def lowerHex (n : Nat) : Char :=
  if n < 10 then Char.ofNat (48 + n) else Char.ofNat (87 + n)

/-- The value of a hexadecimal digit of either case. -/
def hexValue? (c : Char) : Option Nat :=
  if '0' ≤ c ∧ c ≤ '9' then some (c.toNat - 48)
  else if 'A' ≤ c ∧ c ≤ 'F' then some (c.toNat - 55)
  else if 'a' ≤ c ∧ c ≤ 'f' then some (c.toNat - 87)
  else none

/-- The small hexadecimal numeral of a number, without leading zeros. -/
def hexNumeral (n : Nat) : List Char := Nat.toDigits 16 n

/-- The part before the first character of a class, and the part after it. -/
def splitOnce? (p : Char → Bool) : List Char → Option (List Char × List Char)
  | [] => none
  | c :: rest =>
      if p c then some ([], rest)
      else (splitOnce? p rest).map fun (head, tail) => (c :: head, tail)

/-- The pieces between the characters of a class; there is always one. -/
def splitAll (p : Char → Bool) : List Char → List (List Char)
  | [] => [[]]
  | c :: rest =>
      if p c then [] :: splitAll p rest
      else
        match splitAll p rest with
        | [] => [[c]]
        | piece :: pieces => (c :: piece) :: pieces

/-- Drop the last characters of a text while they belong to a class. -/
def dropTrailing (p : Char → Bool) : List Char → List Char
  | [] => []
  | c :: rest =>
      match dropTrailing p rest with
      | [] => if p c then [] else [c]
      | kept => c :: kept

/-- Drop the characters of a class from both ends of a text. -/
def trimBoth (p : Char → Bool) (s : List Char) : List Char :=
  dropTrailing p (s.dropWhile p)

/-- The rest of a text after a literal beginning. -/
def stripStart? : List Char → List Char → Option (List Char)
  | [], s => some s
  | _ :: _, [] => none
  | p :: ps, c :: s => if p = c then stripStart? ps s else none

/-- The pieces of a text, with a separator between them. -/
def join (sep : List Char) : List (List Char) → List Char
  | [] => []
  | [piece] => piece
  | piece :: pieces => piece ++ sep ++ join sep pieces

/-- Put a value in the place of every token of a text, from left to right; the
token is not empty, and a value is not searched again. -/
def replaceAll (token value : List Char) (s : List Char) : List Char :=
  go 0 s
where
  /-- Skip what is left of a token that has been replaced. -/
  go : Nat → List Char → List Char
    | _, [] => []
    | skip + 1, _ :: rest => go skip rest
    | 0, c :: rest =>
        if token.isPrefixOf (c :: rest) then value ++ go (token.length - 1) rest
        else c :: go 0 rest

end WebClient.Text
