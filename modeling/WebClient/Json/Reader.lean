import WebClient.Json.Fault

/-!
# Reading JSON

`Value.read` takes one value off the front of a sequence of bytes and leaves the
rest unread.  Blanks may stand in front of every token.  Arrays and objects nest
up to a given number of levels.  A number without fraction and exponent that
fits 64 bits is an integer; every other one, and `-0`, is a floating-point
number, computed from at most twenty leading digits with one multiplication or
division by a power of ten.
-/

namespace WebClient.Json

/-- A reader takes an item off the front of the input. -/
abbrev Reader (α : Type) := Bytes → Except Fault (α × Bytes)

/-- The code of an ASCII character. -/
def byte (c : Char) : UInt8 := UInt8.ofNat c.toNat

/-- The byte is a blank of a JSON text. -/
def isSpace (b : UInt8) : Bool := b = 0x20 || b = 0x09 || b = 0x0a || b = 0x0d

/-- Skip the blanks in front of a token. -/
def skipSpace (s : Bytes) : Bytes := s.dropWhile isSpace

/-- The byte is an ASCII digit. -/
def isDigit (b : UInt8) : Bool := 0x30 ≤ b && b ≤ 0x39

/-- The value of an ASCII digit. -/
def digitValue (b : UInt8) : Nat := b.toNat - 0x30

/-! ## Words and numbers -/

/-- Read the rest of a word. -/
def readWord : Bytes → Bytes → Except Fault Bytes
  | [], s => .ok s
  | _ :: _, [] => .error (Flaw.eofInValue.here [])
  | w :: word, b :: s => if b = w then readWord word s else .error (Flaw.expectedWord.here s)

/-- The power of ten with a small exponent, as a floating-point number. -/
def powerOfTen (n : Nat) : Float := Float.ofScientific 1 false n

/-- Divide by `1e308` until the exponent is at least `-308`; a value that has
become zero stays zero. -/
def scaleDown : Nat → Float → Int → Float
  | 0, x, _ => x
  | fuel + 1, x, exponent =>
      if -308 ≤ exponent then x / powerOfTen exponent.natAbs
      else if x == 0.0 then x
      else scaleDown fuel (x / powerOfTen 308) (exponent + 308)

/-- The floating-point number with the given leading digits and power of ten, or
`none` where it is out of range. -/
def scale? (significand : Nat) (exponent : Int) : Option Float :=
  let x := significand.toUInt64.toFloat
  if 0 ≤ exponent then
    if exponent ≤ 308 then
      let y := x * powerOfTen exponent.toNat
      if y.isInf then none else some y
    else if x == 0.0 then some x
    else none
  else some (scaleDown (exponent.natAbs / 308 + 1) x exponent)

/-- Give a floating-point number its sign. -/
def signed (negative : Bool) (x : Float) : Number := .float (if negative then -x else x)

/-- Finish a floating-point number in front of the unread input. -/
def finishFloat (negative : Bool) (significand : Nat) (exponent : Int) (s : Bytes) :
    Except Fault (Number × Bytes) :=
  match scale? significand exponent with
  | some x => .ok (signed negative x, s)
  | none => .error (Flaw.numberOutOfRange.here s)

/-- An exponent is a 32-bit word; a sum that does not fit stops at its bound. -/
def clampExponent (n : Int) : Int := max (-0x80000000) (min 0x7fffffff n)

/-- Read the further digits of an exponent. -/
def readExponentDigits (negative : Bool) (significand : Nat) (start : Int) (down : Bool)
    (exponent : Nat) : Bytes → Except Fault (Number × Bytes)
  | [] => finish []
  | b :: s =>
      if isDigit b then
        let next := exponent * 10 + digitValue b
        if 0x80000000 ≤ next then
          if significand ≠ 0 && !down then .error (Flaw.numberOutOfRange.here s)
          else .ok (signed negative 0.0, s.dropWhile isDigit)
        else readExponentDigits negative significand start down next s
      else finish (b :: s)
where
  finish (s : Bytes) : Except Fault (Number × Bytes) :=
    let final := if down then start - exponent else start + exponent
    finishFloat negative significand (clampExponent final) s

/-- Read an exponent after its letter. -/
def readExponent (negative : Bool) (significand : Nat) (start : Int) (s : Bytes) :
    Except Fault (Number × Bytes) :=
  let (down, s) :=
    match s with
    | b :: rest => if b = byte '+' then (false, rest) else if b = byte '-' then (true, rest)
      else (false, s)
    | [] => (false, [])
  match s with
  | [] => .error (Flaw.eofInValue.here [])
  | b :: rest =>
      if isDigit b then
        readExponentDigits negative significand start down (digitValue b) rest
      else .error (Flaw.invalidNumber.here rest)

/-- Read an exponent, if there is one, after the digits of a number. -/
def readOptionalExponent (negative : Bool) (significand : Nat) (exponent : Int) :
    Bytes → Except Fault (Number × Bytes)
  | [] => finishFloat negative significand exponent []
  | b :: s =>
      if b = byte 'e' || b = byte 'E' then readExponent negative significand exponent s
      else finishFloat negative significand exponent (b :: s)

/-- Read the digits after a decimal point.  Digits that no longer fit the 64-bit
significand are skipped. -/
def readFraction (negative : Bool) (significand : Nat) (before : Int) (places : Nat) :
    Bytes → Except Fault (Number × Bytes)
  | [] =>
      if places = 0 then .error (Flaw.eofInValue.next [])
      else finishFloat negative significand (before - places) []
  | b :: s =>
      if isDigit b then
        let next := significand * 10 + digitValue b
        if 0x10000000000000000 ≤ next then
          readOptionalExponent negative significand (before - places) (s.dropWhile isDigit)
        else readFraction negative next before (places + 1) s
      else if places = 0 then .error (Flaw.invalidNumber.next (b :: s))
      else readOptionalExponent negative significand (before - places) (b :: s)

/-- Read the digits of an integral part that no longer fit the significand. -/
def readLongInteger (negative : Bool) (significand : Nat) (exponent : Nat) :
    Bytes → Except Fault (Number × Bytes)
  | [] => finishFloat negative significand exponent []
  | b :: s =>
      if isDigit b then readLongInteger negative significand (exponent + 1) s
      else if b = byte '.' then readFraction negative significand exponent 0 s
      else readOptionalExponent negative significand exponent (b :: s)

/-- Finish a number whose integral part is read. -/
def finishInteger (negative : Bool) (significand : Nat) (s : Bytes) :
    Except Fault (Number × Bytes) :=
  let integer : Number :=
    if negative then
      if significand = 0 || 0x8000000000000000 < significand then
        signed true significand.toUInt64.toFloat
      else .integer (-significand)
    else .integer significand
  match s with
  | [] => .ok (integer, [])
  | b :: rest =>
      if b = byte '.' then readFraction negative significand 0 0 rest
      else if b = byte 'e' || b = byte 'E' then readExponent negative significand 0 rest
      else .ok (integer, s)

/-- Read the further digits of an integral part. -/
def readDigits (negative : Bool) (significand : Nat) :
    Bytes → Except Fault (Number × Bytes)
  | [] => finishInteger negative significand []
  | b :: s =>
      if isDigit b then
        let next := significand * 10 + digitValue b
        if 0x10000000000000000 ≤ next then readLongInteger negative significand 0 (b :: s)
        else readDigits negative next s
      else finishInteger negative significand (b :: s)

/-- Read a number after its sign. -/
def readNumber (negative : Bool) : Reader Number
  | [] => .error (Flaw.eofInValue.here [])
  | b :: s =>
      if b = byte '0' then
        match s with
        | [] => finishInteger negative 0 []
        | c :: rest =>
            if isDigit c then .error (Flaw.invalidNumber.next (c :: rest))
            else finishInteger negative 0 (c :: rest)
      else if isDigit b then readDigits negative (digitValue b) s
      else .error (Flaw.invalidNumber.here s)

/-! ## Strings -/

/-- The value of four hexadecimal digits. -/
def hexWord? (a b c d : UInt8) : Option Nat := do
  let digit (x : UInt8) := Text.hexValue? (Char.ofNat x.toNat)
  return (← digit a) * 4096 + (← digit b) * 256 + (← digit c) * 16 + (← digit d)

/-- The byte that an escape letter stands for. -/
def unescapeLetter? (b : UInt8) : Option UInt8 :=
  if b = byte '"' then some 0x22
  else if b = byte '\\' then some 0x5c
  else if b = byte '/' then some 0x2f
  else if b = byte 'b' then some 0x08
  else if b = byte 'f' then some 0x0c
  else if b = byte 'n' then some 0x0a
  else if b = byte 'r' then some 0x0d
  else if b = byte 't' then some 0x09
  else none

/-- Put bytes in front of those of the rest of a string. -/
def pushBytes (bytes : Bytes) : Except Fault (Bytes × Bytes) → Except Fault (Bytes × Bytes) :=
  Except.map fun (more, rest) => (bytes ++ more, rest)

/-- Check the bytes of a string up to its next quote or backslash, where that is
what ends them: they must be UTF-8. -/
def checkRun (s : Bytes) : Except Fault Unit :=
  let isPlain (b : UInt8) : Bool := b ≠ byte '"' && b ≠ byte '\\' && 0x20 ≤ b
  match s.dropWhile isPlain with
  | [] => .ok ()
  | b :: _ =>
      if b < 0x20 then .ok ()
      else
        match Text.Utf8.decode (s.takeWhile isPlain) with
        | .ok _ => .ok ()
        | .error fault => .error (Flaw.invalidCodePoint.next (s.drop fault.validUpTo))

/-- Check the run of bytes in front, and read on with it. -/
def afterCheck (s : Bytes) (read : Except Fault (Bytes × Bytes)) :
    Except Fault (Bytes × Bytes) :=
  (checkRun s).bind fun _ => read

/-- The bytes of a string after its opening quote, up to the closing quote, which
stays unread. -/
def readStringBytes : Bytes → Except Fault (Bytes × Bytes)
  | [] => .error (Flaw.eofInString.here [])
  | b :: s =>
      if b = byte '"' then .ok ([], b :: s)
      else if b = byte '\\' then
        match s with
        | [] => .error (Flaw.eofInString.here [])
        | e :: s =>
            if e = byte 'u' then
              match s with
              | h₁ :: h₂ :: h₃ :: h₄ :: s =>
                  match hexWord? h₁ h₂ h₃ h₄ with
                  | none => .error (Flaw.invalidEscape.here s)
                  | some n =>
                      if n < 0xd800 || 0xdfff < n then
                        pushBytes (Text.Utf8.encodeChar (Char.ofNat n))
                          (afterCheck s (readStringBytes s))
                      else if 0xdc00 ≤ n then .error (Flaw.loneSurrogate.here s)
                      else
                        match s with
                        | [] => .error (Flaw.eofInString.here [])
                        | x :: s =>
                            if x ≠ byte '\\' then .error (Flaw.unfinishedSurrogatePair.here s)
                            else
                              match s with
                              | [] => .error (Flaw.eofInString.here [])
                              | y :: s =>
                                  if y ≠ byte 'u' then
                                    .error (Flaw.unfinishedSurrogatePair.here s)
                                  else
                                    match s with
                                    | l₁ :: l₂ :: l₃ :: l₄ :: s =>
                                        match hexWord? l₁ l₂ l₃ l₄ with
                                        | none => .error (Flaw.invalidEscape.here s)
                                        | some m =>
                                            if m < 0xdc00 || 0xdfff < m then
                                              .error (Flaw.loneSurrogate.here s)
                                            else
                                              let c := Char.ofNat
                                                (0x10000 + (n - 0xd800) * 1024 + (m - 0xdc00))
                                              pushBytes (Text.Utf8.encodeChar c)
                                                (afterCheck s (readStringBytes s))
                                    | _ => .error (Flaw.eofInString.here [])
              | _ => .error (Flaw.eofInString.here [])
            else
              match unescapeLetter? e with
              | some c => pushBytes [c] (afterCheck s (readStringBytes s))
              | none => .error (Flaw.invalidEscape.here s)
      else if b < 0x20 then .error (Flaw.controlCharacter.here s)
      else pushBytes [b] (readStringBytes s)

/-- Read a string after its opening quote. -/
def readString : Reader String := fun s => do
  let (bytes, rest) ← afterCheck s (readStringBytes s)
  match Text.ofBytes bytes with
  | .ok text => .ok (text, rest.drop 1)
  | .error _ => .error (Flaw.invalidCodePoint.here rest)

/-! ## Arrays and objects -/

/-- Go to the next item of an array: `none` at the closing bracket, which stays
unread, and otherwise the input in front of the item. -/
def nextItem? (first : Bool) (s : Bytes) : Except Fault (Option Bytes) :=
  match skipSpace s with
  | [] => .error (Flaw.eofInList.next [])
  | b :: rest =>
      if b = byte ']' then .ok none
      else if first then .ok (some (b :: rest))
      else if b = byte ',' then
        match skipSpace rest with
        | [] => .error (Flaw.eofInValue.next [])
        | c :: more =>
            if c = byte ']' then .error (Flaw.trailingComma.next (c :: more))
            else .ok (some (c :: more))
      else .error (Flaw.expectedCommaOrBracket.next (b :: rest))

/-- The input after the closing bracket of an array. -/
def closeList (s : Bytes) : Except Fault Bytes :=
  match skipSpace s with
  | [] => .error (Flaw.eofInList.next [])
  | b :: rest =>
      if b = byte ']' then .ok rest
      else if b = byte ',' then
        match skipSpace rest with
        | [] => .error (Flaw.trailingCharacters.next [])
        | c :: more =>
            if c = byte ']' then .error (Flaw.trailingComma.next (c :: more))
            else .error (Flaw.trailingCharacters.next (c :: more))
      else .error (Flaw.trailingCharacters.next (b :: rest))

/-- Go to the name of the next field of an object: `none` at the closing brace,
which stays unread, and otherwise the input after the opening quote. -/
def nextName? (first : Bool) (s : Bytes) : Except Fault (Option Bytes) :=
  match skipSpace s with
  | [] => .error (Flaw.eofInObject.next [])
  | b :: rest =>
      if b = byte '}' then .ok none
      else if first then
        if b = byte '"' then .ok (some rest)
        else .error (Flaw.keyMustBeString.next (b :: rest))
      else if b = byte ',' then
        match skipSpace rest with
        | [] => .error (Flaw.eofInValue.next [])
        | c :: more =>
            if c = byte '"' then .ok (some more)
            else if c = byte '}' then .error (Flaw.trailingComma.next (c :: more))
            else .error (Flaw.keyMustBeString.next (c :: more))
      else .error (Flaw.expectedCommaOrBrace.next (b :: rest))

/-- The input after the closing brace of an object. -/
def closeObject (s : Bytes) : Except Fault Bytes :=
  match skipSpace s with
  | [] => .error (Flaw.eofInObject.next [])
  | b :: rest =>
      if b = byte '}' then .ok rest
      else if b = byte ',' then .error (Flaw.trailingComma.next (b :: rest))
      else .error (Flaw.trailingCharacters.next (b :: rest))

/-- The input after the colon behind a name. -/
def readColon (s : Bytes) : Except Fault Bytes :=
  match skipSpace s with
  | [] => .error (Flaw.eofInObject.next [])
  | b :: rest =>
      if b = byte ':' then .ok rest else .error (Flaw.expectedColon.next (b :: rest))

/-- Place the faults of a part below a step. -/
def below {α : Type} (step : Step) : Except Fault α → Except Fault α :=
  Except.mapError (Fault.under step)

/-- Read the name of a field after its opening quote; before it is known, faults
are at an unknown place of the object. -/
def readName (first : Bool) (s : Bytes) : Except Fault (Option (String × Bytes)) :=
  below .unknown do
    match ← nextName? first s with
    | none => return none
    | some s => return some (← readString s)

/-- Read the items of an array up to the closing bracket, which stays unread. -/
def readItems {α : Type} (item : Reader α) : Nat → Nat → Bytes → Except Fault (List α × Bytes)
  | 0, _, s => .ok ([], s)
  | fuel + 1, index, s => do
      match ← nextItem? (index == 0) s with
      | none => return ([], skipSpace s)
      | some s =>
          let (x, s) ← below (.index index) (item s)
          let (xs, s) ← readItems item fuel (index + 1) s
          return (x :: xs, s)

/-- Read the fields of an object up to the closing brace, which stays unread. -/
def readFields {α : Type} (item : Reader α) :
    Nat → Bool → Bytes → Except Fault (List (String × α) × Bytes)
  | 0, _, s => .ok ([], s)
  | fuel + 1, first, s => do
      match ← readName first s with
      | none => return ([], skipSpace s)
      | some (name, s) =>
          let s ← readColon s
          let (x, s) ← below (.key name) (item s)
          let (xs, s) ← readFields item fuel false s
          return ((name, x) :: xs, s)

/-- Collect the fields of an object in the order of their names' first places. -/
def collectFields (fields : List (String × Value)) : List (String × Value) :=
  fields.foldl (fun known (name, value) => Value.setField name value known) []

/-- Read one value, with arrays and objects nested up to the given number of
levels. -/
def Value.read (levels : Nat) : Reader Value := fun s =>
  match skipSpace s with
  | [] => .error (Flaw.eofInValue.next [])
  | b :: rest =>
      if b = byte 'n' then do return (.null, ← readWord [0x75, 0x6c, 0x6c] rest)
      else if b = byte 't' then do return (.bool true, ← readWord [0x72, 0x75, 0x65] rest)
      else if b = byte 'f' then do
        return (.bool false, ← readWord [0x61, 0x6c, 0x73, 0x65] rest)
      else if b = byte '-' then do
        let (n, s) ← readNumber true rest
        return (.number n, s)
      else if isDigit b then do
        let (n, s) ← readNumber false (b :: rest)
        return (.number n, s)
      else if b = byte '"' then do
        let (text, s) ← readString rest
        return (.string text, s)
      else if b = byte '[' then
        match levels with
        | 0 => .error (Flaw.tooDeep.next (b :: rest))
        | levels + 1 => do
            let (items, s) ← readItems (Value.read levels) (rest.length + 1) 0 rest
            return (.array items, ← closeList s)
      else if b = byte '{' then
        match levels with
        | 0 => .error (Flaw.tooDeep.next (b :: rest))
        | levels + 1 => do
            let (fields, s) ← readFields (Value.read levels) (rest.length + 1) true rest
            return (.object (collectFields fields), ← closeObject s)
      else .error (Flaw.expectedValue.next (b :: rest))

/-- Arrays and objects nest at most this deep in a text. -/
def maxLevels : Nat := 127

/-- Read the value at the front of a text; what follows it is not looked at. -/
def Value.ofBytes (input : Bytes) : Except Fault Value :=
  (Value.read maxLevels input).map Prod.fst

end WebClient.Json
