import WebClient.Text.Ascii
import WebClient.Text.Quoted
import WebClient.Text.Word

/-!
# Literals

Texts, characters and numbers as they are written in a program.  Every reader
here takes a list of characters and answers what is left behind the literal, or
nothing where no such literal stands at its start.  A literal may carry a word
right behind it, its suffix.
-/

namespace WebClient.Source.Literal

/-! ## Words -/

/-- The rest behind a word. -/
def afterWord? : List Char → Option (List Char)
  | [] => none
  | c :: rest => if Text.startsWord c then some (rest.dropWhile Text.continuesWord) else none

/-- The rest behind a suffix, if there is one. -/
def afterSuffix (s : List Char) : List Char := (afterWord? s).getD s

/-- The text ends or a character follows that continues no word. -/
def atWordEnd : List Char → Bool
  | [] => true
  | c :: _ => !Text.continuesWord c

/-! ## Escapes -/

/-- What may stand in a quoted literal. -/
structure Quoting where
  /-- The characters are bytes: they are ASCII, and `\x` gives any byte. -/
  bytes : Bool := false
  /-- The NUL character may occur. -/
  nul : Bool := true
  deriving DecidableEq, Repr

/-- The number between braces, of one to six digits with underscores behind the
first, and the rest behind them. -/
def bracedNumber? (value digits : Nat) : List Char → Option (Nat × List Char)
  | [] => none
  | c :: rest =>
      match Text.hexValue? c with
      | some digit =>
          if digits = 6 then none else bracedNumber? (value * 16 + digit) (digits + 1) rest
      | none =>
          if digits = 0 then none
          else if c = '_' then bracedNumber? value digits rest
          else if c = '}' then some (value, rest)
          else none

/-- The number is that of a character. -/
def isScalar (n : Nat) : Bool := n < 0xd800 || (0xe000 ≤ n && n < 0x110000)

/-- The character of an escape without its backslash, and the rest behind it.  The
line end that a text may skip is not among them. -/
def escape? (q : Quoting) : List Char → Option (Char × List Char)
  | 'n' :: rest => some ('\n', rest)
  | 'r' :: rest => some ('\r', rest)
  | 't' :: rest => some ('\t', rest)
  | '\\' :: rest => some ('\\', rest)
  | '\'' :: rest => some ('\'', rest)
  | '"' :: rest => some ('"', rest)
  | '0' :: rest => if q.nul then some ('\x00', rest) else none
  | 'x' :: high :: low :: rest => do
      let n := (← Text.hexValue? high) * 16 + (← Text.hexValue? low)
      if (n < 0x80 || q.bytes || !q.nul) && (n != 0 || q.nul) then some (Char.ofNat n, rest)
      else none
  | 'u' :: '{' :: rest => do
      let (n, rest) ← bracedNumber? 0 0 rest
      if isScalar n && !q.bytes && (n != 0 || q.nul) then some (Char.ofNat n, rest) else none
  | _ => none

/-! ## Quoted literals -/

/-- A blank that is skipped at the start of a continued line. -/
def isIndent (c : Char) : Bool := c = ' ' || c = '\t' || c = '\n' || c = '\r'

/-- The characters up to the closing quote, and the rest behind it.  A backslash
at a line end skips the blanks that follow, and a line end is one character
however it is written. -/
def quoted? (q : Quoting) : Nat → List Char → Option (List Char × List Char)
  | 0, _ => none
  | fuel + 1, s =>
      let more (c : Char) (rest : List Char) :=
        (quoted? q fuel rest).map fun (text, rest) => (c :: text, rest)
      match s with
      | [] => none
      | '"' :: rest => some ([], rest)
      | '\r' :: '\n' :: rest => more '\n' rest
      | '\r' :: _ => none
      | '\\' :: '\n' :: rest => skipIndent fuel rest
      | '\\' :: '\r' :: '\n' :: rest => skipIndent fuel rest
      | '\\' :: rest => (escape? q rest).bind fun (c, rest) => more c rest
      | c :: rest =>
          if (q.bytes && !Text.isAscii c) || (!q.nul && c = '\x00') then none else more c rest
where
  /-- Go on behind the blanks at the start of a line. -/
  skipIndent (fuel : Nat) (rest : List Char) : Option (List Char × List Char) :=
    if (rest.takeWhile isIndent).isEmpty then quoted? q fuel rest
    else if bareReturn (rest.takeWhile isIndent) then none
    else quoted? q fuel (rest.dropWhile isIndent)
  /-- A carriage return stands there without its line feed. -/
  bareReturn : List Char → Bool
    | [] => false
    | '\r' :: '\n' :: rest => bareReturn rest
    | '\r' :: _ => true
    | _ :: rest => bareReturn rest

/-- The characters of a quoted literal behind its opening quote, and the rest. -/
def afterQuote? (q : Quoting) (s : List Char) : Option (List Char × List Char) :=
  quoted? q (s.length + 1) s

/-- The characters of a raw literal up to a quote with its hashes, and the rest
behind them. -/
def rawUntil? (q : Quoting) (hashes : List Char) : List Char → Option (List Char × List Char)
  | [] => none
  | c :: rest =>
      let more := (rawUntil? q hashes rest).map fun (text, rest) => (c :: text, rest)
      if c = '"' && hashes.isPrefixOf rest then some ([], rest.drop hashes.length)
      else if c = '\r' && rest.head? != some '\n' then none
      else if (q.bytes && !Text.isAscii c) || (!q.nul && c = '\x00') then none
      else more

/-- The characters of a raw literal that starts with its hashes, and the rest. -/
def raw? (q : Quoting) (s : List Char) : Option (List Char × List Char) :=
  let hashes := s.takeWhile (· = '#')
  match s.dropWhile (· = '#') with
  | '"' :: rest => if hashes.length ≤ 255 then rawUntil? q hashes rest else none
  | _ => none

/-- A text, and the rest behind its closing quote. -/
def string? : List Char → Option (List Char × List Char)
  | '"' :: rest => afterQuote? {} rest
  | 'r' :: rest => raw? {} rest
  | _ => none

/-- The rest behind a literal between double quotes. -/
def afterString? (s : List Char) : Option (List Char) :=
  let read := match s with
    | '"' :: rest => afterQuote? {} rest
    | 'r' :: rest => raw? {} rest
    | 'b' :: '"' :: rest => afterQuote? { bytes := true } rest
    | 'b' :: 'r' :: rest => raw? { bytes := true } rest
    | 'c' :: '"' :: rest => afterQuote? { nul := false } rest
    | 'c' :: 'r' :: rest => raw? { nul := false } rest
    | _ => none
  read.map fun (_, rest) => afterSuffix rest

/-- The rest behind a character and its closing quote. -/
def afterChar? (q : Quoting) (s : List Char) : Option (List Char) := do
  let rest ← match s with
    | [] => none
    | '\\' :: rest => (escape? q rest).map fun (_, rest) => rest
    | c :: rest => if q.bytes && !Text.isAscii c then none else some rest
  match rest with
  | '\'' :: rest => some (afterSuffix rest)
  | _ => none

/-- The rest behind a literal between single quotes. -/
def afterCharacter? : List Char → Option (List Char)
  | 'b' :: '\'' :: rest => afterChar? { bytes := true } rest
  | '\'' :: rest => afterChar? {} rest
  | _ => none

/-! ## Numbers -/

/-- The rest behind the exponent of a number: a sign or none, then digits and
underscores.  Without a digit there is no exponent. -/
def afterExponent? (signed valued : Bool) : List Char → Option (List Char)
  | [] => if valued then some [] else none
  | c :: rest =>
      if c.isDigit then afterExponent? signed true rest
      else if c = '_' then afterExponent? signed valued rest
      else if (c = '+' || c = '-') && !valued then
        if signed then none else afterExponent? true valued rest
      else if valued then some (c :: rest) else none

/-- The rest behind the digits of a number with a point or an exponent; `dotted`
says that the point was read. -/
def afterDecimal? (dotted : Bool) : List Char → Option (List Char)
  | [] => if dotted then some [] else none
  | c :: rest =>
      if c.isDigit || c = '_' then afterDecimal? dotted rest
      else if c = '.' && !dotted then
        match rest with
        | d :: _ => if d = '.' || Text.startsWord d then none else afterDecimal? true rest
        | [] => afterDecimal? true rest
      else if c = 'e' || c = 'E' then
        (afterExponent? false false rest).or (if dotted then some (c :: rest) else none)
      else if dotted then some (c :: rest) else none

/-- The rest behind the digits of an integer to a base. -/
def afterDigits (base : Nat) : List Char → Option (List Char)
  | [] => some []
  | c :: rest =>
      match Text.hexValue? c with
      | some digit =>
          if digit < base then afterDigits base rest
          else if c.isDigit then none else some (c :: rest)
      | none => if c = '_' then afterDigits base rest else some (c :: rest)

/-- The digits of an integer hold at least one that is no underscore. -/
def startsInteger (base : Nat) (s : List Char) : Bool :=
  match s.dropWhile (· = '_') with
  | c :: _ => (Text.hexValue? c).any (· < base)
  | [] => false

/-- The rest behind the digits of an integer, with the sign of its base. -/
def afterInteger? : List Char → Option (List Char)
  | '0' :: 'x' :: rest => if startsInteger 16 rest then afterDigits 16 rest else none
  | '0' :: 'o' :: rest => if startsInteger 8 rest then afterDigits 8 rest else none
  | '0' :: 'b' :: rest => if startsInteger 2 rest then afterDigits 2 rest else none
  | c :: rest => if c.isDigit then afterDigits 10 rest else none
  | [] => none

/-- The rest behind a number and its suffix. -/
def afterNumber? (s : List Char) : Option (List Char) :=
  let whole? (digits : Option (List Char)) : Option (List Char) :=
    (digits.map afterSuffix).filter atWordEnd
  let decimal := if (s.head?.map Char.isDigit).getD false then whole? (afterDecimal? false s) else none
  decimal.or (whole? (afterInteger? s))

/-- The rest behind a literal. -/
def after? (s : List Char) : Option (List Char) :=
  (afterString? s).or ((afterCharacter? s).or (afterNumber? s))

/-! ## Values -/

/-- The value of digits to a base, with underscores among them, behind digits that
were read already if `valued` says so. -/
def valueFrom? (base value : Nat) (valued : Bool) : List Char → Option Nat
  | [] => if valued then some value else none
  | c :: rest =>
      if c = '_' then valueFrom? base value valued rest
      else
        match Text.hexValue? c with
        | some digit =>
            if digit < base then valueFrom? base (value * base + digit) true rest else none
        | none => none

/-- The value of an integer that has no suffix and fits in 32 bits. -/
def value? (s : List Char) : Option Nat :=
  let value := match s with
    | '0' :: 'x' :: rest => valueFrom? 16 0 false rest
    | '0' :: 'o' :: rest => valueFrom? 8 0 false rest
    | '0' :: 'b' :: rest => valueFrom? 2 0 false rest
    | s => valueFrom? 10 0 false s
  value.filter (· < 0x100000000)

/-! ## Writing -/

/-- The literal of a text.  A NUL before an octal digit is written out, so that no
longer escape seems to stand there. -/
def ofText (s : String) : String :=
  String.ofList ('"' :: body s.toList ++ ['"'])
where
  /-- The characters between the quotes. -/
  body : List Char → List Char
    | [] => []
    | '\x00' :: d :: rest =>
        if '0' ≤ d && d ≤ '7' then ['\\', 'x', '0', '0'] ++ body (d :: rest)
        else ['\\', '0'] ++ body (d :: rest)
    | c :: rest => Text.Quoted.encodeChar c ++ body rest

end WebClient.Source.Literal
