import WebClient.Domain.Name
import WebClient.Percent

/-!
# Hosts

A host is a domain name, an IPv4 or IPv6 address, or, where the scheme is not a
special one, any text without the characters that delimit a host.
-/

namespace WebClient

/-- Why a text is not a URL. -/
inductive UrlError where
  | emptyHost
  | invalidDomain
  | invalidPort
  | invalidIpv4
  | invalidIpv6
  | invalidHostCharacter
  | relativeWithoutBase
  | relativeWithBareBase
  deriving DecidableEq, Repr

/-- The wording of a URL error. -/
def UrlError.message : UrlError → String
  | .emptyHost => "empty host"
  | .invalidDomain => "invalid international domain name"
  | .invalidPort => "invalid port number"
  | .invalidIpv4 => "invalid IPv4 address"
  | .invalidIpv6 => "invalid IPv6 address"
  | .invalidHostCharacter => "invalid domain character"
  | .relativeWithoutBase => "relative URL without a base"
  | .relativeWithBareBase => "relative URL with a cannot-be-a-base base"

/-- The host of a URL. -/
inductive Host where
  /-- A domain name of a special scheme, or the text of another scheme's host. -/
  | named (text : String)
  /-- The address as one number. -/
  | ipv4 (address : Nat)
  /-- The address as eight numbers of sixteen bits. -/
  | ipv6 (groups : List Nat)
  deriving DecidableEq, Repr

namespace Host

/-- A decimal numeral. -/
def decimal (n : Nat) : List Char := Nat.toDigits 10 n

/-- The dotted text of an IPv4 address. -/
def renderIpv4 (address : Nat) : List Char :=
  Text.join ['.']
    [decimal (address / 0x1000000 % 256), decimal (address / 0x10000 % 256),
      decimal (address / 0x100 % 256), decimal (address % 256)]

/-- Start and length of the longest run of zeros, the first of several, in groups
that start at the given index. -/
def longestZeros (index : Nat) : List Nat → Nat × Nat
  | [] => (index, 0)
  | g :: rest =>
      let later := longestZeros (index + 1) rest
      let run := ((g :: rest).takeWhile (· == 0)).length
      if later.2 ≤ run then (index, run) else later

/-- Groups with colons between them. -/
def renderGroups (groups : List Nat) : List Char :=
  Text.join [':'] (groups.map Text.hexNumeral)

/-- The text of an IPv6 address, without its brackets: two colons stand for the
longest run of at least two zeros. -/
def renderIpv6 (groups : List Nat) : List Char :=
  let (start, length) := longestZeros 0 groups
  if length < 2 then renderGroups groups
  else
    renderGroups (groups.take start) ++ [':', ':'] ++ renderGroups (groups.drop (start + length))

/-- The text of a host. -/
def render : Host → List Char
  | .named text => text.toList
  | .ipv4 address => renderIpv4 address
  | .ipv6 groups => '[' :: renderIpv6 groups ++ [']']

/-! ## IPv4 -/

/-- The value of digits in a base; every one must be a digit of it. -/
def numeral? (base : Nat) (digits : List Char) : Option Nat :=
  digits.foldlM
    (fun n c => do
      let d ← Text.hexValue? c
      if d < base then some (n * base + d) else none)
    0

/-- Read a part of an IPv4 address: hexadecimal after `0x`, octal after `0`, and
decimal otherwise. -/
def ipv4Part? : List Char → Option Nat
  | [] => none
  | '0' :: 'x' :: rest => numeral? 16 rest
  | '0' :: 'X' :: rest => numeral? 16 rest
  | '0' :: d :: rest => numeral? 8 (d :: rest)
  | digits => numeral? 10 digits

/-- The parts of a dotted name, without the empty one behind a last dot. -/
def dottedParts (name : List Char) : List (List Char) :=
  let parts := Text.splitAll (· == '.') name
  if 1 < parts.length ∧ parts.getLast? = some [] then parts.dropLast else parts

/-- The last part of a name is a number, so that the name must be an address. -/
def endsInNumber (name : List Char) : Bool :=
  match (dottedParts name).getLast? with
  | none => false
  | some last => (!last.isEmpty && last.all Char.isDigit) || (ipv4Part? last).isSome

/-- Put the last number of an IPv4 address under the numbers before it. -/
def combineIpv4 : List Nat → Option Nat
  | [] => none
  | numbers =>
      let front := numbers.dropLast
      let last := numbers.getLast?.getD 0
      if Nat.pow 256 (4 - front.length) ≤ last then none
      else if front.any (fun n => 255 < n) then none
      else
        some (front.zipIdx.foldl (fun sum (n, i) => sum + n * Nat.pow 256 (3 - i)) last)

/-- Read an IPv4 address of at most four numbers. -/
def ipv4? (name : List Char) : Option Nat := do
  let parts := dottedParts name
  if 4 < parts.length then none
  else combineIpv4 (← parts.mapM ipv4Part?)

/-! ## IPv6 -/

/-- Read a group of an IPv6 address: one to four hexadecimal digits. -/
def ipv6Group? (digits : List Char) : Option Nat :=
  if digits.isEmpty || 4 < digits.length then none else numeral? 16 digits

/-- Read a number below 256 without leading zeros. -/
def decimalByte? (digits : List Char) : Option Nat :=
  if digits.isEmpty || (1 < digits.length && digits.head? == some '0') then none
  else (numeral? 10 digits).filter (· < 256)

/-- Read the dotted end of an IPv6 address as two groups. -/
def ipv6Tail? (text : List Char) : Option (List Nat) :=
  match (Text.splitAll (· == '.') text).mapM decimalByte? with
  | some [a, b, c, d] => some [a * 256 + b, c * 256 + d]
  | _ => none

/-- Read groups with colons between them; the last one may be dotted. -/
def ipv6Groups? (dotted : Bool) : List (List Char) → Option (List Nat)
  | [] => some []
  | [last] =>
      if dotted && last.contains '.' then ipv6Tail? last else (ipv6Group? last).map ([·])
  | digits :: rest => do
      let group ← ipv6Group? digits
      return group :: (← ipv6Groups? dotted rest)

/-- Read one side of the two colons, or a whole address. -/
def ipv6Side? (dotted : Bool) (text : List Char) : Option (List Nat) :=
  if text.isEmpty then some [] else ipv6Groups? dotted (Text.splitAll (· == ':') text)

/-- The text before the first two colons, and the text after them. -/
def splitColons? : List Char → Option (List Char × List Char)
  | ':' :: ':' :: rest => some ([], rest)
  | c :: rest => (splitColons? rest).map fun (head, tail) => (c :: head, tail)
  | [] => none

/-- Read an IPv6 address without its brackets. -/
def ipv6? (text : List Char) : Option (List Nat) :=
  match splitColons? text with
  | none => do
      let groups ← ipv6Side? true text
      if groups.length = 8 then some groups else none
  | some (left, right) => do
      let before ← ipv6Side? false left
      let after ← ipv6Side? true right
      let known := before.length + after.length
      if known ≤ 7 then some (before ++ List.replicate (8 - known) 0 ++ after) else none

/-! ## Hosts -/

/-- Read an address in brackets. -/
def bracketed (text : List Char) : Except UrlError Host :=
  if text.getLast? = some ']' then
    match ipv6? ((text.drop 1).dropLast) with
    | some groups => .ok (.ipv6 groups)
    | none => .error .invalidIpv6
  else .error .invalidIpv6

/-- The character cannot stand in a host of any scheme. -/
def isForbidden (c : Char) : Bool :=
  c = '\x00' || c = '\t' || c = '\n' || c = '\r' || c = ' ' || c = '#' || c = '/' || c = ':' ||
    c = '<' || c = '>' || c = '?' || c = '@' || c = '[' || c = '\\' || c = ']' || c = '^' ||
    c = '|'

/-- The character cannot stand in a domain name. -/
def isForbiddenInDomain (c : Char) : Bool :=
  isForbidden c || c = '%' || Text.isControl c

/-- Read the host of a scheme that is not a special one. -/
def ofPlain (text : List Char) : Except UrlError Host :=
  if text.head? = some '[' then bracketed text
  else if text.any isForbidden then .error .invalidHostCharacter
  else .ok (.named (String.ofList (Percent.encode Percent.isPlain text)))

/-- Read the host of a special scheme. -/
def ofSpecial (text : List Char) : Except UrlError Host :=
  if text.head? = some '[' then bracketed text
  else
    match Domain.toAscii? (Percent.decode text) with
    | none => .error .invalidDomain
    | some name =>
        if name.any isForbiddenInDomain then .error .invalidDomain
        else if name.isEmpty then .error .emptyHost
        else if endsInNumber name then
          match ipv4? name with
          | some address => .ok (.ipv4 address)
          | none => .error .invalidIpv4
        else .ok (.named (String.ofList name))

end Host

end WebClient
