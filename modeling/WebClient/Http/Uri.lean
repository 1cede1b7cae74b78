import WebClient.Error
import WebClient.Text.Ascii

/-!
# Request targets

The target of a request is a URI of its own, stricter, grammar: a URL may have
characters or forms that it does not.
-/

namespace WebClient

/-- The target of a request. -/
structure Uri where
  scheme : Option (List Char)
  authority : List Char
  /-- The path and the query. -/
  path : List Char
  deriving DecidableEq, Repr

namespace Uri

/-- Length of the longest target. -/
def maxLength : Nat := 65534

/-- Length of the longest scheme. -/
def maxSchemeLength : Nat := 64

/-- The character may stand in a scheme. -/
def isSchemeChar (c : Char) : Bool :=
  c.isAlphanum || c = '+' || c = '-' || c = '.' || c = '~'

/-- The character may stand in an authority or ends it. -/
def isAuthorityChar (c : Char) : Bool :=
  c.isAlphanum || "!#$&'()*+,-./:;=?@[]_~".toList.contains c

/-- The character ends an authority. -/
def endsAuthority (c : Char) : Bool := c = '/' || c = '?' || c = '#'

/-- The character may stand in a path. -/
def isPathChar (c : Char) : Bool :=
  !(c.toNat ≤ 0x20 || c = '#' || c = '<' || c = '>' || c = '?' || c = '\x60')

/-- The character may stand in a query. -/
def isQueryChar (c : Char) : Bool :=
  !(c.toNat ≤ 0x20 || c = '"' || c = '#' || c = '<' || c = '>')

/-- The scheme in front of two slashes, and what follows them. -/
def splitScheme (s : List Char) : Except UriFault (Option (List Char × List Char)) :=
  let scheme := s.takeWhile isSchemeChar
  match s.dropWhile isSchemeChar with
  | ':' :: '/' :: '/' :: rest =>
      if maxSchemeLength < scheme.length then .error .schemeTooLong
      else .ok (some (scheme, rest))
  | _ => .ok none

/-- What has been seen of an authority. -/
structure Seen where
  colons : Nat := 0
  opened : Bool := false
  closed : Bool := false
  percent : Bool := false
  /-- The last character was the one that ends the user information. -/
  afterUser : Bool := false

/-- Most colons between the marks of an authority. -/
def maxColons : Nat := 8

/-- Look at one character of an authority. -/
def Seen.next (seen : Seen) (c : Char) : Except UriFault Seen :=
  let seen := { seen with afterUser := false }
  if c = ':' then
    if maxColons ≤ seen.colons then .error .invalidAuthority
    else .ok { seen with colons := seen.colons + 1 }
  else if c = '[' then
    if seen.percent || seen.opened then .error .invalidAuthority
    else .ok { seen with opened := true }
  else if c = ']' then
    if !seen.opened || seen.closed then .error .invalidAuthority
    else .ok { seen with closed := true, colons := 0, percent := false }
  else if c = '@' then .ok { seen with afterUser := true, colons := 0, percent := false }
  else if c = '%' then .ok { seen with percent := true }
  else if isAuthorityChar c then .ok seen
  else .error .invalidCharacter

/-- An authority can end here. -/
def Seen.isComplete (seen : Seen) : Bool :=
  seen.opened == seen.closed && seen.colons ≤ 1 && !seen.afterUser && !seen.percent

/-- Split a text where its authority ends. -/
def splitAuthority (seen : Seen) : List Char → Except UriFault (List Char × List Char)
  | [] => if seen.isComplete then .ok ([], []) else .error .invalidAuthority
  | c :: rest =>
      if endsAuthority c then
        if seen.isComplete then .ok ([], c :: rest) else .error .invalidAuthority
      else do
        let (authority, tail) ← splitAuthority (← seen.next c) rest
        return (c :: authority, tail)

/-- Check a path and a query; a fragment is dropped. -/
def readPath (inQuery : Bool) : List Char → Except UriFault (List Char)
  | [] => .ok []
  | '#' :: _ => .ok []
  | c :: rest =>
      if !inQuery && c = '?' then (readPath true rest).map (c :: ·)
      else if (if inQuery then isQueryChar c else isPathChar c) then
        (readPath inQuery rest).map (c :: ·)
      else .error .invalidCharacter

/-- Read a target. -/
def parse (s : List Char) : Except UriFault Uri := do
  if maxLength < s.length then throw .tooLong
  match s with
  | [] => throw .empty
  | ['*'] => return ⟨none, [], s⟩
  | '/' :: _ => return ⟨none, [], ← readPath false s⟩
  | _ =>
      match ← splitScheme s with
      | none =>
          let (authority, rest) ← splitAuthority {} s
          if rest.isEmpty then return ⟨none, authority, []⟩ else throw .invalidFormat
      | some (_, []) => throw .empty
      | some (scheme, rest) =>
          let (authority, rest) ← splitAuthority {} rest
          if authority.isEmpty then throw .invalidFormat
          return ⟨some scheme, authority, ← readPath false rest⟩

end Uri

end WebClient
