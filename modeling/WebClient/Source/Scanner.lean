import WebClient.Source.Literal
import WebClient.Source.Token
import WebClient.Text.Blank

/-!
# Reading tokens

Blanks and comments stand between tokens.  A comment that documents what follows
is an attribute `doc` with the text of the comment; one that documents what it
stands in has an exclamation mark behind the hash.
-/

namespace WebClient.Source

/-! ## Comments -/

/-- The text up to the end of the line, and the rest from the line feed on. -/
def Scan.line : List Char → List Char × List Char
  | [] => ([], [])
  | '\n' :: rest => ([], '\n' :: rest)
  | '\r' :: '\n' :: rest => ([], '\n' :: rest)
  | c :: rest =>
      let (text, rest) := line rest
      (c :: text, rest)

/-- The text of a comment that may hold others, up to its end, and the rest;
`depth` counts the comments that are open. -/
def Scan.comment? (depth : Nat) : List Char → Option (List Char × List Char)
  | '/' :: '*' :: rest =>
      (comment? (depth + 1) rest).map fun (text, rest) => ('/' :: '*' :: text, rest)
  | '*' :: '/' :: rest =>
      if depth = 1 then some ([], rest)
      else (comment? (depth - 1) rest).map fun (text, rest) => ('*' :: '/' :: text, rest)
  | c :: rest => (comment? depth rest).map fun (text, rest) => (c :: text, rest)
  | [] => none

/-- A carriage return stands in a text without its line feed. -/
def Scan.bareReturn : List Char → Bool
  | [] => false
  | '\r' :: '\n' :: rest => bareReturn rest
  | '\r' :: _ => true
  | _ :: rest => bareReturn rest

/-- A comment that documents something: whether it documents what it stands in, its
text, and the rest behind it. -/
def Scan.document? (s : List Char) : Option (Bool × List Char × List Char) :=
  let found : Option (Bool × List Char × List Char) :=
    match s with
    | '/' :: '/' :: '!' :: rest => some (true, Scan.line rest)
    | '/' :: '*' :: '!' :: rest => (Scan.comment? 1 rest).map fun found => (true, found)
    | '/' :: '/' :: '/' :: rest =>
        if rest.head? = some '/' then none else some (false, Scan.line rest)
    | '/' :: '*' :: '*' :: rest =>
        if rest.head? = some '*' then none
        else (Scan.comment? 1 rest).map fun found => (false, found)
    | _ => none
  found.filter fun (_, text, _) => !Scan.bareReturn text

/-- The rest behind a comment that documents nothing. -/
def Scan.afterRemark? (s : List Char) : Option (List Char) :=
  match s with
  | '/' :: '/' :: '/' :: '/' :: rest => some (Scan.line rest).2
  | '/' :: '/' :: '/' :: _ => none
  | '/' :: '/' :: '!' :: _ => none
  | '/' :: '/' :: rest => some (Scan.line rest).2
  | '/' :: '*' :: '*' :: '/' :: rest => some rest
  | '/' :: '*' :: '*' :: '*' :: rest => (Scan.comment? 1 ('*' :: '*' :: rest)).map (·.2)
  | '/' :: '*' :: '*' :: _ => none
  | '/' :: '*' :: '!' :: _ => none
  | '/' :: '*' :: rest => (Scan.comment? 1 rest).map (·.2)
  | _ => none

/-- The character stands between tokens: a blank, or a mark for the direction of
writing. -/
def Scan.isGap (c : Char) : Bool := Text.isBlank c || c = '\u200e' || c = '\u200f'

/-- The rest behind blanks and comments. -/
def Scan.afterGap : Nat → List Char → List Char
  | 0, s => s
  | fuel + 1, s =>
      match Scan.afterRemark? s, s with
      | some rest, _ => afterGap fuel rest
      | none, c :: rest => if Scan.isGap c then afterGap fuel rest else s
      | none, [] => []

/-! ## Tokens without brackets -/

/-- A keyword that no name can be written as. -/
def Scan.isReserved (text : List Char) : Bool :=
  ["_", "super", "self", "Self", "crate"].any fun word => word.toList = text

/-- The rest behind a name, which `r#` may stand before. -/
def Scan.afterName? : List Char → Option (List Char)
  | 'r' :: '#' :: rest =>
      (Literal.afterWord? rest).filter fun after =>
        !Scan.isReserved (rest.take (rest.length - after.length))
  | s => Literal.afterWord? s

/-- The text starts like a literal in quotes. -/
def Scan.startsLiteral (s : List Char) : Bool :=
  ["r\"", "r#\"", "r##", "b\"", "b'", "br\"", "br#", "c\"", "cr\"", "cr#"].any
    fun start => start.toList.isPrefixOf s

/-- The punctuation character that a text starts with, which is not that of a
comment. -/
def Scan.mark? : List Char → Option (Char × List Char)
  | '/' :: '/' :: _ => none
  | '/' :: '*' :: _ => none
  | c :: rest => if "~!@#$%^&*-=+|;:,<.>/?'".toList.contains c then some (c, rest) else none
  | [] => none

/-- The punctuation character at the start, and the rest.  A single quote stands
before the name of a lifetime, which no other quote may follow. -/
def Scan.punctuation? (s : List Char) : Option (Token × List Char) := do
  let (c, rest) ← Scan.mark? s
  if c = '\'' then
    match ← Scan.afterName? rest with
    | '\'' :: _ => none
    | '#' :: _ => if "r#".toList.isPrefixOf rest then some (.mark c true, rest) else none
    | _ => some (.mark c true, rest)
  else some (.mark c (Scan.mark? rest).isSome, rest)

/-- The first of a text up to what is left of it. -/
def Scan.upTo (s rest : List Char) : String := String.ofList (s.take (s.length - rest.length))

/-- The text of the literal that stands for what could not be read. -/
def Scan.unreadable : String := "(/*ERROR*/)"

/-- The token without brackets at the start, and the rest. -/
def Scan.leaf? (s : List Char) : Option (Token × List Char) :=
  match Literal.after? s with
  | some rest => some (.literal (Scan.upTo s rest), rest)
  | none =>
      match Scan.punctuation? s with
      | some found => some found
      | none =>
          let name := if Scan.startsLiteral s then none else Scan.afterName? s
          match name with
          | some rest => some (.word (Scan.upTo s rest), rest)
          | none =>
              if Scan.unreadable.toList.isPrefixOf s then
                some (.literal Scan.unreadable, s.drop Scan.unreadable.length)
              else none

/-! ## Tokens with brackets -/

/-- The attribute that a documenting comment is, last token first. -/
def Scan.documentation (inner : Bool) (text : List Char) : List Token :=
  let content := [.word "doc", .mark '=' false, .literal (Literal.ofText (String.ofList text))]
  .group .bracket content :: (if inner then [.mark '!' false] else []) ++ [.mark '#' false]

/-- The tokens of a text.  `read` holds those of the brackets that stand open, last
first, and `outer` the ones around them. -/
def Scan.run :
    Nat → List Token → List (Delimiter × List Token) → List Char → Option (List Token)
  | 0, _, _, _ => none
  | fuel + 1, read, outer, s =>
      let s := Scan.afterGap (s.length + 1) s
      match Scan.document? s, s with
      | some (inner, text, rest), _ =>
          run fuel (Scan.documentation inner text ++ read) outer rest
      | none, [] => if outer.isEmpty then some read.reverse else none
      | none, c :: rest =>
          match (if Scan.unreadable.toList.isPrefixOf s then none else Delimiter.ofOpening? c) with
          | some d => run fuel [] ((d, read) :: outer) rest
          | none =>
              match Delimiter.ofClosing? c, outer with
              | some d, (opened, before) :: outer =>
                  if d = opened then run fuel (.group d read.reverse :: before) outer rest
                  else none
              | some _, [] => none
              | none, _ =>
                  match Scan.leaf? s with
                  | some (token, rest) => run fuel (token :: read) outer rest
                  | none => none

/-- The tokens of a text, or nothing where it cannot be read as tokens.  A mark for
the order of bytes at the start is skipped. -/
def Token.scan? (text : String) : Option (List Token) :=
  let s := text.toList
  let s := if s.head? = some '\ufeff' then s.drop 1 else s
  Scan.run (s.length + 1) [] [] s

end WebClient.Source
