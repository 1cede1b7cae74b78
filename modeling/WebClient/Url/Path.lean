import WebClient.Url.Basic

/-!
# Paths of URLs

A path is written segment by segment behind the part that is already there.  A
dot segment writes nothing, and two dots take the last segment back, but never
the slash at the root and never a drive letter.  In the path of a file, a drive
letter that is the first segment is written with a colon and stands for itself.
-/

namespace WebClient.UrlPath

/-- The character ends a segment. -/
def isSlash (kind : SchemeKind) (c : Char) : Bool :=
  c = '/' || (kind.isSpecial && c = '\\')

/-- The character is dropped wherever it stands in a URL. -/
def isLineBlank (c : Char) : Bool := c = '\t' || c = '\n' || c = '\r'

/-- The segment names the directory that it stands in. -/
def isSingleDot (segment : List Char) : Bool :=
  let s := Text.lower segment
  s == ['.'] || s == ['%', '2', 'e']

/-- The segment names the directory above. -/
def isDoubleDot (segment : List Char) : Bool :=
  let s := Text.lower segment
  s == ['.', '.'] || s == ['.', '%', '2', 'e'] || s == ['%', '2', 'e', '.'] ||
    s == ['%', '2', 'e', '%', '2', 'e']

/-- The segment is a drive letter and a colon. -/
def isDrive (segment : List Char) : Bool :=
  match segment with
  | [letter, ':'] => letter.isAlpha
  | _ => false

/-- The text is a drive letter and a colon or a bar. -/
def isDriveLike (segment : List Char) : Bool :=
  match segment with
  | [letter, mark] => letter.isAlpha && (mark = ':' || mark = '|')
  | _ => false

/-- The text is a drive letter, or one with a backslash behind it. -/
def startsLikeDrive (segment : List Char) : Bool :=
  isDriveLike (segment.take 2) && (segment.drop 2).head?.all (· = '\\')

/-- The text ends with a slash. -/
def endsInSlash (text : List Char) : Bool := text.getLast? == some '/'

/-- The text behind the last slash. -/
def lastSegment (text : List Char) : List Char :=
  (text.reverse.takeWhile (· != '/')).reverse

/-- The text up to its last slash. -/
def upToSlash (text : List Char) : List Char :=
  (text.reverse.dropWhile (· != '/')).reverse

/-- Take the slash at the end back, if it stands behind a segment that is no drive
letter. -/
def dropSlash (text : List Char) : List Char :=
  let before := text.dropLast
  if endsInSlash text && before.contains '/' && !startsLikeDrive (lastSegment before) then before
  else text

/-- Take the text behind the last slash back; the drive letter of a file stays. -/
def dropSegment (kind : SchemeKind) (text : List Char) : List Char :=
  if kind = .file && isDrive (lastSegment text) then text else upToSlash text

/-- End a text with a slash. -/
def closed (text : List Char) : List Char := if endsInSlash text then text else text ++ ['/']

/-- A path that is being written. -/
structure Draft where
  text : List Char
  /-- A drive letter was its first segment. -/
  onDrive : Bool
  deriving DecidableEq, Repr

/-- Write the pieces of a segment behind a text, and say where the segment starts.
In a file, a slash is put behind a drive letter that is all of the path. -/
def writePieces (kind : SchemeKind) : List Char → Nat → List (List Char) → List Char × Nat
  | text, start, [] => (text, start)
  | text, start, [] :: more => writePieces kind text start more
  | text, start, piece :: more =>
      let coded := Percent.encode Percent.isPathChar piece
      if kind = .file && isDrive (text.drop 1) then
        writePieces kind (text ++ '/' :: coded) (start + 1) more
      else writePieces kind (text ++ coded) start more

/-- Write a segment; `slash` if a slash follows it. -/
def Draft.write (kind : SchemeKind) (draft : Draft) (segment : List Char) (slash : Bool) :
    Draft :=
  let pieces := Text.splitAll isLineBlank segment
  let (text, start) := writePieces kind draft.text draft.text.length pieces
  let front := text.take start
  let written := text.drop start
  if isDoubleDot written then
    let kept := dropSegment kind (dropSlash front)
    { draft with text := if slash then closed kept else kept }
  else if isSingleDot written then { draft with text := closed front }
  else
    let ending := if slash then ['/'] else []
    match written with
    | letter :: _ =>
        if kind = .file && start = 1 && isDriveLike written then
          ⟨front ++ letter :: ':' :: ending, true⟩
        else { draft with text := text ++ ending }
    | [] => { draft with text := text ++ ending }

/-- Write segments; a slash follows every one but the last. -/
def Draft.writeAll (kind : SchemeKind) : Draft → List (List Char) → Draft
  | draft, [] => draft
  | draft, [segment] => draft.write kind segment false
  | draft, segment :: more => writeAll kind (draft.write kind segment true) more

/-- The path of a file starts with one slash. -/
def Draft.finish (kind : SchemeKind) (draft : Draft) : Draft :=
  match kind with
  | .file => { draft with text := '/' :: draft.text.dropWhile (· = '/') }
  | _ => draft

/-- Write the segments of a text behind the text that is already there. -/
def write (kind : SchemeKind) (front text : List Char) : Draft :=
  (Draft.writeAll kind ⟨front, false⟩ (Text.splitAll (isSlash kind) text)).finish kind

/-- Write the segments of a text behind a slash at the root. -/
def writeBelowRoot (kind : SchemeKind) (text : List Char) : Draft := write kind ['/'] text

/-- Write the path behind an authority. -/
def writeBehindHost (kind : SchemeKind) (text : List Char) : Draft :=
  match text.dropWhile isLineBlank with
  | [] => if kind.isSpecial then writeBelowRoot kind [] else write kind [] []
  | c :: rest => writeBelowRoot kind (if isSlash kind c then rest else c :: rest)

end WebClient.UrlPath
