import WebClient.Url.Path

/-!
# Reading and resolving URLs

`Url.parse?` reads a text against an optional base, by the rules of the URL
standard.  Blanks and controls at both ends and all tabs and line breaks are
dropped first.  Then the fragment and the query are cut off, which no other part
can contain, and what is left is read by the kind of its scheme: after two
slashes stands an authority, and where the scheme is missing the rest replaces a
part of the base.
-/

namespace WebClient

/-- A text that is to be resolved, cut at its query and its fragment. -/
structure Reference where
  /-- The part in front, without tabs and line breaks. -/
  main : List Char
  /-- The part in front as it is given. -/
  source : List Char
  query : Option (List Char)
  fragment : Option (List Char)
  deriving DecidableEq, Repr

namespace Reference

/-- The character is dropped at both ends of a URL. -/
def isOuterBlank (c : Char) : Bool := c.toNat ≤ 0x20

/-- Drop the characters that have no meaning in a URL. -/
def clean (s : List Char) : List Char := s.filter fun c => !UrlPath.isLineBlank c

/-- The part before a mark, and the part after it where it is there. -/
def cut (mark : Char) (s : List Char) : List Char × Option (List Char) :=
  match Text.splitOnce? (· == mark) s with
  | some (before, after) => (before, some after)
  | none => (s, none)

/-- Cut a text at its first `#`, and what stands before it at its first `?`. -/
def ofText (s : List Char) : Reference :=
  let (rest, fragment) := cut '#' (Text.trimBoth isOuterBlank s)
  let (main, query) := cut '?' rest
  ⟨clean main, main, query.map clean, fragment.map clean⟩

/-- Drop some characters from the front of a text, tabs and line breaks not
counted. -/
def dropCounted : Nat → List Char → List Char
  | 0, s => s
  | _, [] => []
  | n + 1, c :: s => if UrlPath.isLineBlank c then dropCounted (n + 1) s else dropCounted n s

/-- The given end of the main part, with the tabs and line breaks in it. -/
def sourceOf (r : Reference) (ending : List Char) : List Char :=
  dropCounted (r.main.length - ending.length) r.source

/-- Something stands behind the main part. -/
def hasMore (r : Reference) : Bool := r.query.isSome || r.fragment.isSome

/-- The encoded query for a kind of scheme. -/
def encodedQuery (kind : SchemeKind) (r : Reference) : Option String :=
  r.query.map fun q =>
    String.ofList (Percent.encode (Percent.isQueryChar kind.isSpecial) q)

/-- The encoded fragment. -/
def encodedFragment (r : Reference) : Option String :=
  r.fragment.map fun f => String.ofList (Percent.encode Percent.isFragmentChar f)

end Reference

/-- A path that is written to its end. -/
def UrlPath.ofDraft (draft : UrlPath.Draft) : UrlPath := .rooted (String.ofList draft.text)

namespace Url

/-- The scheme in front of a colon, in small letters, and the rest. -/
def splitScheme? (s : List Char) : Option (String × List Char) :=
  match s with
  | [] => none
  | c :: _ =>
      if c.isAlpha then
        match Text.splitOnce? (· == ':') s with
        | none => none
        | some (scheme, rest) =>
            if scheme.all fun c => c.isAlphanum || c = '+' || c = '-' || c = '.' then
              some (String.ofList (Text.lower scheme), rest)
            else none
      else none

/-- The character ends an authority. -/
def endsAuthority (kind : SchemeKind) (c : Char) : Bool := UrlPath.isSlash kind c

/-- The text before the last `@` of an authority, where there is one, and the text
behind it. -/
def splitUser (kind : SchemeKind) (s : List Char) : Option (List Char) × List Char :=
  let authority := s.takeWhile fun c => !endsAuthority kind c
  let rest := s.drop authority.length
  let host := (authority.reverse.takeWhile (· != '@')).reverse
  if host.length = authority.length then (none, s)
  else (some (authority.take (authority.length - host.length - 1)), host ++ rest)

/-- Encoded user name and password. -/
def readUser (user : List Char) : String × String :=
  let encode (s : List Char) := String.ofList (Percent.encode Percent.isUserChar s)
  match Text.splitOnce? (· == ':') user with
  | none => (encode user, "")
  | some (name, password) => (encode name, encode password)

/-- The text of a host and the rest; a colon ends it outside brackets. -/
def splitHost (kind : SchemeKind) (inBrackets : Bool) : List Char → List Char × List Char
  | [] => ([], [])
  | c :: rest =>
      if (c = ':' && !inBrackets) || endsAuthority kind c then ([], c :: rest)
      else
        let inBrackets := if c = '[' then true else if c = ']' then false else inBrackets
        let (host, more) := splitHost kind inBrackets rest
        (c :: host, more)

/-- The number of a port and the rest behind its digits. -/
def readPort (scheme : String) (s : List Char) :
    Except UrlError (Option Nat × List Char) :=
  let digits := s.takeWhile Char.isDigit
  let rest := s.dropWhile Char.isDigit
  let port := digits.foldl (fun n c => n * 10 + (c.toNat - 48)) 0
  if 65535 < port then .error .invalidPort
  else
    let known := if digits.isEmpty || defaultPort scheme = some port then none else some port
    match rest with
    | [] => .ok (known, [])
    | c :: _ => if c = '/' || c = '\\' then .ok (known, rest) else .error .invalidPort

/-- Read the host of a scheme. -/
def readHost (kind : SchemeKind) (text : List Char) : Except UrlError Host :=
  match kind with
  | .ordinary => Host.ofPlain text
  | _ => if text.isEmpty then .error .emptyHost else Host.ofSpecial text

/-- Read the part behind the two slashes of an authority. -/
def readAuthority (scheme : String) (r : Reference) (s : List Char) : Except UrlError Url := do
  let kind := SchemeKind.of scheme
  let (user, rest) := splitUser kind s
  let bareMark :=
    match user, rest with
    | some [], [] => r.hasMore
    | some [], c :: _ => endsAuthority kind c
    | _, _ => false
  if bareMark then throw .emptyHost
  let (username, password) := readUser (user.getD [])
  let (text, rest) := splitHost kind false rest
  let host ← readHost kind text
  if text.isEmpty && rest.head? = some ':' then throw .emptyHost
  let (port, rest) ←
    match rest with
    | ':' :: digits => readPort scheme digits
    | rest => pure (none, rest)
  if text.isEmpty && !(username.isEmpty && password.isEmpty) then throw .emptyHost
  return {
    scheme, username, password, host := some host, port
    path := .ofDraft (UrlPath.writeBehindHost kind (r.sourceOf rest))
    query := r.encodedQuery kind
    fragment := r.encodedFragment }

/-- The text of a path that has segments. -/
def pathText (u : Url) : List Char :=
  match u.path with
  | .bare _ => []
  | .rooted text => text.toList

/-- The base with another path, and the query and the fragment of a reference. -/
def withPath (base : Url) (r : Reference) (draft : UrlPath.Draft) : Url :=
  { base with
    path := .ofDraft draft
    query := r.encodedQuery base.kind
    fragment := r.encodedFragment }

/-- The base with the query of a reference, where it has one, and with its
fragment. -/
def withQuery (base : Url) (r : Reference) : Url :=
  { base with
    query := if r.query.isSome then r.encodedQuery base.kind else base.query
    fragment := r.encodedFragment }

/-- Resolve a text without scheme against a base that is no file. -/
def relative (base : Url) (r : Reference) (main : List Char) : Except UrlError Url :=
  let kind := base.kind
  match main with
  | [] => .ok (base.withQuery r)
  | c :: rest =>
      if c = '/' || c = '\\' then
        match rest with
        | d :: more =>
            if d = '/' || d = '\\' then
              if c = '/' && d = '/' then readAuthority base.scheme r more
              else
                readAuthority base.scheme r (more.dropWhile fun c => c = '/' || c = '\\')
            else .ok (base.withPath r (UrlPath.writeBelowRoot kind (r.sourceOf rest)))
        | [] => .ok (base.withPath r (UrlPath.writeBelowRoot kind []))
      else
        let front := UrlPath.dropSegment kind base.pathText
        let front := if front.isEmpty then ['/'] else front
        .ok (base.withPath r (UrlPath.write kind front (r.sourceOf main)))

/-- A text starts with a drive letter and ends or goes on with a slash. -/
def startsWithDrive (s : List Char) : Bool :=
  UrlPath.isDriveLike (s.takeWhile fun c => !(c = '/' || c = '\\'))

/-- A file with a path. -/
def fileUrl (host : Host) (r : Reference) (draft : UrlPath.Draft) : Url where
  scheme := "file"
  username := ""
  password := ""
  host := some host
  port := none
  path := .ofDraft draft
  query := r.encodedQuery .file
  fragment := r.encodedFragment

/-- The host of a file on this machine. -/
def noHost : Host := .named ""

/-- Read the host of a file; the name `localhost` and a drive letter are none. -/
def readFileHost? (s : List Char) : Except UrlError (Option Host × List Char) :=
  let text := s.takeWhile fun c => !(c = '/' || c = '\\')
  let rest := s.drop text.length
  if UrlPath.isDriveLike text then .ok (none, s)
  else if text.isEmpty then .ok (none, rest)
  else do
    let host ← Host.ofSpecial text
    return (if host = .named "localhost" then none else some host, rest)

/-- Read a file behind two slashes.  A drive letter at the front of its path takes
the host away. -/
def readFileAuthority (r : Reference) (s : List Char) : Except UrlError Url := do
  let (host, rest) ← readFileHost? s
  let path := r.sourceOf rest
  match host with
  | none => return fileUrl noHost r (UrlPath.writeBelowRoot .file path)
  | some host =>
      let draft := UrlPath.writeBehindHost .file path
      return fileUrl (if draft.onDrive then noHost else host) r draft

/-- Read a path from the root of a file, on the drive or the host of the base. -/
def readFileRoot (base : Option Url) (r : Reference) (main : List Char) : Url :=
  let onBase (base : Url) : Url :=
    let drive := (base.pathText.drop 1).takeWhile (· != '/')
    if UrlPath.isDrive drive then
      fileUrl noHost r (UrlPath.write .file ('/' :: drive) (r.sourceOf main))
    else fileUrl (base.host.getD noHost) r (UrlPath.write .file [] (r.sourceOf main))
  match base with
  | some base =>
      if startsWithDrive (main.drop 1) then
        fileUrl noHost r (UrlPath.write .file [] (r.sourceOf main))
      else onBase base
  | none => fileUrl noHost r (UrlPath.write .file [] (r.sourceOf main))

/-- Resolve a text behind the scheme of a file, or one without scheme, against a
base that is a file. -/
def readFile (base : Option Url) (r : Reference) (main : List Char) : Except UrlError Url :=
  let slash := fun c : Char => c = '/' || c = '\\'
  match main with
  | c :: rest =>
      if slash c then
        if rest.head?.any slash then readFileAuthority r (rest.drop 1)
        else .ok (readFileRoot base r main)
      else
        match base with
        | some base =>
            if startsWithDrive main then
              .ok (fileUrl noHost r (UrlPath.writeBelowRoot .file (r.sourceOf main)))
            else
              let front := UrlPath.dropSegment .file base.pathText
              .ok (base.withPath r (UrlPath.write .file front (r.sourceOf main)))
        | none => .ok (fileUrl noHost r (UrlPath.writeBelowRoot .file (r.sourceOf main)))
  | [] =>
      match base with
      | some base => .ok (base.withQuery r)
      | none => .ok (fileUrl noHost r (UrlPath.writeBelowRoot .file []))

/-- Read the part behind a scheme that is not a special one. -/
def readOrdinary (scheme : String) (r : Reference) (s : List Char) : Except UrlError Url :=
  let withoutHost (path : UrlPath) : Url :=
    { scheme, username := "", password := "", host := none, port := none, path
      query := r.encodedQuery .ordinary
      fragment := r.encodedFragment }
  match s with
  | '/' :: '/' :: rest => readAuthority scheme r rest
  | '/' :: rest => .ok (withoutHost (.ofDraft (UrlPath.writeBelowRoot .ordinary (r.sourceOf rest))))
  | s => .ok (withoutHost (.bare (String.ofList (Percent.encode Percent.isPlain s))))

/-- Read the part behind a scheme. -/
def readAfterScheme (base : Option Url) (r : Reference) (scheme : String) (s : List Char) :
    Except UrlError Url :=
  match SchemeKind.of scheme with
  | .file => readFile (base.filter fun b => b.scheme = "file") r s
  | .special =>
      let slash := fun c : Char => c = '/' || c = '\\'
      match base with
      | some base =>
          if base.scheme = scheme && (s.takeWhile slash).length < 2 then relative base r s
          else readAuthority scheme r (s.dropWhile slash)
      | none => readAuthority scheme r (s.dropWhile slash)
  | .ordinary => readOrdinary scheme r s

/-- Resolve a cut text against an optional base. -/
def resolve (base : Option Url) (r : Reference) : Except UrlError Url :=
  match splitScheme? r.main with
  | some (scheme, rest) => readAfterScheme base r scheme rest
  | none =>
      match base with
      | none => .error .relativeWithoutBase
      | some base =>
          if base.isBare then
            if r.main.isEmpty && r.query.isNone && r.fragment.isSome then
              .ok { base with fragment := r.encodedFragment }
            else .error .relativeWithBareBase
          else
            match base.kind with
            | .file => readFile (some base) r r.main
            | _ => relative base r r.main

/-- Read an absolute URL. -/
def parse? (s : String) : Except UrlError Url := resolve none (Reference.ofText s.toList)

/-- Resolve a text against this URL. -/
def join? (base : Url) (s : List Char) : Except UrlError Url :=
  resolve (some base) (Reference.ofText s)

end Url

end WebClient
