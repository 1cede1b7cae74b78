import WebClient.Url.Host

/-!
# URLs

A URL is kept in the parts of the URL standard: every part but the host is
stored in its percent-encoded form, so that no part can take over a delimiter of
the next.
-/

namespace WebClient

/-- The path of a URL. -/
inductive UrlPath where
  /-- A text without structure, as in `mailto:a@b`. -/
  | bare (text : String)
  /-- Segments, each after a slash; there may be none. -/
  | rooted (text : String)
  deriving DecidableEq, Repr

/-- A URL. -/
structure Url where
  scheme : String
  username : String
  password : String
  host : Option Host
  /-- The port, where it is not the scheme's own one. -/
  port : Option Nat
  path : UrlPath
  query : Option String
  fragment : Option String
  deriving DecidableEq, Repr

/-- The kind of a scheme. -/
inductive SchemeKind where
  | file
  | special
  | ordinary
  deriving DecidableEq, Repr

/-- The kind of a scheme. -/
def SchemeKind.of (scheme : String) : SchemeKind :=
  if scheme = "file" then .file
  else if scheme = "http" ∨ scheme = "https" ∨ scheme = "ws" ∨ scheme = "wss" ∨
      scheme = "ftp" then .special
  else .ordinary

/-- The backslash separates segments of URLs of this kind too, and their path is
never empty. -/
def SchemeKind.isSpecial : SchemeKind → Bool
  | .ordinary => false
  | _ => true

/-- The port that a scheme implies. -/
def defaultPort (scheme : String) : Option Nat :=
  if scheme = "http" ∨ scheme = "ws" then some 80
  else if scheme = "https" ∨ scheme = "wss" then some 443
  else if scheme = "ftp" then some 21
  else none

namespace Url

/-- The kind of the scheme. -/
def kind (u : Url) : SchemeKind := SchemeKind.of u.scheme

/-- Nothing can be resolved against a URL with a bare path. -/
def isBare (u : Url) : Bool :=
  match u.path with
  | .bare _ => true
  | .rooted _ => false

/-- The user name and the password in front of a host. -/
def renderUser (u : Url) : List Char :=
  if u.username.isEmpty && u.password.isEmpty then []
  else
    u.username.toList ++
      (if u.password.isEmpty then [] else ':' :: u.password.toList) ++ ['@']

/-- The part between the scheme and the path. -/
def renderAuthority (u : Url) : List Char :=
  match u.host with
  | none => []
  | some host =>
      '/' :: '/' :: u.renderUser ++ host.render ++
        (match u.port with
          | none => []
          | some port => ':' :: Nat.toDigits 10 port)

/-- The path; a path that starts with two slashes and has no host in front of it
is marked, so that its first segment is not taken for a host. -/
def renderPath (u : Url) : List Char :=
  match u.path with
  | .bare text => text.toList
  | .rooted text =>
      match u.host, text.toList with
      | none, '/' :: '/' :: rest => '/' :: '.' :: '/' :: '/' :: rest
      | _, chars => chars

/-- A part behind its mark, where it is there. -/
def renderMarked (mark : Char) : Option String → List Char
  | none => []
  | some text => mark :: text.toList

/-- The text of a URL. -/
def render (u : Url) : List Char :=
  u.scheme.toList ++ ':' :: u.renderAuthority ++ u.renderPath ++
    renderMarked '?' u.query ++ renderMarked '#' u.fragment

/-- The text of a URL. -/
def text (u : Url) : String := String.ofList u.render

/-- Replace the query by an unencoded text, whose tabs and line breaks are
dropped. -/
def setQuery (u : Url) (query : List Char) : Url :=
  let kept := query.filter fun c => !(c = '\t' || c = '\n' || c = '\r')
  { u with query := some (String.ofList
      (Percent.encode (Percent.isQueryChar u.kind.isSpecial) kept)) }

end Url

end WebClient
