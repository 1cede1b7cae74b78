import WebClient.Source.Phrase

/-!
# Attributes and visibility

An attribute is a hash with brackets behind it, in which a path stands alone,
before tokens in brackets, or before an equals sign and an expression.  An inner
attribute has an exclamation mark behind the hash and belongs to what it stands
in.  The word `pub` says that something may be seen from outside, and parentheses
behind it say from where.
-/

namespace WebClient.Source

/-! ## Paths of names -/

/-- A path of names without anything given to them. -/
structure NamePath where
  /-- The path starts with two colons. -/
  leading : Bool
  names : List String
  deriving DecidableEq, Repr

namespace NamePath

/-- The path is a single name. -/
def isName (path : NamePath) (name : String) : Bool := !path.leading && path.names = [name]

/-- The single name that a path is. -/
def name? (path : NamePath) : Option String :=
  match path.leading, path.names with
  | false, [name] => some name
  | _, _ => none

/-- The wording of a path. -/
def tokens (path : NamePath) : List Token :=
  let names : List (List Token) := path.names.map fun name => [.word name]
  (if path.leading then Token.marks "::" else []) ++
    (names.intersperse (Token.marks "::")).flatten

/-- Read a path of words that are read one by one. -/
def readOf (word : Reader String) : Reader NamePath := do
  let leading ← Reader.mark? "::"
  let names ← Reader.repeatFrom (do
    let name ← word
    let colons ← Reader.mark? "::"
    return (name, !colons.isEmpty)) ((← get).length + 1)
  return ⟨!leading.isEmpty, names⟩

/-- Read a path, in which every keyword may stand. -/
def readAny : Reader NamePath := readOf Reader.anyWord

/-- Read a path of names and of the words that stand for places. -/
def read : Reader NamePath :=
  readOf do
    if ← Reader.ahead fun s => Ahead.name s || Ahead.pathWord s then Reader.anyWord
    else failure

end NamePath

/-- Read a call of something that is expanded, for its wording, and whether its
content is in braces. -/
def Reader.call : Reader (List Token × Bool) := do
  let path ← NamePath.read
  let mark ← Reader.mark "!"
  let brace ← Reader.ahead (Ahead.group .brace)
  return (path.tokens ++ mark ++ (← Reader.anyGroup), brace)

/-- Read a call of something that is expanded; a semicolon follows unless its content
is in braces. -/
def Reader.callStatement : Reader (List Token) := do
  let (tokens, brace) ← Reader.call
  if brace then return tokens else return tokens ++ (← Reader.mark ";")

/-! ## Attributes -/

/-- What an attribute says besides its path. -/
inductive AttributeForm where
  | bare
  | list (delimiter : Delimiter) (content : List Token)
  | value (expression : List Token)
  deriving Repr

/-- An attribute. -/
structure Attribute where
  inner : Bool
  path : NamePath
  form : AttributeForm
  deriving Repr

namespace Attribute

/-- The path of the attribute is a single name. -/
def isNamed (a : Attribute) (name : String) : Bool := a.path.isName name

/-- The wording of an attribute. -/
def tokens (a : Attribute) : List Token :=
  let form := match a.form with
    | .bare => []
    | .list d content => Token.inside d content
    | .value expression => Token.marks "=" ++ expression
  Token.marks "#" ++ (if a.inner then Token.marks "!" else []) ++
    Token.inside .bracket (a.path.tokens ++ form)

/-- Read what stands in the brackets of an attribute. -/
def readContent (rules : Rules) (inner : Bool) : Reader Attribute := do
  let path ← if ← Reader.ahead (Ahead.word "unsafe") then do
      let name ← Reader.anyWord
      pure ⟨false, [name]⟩
    else NamePath.read
  match ← get with
  | .group d content :: rest =>
      set rest
      return ⟨inner, path, .list d content⟩
  | s =>
      if Ahead.equals s && !Ahead.mark "==" s then
        let _ ← Reader.mark "="
        if ← Reader.ahead fun s =>
            Ahead.mark "#" s && Ahead.second (Ahead.group .bracket) s then failure
        return ⟨inner, path, .value (← rules.expression)⟩
      else return ⟨inner, path, .bare⟩

/-- Read an attribute of what follows. -/
def readOuter (rules : Rules) : Reader Attribute := do
  let _ ← Reader.mark "#"
  Reader.inside .bracket (readContent rules false)

/-- Read an attribute of what it stands in. -/
def readInner (rules : Rules) : Reader Attribute := do
  let _ ← Reader.mark "#"
  let _ ← Reader.mark "!"
  Reader.inside .bracket (readContent rules true)

/-- The tokens start with an attribute of what they stand in. -/
def innerAhead (s : List Token) : Bool := Ahead.mark "#" s && Ahead.second (Ahead.mark "!") s

/-- Read the attributes of what follows. -/
def outers (rules : Rules) : Reader (List Attribute) :=
  Reader.upTo (fun s => !Ahead.mark "#" s) (readOuter rules)

/-- Read the attributes of what they stand in. -/
def inners (rules : Rules) : Reader (List Attribute) :=
  Reader.upTo (fun s => !innerAhead s) (readInner rules)

/-- The wording of attributes. -/
def tokensOf (attributes : List Attribute) : List Token := attributes.flatMap tokens

end Attribute

/-- Read the attributes of what follows, for their wording. -/
def Rules.attributes (rules : Rules) : Reader (List Token) :=
  return Attribute.tokensOf (← Attribute.outers rules)

/-- Read the attributes of what they stand in, for their wording. -/
def Rules.innerAttributes (rules : Rules) : Reader (List Token) :=
  return Attribute.tokensOf (← Attribute.inners rules)

/-! ## Visibility -/

/-- Read who may see something. -/
def Reader.visibility : Reader (List Token) := do
  let pub ← word? "pub"
  if pub.isEmpty then return []
  else
    match ← get with
    | .group .parenthesis content :: rest =>
        if Ahead.word "in" content then
          let place := (do
            let word ← Reader.word "in"
            return word ++ (← NamePath.read).tokens : Reader (List Token))
          match place.run content with
          | some (tokens, []) =>
              set rest
              return pub ++ Token.inside .parenthesis tokens
          | _ => failure
        else if Ahead.wordOf ["crate", "self", "super"] content && content.length = 1 then
          set rest
          return pub ++ Token.inside .parenthesis content
        else return pub
    | _ => return pub

end WebClient.Source
