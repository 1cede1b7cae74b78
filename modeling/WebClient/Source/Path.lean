import WebClient.Source.Attribute

/-!
# Paths

The paths of types and expressions, with what is given to their names in angle
brackets.  In angle brackets lifetimes are written before everything else, whatever
order they are read in.
-/

namespace WebClient.Source

/-! ## Blocks -/

/-- The statements of a block, in braces, with the attributes of the block. -/
def Rules.block (rules : Rules) : Reader (List Token) :=
  Reader.bracketed .brace do
    return (← rules.innerAttributes) ++ (← rules.wording .statements)

/-- The statements of a block that has no attributes, in braces. -/
def Rules.plainBlock (rules : Rules) : Reader (List Token) :=
  Reader.bracketed .brace (rules.wording .statements)

/-! ## Angle brackets -/

/-- What stands in angle brackets. -/
structure Given where
  tokens : List Token
  lifetime : Bool
  /-- The type that is given, if it is one. -/
  type? : Option Phrase

namespace Given

/-- A lifetime. -/
def ofLifetime (tokens : List Token) : Given := ⟨tokens, true, none⟩

/-- Something that is neither a lifetime nor a type. -/
def other (tokens : List Token) : Given := ⟨tokens, false, none⟩

/-- A type. -/
def ofType (type : Phrase) : Given := ⟨type.tokens, false, some type⟩

/-- Things in angle brackets with the commas behind them, lifetimes first. -/
def arranged (items : List (Given × List Token)) : List Token :=
  let lifetimes := items.filter fun (given, _) => given.lifetime
  let others := items.filter fun (given, _) => !given.lifetime
  let write := fun (written : List Token × Bool) ((given, comma) : Given × List Token) =>
    let gap := if written.2 then [] else Token.marks ","
    (written.1 ++ gap ++ given.tokens ++ comma, !comma.isEmpty)
  let plain := Reader.joined (lifetimes.map fun (given, comma) => (given.tokens, comma))
  let closed := match lifetimes.getLast? with
    | some (_, comma) => !comma.isEmpty
    | none => true
  (others.foldl write (plain, closed)).1

end Given

/-- What ends the things in angle brackets, or one of them. -/
def Ahead.givenEnd (s : List Token) : Bool := Ahead.mark "," s || Ahead.mark ">" s

/-- The value of a constant in angle brackets: a literal, a name or a block. -/
def Rules.constant (rules : Rules) : Reader (List Token) := do
  let s ← get
  if Ahead.literal s then Reader.literal
  else if Ahead.name s then return [.word (← Reader.name)]
  else rules.block

/-- The tokens start with a constant that no type can be mistaken for. -/
def Ahead.constant (s : List Token) : Bool := Ahead.literal s || Ahead.group .brace s

/-- Something given in angle brackets. -/
def Rules.given (rules : Rules) : Reader Given := do
  let s ← get
  if Ahead.lifetime s && !Ahead.second (Ahead.mark "+") s then
    return Given.ofLifetime (← Reader.lifetime)
  else if Ahead.constant s then return Given.other (← rules.constant)
  else
    let type ← rules (.type true)
    if !type.isLone then return Given.ofType type
    else if ← Reader.ahead (Ahead.mark "=") then
      let equals ← Reader.mark "="
      let value ← if ← Reader.ahead Ahead.constant then rules.constant else rules.type
      return Given.other (type.tokens ++ equals ++ value)
    else if ← Reader.ahead (Ahead.mark ":") then
      let colon ← Reader.mark ":"
      let bounds ← Reader.chain "+" Ahead.givenEnd (rules.wording (.bound false true))
      return Given.other (type.tokens ++ colon ++ Reader.joined bounds)
    else return Given.ofType type

/-- Things given in angle brackets, and their wording with the brackets. -/
def Rules.angles (rules : Rules) : Reader (List Token × List Given) := do
  let opening ← Reader.mark "<"
  let items ← Reader.separated "," (Ahead.mark ">") rules.given
  let closing ← Reader.mark ">"
  return (opening ++ Given.arranged items ++ closing, items.map (·.1))

/-! ## Names -/

/-- A path as it was read. -/
structure PathPhrase where
  /-- The path up to its last name. -/
  stem : List Token
  name : String
  /-- What is given to the last name. -/
  suffix : List Token
  /-- The types that are given to the last name in angle brackets. -/
  types : List Phrase
  /-- Nothing is given to the last name. -/
  vacant : Bool
  /-- The path is a single name. -/
  lone : Bool
  /-- The path is made of names alone. -/
  named : Bool

namespace PathPhrase

/-- The wording of a path. -/
def tokens (path : PathPhrase) : List Token := path.stem ++ path.suffix

/-- The path of a word to which nothing is given. -/
def ofWord (word : String) : PathPhrase := ⟨[.word word], word, [], [], true, true, true⟩

/-- The path of a name with things in angle brackets. -/
def ofAngles (name : String) (tokens : List Token) (items : List Given) : PathPhrase :=
  ⟨[.word name], name, tokens, items.filterMap Given.type?, items.isEmpty, true, false⟩

/-- The path with another behind it. -/
def followedBy (path : PathPhrase) (colons : List Token) (next : PathPhrase) : PathPhrase :=
  { next with
    stem := path.tokens ++ colons ++ next.stem
    lone := false
    named := path.named && next.named }

/-- The path with tokens before it. -/
def after (tokens : List Token) (path : PathPhrase) : PathPhrase :=
  { path with stem := tokens ++ path.stem, lone := path.lone && tokens.isEmpty }

/-- The path as a type. -/
def type (path : PathPhrase) (qualified : Bool) : Phrase :=
  let shape := if qualified then .qualified else if path.lone then .lone else .joined
  .path path.tokens shape path.name path.types

end PathPhrase

/-- A name of a path with what is given to it.  In an expression two colons stand
before the angle brackets. -/
def Rules.segment (rules : Rules) (expression : Bool) : Reader PathPhrase := do
  let s ← get
  if Ahead.wordOf ["super", "self", "crate", "try"] s then
    return PathPhrase.ofWord (← Reader.anyWord)
  else
    let name ← if Ahead.word "Self" s then Reader.anyWord else Reader.name
    let s ← get
    let direct := !expression && Ahead.mark "<" s && !Ahead.mark "<=" s && !Ahead.mark "<<=" s
    let colons := Ahead.mark "::" s && Ahead.third (Ahead.mark "<") s
    if direct || colons then
      let colons ← Reader.mark? "::"
      let (tokens, items) ← rules.angles
      return PathPhrase.ofAngles name (colons ++ tokens) items
    else return PathPhrase.ofWord name

/-- The tokens go on with another name of a path. -/
def Ahead.segment (s : List Token) : Bool :=
  Ahead.mark "::" s && !Ahead.third (Ahead.group .parenthesis) s

/-- The names of a path behind others, as long as there are any. -/
def Rules.moreSegments (rules : Rules) (expression : Bool) (more : List Token → Bool)
    (path : PathPhrase) : Reader PathPhrase := do
  let segments ← Reader.upTo (fun s => !more s) do
    let colons ← Reader.mark "::"
    return (colons, ← rules.segment expression)
  return segments.foldl (fun path (colons, next) => path.followedBy colons next) path

/-- A path that may start with two colons. -/
def Rules.path (rules : Rules) (expression : Bool) : Reader PathPhrase := do
  let leading ← Reader.mark? "::"
  let first ← rules.segment expression
  rules.moreSegments expression Ahead.segment (first.after leading)

/-- A path that may start with a type in angle brackets, and whether it does. -/
def Rules.qualifiedPath (rules : Rules) (expression : Bool) : Reader (Bool × PathPhrase) := do
  if ← Reader.ahead (Ahead.mark "<") then
    let opening ← Reader.mark "<"
    let type ← rules.type
    let role ← if ← Reader.ahead (Ahead.word "as") then do
        let as ← Reader.word "as"
        pure (as ++ (← rules.path false).tokens)
      else pure []
    let closing ← Reader.mark ">"
    let colons ← Reader.mark "::"
    let first ← rules.segment expression
    let path ← rules.moreSegments expression (Ahead.mark "::") first
    return (true, path.after (opening ++ type ++ role ++ closing ++ colons))
  else return (false, ← rules.path expression)

/-! ## Returned types -/

/-- The type behind an arrow, if there is one. -/
def Rules.returned (rules : Rules) (bounds : Bool) : Reader (Option Phrase) := do
  if ← Reader.ahead (Ahead.mark "->") then
    let _ ← Reader.mark "->"
    return some (← rules (.type bounds))
  else return none

/-- The wording of a type behind an arrow. -/
def Phrase.returnedTokens : Option Phrase → List Token
  | some type => Token.marks "->" ++ type.tokens
  | none => []

end WebClient.Source
