import WebClient.Source.Declaration
import WebClient.Source.Expression

/-!
# Statements

What stands in a block: declarations, names for values, calls that are expanded, and
expressions.  A semicolon stands behind an expression unless it is the last or ends
with a block of its own.
-/

namespace WebClient.Source

/-- The tokens behind the path of a call of something that is expanded, from its
exclamation mark on. -/
def Ahead.behindCallPath (s : List Token) : Option (List Token) :=
  match NamePath.read.run s with
  | some (_, rest) => if Ahead.mark "!" rest then some rest else none
  | none => none

/-- The tokens start with a call that is expanded to declarations and gives them a
name. -/
def Ahead.namedCall (s : List Token) : Bool :=
  (Ahead.behindCallPath s).any (Ahead.second fun s => Ahead.name s || Ahead.word "try" s)

/-- The tokens start with a call in braces that is a statement of its own. -/
def Ahead.callStatement (s : List Token) : Bool :=
  (Ahead.behindCallPath s).any fun s => Ahead.second (Ahead.group .brace) s &&
    !Ahead.third (fun s => Ahead.point s || Ahead.mark "?" s) s

/-- The tokens start with a declaration. -/
def Ahead.declaration (s : List Token) : Bool :=
  let second := fun p => Ahead.second p s
  let third := fun p => Ahead.third p s
  let words := fun words => second (Ahead.wordOf words)
  let routine := ["unsafe", "extern", "fn"]
  Ahead.wordOf ["pub", "extern", "use", "fn", "mod", "type", "struct", "enum", "trait", "impl",
      "macro"] s ||
    (Ahead.word "crate" s && !second (Ahead.mark "::")) ||
    (Ahead.word "static" s && second fun s => Ahead.word "mut" s || Ahead.name s) ||
    (Ahead.word "const" s && !(second (fun s => Ahead.group .brace s || Ahead.mark "|" s) ||
      words ["static", "move"] || (words ["async"] && !third (Ahead.wordOf routine)))) ||
    (Ahead.word "unsafe" s && !second (Ahead.group .brace)) ||
    (Ahead.word "async" s && words routine) ||
    (Ahead.word "union" s && second Ahead.name) ||
    (Ahead.word "auto" s && words ["trait"]) ||
    (Ahead.word "default" s && words ["unsafe", "impl"]) || Ahead.namedCall s

/-- The last of the tokens is a group in braces. -/
def Token.endWithBrace (tokens : List Token) : Bool :=
  tokens.getLast?.any fun token => Ahead.group .brace [token]

/-- A name for a value.  What is done where the pattern does not match stands behind
`else`, unless the value ends with a brace. -/
def Rules.localName (rules : Rules) : Reader (List Token) := do
  let word ← Reader.word "let"
  let pattern ← rules.wording .pattern
  let type ← Reader.behind? ":" rules.type
  let value ← Reader.behind? "=" do
    let value ← rules.expression
    let other ← if Token.endWithBrace value then pure []
      else Reader.optional (Ahead.word "else") do
        return (← Reader.word "else") ++ (← rules.plainBlock)
    return value ++ other
  return word ++ pattern ++ type ++ value ++ (← Reader.mark ";")

/-- A statement behind its attributes, and whether a semicolon is missing unless it is the
last. -/
def Rules.statementBehind (rules : Rules) (attributes : List Token) :
    Reader (List Token × Bool) := do
  let s ← get
  if Ahead.callStatement s then
    let (call, _) ← Reader.call
    return (attributes ++ call ++ (← Reader.mark? ";"), false)
  else if Ahead.word "let" s then return (attributes ++ (← rules.localName), false)
  else
    let phrase ← rules .early
    let mark ← Reader.mark? ";"
    return ((phrase.withAttributes attributes).tokens ++ mark,
      mark.isEmpty && !phrase.isStatement)

/-- A statement, and whether a semicolon is missing unless it is the last. -/
def Rules.statement (rules : Rules) : Reader (List Token × Bool) := do
  let s ← get
  let attributes ← rules.attributes
  if ← Reader.ahead fun s => !Ahead.callStatement s && Ahead.declaration s then
    set s
    return (← rules.wording .declaration, false)
  else rules.statementBehind attributes

/-- How the statements of a block are read. -/
def Rules.statementsPhrase (rules : Rules) : Reader Phrase := do
  let items ← Reader.upTo List.isEmpty do
    if ← Reader.ahead (Ahead.mark ";") then Reader.mark ";"
    else
      let (tokens, unfinished) ← rules.statement
      if unfinished && !(← Reader.atEnd) then failure
      return tokens
  return .plain items.flatten

end WebClient.Source
