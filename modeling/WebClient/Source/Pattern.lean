import WebClient.Source.TypeExpr

/-!
# Patterns

What a value is matched with: a name, a literal, a range, a path with the parts
of a structure, a reference, or several patterns in brackets.
-/

namespace WebClient.Source

/-! ## Ranges -/

/-- The tokens start with a range. -/
def Ahead.range (s : List Token) : Bool := Ahead.mark ".." s

/-- The marks of a range, and whether an end has to follow. -/
def Reader.rangeMark : Reader (List Token × Bool) := do
  let s ← get
  if Ahead.mark "..=" s then return (← mark "..=", true)
  else if Ahead.mark "..." s then failure
  else return (← mark "..", false)

/-- The marks of a range behind its start, and whether an end has to follow.  Three
points are written as two with an equals sign. -/
def Reader.laterRangeMark : Reader (List Token × Bool) := do
  if ← ahead (Ahead.mark "...") then
    let _ ← mark "..."
    return (Token.marks "..=", true)
  else rangeMark

/-- What ends a range that has no end of its own. -/
def Ahead.rangeEnd (s : List Token) : Bool :=
  s.isEmpty || Ahead.mark "|" s || Ahead.mark "=" s || Ahead.colon s ||
    Ahead.mark "," s || Ahead.mark ";" s || Ahead.word "if" s

/-- A constant block. -/
def Rules.constantBlock (rules : Rules) : Reader (List Token) := do
  return (← Reader.word "const") ++ (← rules.block)

/-- One end of a range: a literal, a path or a constant block. -/
def Rules.rangeBound (rules : Rules) : Reader (List Token) := do
  let s ← get
  if Ahead.literal s then Reader.literal
  else if Ahead.path s then return (← rules.qualifiedPath true).2.tokens
  else rules.constantBlock

/-- The end of a range behind its marks, if it has one. -/
def Rules.rangeStop (rules : Rules) (needed : Bool) : Reader (List Token) := do
  if ← Reader.ahead Ahead.rangeEnd then
    if needed then failure else return []
  else rules.rangeBound

/-- A range behind its start. -/
def Rules.rangeFrom (rules : Rules) (start : List Token) : Reader Phrase := do
  let (mark, needed) ← Reader.laterRangeMark
  let stop ← rules.rangeStop needed
  let tokens := start ++ mark ++ stop
  return if stop.isEmpty then .openRange tokens else .plain tokens

/-- A range without a start; without an end it stands for all that is left. -/
def Rules.rangeTo (rules : Rules) : Reader Phrase := do
  let (mark, needed) ← Reader.rangeMark
  let stop ← rules.rangeStop needed
  return if stop.isEmpty then .plain mark else .openRange (mark ++ stop)

/-! ## Parts -/

/-- A part of a structure by name or place, with its pattern; a name may stand for
itself. -/
def Rules.partPattern (rules : Rules) : Reader (List Token) := do
  let modes := (← Reader.word? "box") ++ (← Reader.word? "ref") ++ (← Reader.word? "mut")
  if modes.isEmpty then
    let named ← Reader.ahead Ahead.name
    let member ← Reader.member
    if !named || (← Reader.ahead (Ahead.mark ":")) then
      let colon ← Reader.mark ":"
      return member ++ colon ++ (← rules.wording .patterns)
    else return member
  else return modes ++ [.word (← Reader.name)]

/-- The parts of a structure; dots that stand for the others come last, without a comma
behind them. -/
def Rules.partPatterns (rules : Rules) : Reader (List Token) := do
  let items ← Reader.separated "," List.isEmpty do
    let attributes ← rules.attributes
    if ← Reader.ahead Ahead.range then
      let dots ← Reader.mark ".."
      if ← Reader.atEnd then return attributes ++ dots else failure
    else return attributes ++ (← rules.partPattern)
  return Reader.joined items

/-- Patterns with commas between them, in parentheses. -/
def Rules.patternList (rules : Rules) : Reader (List Token) :=
  Reader.bracketed .parenthesis do
    return Reader.joined (← Reader.separated "," List.isEmpty (rules.wording .patterns))

/-- The patterns of a slice, of which none is a range without one of its ends. -/
def Rules.slicePattern (rules : Rules) : Reader (List Token) :=
  Reader.bracketed .bracket do
    let items ← Reader.separated "," List.isEmpty do
      match ← rules .patterns with
      | .openRange _ => failure
      | pattern => return pattern.tokens
    return Reader.joined items

/-! ## Patterns -/

/-- A pattern that starts with a path. -/
def Rules.pathPattern (rules : Rules) : Reader Phrase := do
  let (qualified, path) ← rules.qualifiedPath true
  let s ← get
  if !qualified && path.named && Ahead.exclamation s then
    let mark ← Reader.mark "!"
    return .plain (path.tokens ++ mark ++ (← Reader.anyGroup))
  else if Ahead.group .brace s then
    return .plain (path.tokens ++ (← Reader.bracketed .brace rules.partPatterns))
  else if Ahead.group .parenthesis s then
    return .plain (path.tokens ++ (← rules.patternList))
  else if Ahead.range s then rules.rangeFrom path.tokens
  else return .plain path.tokens

/-- A pattern that gives what it matches a name, and may ask for another pattern. -/
def Rules.bindingPattern (rules : Rules) : Reader Phrase := do
  let modes := (← Reader.word? "ref") ++ (← Reader.word? "mut")
  let name ← if ← Reader.ahead (Ahead.word "self") then Reader.anyWord else Reader.name
  let inner ← Reader.behind? "@" (rules.wording .pattern)
  return .binding (modes ++ .word name :: inner) name

/-- The tokens start with a pattern that starts with a path. -/
def Ahead.pathPattern (s : List Token) : Bool :=
  let behind (s : List Token) := Ahead.mark "::" s || Ahead.mark "!" s ||
    Ahead.group .brace s || Ahead.group .parenthesis s || Ahead.range s
  (Ahead.name s && Ahead.second behind s) ||
    (Ahead.word "self" s && Ahead.second (Ahead.mark "::") s) ||
    Ahead.mark "::" s || Ahead.mark "<" s || Ahead.wordOf ["Self", "super", "crate"] s

/-- How a pattern is read. -/
def Rules.patternPhrase (rules : Rules) : Reader Phrase := do
  let s ← get
  if Ahead.pathPattern s then rules.pathPattern
  else if Ahead.word "_" s then return .plain (← Reader.word "_")
  else if Ahead.word "box" s then
    return .bare (← Reader.verbatim do
      let _ ← Reader.word "box"
      rules .pattern).1
  else if Ahead.mark "-" s || Ahead.literal s || Ahead.word "const" s then
    let start ← rules.rangeBound
    if ← Reader.ahead Ahead.range then rules.rangeFrom start else return .plain start
  else if Ahead.wordOf ["ref", "mut", "self"] s || Ahead.name s then rules.bindingPattern
  else if Ahead.mark "&" s then
    let mark ← Reader.mark "&"
    let word ← Reader.word? "mut"
    return .plain (mark ++ word ++ (← rules.wording .pattern))
  else if Ahead.group .parenthesis s then return .plain (← rules.patternList)
  else if Ahead.group .bracket s then return .plain (← rules.slicePattern)
  else if Ahead.range s && !Ahead.mark "..." s then rules.rangeTo
  else failure

/-- How patterns to choose from are read; a bar may stand before the first. -/
def Rules.patternsPhrase (rules : Rules) : Reader Phrase := do
  let leading ← Reader.mark? "|"
  let first ← rules .pattern
  let more ← Reader.upTo (fun s => !Ahead.bar s) do
    return (← Reader.mark "|") ++ (← rules.wording .pattern)
  if leading.isEmpty && more.isEmpty then return first
  else return .plain (leading ++ first.tokens ++ more.flatten)

end WebClient.Source
