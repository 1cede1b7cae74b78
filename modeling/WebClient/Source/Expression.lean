import WebClient.Source.Operator
import WebClient.Text.Ascii

/-!
# Expressions

The operands of expressions: literals, paths, calls, closures, jumps, blocks and
choices, with what is asked of them behind points and in brackets.
-/

namespace WebClient.Source

/-! ## Brackets -/

/-- Expressions with commas between them, in parentheses. -/
def Rules.expressionList (rules : Rules) : Reader (List Token) :=
  Reader.bracketed .parenthesis do
    return Reader.joined (← Reader.separated "," List.isEmpty rules.expression)

/-- Expressions in brackets: the parts of an array, or a part and how often it is
repeated. -/
def Rules.arrayExpression (rules : Rules) : Reader (List Token) :=
  Reader.bracketed .bracket do
    if ← Reader.atEnd then return []
    else
      let first ← rules.expression
      if ← Reader.ahead (Ahead.mark ";") then
        let mark ← Reader.mark ";"
        return first ++ mark ++ (← rules.expression)
      else
        let comma ← if ← Reader.atEnd then pure [] else Reader.mark ","
        let more ← Reader.separated "," List.isEmpty rules.expression
        return first ++ comma ++ Reader.joined more

/-- A part of a structure by name or place, with its value; a name may stand for
itself. -/
def Rules.partValue (rules : Rules) : Reader (List Token) := do
  let attributes ← rules.attributes
  let named ← Reader.ahead Ahead.name
  let member ← Reader.member
  if !named || (← Reader.ahead (Ahead.mark ":")) then
    let colon ← Reader.mark ":"
    return attributes ++ member ++ colon ++ (← rules.expression)
  else return attributes ++ member

/-- The parts of a structure; the structure that gives the others comes last, without a
comma behind it. -/
def Rules.partValues (rules : Rules) : Reader (List Token) := do
  let items ← Reader.separated "," List.isEmpty do
    if ← Reader.ahead Ahead.range then
      let dots ← Reader.mark ".."
      if ← Reader.atEnd then return dots
      else
        let rest ← rules.expression
        if ← Reader.atEnd then return dots ++ rest else failure
    else rules.partValue
  return Reader.joined items

/-! ## Paths -/

/-- An expression that starts with a path. -/
def Rules.pathExpression (rules : Rules) (structures : Bool) : Reader Phrase := do
  let (qualified, path) ← rules.qualifiedPath true
  let s ← get
  if !qualified && path.named && Ahead.exclamation s then
    let mark ← Reader.mark "!"
    let brace ← Reader.ahead (Ahead.group .brace)
    let tokens := path.tokens ++ mark ++ (← Reader.anyGroup)
    return if brace then .expansion tokens else .plain tokens
  else if structures && Ahead.group .brace s then
    return .plain (path.tokens ++ (← Reader.bracketed .brace rules.partValues))
  else return .plain path.tokens

/-! ## Closures -/

/-- An input of a closure.  A pattern that is kept as it stands loses its attributes
unless a type follows. -/
def Rules.closureInput (rules : Rules) : Reader (List Token) := do
  let attributes ← rules.attributes
  let pattern ← rules .pattern
  if ← Reader.ahead (Ahead.mark ":") then
    let colon ← Reader.mark ":"
    return attributes ++ pattern.tokens ++ colon ++ (← rules.type)
  else return (pattern.withAttributes attributes).tokens

/-- A closure. -/
def Rules.closure (rules : Rules) (structures : Bool) : Reader (List Token) := do
  let binder ← rules.binder
  let words := (← Reader.word? "const") ++ (← Reader.word? "static") ++
    (← Reader.word? "async") ++ (← Reader.word? "move")
  let opening ← Reader.mark "|"
  let inputs ← Reader.separated "," (Ahead.mark "|") rules.closureInput
  let closing ← Reader.mark "|"
  let head := binder ++ words ++ opening ++ Reader.joined inputs ++ closing
  match ← rules.returned true with
  | some type => return head ++ Phrase.returnedTokens (some type) ++ (← rules.plainBlock)
  | none => return head ++ (← rules.wording (.expression structures))

/-- The tokens start with a closure. -/
def Ahead.closure (s : List Token) : Bool :=
  Ahead.mark "|" s || Ahead.wordOf ["move", "static"] s || Ahead.binder s ||
    (Ahead.word "const" s && !Ahead.second (Ahead.group .brace) s) ||
    (Ahead.word "async" s &&
      Ahead.second (fun s => Ahead.mark "|" s || Ahead.word "move" s) s)

/-! ## Choices and loops -/

/-- The blocks of a choice between conditions. -/
def Rules.choice (rules : Rules) : Nat → Reader (List Token)
  | 0 => failure
  | fuel + 1 => do
      let word ← Reader.word "if"
      let condition ← rules.wording (.expression false)
      let head := word ++ condition ++ (← rules.plainBlock)
      let other ← Reader.word? "else"
      if other.isEmpty then return head
      else if ← Reader.ahead (Ahead.word "if") then
        return head ++ other ++ (← rules.choice fuel)
      else return head ++ other ++ (← rules.plainBlock)

/-- An arm of a match; behind a block the comma may be left out. -/
def Rules.arm (rules : Rules) : Reader (List Token) := do
  let attributes ← rules.attributes
  let pattern ← rules.wording .patterns
  let guard ← Reader.optional (Ahead.word "if") do
    return (← Reader.word "if") ++ (← rules.expression)
  let arrow ← Reader.mark "=>"
  let body ← rules .early
  let head := attributes ++ pattern ++ guard ++ arrow ++ body.tokens
  if body.isClosed || (← Reader.atEnd) then return head ++ (← Reader.mark? ",")
  else return head ++ (← Reader.mark ",")

/-- A value and the arms that it is matched with. -/
def Rules.matching (rules : Rules) : Reader (List Token) := do
  let word ← Reader.word "match"
  let value ← rules.wording (.expression false)
  return word ++ value ++ (← Reader.bracketed .brace do
    let attributes ← rules.innerAttributes
    return attributes ++ (← Reader.upTo List.isEmpty rules.arm).flatten)

/-- A loop or a block, to which a label may belong. -/
def Rules.labeled (rules : Rules) : Reader (List Token) := do
  let s ← get
  if Ahead.word "while" s then
    let word ← Reader.word "while"
    let condition ← rules.wording (.expression false)
    return word ++ condition ++ (← rules.block)
  else if Ahead.word "for" s then
    let word ← Reader.word "for"
    let pattern ← rules.wording .patterns
    let among ← Reader.word "in"
    let items ← rules.wording (.expression false)
    return word ++ pattern ++ among ++ items ++ (← rules.block)
  else if Ahead.word "loop" s then
    return (← Reader.word "loop") ++ (← rules.block)
  else rules.block

/-- An expression with a block of its own: a choice, a loop, a match or a block. -/
def Rules.blockExpression (rules : Rules) : Reader (List Token) := do
  let s ← get
  if Ahead.word "if" s then rules.choice (s.length + 1)
  else if Ahead.word "match" s then rules.matching
  else if Ahead.word "try" s then return (← Reader.word "try") ++ (← rules.plainBlock)
  else if Ahead.wordOf ["unsafe", "const"] s then
    return (← Reader.nextOf 1) ++ (← rules.block)
  else if Ahead.lifetime s then
    let name ← Reader.lifetime
    let colon ← Reader.mark ":"
    return name ++ colon ++ (← rules.labeled)
  else rules.labeled

/-- The tokens start with an expression with a block of its own. -/
def Ahead.blockExpression (s : List Token) : Bool :=
  Ahead.wordOf ["if", "while", "loop", "match", "unsafe"] s ||
    (Ahead.word "for" s && !Ahead.binder s) ||
    (Ahead.wordOf ["const", "try"] s && Ahead.second (Ahead.group .brace) s) ||
    Ahead.group .brace s || Ahead.lifetime s

/-! ## Jumps -/

/-- The tokens may start an expression. -/
def Ahead.expression (s : List Token) : Bool :=
  let operator (text : String) (others : List String) :=
    Ahead.mark text s && !others.any fun other => Ahead.mark other s
  Ahead.anyWord s || Ahead.group .parenthesis s || Ahead.group .bracket s ||
    Ahead.group .brace s || Ahead.literal s || Ahead.lifetime s ||
    operator "!" ["!="] || operator "-" ["-=", "->"] || operator "*" ["*="] ||
    operator "|" ["|="] || operator "&" ["&="] || operator "<" ["<=", "<<="] ||
    Ahead.range s || Ahead.mark "::" s || Ahead.mark "#" s

/-- The value that a jump carries, if it carries one. -/
def Rules.carried (rules : Rules) : Reader (List Token) :=
  Reader.optional Ahead.expression rules.expression

/-- A jump out of a loop or a block.  A label before a value is one of the jump, and
where no structure may stand a block is no value. -/
def Rules.breaking (rules : Rules) (structures : Bool) : Reader (List Token) := do
  let word ← Reader.word "break"
  let label ← Reader.optional Ahead.lifetime Reader.lifetime
  let s ← get
  if !label.isEmpty && Ahead.mark ":" s then failure
  else if !structures && Ahead.group .brace s then return word ++ label
  else return word ++ label ++ (← rules.carried)

/-! ## Operands -/

/-- Something that only the compiler can expand. -/
def Reader.builtin : Reader (List Token) := do
  let word ← word "builtin"
  let mark ← mark "#"
  let name ← name
  return word ++ mark ++ .word name :: (← bracketed .parenthesis do
    let s ← get
    set ([] : List Token)
    return s)

/-- A pattern that is tried on a value. -/
def Rules.letting (rules : Rules) (structures : Bool) : Reader (List Token) := do
  let word ← Reader.word "let"
  let pattern ← rules.wording .patterns
  let equals ← Reader.mark "="
  let value ← rules (.operand structures)
  let value ← rules.extended structures Operator.compare.strength value
  return word ++ pattern ++ equals ++ value.tokens

/-- The tokens start with a block that is run later. -/
def Ahead.laterBlock (s : List Token) : Bool :=
  Ahead.word "async" s && (Ahead.second (Ahead.group .brace) s ||
    (Ahead.second (Ahead.word "move") s && Ahead.third (Ahead.group .brace) s))

/-- The tokens start with an expression that starts with a path. -/
def Ahead.pathExpression (s : List Token) : Bool :=
  Ahead.path s || (Ahead.word "try" s &&
    Ahead.second (fun s => Ahead.mark "!" s || Ahead.mark "::" s) s)

/-- The operand of an expression without the operators before and behind it. -/
def Rules.atom (rules : Rules) (structures : Bool) : Reader Phrase := do
  let s ← get
  if Ahead.literal s then return .plain (← Reader.literal)
  else if Ahead.laterBlock s then
    let words := (← Reader.word "async") ++ (← Reader.word? "move")
    return .plain (words ++ (← rules.plainBlock))
  else if Ahead.closure s then return .plain (← rules.closure structures)
  else if Ahead.word "builtin" s && Ahead.second (Ahead.mark "#") s then
    return .bare (← Reader.builtin)
  else if Ahead.pathExpression s then rules.pathExpression structures
  else if Ahead.group .parenthesis s then return .plain (← rules.expressionList)
  else if Ahead.word "break" s then return .plain (← rules.breaking structures)
  else if Ahead.word "continue" s then
    let word ← Reader.word "continue"
    return .plain (word ++ (← Reader.optional Ahead.lifetime Reader.lifetime))
  else if Ahead.wordOf ["return", "yield"] s then
    return .plain ((← Reader.nextOf 1) ++ (← rules.carried))
  else if Ahead.word "become" s then
    return .bare (← Reader.verbatim do
      let _ ← Reader.word "become"
      rules.expression).1
  else if Ahead.group .bracket s then return .plain (← rules.arrayExpression)
  else if Ahead.word "let" s then return .plain (← rules.letting structures)
  else if Ahead.blockExpression s then return .closed (← rules.blockExpression)
  else if Ahead.range s then rules.openRange structures
  else if Ahead.word "_" s then return .plain (← Reader.word "_")
  else failure

/-! ## Members -/

/-- The places that a number names, with points between and before them, and whether
a point stands behind them. -/
def Reader.places? (text : List Char) : Option (List Token × Bool) := do
  let parts := Text.splitAll (· = '.') text
  let pending := parts.length > 1 && parts.getLast? = some []
  let places ← (if pending then parts.dropLast else parts).mapM Literal.value?
  return (places.flatMap fun n => [.mark '.' false, .literal (toString n)], pending)

/-- What is asked of an operand by name or place behind a point: a part, a place or a
call. -/
def Rules.memberBehind (rules : Rules) : Reader (List Token) := do
  if ← Reader.ahead (Ahead.word "await") then Reader.word "await"
  else if ← Reader.ahead Ahead.name then
    let name ← Reader.name
    if ← Reader.ahead (Ahead.mark "::") then
      let colons ← Reader.mark "::"
      let (given, _) ← rules.angles
      return .word name :: colons ++ given ++ (← rules.expressionList)
    else return [.word name]
  else Reader.place

/-- What is asked of an operand behind a point. -/
def Rules.member (rules : Rules) : Reader (List Token) := do
  let dot ← Reader.mark "."
  match ← get with
  | .literal text :: rest =>
      match Reader.places? text.toList with
      | some (places, pending) =>
          set rest
          if pending then return places ++ dot ++ (← rules.memberBehind) else return places
      | none => failure
  | _ => return dot ++ (← rules.memberBehind)

/-- The tokens ask something of an operand. -/
def Ahead.trailer (s : List Token) : Bool :=
  Ahead.group .parenthesis s || Ahead.group .bracket s || Ahead.mark "?" s || Ahead.point s

/-- The calls, indices and parts behind an operand. -/
def Rules.trailer (rules : Rules) (first : Phrase) : Reader Phrase := do
  if first.isRange then return first
  else
    let more ← Reader.upTo (fun s => !Ahead.trailer s) do
      let s ← get
      if Ahead.group .parenthesis s then rules.expressionList
      else if Ahead.group .bracket s then Reader.bracketed .bracket rules.expression
      else if Ahead.mark "?" s then Reader.mark "?"
      else rules.member
    return if more.isEmpty then first else .plain (first.tokens ++ more.flatten)

/-- How an operand is read, with the operators before it.  A range without a start has no
attributes, and what is kept as it stands keeps them. -/
def Rules.operandPhrase (rules : Rules) (structures : Bool) : Reader Phrase := do
  let (raw, attributes, phrase) ← Reader.verbatim do
    let attributes ← rules.attributes
    let s ← get
    if Ahead.mark "&" s then
      let mark ← Reader.mark "&"
      let raw := Ahead.second
        (fun s => Ahead.word "raw" s && Ahead.second (Ahead.wordOf ["mut", "const"]) s) s
      let words ← if raw then Reader.nextOf 2 else Reader.word? "mut"
      let operand ← rules.wording (.operand structures)
      return (attributes, Phrase.plain (mark ++ words ++ operand))
    else if Ahead.mark "*" s || Ahead.mark "!" s || Ahead.mark "-" s then
      let mark ← Reader.nextOf 1
      return (attributes, Phrase.plain (mark ++ (← rules.wording (.operand structures))))
    else return (attributes, ← rules.trailer (← rules.atom structures))
  match phrase with
  | .bare _ => return .bare raw
  | .range _ => if attributes.isEmpty then return phrase else failure
  | _ => return phrase.withAttributes attributes

/-- How an expression is read that ends behind a block of its own. -/
def Rules.earlyPhrase (rules : Rules) : Reader Phrase := do
  let attributes ← rules.attributes
  if ← Reader.ahead Ahead.blockExpression then
    let block := Phrase.closed (← rules.blockExpression)
    if ← Reader.ahead fun s => Ahead.point s || Ahead.mark "?" s then
      let operand ← rules.trailer block
      rules.extended true 0 (operand.withAttributes attributes)
    else return block.withAttributes attributes
  else
    let operand ← rules (.operand true)
    rules.extended true 0 (operand.withAttributes attributes)

end WebClient.Source
