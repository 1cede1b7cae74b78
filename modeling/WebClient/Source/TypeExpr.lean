import WebClient.Source.Bound

/-!
# Types

A type is a path, a reference or a pointer, the type of a function, an array, types
in parentheses, or bounds that stand for every type that meets them.
-/

namespace WebClient.Source

/-! ## Functions -/

/-- The name of a calling convention, if it is given. -/
def Reader.convention : Reader (List Token) :=
  optional (Ahead.word "extern") do
    return (← word "extern") ++ (← optional Ahead.text (nextOf 1))

/-- The tokens start with a name and a colon, or with one of some words and a colon. -/
def Ahead.named (words : List String) (s : List Token) : Bool :=
  (Ahead.name s || Ahead.wordOf words s) && Ahead.second Ahead.colon s

/-- The tokens start with the dots of a function that takes any number of inputs,
which a name may stand before. -/
def Ahead.dots (s : List Token) : Bool :=
  Ahead.mark "..." s ||
    ((Ahead.name s || Ahead.word "_" s) && Ahead.second (Ahead.mark ":") s &&
      Ahead.third (Ahead.mark "...") s)

/-- The word `self` with `mut` before it. -/
def Ahead.mutableSelf (s : List Token) : Bool :=
  Ahead.word "mut" s && Ahead.second (Ahead.word "self") s

/-- An input of a function type without its attributes.  The first input may be what
the function is called on; with `mut` before it, it is kept as it stands. -/
def Rules.functionInput (rules : Rules) (first : Bool) : Reader (List Token) := do
  let words := if first then ["_", "self"] else ["_"]
  let name := Reader.optional (Ahead.named words) do
    return .word (← Reader.anyWord) :: (← Reader.mark ":")
  if first && (← Reader.ahead Ahead.mutableSelf) then
    let word ← Reader.word "mut"
    let written ← Reader.verbatim do
      if (← name).isEmpty then Reader.word "self" else rules.type
    return word ++ written.1
  else
    let called ← Reader.ahead (Ahead.word "self")
    let name ← name
    if first && !(called && !name.isEmpty) && (← Reader.ahead Ahead.mutableSelf) then
      return name ++ (← Reader.nextOf 2)
    else return name ++ (← rules.type)

/-- An input of a function type with the comma behind it, and whether more follow.
Nothing follows the dots of a function that takes any number of inputs. -/
def Rules.functionInputStep (rules : Rules) (first : Bool) : Reader (List Token × Bool) := do
  let attributes ← rules.attributes
  if ← Reader.ahead Ahead.dots then
    let named ← Reader.ahead Ahead.anyWord
    let name ← Reader.nextOf (if named then 2 else 0)
    let dots ← Reader.mark "..."
    return (attributes ++ name ++ dots ++ (← Reader.mark? ","), false)
  else
    let input ← rules.functionInput first
    if ← Reader.atEnd then return (attributes ++ input, false)
    else
      let comma ← Reader.mark ","
      return (attributes ++ input ++ comma, !(← Reader.atEnd))

/-- The inputs of a function type. -/
def Rules.functionInputs (rules : Rules) : Reader (List Token) := do
  if ← Reader.atEnd then return []
  else
    let (first, more) ← rules.functionInputStep true
    if more then
      let others ← Reader.repeatFrom (rules.functionInputStep false) ((← get).length + 1)
      return first ++ others.flatten
    else return first

/-- The type of a function. -/
def Rules.functionType (rules : Rules) : Reader (List Token) := do
  let restriction ← Reader.word? "unsafe"
  let convention ← Reader.convention
  let word ← Reader.word "fn"
  let inputs ← Reader.bracketed .parenthesis rules.functionInputs
  return restriction ++ convention ++ word ++ inputs ++
    Phrase.returnedTokens (← rules.returned false)

/-! ## Bounds as types -/

/-- Bounds behind the first, each with a plus sign before it. -/
def Rules.furtherBounds (rules : Rules) : Reader (List Token) := do
  let more ← Reader.upTo (fun s => !Ahead.mark "+" s) do
    return (← Reader.mark "+") ++ (← rules.wording (.bound false false))
  return more.flatten

/-- Bounds behind the first, and a last plus sign that nothing follows; how many plus
signs there are is answered too. -/
def Rules.trailingBounds (rules : Rules) : Reader (List Token × Nat) := do
  let s ← get
  if !Ahead.mark "+" s then return ([], 0)
  else
    let items ← Reader.repeatFrom (do
      let plus ← Reader.mark "+"
      if ← Reader.ahead (Ahead.bound false) then
        let bound ← rules.wording (.bound false false)
        return (plus ++ bound, ← Reader.ahead (Ahead.mark "+"))
      else return (plus, false)) (s.length + 1)
    return (items.flatten, items.length)

/-! ## Parentheses -/

/-- What stands in parentheses where a type may. -/
inductive Enclosed where
  /-- Nothing, or types with commas between them. -/
  | list (tokens : List Token)
  /-- Bounds without a trait before them. -/
  | lifetimes (tokens : List Token)
  /-- A bound with a question mark before it. -/
  | optional (tokens : List Token)
  /-- A single type. -/
  | single (type : Phrase)

/-- Read what stands in parentheses where a type may. -/
def Rules.enclosed (rules : Rules) : Reader Enclosed := do
  let s ← get
  if s.isEmpty then return .list []
  else if Ahead.lifetime s then return .lifetimes (← rules.bounds true false false)
  else if Ahead.mark "?" s then return .optional (← rules.traitBound false).1
  else
    let first ← rules (.type true)
    if ← Reader.ahead (Ahead.mark ",") then
      let comma ← Reader.mark ","
      let more ← Reader.separated "," List.isEmpty rules.type
      return .list (first.tokens ++ comma ++ Reader.joined more)
    else return .single first

/-- Types in parentheses.  A type of its own in parentheses may be the first of several
bounds. -/
def Rules.parenthesised (rules : Rules) (bounds : Bool) : Reader Phrase := do
  match ← Reader.inside .parenthesis rules.enclosed with
  | .list tokens => return .plain (Token.inside .parenthesis tokens)
  | .lifetimes tokens => return .plain (Token.inside .parenthesis tokens)
  | .optional tokens =>
      let more ← rules.furtherBounds
      return .bounds (Token.inside .parenthesis tokens ++ more) more.isEmpty
  | .single type =>
      let tokens := Token.inside .parenthesis type.tokens
      if bounds && (type.isUnqualified || type.isSingleBound) &&
          (← Reader.ahead (Ahead.mark "+")) then
        return .bounds (tokens ++ (← rules.furtherBounds)) false
      else return .plain tokens

/-! ## Types -/

/-- A type that starts with a path. -/
def Rules.pathType (rules : Rules) (binder : List Token) (bounds : Bool) : Reader Phrase := do
  let (qualified, path) ← rules.qualifiedPath false
  let s ← get
  if qualified then return path.type true
  else if Ahead.exclamation s && path.named then
    let mark ← Reader.mark "!"
    return .plain (path.tokens ++ mark ++ (← Reader.anyGroup))
  else if !binder.isEmpty || (bounds && Ahead.mark "+" s) then
    let (more, count) ← if bounds then rules.trailingBounds else pure ([], 0)
    return .bounds (binder ++ path.tokens ++ more) (count = 0)
  else return path.type false

/-- The type of the parts of an array or a slice in brackets, with the length of an
array. -/
def Rules.arrayType (rules : Rules) : Reader (List Token) :=
  Reader.bracketed .bracket do
    return (← rules.type) ++ (← Reader.behind? ";" rules.expression)

/-- A pointer to something of a type. -/
def Rules.pointerType (rules : Rules) : Reader (List Token) := do
  let star ← Reader.mark "*"
  let const ← Reader.ahead (Ahead.word "const")
  let word ← Reader.word (if const then "const" else "mut")
  return star ++ word ++ (← rules.wording (.type false))

/-- A reference to something of a type. -/
def Rules.referenceType (rules : Rules) : Reader (List Token) := do
  let mark ← Reader.mark "&"
  let lifetime ← Reader.optional Ahead.lifetime Reader.lifetime
  let word ← Reader.word? "mut"
  return mark ++ lifetime ++ word ++ (← rules.wording (.type false))

/-- A type that meets bounds and is known only when it is used. -/
def Rules.dynamicType (rules : Rules) (bounds : Bool) : Reader (List Token) := do
  let word ← Reader.word "dyn"
  let written ← Reader.verbatim do
    let star ← Reader.mark? "*"
    return (star, ← rules.bounds bounds false false)
  let (star, tokens) := written.2
  return word ++ if star.isEmpty then tokens else written.1

/-- How types are read. -/
def Rules.typePhrase (rules : Rules) (bounds : Bool) : Reader Phrase := do
  let binder ← rules.binder
  let s ← get
  let function := Ahead.wordOf ["fn", "unsafe", "extern"] s
  if !binder.isEmpty && !(function || Ahead.name s || Ahead.pathWord s) then failure
  else if Ahead.group .parenthesis s then rules.parenthesised bounds
  else if function then return .plain (binder ++ (← rules.functionType))
  else if Ahead.path s then rules.pathType binder bounds
  else if Ahead.word "dyn" s then return .plain (← rules.dynamicType bounds)
  else if Ahead.group .bracket s then return .plain (← rules.arrayType)
  else if Ahead.mark "*" s then return .plain (← rules.pointerType)
  else if Ahead.mark "&" s then return .plain (← rules.referenceType)
  else if Ahead.mark "!" s then return .plain (← Reader.mark "!")
  else if Ahead.word "impl" s then
    let word ← Reader.word "impl"
    return .plain (word ++ (← rules.bounds bounds true true))
  else if Ahead.word "_" s then return .plain (← Reader.word "_")
  else if Ahead.lifetime s then return .plain (← rules.bounds true false false)
  else failure

end WebClient.Source
