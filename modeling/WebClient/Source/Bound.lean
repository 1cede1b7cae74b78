import WebClient.Source.Path

/-!
# Bounds and parameters

What has to hold of a type: the traits that it has and the lifetimes that it
outlives.  Parameters in angle brackets may have bounds, and conditions behind the
word `where` add bounds to any type.
-/

namespace WebClient.Source

/-! ## Parameters -/

/-- Bounds with plus signs between them, up to what is ahead. -/
def Rules.boundsUpTo (rules : Rules) (stop : List Token → Bool) : Reader (List Token) :=
  return Reader.joined (← Reader.separated "+" stop (rules.wording (.bound false true)))

/-- Bounds with plus signs between them, as long as there are plus signs. -/
def Rules.boundChain (rules : Rules) (stop : List Token → Bool) : Reader (List Token) :=
  return Reader.joined (← Reader.chain "+" stop (rules.wording (.bound false true)))

/-- Things behind a colon; without any, the colon is not written. -/
def Reader.behindColon (r : Reader (List Token)) : Reader (List Token) :=
  Reader.optional (Ahead.mark ":") do
    let colon ← Reader.mark ":"
    let tokens ← r
    return if tokens.isEmpty then [] else colon ++ tokens

/-- A parameter that is a lifetime. -/
def Reader.lifetimeParameter : Reader (List Token) := do
  let lifetime ← Reader.lifetime
  let bounds ← Reader.behindColon do
    return Reader.joined (← Reader.chain "+" Ahead.givenEnd Reader.lifetime)
  return lifetime ++ bounds

/-- A parameter that is a type. -/
def Rules.typeParameter (rules : Rules) : Reader (List Token) := do
  let name ← Reader.name
  let bounds ← Reader.behindColon
    (rules.boundChain fun s => Ahead.givenEnd s || Ahead.mark "=" s)
  return .word name :: bounds ++ (← Reader.behind? "=" rules.type)

/-- A parameter that is a constant. -/
def Rules.constantParameter (rules : Rules) : Reader (List Token) := do
  let const ← Reader.word "const"
  let name ← Reader.name
  let colon ← Reader.mark ":"
  let type ← rules.type
  return const ++ .word name :: colon ++ type ++ (← Reader.behind? "=" rules.constant)

/-- A parameter in angle brackets: a lifetime, a type or a constant.  Where `gaps` says
so, a mark may stand for a type that has no name. -/
def Rules.parameter (rules : Rules) (gaps : Bool) : Reader Given := do
  let attributes ← rules.attributes
  let s ← get
  if Ahead.lifetime s then
    return Given.ofLifetime (attributes ++ (← Reader.lifetimeParameter))
  else if Ahead.name s then return Given.other (attributes ++ (← rules.typeParameter))
  else if gaps && Ahead.word "_" s then
    return Given.other (attributes ++ (← Reader.word "_"))
  else return Given.other (attributes ++ (← rules.constantParameter))

/-- Parameters in angle brackets, if there are any; empty brackets are not written. -/
def Rules.parameters (rules : Rules) : Reader (List Token) :=
  Reader.optional (Ahead.mark "<") do
    let opening ← Reader.mark "<"
    let items ← Reader.separated "," (Ahead.mark ">") (rules.parameter true)
    let closing ← Reader.mark ">"
    return if items.isEmpty then [] else opening ++ Given.arranged items ++ closing

/-- The tokens start with parameters, and not with a type in angle brackets that a path
starts with.  A single name in angle brackets is a parameter. -/
def Ahead.parameters (s : List Token) : Bool :=
  let behind (s : List Token) :=
    Ahead.mark ">" s || Ahead.mark "," s || Ahead.colon s || Ahead.mark "=" s
  Ahead.mark "<" s && Ahead.second (fun s => Ahead.mark ">" s || Ahead.mark "#" s ||
    Ahead.word "const" s || ((Ahead.lifetime s || Ahead.name s) && Ahead.second behind s)) s

/-- The tokens start with parameters behind the word `for`. -/
def Ahead.binder (s : List Token) : Bool := Ahead.word "for" s && Ahead.second Ahead.parameters s

/-- Parameters behind the word `for`, if there are any, as they stand. -/
def Rules.binder (rules : Rules) : Reader (List Token) :=
  Reader.optional (Ahead.word "for") do
    let word ← Reader.word "for"
    let opening ← Reader.mark "<"
    let items ← Reader.separated "," (Ahead.mark ">") (rules.parameter false)
    let closing ← Reader.mark ">"
    return word ++ opening ++
      Reader.joined (items.map fun (item, comma) => (item.tokens, comma)) ++ closing

/-! ## Bounds -/

/-- The tokens start with the word that asks for a constant, alone or in brackets. -/
def Ahead.constantMark (s : List Token) : Bool :=
  Ahead.word "const" s || Ahead.group .bracket s

/-- The word that asks for a constant, alone or in brackets. -/
def Reader.constantMark : Reader (List Token) := do
  if ← Reader.ahead (Ahead.word "const") then Reader.word "const"
  else Reader.bracketed .bracket (Reader.word "const")

/-- The tokens start with types given in parentheses. -/
def Ahead.callTypes (s : List Token) : Bool :=
  Ahead.group .parenthesis s || (Ahead.mark "::" s && Ahead.third (Ahead.group .parenthesis) s)

/-- Types in parentheses and the type behind them, given to the last name of a path. -/
def Rules.callTypes (rules : Rules) : Reader (List Token) := do
  let _ ← Reader.mark? "::"
  let arguments ← Reader.bracketed .parenthesis do
    return Reader.joined (← Reader.separated "," List.isEmpty rules.type)
  return arguments ++ Phrase.returnedTokens (← rules.returned false)

/-- A bound that is a trait, without brackets around it, and whether it asks for a
constant.  Types in parentheses may be given to its last name. -/
def Rules.traitBound (rules : Rules) (constant : Bool) : Reader (List Token × Bool) := do
  let before ← rules.binder
  let mark ← Reader.optional Ahead.constantMark Reader.constantMark
  if !mark.isEmpty && !constant then failure
  let modifier ← Reader.mark? "?"
  let behind ← if before.isEmpty && !modifier.isEmpty then rules.binder else pure []
  if !modifier.isEmpty && !(before ++ behind).isEmpty then failure
  let path ← rules.path false
  let suffix ← if path.vacant && (← Reader.ahead Ahead.callTypes) then rules.callTypes
    else pure path.suffix
  return (before ++ mark ++ modifier ++ path.stem ++ suffix, !mark.isEmpty)

/-- The names that a type captures, in angle brackets, lifetimes first. -/
def Reader.captures : Reader (List Token) := do
  let word ← Reader.word "use"
  let opening ← Reader.mark "<"
  let items ← Reader.separated "," (Ahead.mark ">") do
    if ← Reader.ahead Ahead.lifetime then return Given.ofLifetime (← Reader.lifetime)
    else
      let self ← Reader.ahead (Ahead.word "Self")
      let name ← if self then Reader.anyWord else Reader.name
      return Given.other [.word name]
  let closing ← Reader.mark ">"
  return word ++ opening ++ Given.arranged items ++ closing

/-- How a bound is read: a lifetime, what is captured, or a trait that may stand in
parentheses.  One that asks for a constant is kept as it stands. -/
def Rules.boundPhrase (rules : Rules) (captures constant : Bool) : Reader Phrase := do
  let s ← get
  if Ahead.lifetime s then return .plain (← Reader.lifetime)
  else if Ahead.word "use" s then
    if captures then return .plain (← Reader.captures) else failure
  else if Ahead.group .parenthesis s then
    let (raw, tokens, asks) ← Reader.verbatim
      (Reader.inside .parenthesis (rules.traitBound constant))
    return .plain (if asks then raw else Token.inside .parenthesis tokens)
  else
    let (raw, tokens, asks) ← Reader.verbatim (rules.traitBound constant)
    return .plain (if asks then raw else tokens)

/-- The tokens start with a bound behind another. -/
def Ahead.bound (constant : Bool) (s : List Token) : Bool :=
  Ahead.anyWord s || Ahead.mark "::" s || Ahead.mark "?" s || Ahead.lifetime s ||
    Ahead.group .parenthesis s || (constant && Ahead.group .bracket s)

/-- Bounds behind each other, of which one is a trait. -/
def Rules.bounds (rules : Rules) (more captures constant : Bool) : Reader (List Token) := do
  let items ← Reader.repeatFrom (do
    let traits ← Reader.ahead fun s => !(Ahead.lifetime s || Ahead.word "use" s)
    let bound ← rules.wording (.bound captures constant)
    if more && (← Reader.ahead (Ahead.mark "+")) then
      let plus ← Reader.mark "+"
      return ((traits, bound ++ plus), ← Reader.ahead (Ahead.bound constant))
    else return ((traits, bound), false)) ((← get).length + 1)
  if items.any (·.1) then return (items.map (·.2)).flatten else failure

/-! ## Conditions -/

/-- What ends a condition on a type. -/
def Ahead.conditionEnd (s : List Token) : Bool :=
  s.isEmpty || Ahead.group .brace s || Ahead.mark "," s || Ahead.mark ";" s ||
    Ahead.colon s || Ahead.mark "=" s

/-- A condition on a lifetime or on a type. -/
def Rules.condition (rules : Rules) : Reader (List Token) := do
  let s ← get
  if Ahead.lifetime s && Ahead.second (Ahead.mark ":") s then
    let lifetime ← Reader.lifetime
    let colon ← Reader.mark ":"
    let bounds ← Reader.chain "+" Ahead.conditionEnd Reader.lifetime
    return lifetime ++ colon ++ Reader.joined bounds
  else
    let binder ← rules.binder
    let type ← rules.type
    let colon ← Reader.mark ":"
    return binder ++ type ++ colon ++ (← rules.boundChain Ahead.conditionEnd)

/-- Conditions behind the word `where`, if there are any; without any, the word is not
written. -/
def Rules.conditions (rules : Rules) : Reader (List Token) :=
  Reader.optional (Ahead.word "where") do
    let word ← Reader.word "where"
    let items ← Reader.chain "," Ahead.conditionEnd rules.condition
    return if items.isEmpty then [] else word ++ Reader.joined items

end WebClient.Source
