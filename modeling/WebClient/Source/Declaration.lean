import WebClient.Source.Trait

/-!
# Declarations

What may be declared among the statements of a block: functions, constants, types,
structures, traits, implementations and modules.  A declaration that goes beyond what
is understood is kept as it stands.
-/

namespace WebClient.Source

/-- A declaration, and whether it is kept as it stands. -/
abbrev Declaring := Reader (List Token × Bool)

namespace Declaring

/-- A declaration that is understood. -/
def understood (r : Reader (List Token)) : Declaring := return (← r, false)

/-- A declaration that is never understood. -/
def kept (r : Reader (List Token)) : Declaring := return (← r, true)

/-- Read a declaration for its wording, with its attributes before it. -/
def behindAttributes (rules : Rules) (r : Declaring) : Reader (List Token) := do
  let (raw, tokens, verbatim) ← Reader.verbatim do
    let attributes ← rules.attributes
    let (tokens, verbatim) ← r
    return (attributes ++ tokens, verbatim)
  return if verbatim then raw else tokens

end Declaring

/-- Declarations of a kind to the end. -/
def Reader.all (r : Reader (List Token)) : Reader (List Token) :=
  return (← upTo List.isEmpty r).flatten

/-- Declarations of a kind in braces, behind the attributes of what they stand in. -/
def Rules.members (rules : Rules) (r : Reader (List Token)) : Reader (List Token) :=
  Reader.bracketed .brace do return (← rules.innerAttributes) ++ (← Reader.all r)

/-- The tokens behind the one that says who may see something. -/
def Ahead.behindVisibility (s : List Token) : List Token :=
  match Reader.visibility.run s with
  | some (_, rest) => rest
  | none => []

/-! ## Functions and constants -/

/-- A function; one without a body is kept as it stands. -/
def Rules.functionDeclaration (rules : Rules) : Declaring := do
  let visibility ← Reader.visibility
  let signature ← Signature.read rules
  if ← Reader.ahead (Ahead.mark ";") then
    return (visibility ++ signature.tokens ++ (← Reader.mark ";"), true)
  else return (visibility ++ signature.tokens ++ (← rules.block), false)

/-- A constant. -/
def Rules.visibleConstant (rules : Rules) : Declaring := do
  let visibility ← Reader.visibility
  let constant ← rules.constantDeclaration false
  return (visibility ++ constant.tokens, constant.verbatim)

/-- Something with a place of its own; one without a type or a value is kept as it
stands. -/
def Rules.staticDeclaration (rules : Rules) : Declaring := do
  let visibility ← Reader.visibility
  let static ← Reader.word "static"
  let mutable ← Reader.word? "mut"
  let name ← Reader.name
  let type ← if ← Reader.ahead (Ahead.mark "=") then pure []
    else do pure ((← Reader.mark ":") ++ (← rules.type))
  let value ← Reader.behind? "=" rules.expression
  let mark ← Reader.mark ";"
  return (visibility ++ static ++ mutable ++ .word name :: type ++ value ++ mark,
    type.isEmpty || value.isEmpty)

/-- A type under a name of its own. -/
def Rules.visibleType (rules : Rules) (place : ConditionPlace) : Declaring := do
  let visibility ← Reader.visibility
  let type ← rules.typeDeclaration place
  return (visibility ++ type.tokens, type.bounded || !type.defined)

/-! ## Uses -/

/-- A name or the mark that gives none, behind the word `as`. -/
def Reader.anotherName : Reader (List Token) :=
  optional (Ahead.word "as") do
    let word ← word "as"
    let name ← if ← ahead (Ahead.word "_") then anyWord else name
    return word ++ [.word name]

/-- The tokens start with a name of a path that is used. -/
def Ahead.usedName (s : List Token) : Bool :=
  Ahead.name s || Ahead.wordOf ["self", "super", "crate", "try"] s

/-- What is used: a path, everything at a path, or several of them in braces.  Where
`roots` says so, a path in braces may start with two colons; whether one does is
answered too. -/
def Reader.used (roots : Bool) : Nat → Declaring
  | 0 => failure
  | fuel + 1 => do
      let s ← get
      if Ahead.usedName s then
        let name ← anyWord
        if ← ahead (Ahead.mark "::") then
          let colons ← mark "::"
          let (tokens, rooted) ← used false fuel
          return (.word name :: colons ++ tokens, rooted)
        else return (.word name :: (← anotherName), false)
      else if Ahead.mark "*" s then return (← mark "*", false)
      else
        let items ← inside .brace (separated "," List.isEmpty do
          let colons ← if roots then mark? "::" else pure []
          let (tokens, rooted) ← used (roots && colons.isEmpty) fuel
          return (colons ++ tokens, rooted || !colons.isEmpty))
        let tokens := joined (items.map fun ((tokens, _), comma) => (tokens, comma))
        return (Token.inside .brace tokens, items.any fun ((_, rooted), _) => rooted)

/-- A use of something under its name. -/
def Reader.useDeclaration : Declaring := do
  let visibility ← visibility
  let word ← word "use"
  let colons ← mark? "::"
  let (tokens, rooted) ← used colons.isEmpty ((Token.leavesOf (← get)).length + 1)
  return (visibility ++ word ++ colons ++ tokens ++ (← mark ";"), rooted)

/-! ## Structures -/

/-- A part of a structure by place. -/
def Rules.placedPart (rules : Rules) : Reader (List Token) := do
  let attributes ← rules.attributes
  let visibility ← Reader.visibility
  return attributes ++ visibility ++ (← rules.type)

/-- A part of a structure by name.  One without a name may be a structure of its own,
which is kept as it stands. -/
def Rules.namedPart (rules : Rules) : Reader (List Token) := do
  let attributes ← rules.attributes
  let visibility ← Reader.visibility
  let gap ← Reader.ahead (Ahead.word "_")
  let name ← if gap then Reader.anyWord else Reader.name
  let colon ← Reader.mark ":"
  let head := attributes ++ visibility ++ .word name :: colon
  if gap && (← Reader.ahead fun s => Ahead.word "struct" s ||
      (Ahead.word "union" s && Ahead.second (Ahead.group .brace) s)) then
    return head ++ (← Reader.verbatim do
      let _ ← Reader.next
      rules .parts).1
  else return head ++ (← rules.type)

/-- How the parts of a structure in braces are read. -/
def Rules.partsPhrase (rules : Rules) : Reader Phrase := do
  return .plain (← Reader.bracketed .brace do
    return Reader.joined (← Reader.separated "," List.isEmpty rules.namedPart))

/-- The parts of a structure in parentheses. -/
def Rules.placedParts (rules : Rules) : Reader (List Token) :=
  Reader.bracketed .parenthesis do
    return Reader.joined (← Reader.separated "," List.isEmpty rules.placedPart)

/-- The head of a declaration that gives a type a name: who may see it, its word, its name
and its parameters. -/
def Rules.typeHead (rules : Rules) (word : String) : Reader (List Token) := do
  let visibility ← Reader.visibility
  let word ← Reader.word word
  let name ← Reader.name
  return visibility ++ word ++ .word name :: (← rules.parameters)

/-- A structure. -/
def Rules.structure (rules : Rules) : Reader (List Token) := do
  let head ← rules.typeHead "struct"
  let conditional ← Reader.ahead (Ahead.word "where")
  let conditions ← rules.conditions
  let s ← get
  if !conditional && Ahead.group .parenthesis s then
    let parts ← rules.placedParts
    let conditions ← rules.conditions
    return head ++ parts ++ conditions ++ (← Reader.mark ";")
  else if Ahead.group .brace s then return head ++ conditions ++ (← rules.wording .parts)
  else return head ++ conditions ++ (← Reader.mark ";")

/-- A variant of a choice; who may see it is not written. -/
def Rules.variant (rules : Rules) : Reader (List Token) := do
  let attributes ← rules.attributes
  let _ ← Reader.visibility
  let name ← Reader.name
  let s ← get
  let parts ← if Ahead.group .brace s then rules.wording .parts
    else Reader.optional (Ahead.group .parenthesis) rules.placedParts
  return attributes ++ .word name :: parts ++ (← Reader.behind? "=" rules.expression)

/-- A choice between variants. -/
def Rules.enumeration (rules : Rules) : Reader (List Token) := do
  let head ← rules.typeHead "enum"
  let conditions ← rules.conditions
  return head ++ conditions ++ (← Reader.bracketed .brace do
    return Reader.joined (← Reader.separated "," List.isEmpty rules.variant))

/-- A structure whose parts share their place. -/
def Rules.union (rules : Rules) : Reader (List Token) := do
  let head ← rules.typeHead "union"
  let conditions ← rules.conditions
  return head ++ conditions ++ (← rules.wording .parts)

/-! ## Traits and implementations -/

/-- A trait, or a name for several of them. -/
def Rules.traitOrAlias (rules : Rules) : Reader (List Token) := do
  let s ← get
  let head ← rules.typeHead "trait"
  if ← Reader.ahead (Ahead.mark "=") then
    let equals ← Reader.mark "="
    let bounds ← rules.boundsUpTo fun s => Ahead.word "where" s || Ahead.mark ";" s
    let conditions ← rules.conditions
    return head ++ equals ++ bounds ++ conditions ++ (← Reader.mark ";")
  else
    set s
    return (← Trait.readBehind rules []).tokens

/-- What an implementation holds. -/
def Rules.implementationItem (rules : Rules) : Reader (List Token) :=
  Declaring.behindAttributes rules do
    let visibility ← Reader.visibility
    let fallback ← Reader.optional
      (fun s => Ahead.word "default" s && !Ahead.second (Ahead.mark "!") s) (Reader.nextOf 1)
    let head := visibility ++ fallback
    let s ← get
    if Signature.ahead false s then
      let (tokens, verbatim) ← rules.functionDeclaration
      return (head ++ tokens, verbatim)
    else if Ahead.word "const" s then
      let constant ← rules.constantDeclaration false
      return (head ++ constant.tokens, constant.verbatim)
    else if Ahead.word "type" s then
      let type ← rules.typeDeclaration .afterValue
      return (head ++ type.tokens, type.bounded || !type.defined)
    else if head.isEmpty && TraitItem.callAhead s then
      return (← Reader.callStatement, false)
    else failure

/-- An implementation.  Only a trait can be denied.  One that says who may see it, that
asks for a constant, or whose trait is no path is kept as it stands. -/
def Rules.implementation (rules : Rules) : Declaring := do
  let visibility ← Reader.visibility
  let words := (← Reader.word? "default") ++ (← Reader.word? "unsafe") ++ (← Reader.word "impl")
  let parameters ← if ← Reader.ahead Ahead.parameters then rules.parameters else pure []
  let constant ← Reader.optional (fun s => Ahead.word "const" s ||
      (Ahead.mark "?" s && Ahead.second (Ahead.word "const") s)) do
    return (← Reader.mark? "?") ++ (← Reader.word "const")
  let polarity ← Reader.optional
    (fun s => Ahead.mark "!" s && !Ahead.second (Ahead.group .brace) s) (Reader.mark "!")
  let first ← rules (.type true)
  let role ← Reader.word? "for"
  if role.isEmpty && !polarity.isEmpty then failure
  let type ← if role.isEmpty then pure [] else rules.type
  let target := polarity ++ first.tokens ++ role ++ type
  let conditions ← rules.conditions
  let members ← rules.members rules.implementationItem
  return (visibility ++ words ++ parameters ++ constant ++ target ++ conditions ++ members,
    !visibility.isEmpty || !constant.isEmpty || (!role.isEmpty && !first.isUnqualified))

/-! ## Modules -/

/-- A module, whose declarations may stand elsewhere. -/
def Rules.module (rules : Rules) : Reader (List Token) := do
  let visibility ← Reader.visibility
  let restriction ← Reader.word? "unsafe"
  let word ← Reader.word "mod"
  let attempt ← Reader.ahead (Ahead.word "try")
  let name ← if attempt then Reader.anyWord else Reader.name
  let head := visibility ++ restriction ++ word ++ [.word name]
  if ← Reader.ahead (Ahead.mark ";") then return head ++ (← Reader.mark ";")
  else return head ++ (← rules.members (rules.wording .declaration))

/-- What is declared elsewhere, with another calling convention.  One that says how safe
it is, or that gives what is to be found elsewhere, is kept as it stands. -/
def Rules.foreignItem (rules : Rules) : Reader (List Token) :=
  Declaring.behindAttributes rules do
    let visibility ← Reader.visibility
    let s ← get
    if Signature.ahead true s then
      let (signature, safe) ← Signature.readMarked rules true
      let body ← Reader.ahead (Ahead.group .brace)
      let last ← if body then rules.block else Reader.mark ";"
      return (visibility ++ signature.tokens ++ last, safe || body)
    else if Ahead.word "static" s || (Ahead.wordOf ["unsafe", "safe"] s &&
        Ahead.second (Ahead.word "static") s) then
      let safety ← if Ahead.word "static" s then pure [] else Reader.nextOf 1
      let static ← Reader.word "static"
      let mutable ← Reader.word? "mut"
      let name ← Reader.name
      let colon ← Reader.mark ":"
      let type ← rules.type
      let value ← Reader.behind? "=" rules.expression
      let mark ← Reader.mark ";"
      return (visibility ++ safety ++ static ++ mutable ++ .word name :: colon ++ type ++ value ++
        mark, !(safety ++ value).isEmpty)
    else if Ahead.word "type" s then
      let type ← rules.typeDeclaration .either
      return (visibility ++ type.tokens, type.bounded || type.defined)
    else if visibility.isEmpty && TraitItem.callAhead s then
      return (← Reader.callStatement, false)
    else failure

/-- Declarations of what is declared elsewhere. -/
def Rules.foreignModule (rules : Rules) : Reader (List Token) := do
  let restriction ← Reader.word? "unsafe"
  if !(← Reader.ahead (Ahead.word "extern")) then failure
  let convention ← Reader.convention
  return restriction ++ convention ++ (← rules.members rules.foreignItem)

/-- Something that is linked from outside. -/
def Reader.linked : Reader (List Token) := do
  let visibility ← visibility
  let words := (← word "extern") ++ (← word "crate")
  let self ← ahead (Ahead.word "self")
  let name ← if self then anyWord else name
  let other ← anotherName
  return visibility ++ words ++ .word name :: other ++ (← mark ";")

/-! ## Expansions -/

/-- A way to expand calls, as it stands. -/
def Reader.expander : Reader (List Token) := do
  let visibility ← visibility
  let word ← word "macro"
  let name ← name
  let inputs ← optional (Ahead.group .parenthesis) anyGroup
  if ← ahead (Ahead.group .brace) then
    return visibility ++ word ++ .word name :: inputs ++ (← anyGroup)
  else failure

/-- A call that is expanded to declarations; a name may stand before its content. -/
def Reader.callDeclaration : Reader (List Token) := do
  let path ← NamePath.read
  let mark ← mark "!"
  let attempt ← ahead (Ahead.word "try")
  let name ← optional (fun s => attempt || Ahead.name s) (nextOf 1)
  let brace ← ahead (Ahead.group .brace)
  let head := path.tokens ++ mark ++ name ++ (← anyGroup)
  if brace then return head else return head ++ (← Reader.mark ";")

/-! ## Declarations -/

/-- A declaration behind its attributes.  What it is shows behind the word that says who
may see it. -/
def Rules.declarationBehind (rules : Rules) : Declaring := do
  let s := Ahead.behindVisibility (← get)
  let hidden := s.length = (← get).length
  let trait (s : List Token) := Ahead.word "trait" s ||
    (Ahead.word "auto" s && Ahead.second (Ahead.word "trait") s)
  if Signature.ahead false s then rules.functionDeclaration
  else if Ahead.word "extern" s then
    if Ahead.second (Ahead.word "crate") s then Declaring.understood Reader.linked
    else Declaring.understood rules.foreignModule
  else if Ahead.word "use" s then Reader.useDeclaration
  else if Ahead.word "static" s then rules.staticDeclaration
  else if Ahead.word "const" s then rules.visibleConstant
  else if Ahead.word "unsafe" s then
    if Ahead.second trait s then
      Declaring.understood do return (← Trait.readBehind rules []).tokens
    else if Ahead.second (Ahead.word "impl") s then rules.implementation
    else if Ahead.second (Ahead.word "extern") s then Declaring.understood rules.foreignModule
    else Declaring.understood rules.module
  else if Ahead.word "mod" s then Declaring.understood rules.module
  else if Ahead.word "type" s then rules.visibleType .beforeValue
  else if Ahead.word "struct" s then Declaring.understood rules.structure
  else if Ahead.word "enum" s then Declaring.understood rules.enumeration
  else if Ahead.word "union" s && Ahead.second Ahead.name s then
    Declaring.understood rules.union
  else if Ahead.word "trait" s then Declaring.understood rules.traitOrAlias
  else if trait s then Declaring.understood do return (← Trait.readBehind rules []).tokens
  else if Ahead.word "impl" s || (Ahead.word "default" s && !Ahead.second (Ahead.mark "!") s) then
    rules.implementation
  else if Ahead.word "macro" s then Declaring.kept Reader.expander
  else if hidden && TraitItem.callAhead s then Declaring.understood Reader.callDeclaration
  else failure

/-- How a declaration is read, with its attributes. -/
def Rules.declarationPhrase (rules : Rules) : Reader Phrase := do
  return .plain (← Declaring.behindAttributes rules rules.declarationBehind)

end WebClient.Source
