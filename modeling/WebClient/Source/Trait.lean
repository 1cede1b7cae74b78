import WebClient.Source.Signature

/-!
# Traits

A trait declares methods and other things under a name.  Of what is no method, only
the wording matters.
-/

namespace WebClient.Source

/-! ## Constants and types -/

/-- What a constant or a type is declared with, as it is read. -/
structure Declared where
  /-- The wording, up to the semicolon. -/
  tokens : List Token
  /-- The declaration goes beyond what is understood where it stands, so it is kept as
  it stands. -/
  verbatim : Bool

/-- A constant, up to its semicolon.  One without a value is understood only where
`valueless` says so, and parameters and conditions never are. -/
def Rules.constantDeclaration (rules : Rules) (valueless : Bool) : Reader Declared := do
  let const ← Reader.word "const"
  let gap ← Reader.ahead (Ahead.word "_")
  let name ← if gap then Reader.anyWord else Reader.name
  let generic ← Reader.ahead (Ahead.mark "<")
  let _ ← rules.parameters
  let colon ← Reader.mark ":"
  let type ← rules.type
  let value ← Reader.behind? "=" rules.expression
  let conditional ← Reader.ahead (Ahead.word "where")
  let _ ← rules.conditions
  let mark ← Reader.mark ";"
  return ⟨const ++ .word name :: colon ++ type ++ value ++ mark,
    generic || conditional || (value.isEmpty && !valueless)⟩

/-- Where the conditions on a type stand. -/
inductive ConditionPlace where
  | beforeValue
  | afterValue
  | either
  deriving DecidableEq, Repr

/-- A type as it is declared under a name. -/
structure TypeDeclaration where
  tokens : List Token
  /-- A colon stands behind the name, even if no bounds follow. -/
  bounded : Bool
  /-- The type itself is given. -/
  defined : Bool

/-- A type, up to its semicolon. -/
def Rules.typeDeclaration (rules : Rules) (place : ConditionPlace) : Reader TypeDeclaration := do
  let word ← Reader.word "type"
  let name ← Reader.name
  let parameters ← rules.parameters
  let bounded ← Reader.ahead (Ahead.mark ":")
  let bounds ← Reader.behindColon (rules.boundsUpTo fun s =>
    Ahead.word "where" s || Ahead.mark "=" s || Ahead.mark ";" s)
  let before ← Reader.ahead (Ahead.word "where")
  let early ← if place = .afterValue then pure [] else rules.conditions
  let value ← Reader.behind? "=" rules.type
  let late ← if place = .beforeValue || (place = .either && before) then pure []
    else rules.conditions
  let mark ← Reader.mark ";"
  return ⟨word ++ .word name :: parameters ++ bounds ++ early ++ value ++ late ++ mark, bounded,
    !value.isEmpty⟩

/-! ## Methods -/

/-- A method as a trait declares it. -/
structure TraitMethod where
  /-- The attributes of the method, those inside its body last. -/
  attributes : List Attribute
  signature : Signature
  /-- The statements of the body that the method has. -/
  body? : Option (List Token)
  deriving Repr

/-- What a trait declares. -/
inductive TraitItem where
  | method (m : TraitMethod)
  | other (tokens : List Token)
  deriving Repr

namespace TraitMethod

/-- The method has a body of its own. -/
def hasBody (m : TraitMethod) : Bool := m.body?.isSome

/-- The wording of a method. -/
def tokens (m : TraitMethod) : List Token :=
  let outer := m.attributes.filter fun a => !a.inner
  let inner := m.attributes.filter fun a => a.inner
  let body := match m.body? with
    | some statements => Token.inside .brace (Attribute.tokensOf inner ++ statements)
    | none => Token.marks ";"
  Attribute.tokensOf outer ++ m.signature.tokens ++ body

/-- Read a method behind its attributes. -/
def read (rules : Rules) (attributes : List Attribute) : Reader TraitMethod := do
  let signature ← Signature.read rules
  if ← Reader.ahead (Ahead.group .brace) then
    let (inner, statements) ← Reader.inside .brace do
      let inner ← Attribute.inners rules
      return (inner, ← rules.wording .statements)
    return ⟨attributes ++ inner, signature, some statements⟩
  else
    let _ ← Reader.mark ";"
    return ⟨attributes, signature, none⟩

end TraitMethod

namespace TraitItem

/-- The wording of what a trait declares. -/
def tokens : TraitItem → List Token
  | .method m => m.tokens
  | .other tokens => tokens

/-- The tokens start with a call of something that is expanded. -/
def callAhead (s : List Token) : Bool :=
  Ahead.name s || Ahead.wordOf ["self", "super", "crate"] s || Ahead.mark "::" s

/-- Read what a trait declares, and whether it is kept as it stands: a method that says
who may see it, or that it is only a default, is none for a trait. -/
def readMarked (rules : Rules) : Reader (TraitItem × Bool) := do
  let attributes ← Attribute.outers rules
  let visibility ← Reader.visibility
  let fallback ← Reader.word? "default"
  let marked := !(visibility ++ fallback).isEmpty
  let head := Attribute.tokensOf attributes
  let s ← get
  if Signature.ahead false s then
    return (.method (← TraitMethod.read rules attributes), marked)
  else if Ahead.word "const" s then
    let constant ← rules.constantDeclaration true
    return (.other (head ++ constant.tokens), marked || constant.verbatim)
  else if Ahead.word "type" s then
    let type ← rules.typeDeclaration .afterValue
    return (.other (head ++ type.tokens), marked)
  else if !marked && callAhead s then
    return (.other (head ++ (← Reader.callStatement)), false)
  else failure

/-- Read what a trait declares. -/
def read (rules : Rules) : Reader TraitItem := do
  let (raw, item, verbatim) ← Reader.verbatim (readMarked rules)
  return if verbatim then .other raw else item

end TraitItem

/-! ## Traits -/

/-- A trait. -/
structure Trait where
  /-- The attributes of the trait, those inside its braces last. -/
  attributes : List Attribute
  visibility : List Token
  /-- The words between the visibility and `trait`. -/
  qualifiers : List Token
  name : String
  /-- The parameters in angle brackets behind the name. -/
  parameters : List Token
  /-- The traits that it builds on, with the colon before them. -/
  bounds : List Token
  conditions : List Token
  items : List TraitItem
  deriving Repr

namespace Trait

/-- The trait has parameters in angle brackets. -/
def isGeneric (t : Trait) : Bool := !t.parameters.isEmpty

/-- The wording of a trait. -/
def tokens (t : Trait) : List Token :=
  let outer := t.attributes.filter fun a => !a.inner
  let inner := t.attributes.filter fun a => a.inner
  Attribute.tokensOf outer ++ t.visibility ++ t.qualifiers ++ [.word "trait", .word t.name] ++
    t.parameters ++ t.bounds ++ t.conditions ++
    Token.inside .brace (Attribute.tokensOf inner ++ t.items.flatMap TraitItem.tokens)

/-- Read a trait behind its attributes. -/
def readBehind (rules : Rules) (outer : List Attribute) : Reader Trait := do
  let visibility ← Reader.visibility
  let restriction ← Reader.word? "unsafe"
  let auto ← Reader.word? "auto"
  let _ ← Reader.word "trait"
  let name ← Reader.name
  let parameters ← rules.parameters
  let bounds ← Reader.behindColon
    (rules.boundsUpTo fun s => Ahead.word "where" s || Ahead.group .brace s)
  let conditions ← rules.conditions
  let (inner, items) ← Reader.inside .brace do
    let inner ← Attribute.inners rules
    return (inner, ← Reader.upTo List.isEmpty (TraitItem.read rules))
  return ⟨outer ++ inner, visibility, restriction ++ auto, name, parameters, bounds,
    conditions, items⟩

/-- Read a trait. -/
def read (rules : Rules) : Reader Trait := do readBehind rules (← Attribute.outers rules)

end Trait

end WebClient.Source
