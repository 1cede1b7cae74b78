import WebClient.Source.Pattern

/-!
# Signatures

What a method is declared with: its qualifiers, its name, what it is called on
and with, and the type that it returns.
-/

namespace WebClient.Source

/-- What a method is called on or with. -/
inductive Input where
  /-- What the method is called on. -/
  | receiver (attributes : List Attribute) (borrowed mutable : Bool) (wording : List Token)
  /-- A pattern and a type. -/
  | typed (attributes : List Attribute) (pattern type : Phrase)
  deriving Repr

namespace Input

/-- The method is called on something that it only looks at. -/
def isShared : Input → Bool
  | .receiver _ borrowed mutable _ => borrowed && !mutable
  | .typed .. => false

/-- The method is called on it. -/
def isReceiver : Input → Bool
  | .receiver .. => true
  | .typed .. => false

/-- Keep some of the attributes of a pattern; those of a receiver stay. -/
def keeping (keep : Attribute → Bool) : Input → Input
  | .typed attributes pattern type => .typed (attributes.filter keep) pattern type
  | .receiver attributes borrowed mutable wording =>
      .receiver attributes borrowed mutable wording

/-- The wording of an input. -/
def tokens : Input → List Token
  | .receiver attributes _ _ wording => Attribute.tokensOf attributes ++ wording
  | .typed attributes pattern type =>
      Attribute.tokensOf attributes ++ pattern.tokens ++ Token.marks ":" ++ type.tokens

/-- Read what a method is called on. -/
def readReceiver (rules : Rules) (attributes : List Attribute) : Reader Input := do
  let mark ← Reader.mark? "&"
  let lifetime ← if mark.isEmpty then pure [] else Reader.optional Ahead.lifetime Reader.lifetime
  let word ← Reader.word? "mut"
  let self ← Reader.word "self"
  let type ← if mark.isEmpty then Reader.behind? ":" rules.type else pure []
  return .receiver attributes (!mark.isEmpty) (!word.isEmpty)
    (mark ++ lifetime ++ word ++ self ++ type)

end Input

/-- What a method is declared with. -/
structure Signature where
  /-- The words before `fn`. -/
  qualifiers : List Token
  name : String
  /-- The parameters in angle brackets behind the name. -/
  parameters : List Token
  /-- The inputs, each with the comma behind it. -/
  inputs : List (Input × List Token)
  /-- The dots behind the inputs of a method that takes any number of them. -/
  dots : List Token
  output? : Option Phrase
  conditions : List Token
  deriving Repr

namespace Signature

/-- The method is asynchronous. -/
def isAsynchronous (s : Signature) : Bool := s.qualifiers.any fun t => Ahead.word "async" [t]

/-- The first input. -/
def first? (s : Signature) : Option Input := (s.inputs.map (·.1)).head?

/-- Change the inputs. -/
def mapInputs (f : Input → Input) (s : Signature) : Signature :=
  { s with inputs := s.inputs.map fun (input, comma) => (f input, comma) }

/-- The method has parameters in angle brackets. -/
def isGeneric (s : Signature) : Bool := !s.parameters.isEmpty

/-- The wording of a signature. -/
def tokens (s : Signature) : List Token :=
  let inputs := Reader.joined (s.inputs.map fun (input, comma) => (input.tokens, comma))
  s.qualifiers ++ [.word "fn", .word s.name] ++ s.parameters ++
    [.group .parenthesis (inputs ++ s.dots)] ++ Phrase.returnedTokens s.output? ++ s.conditions

/-- A receiver stands only in the first place. -/
def receiverFirst (inputs : List Input) : Bool := (inputs.drop 1).all fun i => !i.isReceiver

/-- Read a pattern and its type, or the dots that stand for the type where any number of
inputs may follow.  A type that starts with a name and angle brackets may stand
without a pattern. -/
def readTyped (rules : Rules) (attributes : List Attribute) : Reader (Input ⊕ List Token) := do
  let s ← get
  if Ahead.name s && Ahead.second (Ahead.mark "<") s then
    return .inl (.typed attributes (.plain [.word "_"]) (← rules (.type true)))
  else
    let pattern ← rules .pattern
    let colon ← Reader.mark ":"
    if ← Reader.ahead (Ahead.mark "...") then
      return .inr (Attribute.tokensOf attributes ++ pattern.tokens ++ colon ++
        (← Reader.mark "..."))
    else return .inl (.typed attributes pattern (← rules (.type true)))

/-- Read what stands in the place of an input: what the method is called on, a pattern
and its type, or the dots of a method that takes any number of inputs. -/
def readPlace (rules : Rules) : Reader (Input ⊕ List Token) := do
  let attributes ← Attribute.outers rules
  if ← Reader.ahead (Ahead.mark "...") then
    return .inr (Attribute.tokensOf attributes ++ (← Reader.mark "..."))
  else
    (do return .inl (← Input.readReceiver rules attributes)) <|> readTyped rules attributes

/-- Read the inputs of a method, each with the comma behind it, and the dots behind
them. -/
def readInputs (rules : Rules) : Nat → Reader (List (Input × List Token) × List Token)
  | 0 => failure
  | fuel + 1 => do
      if ← Reader.atEnd then return ([], [])
      else
        match ← readPlace rules with
        | .inr dots =>
            if ← Reader.atEnd then return ([], dots)
            else
              let comma ← Reader.mark ","
              return ([], dots ++ comma)
        | .inl input =>
            let comma ← if ← Reader.atEnd then pure [] else Reader.mark ","
            let (inputs, dots) ← readInputs rules fuel
            return ((input, comma) :: inputs, dots)

/-- Read a signature.  Where `safety` says so, a method may be declared safe, and whether
it is is answered too. -/
def readMarked (rules : Rules) (safety : Bool) : Reader (Signature × Bool) := do
  let const ← Reader.word? "const"
  let async ← Reader.word? "async"
  let restriction ← Reader.word? "unsafe"
  let safe ← if safety && restriction.isEmpty then Reader.word? "safe" else pure []
  let convention ← Reader.convention
  let _ ← Reader.word "fn"
  let name ← Reader.name
  let parameters ← rules.parameters
  let (inputs, dots) ← Reader.inside .parenthesis do
    readInputs rules ((← get).length + 1)
  if !receiverFirst (inputs.map (·.1)) then failure
  let output? ← rules.returned true
  let conditions ← rules.conditions
  return (⟨const ++ async ++ restriction ++ safe ++ convention, name, parameters, inputs, dots,
    output?, conditions⟩, !safe.isEmpty)

/-- Read a signature. -/
def read (rules : Rules) : Reader Signature := return (← readMarked rules false).1

/-- The tokens start with a signature. -/
def ahead (safety : Bool) (s : List Token) : Bool :=
  let skip (word : String) (s : List Token) := if Ahead.word word s then s.drop 1 else s
  let s := skip "async" (skip "const" s)
  let s := if safety && Ahead.word "safe" s then s.drop 1 else skip "unsafe" s
  match Reader.convention.run s with
  | some (_, rest) => Ahead.word "fn" rest
  | none => false

end Signature

end WebClient.Source
