import WebClient.Source.Reader

/-!
# Phrases

Types, patterns, expressions and statements contain each other.  A phrase is
answered as the tokens that it is written with, with the little that has to be
known about it where it stands.  The rules say how the phrases inside a phrase are
read, so that every kind of phrase is read in a module of its own.
-/

namespace WebClient.Source

/-- What the names of a path stand with. -/
inductive PathShape where
  /-- A single name, to which something may be given in angle brackets. -/
  | lone
  /-- Names between colons, or behind them. -/
  | joined
  /-- Names behind a type in angle brackets. -/
  | qualified
  deriving DecidableEq, Repr

/-- What was read, as the tokens that it is written with. -/
inductive Phrase where
  /-- A phrase of which only the wording matters. -/
  | plain (tokens : List Token)
  /-- A type that is a path, with the types given to its last name. -/
  | path (tokens : List Token) (shape : PathShape) (name : String) (arguments : List Phrase)
  /-- A type that is made of bounds without a word before them, and whether it is a
  single bound. -/
  | bounds (tokens : List Token) (single : Bool)
  /-- A pattern that gives what it matches a name. -/
  | binding (tokens : List Token) (name : String)
  /-- A pattern that is a range without one of its ends. -/
  | openRange (tokens : List Token)
  /-- An expression that is a range. -/
  | range (tokens : List Token)
  /-- An expression with an operator between operands: whether the operator
  compares, and whether the leftmost operand is kept as it stands. -/
  | operation (tokens : List Token) (compares kept : Bool)
  /-- An expression that ends with a block of its own. -/
  | closed (tokens : List Token)
  /-- A call of something that is expanded, with its content in braces. -/
  | expansion (tokens : List Token)
  /-- An expression or a pattern that is kept as it stands and carries no attributes. -/
  | bare (tokens : List Token)
  deriving Repr

namespace Phrase

/-- The wording of a phrase. -/
def tokens : Phrase → List Token
  | .plain tokens => tokens
  | .path tokens _ _ _ => tokens
  | .bounds tokens _ => tokens
  | .binding tokens _ => tokens
  | .openRange tokens => tokens
  | .range tokens => tokens
  | .operation tokens _ _ => tokens
  | .closed tokens => tokens
  | .expansion tokens => tokens
  | .bare tokens => tokens

/-- The only type given to a type of the given name. -/
def only? (name : String) : Phrase → Option Phrase
  | .path _ _ other [argument] => if other = name then some argument else none
  | _ => none

/-- The name that a pattern gives. -/
def name? : Phrase → Option String
  | .binding _ name => some name
  | _ => none

/-- The type is a path without a type in angle brackets before it. -/
def isUnqualified : Phrase → Bool
  | .path _ shape _ _ => shape ≠ .qualified
  | _ => false

/-- The type is a single name that stands for itself. -/
def isLone : Phrase → Bool
  | .path _ shape _ _ => shape = .lone
  | _ => false

/-- The type is a single bound without a word before it. -/
def isSingleBound : Phrase → Bool
  | .bounds _ single => single
  | _ => false

/-- The expression is a range. -/
def isRange : Phrase → Bool
  | .range _ => true
  | _ => false

/-- The expression compares its operands. -/
def compares : Phrase → Bool
  | .operation _ compares _ => compares
  | _ => false

/-- The phrase carries no attributes. -/
def isBare : Phrase → Bool
  | .bare _ => true
  | .operation _ _ kept => kept
  | _ => false

/-- The expression ends with a block of its own. -/
def isClosed : Phrase → Bool
  | .closed _ => true
  | _ => false

/-- As a statement, the expression needs no semicolon behind it. -/
def isStatement : Phrase → Bool
  | .closed _ => true
  | .expansion _ => true
  | _ => false

/-- The phrase with attributes before it; what is kept as it stands loses them. -/
def withAttributes (attributes : List Token) (phrase : Phrase) : Phrase :=
  if attributes.isEmpty || phrase.isBare then phrase
  else
    match phrase with
    | .range tokens => .range (attributes ++ tokens)
    | .operation tokens compares kept => .operation (attributes ++ tokens) compares kept
    | .closed tokens => .closed (attributes ++ tokens)
    | .expansion tokens => .expansion (attributes ++ tokens)
    | other => .plain (attributes ++ other.tokens)

end Phrase

/-- The kinds of phrases that contain each other. -/
inductive PhraseKind where
  /-- A type, which bounds may be added to. -/
  | type (bounds : Bool)
  /-- A bound, which may name what is captured and may ask for a constant. -/
  | bound (captures constant : Bool)
  | pattern
  /-- Patterns to choose from. -/
  | patterns
  /-- An expression, which a literal of a structure may be. -/
  | expression (structures : Bool)
  /-- An operand of an expression with the operators before it. -/
  | operand (structures : Bool)
  /-- An expression that ends behind a block of its own. -/
  | early
  /-- The statements of a block. -/
  | statements
  /-- A declaration with its attributes. -/
  | declaration
  /-- The parts of a structure in braces, by name. -/
  | parts
  deriving DecidableEq, Repr

/-- How phrases are read inside others. -/
abbrev Rules := PhraseKind → Reader Phrase

namespace Rules

/-- The wording of a phrase of a kind. -/
def wording (rules : Rules) (kind : PhraseKind) : Reader (List Token) :=
  return (← rules kind).tokens

/-- The wording of a type, which bounds may be added to. -/
def type (rules : Rules) : Reader (List Token) := rules.wording (.type true)

/-- The wording of an expression, which a literal of a structure may be. -/
def expression (rules : Rules) : Reader (List Token) := rules.wording (.expression true)

end Rules

end WebClient.Source
