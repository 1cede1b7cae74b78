import WebClient.Source.Statement

/-!
# The grammar

The rules of every kind of phrase, tied together.  A phrase is never nested more
deeply than a small multiple of the number of its tokens, so the depth to which
the rules are tied is computed from them.
-/

namespace WebClient.Source

/-- How a phrase of a kind is read, given how the phrases inside it are. -/
def Rules.phrase (rules : Rules) : PhraseKind → Reader Phrase
  | .type bounds => rules.typePhrase bounds
  | .bound captures constant => rules.boundPhrase captures constant
  | .pattern => rules.patternPhrase
  | .patterns => rules.patternsPhrase
  | .expression structures => rules.expressionPhrase structures
  | .operand structures => rules.operandPhrase structures
  | .early => rules.earlyPhrase
  | .statements => rules.statementsPhrase
  | .declaration => rules.declarationPhrase
  | .parts => rules.partsPhrase

/-- The rules to a depth. -/
def Rules.toDepth : Nat → Rules
  | 0, _ => failure
  | depth + 1, kind => (Rules.toDepth depth).phrase kind

/-- A depth that no phrase in some tokens reaches. -/
def phraseDepth (tokens : List Token) : Nat := 8 * (Token.leavesOf tokens).length + 8

/-- The rules for phrases in some tokens. -/
def Rules.within (tokens : List Token) : Rules := Rules.toDepth (phraseDepth tokens)

/-- Read tokens to their end. -/
def Reader.whole? {α : Type} (r : Rules → Reader α) (tokens : List Token) : Option α :=
  match (r (Rules.within tokens)).run tokens with
  | some (a, []) => some a
  | _ => none

/-- The expression that tokens are. -/
def expression? (tokens : List Token) : Option (List Token) :=
  Reader.whole? Rules.expression tokens

/-- The attributes that tokens are. -/
def attributes? (tokens : List Token) : Option (List Attribute) :=
  Reader.whole? Attribute.outers tokens

/-- The trait that tokens are. -/
def Trait.ofTokens? (tokens : List Token) : Option Trait := Reader.whole? Trait.read tokens

end WebClient.Source
