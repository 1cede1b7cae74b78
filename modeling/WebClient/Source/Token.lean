/-!
# Tokens

A program is read as a list of tokens.  Brackets are matched while tokens are
read, so a bracketed stretch is one token that holds the tokens inside.  The
leaves of a list of tokens are the texts that it is written with, the brackets
among them.
-/

namespace WebClient.Source

/-- The brackets that tokens stand in. -/
inductive Delimiter where
  | parenthesis
  | bracket
  | brace
  deriving DecidableEq, Repr

namespace Delimiter

/-- The opening bracket. -/
def opening : Delimiter → Char
  | .parenthesis => '('
  | .bracket => '['
  | .brace => '{'

/-- The closing bracket. -/
def closing : Delimiter → Char
  | .parenthesis => ')'
  | .bracket => ']'
  | .brace => '}'

/-- The brackets that a character opens. -/
def ofOpening? (c : Char) : Option Delimiter :=
  [parenthesis, bracket, brace].find? fun d => d.opening = c

/-- The brackets that a character closes. -/
def ofClosing? (c : Char) : Option Delimiter :=
  [parenthesis, bracket, brace].find? fun d => d.closing = c

end Delimiter

/-- A token. -/
inductive Token where
  /-- A name or a keyword. -/
  | word (text : String)
  /-- A punctuation character; `joint` says that another follows directly. -/
  | mark (char : Char) (joint : Bool)
  /-- A literal as it is written. -/
  | literal (text : String)
  /-- Tokens between brackets. -/
  | group (delimiter : Delimiter) (content : List Token)
  deriving Repr

namespace Token

mutual

/-- The texts that a token is written with. -/
def leaves : Token → List String
  | .word text => [text]
  | .mark char _ => [String.singleton char]
  | .literal text => [text]
  | .group d content =>
      String.singleton d.opening :: (leavesOf content ++ [String.singleton d.closing])

/-- The texts that tokens are written with, in order. -/
def leavesOf : List Token → List String
  | [] => []
  | token :: rest => token.leaves ++ leavesOf rest

end

/-- Tokens in brackets. -/
def inside (d : Delimiter) (content : List Token) : List Token := [.group d content]

/-- The marks of a text, each joined to the next. -/
def marksOf : List Char → List Token
  | [] => []
  | [c] => [.mark c false]
  | c :: rest => .mark c true :: marksOf rest

/-- The marks of a text. -/
def marks (s : String) : List Token := marksOf s.toList

/-- The text of tokens with nothing between them and without blanks inside. -/
def compact (tokens : List Token) : String :=
  String.ofList ((leavesOf tokens).flatMap fun leaf => leaf.toList.filter fun c => c != ' ')

end Token

end WebClient.Source
