import WebClient.Source.Literal
import WebClient.Source.Token

/-!
# Reading phrases

A reader takes tokens off the front of a list and answers what they mean, or
fails.  What is read for its wording alone is answered as the tokens that it is
written with.
-/

namespace WebClient.Source

/-- Takes tokens off the front of a list. -/
abbrev Reader (α : Type) := StateT (List Token) Option α

/-! ## Looking ahead -/

/-- The words that are no names. -/
def keywords : List String := [
  "_", "abstract", "as", "async", "await", "become", "box", "break", "const", "continue", "crate",
  "do", "dyn", "else", "enum", "extern", "false", "final", "fn", "for", "if", "impl", "in", "let",
  "loop", "macro", "match", "mod", "move", "mut", "override", "priv", "pub", "ref", "return",
  "Self", "self", "static", "struct", "super", "trait", "true", "try", "type", "typeof", "unsafe",
  "unsized", "use", "virtual", "where", "while", "yield"]

namespace Ahead

/-- The tokens start with the marks of a text, joined to each other. -/
def marksOf : List Char → List Token → Bool
  | [], _ => true
  | [c], .mark d _ :: _ => c = d
  | c :: cs, .mark d true :: rest => c = d && marksOf cs rest
  | _, _ => false

/-- The tokens start with the marks of a text, joined to each other. -/
def mark (s : String) (tokens : List Token) : Bool := marksOf s.toList tokens

/-- The tokens start with a word. -/
def word (text : String) : List Token → Bool
  | .word other :: _ => other = text
  | _ => false

/-- The tokens start with one of some words. -/
def wordOf (texts : List String) (tokens : List Token) : Bool := texts.any fun t => word t tokens

/-- The tokens start with any word. -/
def anyWord : List Token → Bool
  | .word _ :: _ => true
  | _ => false

/-- The tokens start with a name. -/
def name : List Token → Bool
  | .word text :: _ => !keywords.contains text
  | _ => false

/-- The tokens start with the name of a lifetime. -/
def lifetime : List Token → Bool
  | .mark '\'' _ :: .word _ :: _ => true
  | _ => false

/-- The tokens start with brackets. -/
def group (d : Delimiter) : List Token → Bool
  | .group other _ :: _ => other = d
  | _ => false

/-- The tokens start with a number. -/
def number : List Token → Bool
  | .literal text :: _ => (text.toList.head?.map Char.isDigit).getD false
  | _ => false

/-- The tokens start with a literal, a truth value or a negative number. -/
def literal : List Token → Bool
  | .literal _ :: _ => true
  | .word text :: _ => text = "true" || text = "false"
  | .mark '-' _ :: rest => number rest
  | _ => false

/-- The tokens behind the first, where the name of a lifetime is one. -/
def past : List Token → List Token
  | .mark '\'' _ :: .word _ :: rest => rest
  | _ :: rest => rest
  | [] => []

/-- What stands behind the first token. -/
def second (p : List Token → Bool) (tokens : List Token) : Bool := p (past tokens)

/-- What stands behind the first two tokens. -/
def third (p : List Token → Bool) (tokens : List Token) : Bool := p (past (past tokens))

/-- The tokens start with a single point. -/
def point (tokens : List Token) : Bool := mark "." tokens && !mark ".." tokens

/-- The tokens start with a single colon. -/
def colon (tokens : List Token) : Bool := mark ":" tokens && !mark "::" tokens

/-- The tokens start with an exclamation mark that denies no equality. -/
def exclamation (tokens : List Token) : Bool := mark "!" tokens && !mark "!=" tokens

/-- The tokens start with an equals sign that belongs to no arrow. -/
def equals (tokens : List Token) : Bool := mark "=" tokens && !mark "=>" tokens

/-- The tokens start with a single bar. -/
def bar (tokens : List Token) : Bool :=
  mark "|" tokens && !mark "||" tokens && !mark "|=" tokens

/-- The tokens start with a place among parts, a number. -/
def place (tokens : List Token) : Bool :=
  match tokens with
  | .literal text :: _ => (Literal.value? text.toList).isSome
  | _ => false

/-- The tokens start with the text of a calling convention. -/
def text : List Token → Bool
  | .literal text :: _ => text.startsWith "\"" || text.startsWith "r"
  | _ => false

/-- The tokens start with a word that starts a path besides names. -/
def pathWord (tokens : List Token) : Bool := wordOf ["super", "self", "Self", "crate"] tokens

/-- The tokens start like a path. -/
def path (tokens : List Token) : Bool :=
  name tokens || pathWord tokens || mark "::" tokens || mark "<" tokens

end Ahead

namespace Reader

/-- Ask something about the tokens ahead. -/
def ahead (p : List Token → Bool) : Reader Bool := return p (← get)

/-- Nothing is left. -/
def atEnd : Reader Bool := ahead List.isEmpty

/-! ## Single tokens -/

/-- The next token. -/
def next : Reader Token := do
  match ← get with
  | token :: rest => set rest; return token
  | [] => failure

/-- The next tokens, of the given number. -/
def nextOf (n : Nat) : Reader (List Token) := do
  let s ← get
  set (s.drop n)
  return s.take n

/-- The marks of a text. -/
def mark (s : String) : Reader (List Token) := do
  if ← ahead (Ahead.mark s) then nextOf s.length else failure

/-- A word. -/
def word (text : String) : Reader (List Token) := do
  if ← ahead (Ahead.word text) then nextOf 1 else failure

/-- Any word. -/
def anyWord : Reader String := do
  match ← next with
  | .word text => return text
  | _ => failure

/-- A name. -/
def name : Reader String := do
  if ← ahead Ahead.name then anyWord else failure

/-- The name of a lifetime. -/
def lifetime : Reader (List Token) := do
  if ← ahead Ahead.lifetime then nextOf 2 else failure

/-- A literal, a truth value or a negative number. -/
def literal : Reader (List Token) := do
  if ← ahead Ahead.literal then nextOf (if ← ahead (Ahead.mark "-") then 2 else 1) else failure

/-- A place among parts, written as a plain number. -/
def place : Reader (List Token) := do
  match ← next with
  | .literal text =>
      match Literal.value? text.toList with
      | some n => return [.literal (toString n)]
      | none => failure
  | _ => failure

/-- The name of a part or its place. -/
def member : Reader (List Token) := do
  if ← ahead Ahead.name then return [.word (← name)] else place

/-- Read something for the tokens that it takes, as they stand. -/
def verbatim {α : Type} (r : Reader α) : Reader (List Token × α) := do
  let s ← get
  let a ← r
  return (s.take (s.length - (← get).length), a)

/-! ## Choices and repetition -/

/-- Read something if it is ahead. -/
def optional (p : List Token → Bool) (r : Reader (List Token)) : Reader (List Token) := do
  if ← ahead p then r else return []

/-- The marks of a text, if they are ahead. -/
def mark? (s : String) : Reader (List Token) := optional (Ahead.mark s) (mark s)

/-- Read something behind the marks of a text, if they are ahead. -/
def behind? (s : String) (r : Reader (List Token)) : Reader (List Token) :=
  optional (Ahead.mark s) do return (← mark s) ++ (← r)

/-- A word, if it is ahead. -/
def word? (text : String) : Reader (List Token) := optional (Ahead.word text) (word text)

/-- The content of brackets, all of which is read. -/
def inside {α : Type} (d : Delimiter) (r : Reader α) : Reader α := do
  match ← next with
  | .group other content =>
      if other = d then
        match r.run content with
        | some (a, []) => return a
        | _ => failure
      else failure
  | _ => failure

/-- Brackets and their content, all of which is read. -/
def bracketed (d : Delimiter) (r : Reader (List Token)) : Reader (List Token) := do
  return Token.inside d (← inside d r)

/-- Any tokens in brackets. -/
def anyGroup : Reader (List Token) := do
  match ← next with
  | .group d content => return [.group d content]
  | _ => failure

/-- Repeat a reader while it takes tokens and wants to go on. -/
def repeatFrom {α : Type} (step : Reader (α × Bool)) : Nat → Reader (List α)
  | 0 => failure
  | fuel + 1 => do
      let (a, more) ← step
      if more then return a :: (← repeatFrom step fuel) else return [a]

/-- Repeat a reader until something is ahead. -/
def upTo {α : Type} (stop : List Token → Bool) (r : Reader α) : Reader (List α) := do
  let s ← get
  if stop s then return []
  else repeatFrom (do let a ← r; return (a, !(← ahead stop))) (s.length + 1)

/-- Items with a separator between them, up to what is ahead; a last separator may
stand behind them. -/
def separated {α : Type} (separator : String) (stop : List Token → Bool) (r : Reader α) :
    Reader (List (α × List Token)) :=
  upTo stop do
    let a ← r
    if ← ahead stop then return (a, []) else return (a, ← mark separator)

/-- Items with a separator between them, as long as there are separators; what is
ahead may also end them, as behind a last separator. -/
def chain {α : Type} (separator : String) (stop : List Token → Bool) (r : Reader α) :
    Reader (List (α × List Token)) := do
  let s ← get
  if stop s then return []
  else
    repeatFrom (do
      let a ← r
      let mark ← mark? separator
      return ((a, mark), !mark.isEmpty && !(← ahead stop))) (s.length + 1)

/-- The tokens of items and their separators. -/
def joined (items : List (List Token × List Token)) : List Token :=
  items.flatMap fun (item, separator) => item ++ separator

end Reader

end WebClient.Source
