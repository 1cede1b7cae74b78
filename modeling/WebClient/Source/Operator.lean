import WebClient.Source.Pattern

/-!
# Operators

How strongly the operators between operands bind.  An expression is read from its
first operand on: an operator is taken while it binds strongly enough, and what is
right of it is read with the operators that bind more strongly.  Comparisons are not
chained, and behind a range no operator is taken.
-/

namespace WebClient.Source

/-! ## Strength -/

/-- The kinds of operators between operands. -/
inductive Operator where
  | assign
  | range
  | either
  | both
  | compare
  | bitOr
  | bitXor
  | bitAnd
  | shift
  | add
  | multiply
  | cast
  deriving DecidableEq, Repr

namespace Operator

/-- How strongly an operator binds.  A pattern that is tried binds as strongly as 5. -/
def strength : Operator → Nat
  | .assign => 1
  | .range => 2
  | .either => 3
  | .both => 4
  | .compare => 6
  | .bitOr => 7
  | .bitXor => 8
  | .bitAnd => 9
  | .shift => 10
  | .add => 11
  | .multiply => 12
  | .cast => 13

/-- The operators that are marks between two operands, each before those that it
starts with. -/
def binary : List (String × Operator) :=
  [("+=", .assign), ("-=", .assign), ("*=", .assign), ("/=", .assign), ("%=", .assign),
    ("^=", .assign), ("&=", .assign), ("|=", .assign), ("<<=", .assign), (">>=", .assign),
    ("&&", .both), ("||", .either), ("<<", .shift), (">>", .shift), ("==", .compare),
    ("<=", .compare), ("!=", .compare), (">=", .compare), ("+", .add), ("-", .add),
    ("*", .multiply), ("/", .multiply), ("%", .multiply), ("^", .bitXor), ("&", .bitAnd),
    ("|", .bitOr), ("<", .compare), (">", .compare)]

/-- The operator between two operands that tokens start with. -/
def binary? (s : List Token) : Option (String × Operator) :=
  binary.find? fun (text, _) => Ahead.mark text s

/-- How strongly the operator binds that tokens start with, and not at all without
one. -/
def strengthAhead (s : List Token) : Nat :=
  match binary? s with
  | some (_, operator) => operator.strength
  | none =>
      if Ahead.equals s then assign.strength
      else if Ahead.range s then range.strength
      else if Ahead.word "as" s then cast.strength
      else 0

end Operator

/-! ## Ends -/

/-- What cannot start the end of a range. -/
def Ahead.rangeStop (structures : Bool) (s : List Token) : Bool :=
  s.isEmpty || Ahead.mark "," s || Ahead.mark ";" s || Ahead.point s || Ahead.mark "?" s ||
    Ahead.mark "=>" s || (!structures && Ahead.group .brace s) || Ahead.word "as" s ||
    ["=", "+", "/", "%", "^", ">", "<=", "!=", "-=", "*=", "&=", "|=", "<<="].any
      fun text => Ahead.mark text s

/-- What cannot stand behind a type that an operand is cast to. -/
def Ahead.castEnd (s : List Token) : Bool :=
  Ahead.point s || Ahead.mark "?" s || Ahead.group .bracket s || Ahead.group .parenthesis s

/-! ## Expressions -/

/-- An operand is cast to a type. -/
def Rules.castOf (rules : Rules) (left : Phrase) : Reader Phrase := do
  let word ← Reader.word "as"
  let type ← rules.wording (.type false)
  if ← Reader.ahead Ahead.castEnd then failure
  return .operation (left.tokens ++ word ++ type) false left.isBare

mutual

/-- The rest of an expression behind its leftmost operand, with the operators that bind
at least as strongly as a number says. -/
def Rules.extend (rules : Rules) (structures : Bool) (least : Nat) :
    Nat → Phrase → Reader Phrase
  | 0, _ => failure
  | fuel + 1, left => do
      let s ← get
      if left.isRange then return left
      else
        match Operator.binary? s with
        | some (text, operator) =>
            if operator.strength < least then return left
            else if operator = .compare && left.compares then failure
            else
              let mark ← Reader.mark text
              let right ← rules.rightOf structures operator fuel
              rules.extend structures least fuel
                (.operation (left.tokens ++ mark ++ right.tokens) (operator = .compare)
                  left.isBare)
        | none =>
            if least ≤ Operator.assign.strength && Ahead.equals s then
              let mark ← Reader.mark "="
              let right ← rules.rightOf structures .assign fuel
              rules.extend structures least fuel
                (.operation (left.tokens ++ mark ++ right.tokens) false left.isBare)
            else if least ≤ Operator.range.strength && Ahead.range s then
              rules.rangeBehind structures left.tokens fuel
            else if least ≤ Operator.cast.strength && Ahead.word "as" s then
              rules.extend structures least fuel (← rules.castOf left)
            else return left

/-- A range behind its start, with its end if it has one. -/
def Rules.rangeBehind (rules : Rules) (structures : Bool) (start : List Token) :
    Nat → Reader Phrase
  | 0 => failure
  | fuel + 1 => do
      let (mark, needed) ← Reader.rangeMark
      if !needed && (← Reader.ahead (Ahead.rangeStop structures)) then
        return .range (start ++ mark)
      else
        let stop ← rules.rightOf structures .range fuel
        return .range (start ++ mark ++ stop.tokens)

/-- What stands right of an operator. -/
def Rules.rightOf (rules : Rules) (structures : Bool) (operator : Operator) :
    Nat → Reader Phrase
  | 0 => failure
  | fuel + 1 => do
      rules.strengthen structures operator fuel (← rules (.operand structures))

/-- An operand right of an operator, with the operators behind it that bind more
strongly; an assignment is taken right of another. -/
def Rules.strengthen (rules : Rules) (structures : Bool) (operator : Operator) :
    Nat → Phrase → Reader Phrase
  | 0, _ => failure
  | fuel + 1, right => do
      let s ← get
      let next := Operator.strengthAhead s
      if operator.strength < next || (operator = .assign && next = operator.strength) then
        let more ← rules.extend structures next fuel right
        if (← get).length = s.length then return more
        else rules.strengthen structures operator fuel more
      else return right

end

/-- A number of steps that no expression in some tokens takes. -/
def Reader.steps : Reader Nat := return 4 * (← get).length + 8

/-- The rest of an expression behind its leftmost operand, with the operators that bind
at least as strongly as a number says. -/
def Rules.extended (rules : Rules) (structures : Bool) (least : Nat) (left : Phrase) :
    Reader Phrase := do
  rules.extend structures least (← Reader.steps) left

/-- A range without a start. -/
def Rules.openRange (rules : Rules) (structures : Bool) : Reader Phrase := do
  rules.rangeBehind structures [] (← Reader.steps)

/-- How an expression is read. -/
def Rules.expressionPhrase (rules : Rules) (structures : Bool) : Reader Phrase := do
  rules.extended structures 0 (← rules (.operand structures))

end WebClient.Source
