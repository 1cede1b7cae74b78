/-!
# Tables of runs

A property of characters is constant on long runs of code points, and its table
lists the runs.  A table is written as rows of text.  Each run in it is a capital,
which names the value, then the distance from the start of the run before, and
then numbers that belong to the value, each after a point.  Numbers are written
to the base thirty-six.
-/

namespace WebClient.Text

/-- A run of code points, which ends where the next one starts. -/
structure Run where
  start : Nat
  /-- The name of the value. -/
  letter : Char
  /-- The numbers that belong to the value. -/
  numbers : List Nat
  deriving DecidableEq, Repr

namespace Run

/-- The value of a digit to the base thirty-six. -/
def digit (c : Char) : Nat := if c.isDigit then c.toNat - 48 else c.toNat - 87

/-- Read one character of a table; runs and numbers are kept last first. -/
def readChar (runs : List (Char × List Nat)) (c : Char) : List (Char × List Nat) :=
  if c.isUpper then (c, [0]) :: runs
  else
    match runs with
    | (letter, n :: numbers) :: rest =>
        if c = '.' then (letter, 0 :: n :: numbers) :: rest
        else (letter, (n * 36 + digit c) :: numbers) :: rest
    | _ => runs

/-- Place runs behind a code point by their distances. -/
def place (start : Nat) : List (Char × List Nat) → List Run
  | [] => []
  | (letter, numbers) :: rest =>
      let start := start + numbers.head?.getD 0
      ⟨start, letter, numbers.drop 1⟩ :: place start rest

/-- The runs of a table. -/
def ofRows (rows : List String) : List Run :=
  let read := rows.foldl (fun runs row => row.toList.foldl readChar runs) []
  place 0 (read.reverse.map fun (letter, numbers) => (letter, numbers.reverse))

/-- The last run that starts at a code point or before it, or else the given one. -/
def lastUpTo (n : Nat) : Option Run → List Run → Option Run
  | found, [] => found
  | found, run :: rest => if run.start ≤ n then lastUpTo n (some run) rest else found

/-- The run that a character lies in. -/
def of? (table : List Run) (c : Char) : Option Run := lastUpTo c.toNat none table

/-- The letter of the run that a character lies in, or the one given for characters
in front of the table. -/
def letterOf (table : List Run) (outside : Char) (c : Char) : Char :=
  match of? table c with
  | some run => run.letter
  | none => outside

end Run

end WebClient.Text
