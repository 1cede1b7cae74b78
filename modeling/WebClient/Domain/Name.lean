import WebClient.Domain.Direction
import WebClient.Domain.Folding
import WebClient.Domain.Joining
import WebClient.Domain.Punycode
import WebClient.Text.Composition
import WebClient.Text.Utf8

/-!
# Domain names

The ASCII form of a domain name.  A name is folded and composed, and each of its
labels is checked; a label with characters beyond ASCII is written in the form
that starts with `xn--`, and a label that is given in this form must stand for
one.  A name in ASCII without such a label is only folded.
-/

namespace WebClient.Domain

/-- The mark of a label in ASCII form. -/
def mark : List Char := ['x', 'n', '-', '-']

/-- A form of more characters behind its mark is not read. -/
def maxForm : Nat := 2000

/-- A label of more characters has no ASCII form. -/
def maxLabel : Nat := 1000

/-- A folded label in which no ASCII form is left. -/
structure Label where
  characters : List Char
  /-- The form in which it is given, if that is the ASCII form. -/
  form : Option (List Char)
  deriving DecidableEq, Repr

/-- The label of an ASCII form without its mark. -/
def ofForm? (form : List Char) : Option (List Char) :=
  if !form.all Text.isAscii || maxForm < form.length then none
  else
    match form.getLast? with
    | none => none
    | some '-' => none
    | some _ => do
        let label ← Punycode.decode? form
        if (foldAll? label).map Text.Composition.compose = some label then some label else none

/-- Read a folded label. -/
def Label.of? (text : List Char) : Option Label :=
  match Text.stripStart? mark text with
  | none => some ⟨text, none⟩
  | some form => (ofForm? form).map fun label => ⟨label, some text⟩

/-- A label starts with no mark, its joiners may stand where they do, and it is not
too long. -/
def Label.isValid (label : Label) : Bool :=
  !label.characters.head?.any Text.isMark && joinersFit [] label.characters &&
    (label.characters.all Text.isAscii || label.characters.length ≤ maxLabel)

/-- The ASCII form of a label. -/
def Label.toAscii (label : Label) : List Char :=
  match label.form with
  | some form => form
  | none =>
      if label.characters.all Text.isAscii then label.characters
      else mark ++ Punycode.encode label.characters

/-- The ASCII form of a name with characters beyond ASCII, or with labels in ASCII
form. -/
def international? (text : List Char) : Option (List Char) := do
  let folded := Text.Composition.compose (← foldAll? text)
  let labels ← (Text.splitAll (· == '.') folded).mapM Label.of?
  if labels.all Label.isValid && keepsDirection (labels.map Label.characters) then
    return Text.join ['.'] (labels.map Label.toAscii)
  else none

/-- The ASCII form of a domain name given as bytes. -/
def toAscii? (bytes : Bytes) : Option (List Char) := do
  let text ← (Text.Utf8.decode bytes).toOption
  let small := Text.lower text
  let labels := Text.splitAll (· == '.') small
  if small.all Text.isAscii && !labels.any mark.isPrefixOf then return small
  else international? text

end WebClient.Domain
