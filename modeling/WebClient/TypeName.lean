import WebClient.Text.Blank

/-!
# Type names

The name of a declared type is its text without blanks, so that two spellings
of one type are the same name.
-/

namespace WebClient

/-- The name of a declared type. -/
structure TypeName where
  text : String
  deriving DecidableEq, Repr, Inhabited

namespace TypeName

/-- The name that a text spells. -/
def ofText (s : String) : TypeName := ⟨Text.withoutBlanks s⟩

/-- The name of the type with one value. -/
def unit : TypeName := ⟨"()"⟩

/-- The order of type names, character by character. -/
def compare (a b : TypeName) : Ordering :=
  compareList (a.text.toList.map Char.toNat) (b.text.toList.map Char.toNat)
where
  compareList : List Nat → List Nat → Ordering
    | [], [] => .eq
    | [], _ :: _ => .lt
    | _ :: _, [] => .gt
    | a :: as, b :: bs => (Ord.compare a b).then (compareList as bs)

end TypeName

end WebClient
