import WebClient.Proofs.Json.Numeral
import WebClient.Proofs.Json.StringText

/-!
# The grammar of JSON texts

`Spells n text v` says that a text is one JSON value, with arrays and objects nested at
most `n` levels deep, and that the value is `v`.  Blanks stand between the tokens of a
text, but not around it; `IsDocument` is a text with blanks around it.  A number is the
only text that could go on behind its end, and `EndsBefore` says that it does not.
-/

namespace WebClient.Json

/-- The text has only blanks. -/
def IsBlank (s : Bytes) : Prop := ∀ b ∈ s, isSpace b = true

/-- The text of a value that has no parts. -/
inductive ScalarText : Bytes → Value → Prop
  | null : ScalarText [byte 'n', byte 'u', byte 'l', byte 'l'] .null
  | yes : ScalarText [byte 't', byte 'r', byte 'u', byte 'e'] (.bool true)
  | no : ScalarText [byte 'f', byte 'a', byte 'l', byte 's', byte 'e'] (.bool false)
  | number {n : Numeral} {num : Number} (hn : n.IsWellFormed) (h : n.number? = some num) :
      ScalarText n.text (.number num)
  | string {text : Bytes} {s : String} (h : StringText text s.toList) :
      ScalarText (byte '"' :: text ++ [byte '"']) (.string s)

section Lists

variable {α : Type} (R : Bytes → α → Prop)

/-- Further items, each after a comma. -/
inductive MoreItemsText : Bytes → List α → Prop
  | nil {gap : Bytes} (hgap : IsBlank gap) : MoreItemsText gap []
  | cons {gap front text more : Bytes} {x : α} {xs : List α} (hgap : IsBlank gap)
      (hfront : IsBlank front) (hx : R text x) (hmore : MoreItemsText more xs) :
      MoreItemsText (gap ++ byte ',' :: (front ++ text ++ more)) (x :: xs)

/-- Items with commas between them, as they stand between brackets. -/
inductive ItemsText : Bytes → List α → Prop
  | nil {gap : Bytes} (hgap : IsBlank gap) : ItemsText gap []
  | cons {front text more : Bytes} {x : α} {xs : List α} (hfront : IsBlank front)
      (hx : R text x) (hmore : MoreItemsText R more xs) :
      ItemsText (front ++ text ++ more) (x :: xs)

/-- A field of an object: a string, a colon and an item. -/
inductive FieldText : Bytes → String × α → Prop
  | field {nameText gap front text : Bytes} {name : String} {x : α}
      (hname : StringText nameText name.toList) (hgap : IsBlank gap) (hfront : IsBlank front)
      (hx : R text x) :
      FieldText (byte '"' :: (nameText ++ byte '"' :: (gap ++ byte ':' :: (front ++ text))))
        (name, x)

end Lists

/-- The text is one JSON value that nests arrays and objects at most so many levels deep. -/
def Spells : Nat → Bytes → Value → Prop
  | 0, text, v => ScalarText text v
  | levels + 1, text, v =>
      ScalarText text v ∨
      (∃ inner items, ItemsText (Spells levels) inner items ∧
        text = byte '[' :: (inner ++ [byte ']']) ∧ v = .array items) ∨
      (∃ inner fields, ItemsText (FieldText (Spells levels)) inner fields ∧
        text = byte '{' :: (inner ++ [byte '}']) ∧ v = .object (collectFields fields))

/-- The text is one JSON value, with nothing but blanks around it. -/
def IsDocument (text : Bytes) (v : Value) : Prop :=
  ∃ front inner rest, text = front ++ inner ++ rest ∧ IsBlank front ∧ Spells maxLevels inner v ∧
    IsBlank rest

/-- What is behind the text of a value does not go on with it.  A text that ends with a
digit is a number, and goes on with more digits, with an exponent if it has none, and with
a fraction if it has neither. -/
def EndsBefore (text rest : Bytes) : Prop :=
  ∀ d ∈ text.getLast?, isDigit d = true → ∀ b ∈ rest.head?, isDigit b = false ∧
    (byte 'e' ∉ text ∧ byte 'E' ∉ text → b ≠ byte 'e' ∧ b ≠ byte 'E') ∧
    (byte 'e' ∉ text ∧ byte 'E' ∉ text ∧ byte '.' ∉ text → b ≠ byte '.')

/-! ## Where a text ends -/

/-- The byte ends every text in front of it. -/
def isStop (b : UInt8) : Bool := isSpace b || b = byte ',' || b = byte ']' || b = byte '}'

theorem isStop_of_isSpace {b : UInt8} (h : isSpace b = true) : isStop b = true := by
  simp [isStop, h]

theorem not_mem_of_isStop {b : UInt8} (h : isStop b = true) :
    isDigit b = false ∧ b ≠ byte 'e' ∧ b ≠ byte 'E' ∧ b ≠ byte '.' := by
  simp only [isStop, isSpace, Bool.or_eq_true, decide_eq_true_eq] at h
  obtain (((((rfl | rfl) | rfl) | rfl) | rfl) | rfl) | rfl := h <;> decide

theorem endsBefore_of_isStop {text rest : Bytes} (h : ∀ b ∈ rest.head?, isStop b = true) :
    EndsBefore text rest := by
  intro d _ _ b hb
  obtain ⟨hdigit, he, hE, hpoint⟩ := not_mem_of_isStop (h b hb)
  exact ⟨hdigit, fun _ => ⟨he, hE⟩, fun _ => hpoint⟩

theorem endsBefore_of_isBlank {text rest : Bytes} (h : IsBlank rest) : EndsBefore text rest :=
  endsBefore_of_isStop fun b hb => isStop_of_isSpace (h b (List.mem_of_mem_head? hb))

/-- A text that does not end with a digit ends before every other one. -/
theorem endsBefore_concat (text : Bytes) {rest : Bytes} {b : UInt8} (hb : isDigit b = false) :
    EndsBefore (text ++ [b]) rest := by
  intro d hd hdigit
  rw [List.getLast?_concat, Option.mem_some_iff] at hd
  rw [← hd, hb] at hdigit
  cases hdigit

/-! ## Where a number ends -/

/-- The text ends with a digit. -/
def EndsWithDigit (s : Bytes) : Prop := ∃ d ∈ s.getLast?, isDigit d = true

theorem EndsWithDigit.of_append {s : Bytes} (h : EndsWithDigit s) (front : Bytes) :
    EndsWithDigit (front ++ s) := by
  obtain ⟨d, hd, hdigit⟩ := h
  exact ⟨d, by rw [List.getLast?_append, Option.mem_def.1 hd]; rfl, hdigit⟩

theorem endsWithDigit_of_forall {ds : Bytes} (hsome : ds ≠ [])
    (hds : ∀ d ∈ ds, isDigit d = true) : EndsWithDigit ds :=
  ⟨ds.getLast hsome, List.getLast?_eq_some_getLast hsome, hds _ (List.getLast_mem hsome)⟩

theorem Exponent.IsWellFormed.endsWithDigit {x : Exponent} (hx : x.IsWellFormed) :
    EndsWithDigit x.text :=
  (endsWithDigit_of_forall hx.someDigit hx.digits).of_append (x.letter :: x.sign)

namespace Ending

variable {e : Ending}

/-- An ending ends with a digit, if there is one. -/
theorem endsWithDigit_append_text (he : e.IsWellFormed) {front : Bytes}
    (hfront : EndsWithDigit front) : EndsWithDigit (front ++ e.text) := by
  obtain ⟨fraction, x⟩ := e
  cases x with
  | some x =>
      rw [text, ← List.append_assoc]
      exact (he.exponent x rfl).endsWithDigit.of_append _
  | none =>
      rw [text, Option.elim_none, List.append_nil]
      cases fraction with
      | none => simpa using hfront
      | some places =>
          obtain ⟨hsome, hplaces⟩ := he.fraction places rfl
          rw [Option.elim_some, List.append_cons]
          exact (endsWithDigit_of_forall hsome hplaces).of_append _

/-- A byte of an ending without exponent is a digit, or the point in front of a fraction. -/
theorem mem_text (he : e.IsWellFormed) (hnone : e.exponent = none) {b : UInt8}
    (hb : b ∈ e.text) : isDigit b = true ∨ b = byte '.' ∧ e.fraction ≠ none := by
  rw [text, hnone, Option.elim_none, List.append_nil] at hb
  cases hfraction : e.fraction with
  | none =>
      rw [hfraction] at hb
      cases hb
  | some places =>
      rw [hfraction] at hb
      obtain rfl | hb := List.mem_cons.1 hb
      · exact Or.inr ⟨rfl, Option.some_ne_none places⟩
      · exact Or.inl ((he.fraction places hfraction).2 b hb)

end Ending

namespace Numeral

variable {n : Numeral}

theorem IsWellFormed.whole_ne_nil (hn : n.IsWellFormed) : n.whole ≠ [] := by
  obtain h | ⟨d, ds, h, -⟩ := hn.whole <;> rw [h] <;> exact List.cons_ne_nil _ _

/-- A number ends with a digit. -/
theorem endsWithDigit_text (hn : n.IsWellFormed) : EndsWithDigit n.text :=
  (Ending.endsWithDigit_append_text hn.ending
    (endsWithDigit_of_forall hn.whole_ne_nil hn.digits)).of_append _

/-- A byte of a number without exponent is its sign, a digit, or the point in front of its
fraction. -/
theorem mem_text (hn : n.IsWellFormed) (hnone : n.exponent = none) {b : UInt8}
    (hb : b ∈ n.text) :
    b = byte '-' ∨ isDigit b = true ∨ b = byte '.' ∧ n.fraction ≠ none := by
  obtain hsign | hb := List.mem_append.1 hb
  · left
    cases hnegative : n.negative with
    | false =>
        rw [hnegative] at hsign
        cases hsign
    | true =>
        rw [hnegative] at hsign
        exact List.mem_singleton.1 hsign
  · obtain hwhole | hending := List.mem_append.1 hb
    · exact Or.inr (Or.inl (hn.digits b hwhole))
    · exact Or.inr (Ending.mem_text hn.ending hnone hending)

/-- A number has an exponent where there is its letter. -/
theorem exponent_eq_none_iff (hn : n.IsWellFormed) :
    n.exponent = none ↔ byte 'e' ∉ n.text ∧ byte 'E' ∉ n.text := by
  constructor
  · intro hnone
    constructor
    · intro he
      obtain h | h | ⟨h, -⟩ := mem_text hn hnone he <;> exact absurd h (by decide)
    · intro hE
      obtain h | h | ⟨h, -⟩ := mem_text hn hnone hE <;> exact absurd h (by decide)
  · -- An exponent would bring its letter with it.
    rintro ⟨he, hE⟩
    rw [Option.eq_none_iff_forall_ne_some]
    intro x hx
    have hmem : x.letter ∈ n.text := by
      simp [text, unsignedText, Ending.text, hx, Exponent.text]
    obtain hletter | hletter := (hn.ending.exponent x hx).letter
    · exact he (hletter ▸ hmem)
    · exact hE (hletter ▸ hmem)

/-- A number without exponent has a fraction where there is a point. -/
theorem fraction_eq_none_iff (hn : n.IsWellFormed) (hnone : n.exponent = none) :
    n.fraction = none ↔ byte '.' ∉ n.text := by
  constructor
  · intro hfraction hpoint
    obtain h | h | ⟨-, h⟩ := mem_text hn hnone hpoint
    · exact absurd h (by decide)
    · exact absurd h (by decide)
    · exact h hfraction
  · intro hpoint
    rw [Option.eq_none_iff_forall_ne_some]
    intro places hplaces
    exact hpoint (by simp [text, unsignedText, Ending.text, hplaces])

/-- What ends a number is seen from its text. -/
theorem endsBefore_text_iff (hn : n.IsWellFormed) {rest : Bytes} :
    EndsBefore n.text rest ↔ n.toEnding.EndsBefore rest := by
  have hexponent := exponent_eq_none_iff hn
  constructor
  · intro h b hb
    obtain ⟨d, hd, hdigit⟩ := endsWithDigit_text hn
    obtain ⟨hb, hletters, hpoint⟩ := h d hd hdigit b hb
    refine ⟨hb, fun hnone => hletters (hexponent.1 hnone), fun hnone hfraction => ?_⟩
    obtain ⟨he, hE⟩ := hexponent.1 hnone
    exact hpoint ⟨he, hE, (fraction_eq_none_iff hn hnone).1 hfraction⟩
  · intro h d _ _ b hb
    obtain ⟨hb, hletters, hpoint⟩ := h b hb
    refine ⟨hb, fun hnone => hletters (hexponent.2 hnone), fun hnone => ?_⟩
    obtain ⟨he, hE, hfraction⟩ := hnone
    have hnone := hexponent.2 ⟨he, hE⟩
    exact hpoint hnone ((fraction_eq_none_iff hn hnone).2 hfraction)

end Numeral

end WebClient.Json
