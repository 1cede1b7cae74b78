import Mathlib.Data.List.TakeWhile
import WebClient.Json.Reader

/-!
# Numbers of a JSON text

A number is an optional minus sign, an integral part without leading zeros, and
optionally a fraction and an exponent.  `Numeral` is a number as it is written and
`Numeral.number?` what it stands for.  A number without fraction and exponent that fits
64 bits is an integer; of any other, the digits are taken that fit 64 bits, and the rest
is a power of ten.
-/

namespace WebClient.Json

/-! ## Runs of digits -/

/-- The text does not start with a digit. -/
def NoDigit (s : Bytes) : Prop := ∀ b ∈ s.head?, isDigit b = false

/-- The number that digits make behind a number that is read already. -/
def decimal (start : Nat) (digits : Bytes) : Nat :=
  digits.foldl (fun n d => n * 10 + digitValue d) start

/-- Take digits as long as the number that they make fits 64 bits: the number, and the
digits that are not taken. -/
def takeDigits : Nat → Bytes → Nat × Bytes
  | m, [] => (m, [])
  | m, d :: ds =>
      if 0x10000000000000000 ≤ m * 10 + digitValue d then (m, d :: ds)
      else takeDigits (m * 10 + digitValue d) ds

theorem noDigit_cons {b : UInt8} {s : Bytes} : NoDigit (b :: s) ↔ isDigit b = false := by
  simp [NoDigit]

theorem noDigit_dropWhile (s : Bytes) : NoDigit (s.dropWhile isDigit) := by
  intro b hb
  have h := List.head?_dropWhile_not isDigit s
  rw [Option.mem_def.1 hb] at h
  simpa using h

theorem isDigit_of_mem_takeWhile {s : Bytes} : ∀ d ∈ s.takeWhile isDigit, isDigit d = true :=
  fun _ hd => List.mem_takeWhile_imp hd

/-- A run of digits goes up to the first byte that is none. -/
theorem dropWhile_isDigit_append {ds t : Bytes} (hds : ∀ d ∈ ds, isDigit d = true)
    (ht : NoDigit t) : (ds ++ t).dropWhile isDigit = t := by
  rw [List.dropWhile_append_of_pos hds]
  cases t with
  | nil => rfl
  | cons b t => rw [List.dropWhile_cons_of_neg (by simp [noDigit_cons.1 ht])]

theorem decimal_cons (m : Nat) (d : UInt8) (ds : Bytes) :
    decimal m (d :: ds) = decimal (m * 10 + digitValue d) ds := by
  rw [decimal, List.foldl_cons, ← decimal]

theorem le_decimal (m : Nat) (ds : Bytes) : m ≤ decimal m ds := by
  induction ds generalizing m with
  | nil => exact Nat.le_refl m
  | cons d ds ih =>
      have h := ih (m * 10 + digitValue d)
      rw [decimal_cons]
      omega

/-- All digits are taken if their number fits. -/
theorem takeDigits_of_lt {m : Nat} {ds : Bytes} (h : decimal m ds < 0x10000000000000000) :
    takeDigits m ds = (decimal m ds, []) := by
  induction ds generalizing m with
  | nil => rfl
  | cons d ds ih =>
      have hle := le_decimal (m * 10 + digitValue d) ds
      rw [decimal_cons] at h
      rw [takeDigits, if_neg (by omega), ih h, decimal_cons]

theorem length_takeDigits_le (m : Nat) (ds : Bytes) : (takeDigits m ds).2.length ≤ ds.length := by
  induction ds generalizing m with
  | nil => exact Nat.le_refl 0
  | cons d ds ih =>
      rw [takeDigits]
      split
      · exact Nat.le_refl _
      · exact Nat.le_succ_of_le (ih _)

/-! ## Numerals -/

/-- An exponent as it is written: a letter, a sign or none, and digits. -/
structure Exponent where
  letter : UInt8
  sign : Bytes
  digits : Bytes

namespace Exponent

/-- The text of an exponent. -/
def text (x : Exponent) : Bytes := x.letter :: x.sign ++ x.digits

/-- The exponent is one of a JSON text. -/
structure IsWellFormed (x : Exponent) : Prop where
  letter : x.letter = byte 'e' ∨ x.letter = byte 'E'
  sign : x.sign = [] ∨ x.sign = [byte '+'] ∨ x.sign = [byte '-']
  someDigit : x.digits ≠ []
  digits : ∀ d ∈ x.digits, isDigit d = true

/-- The exponent has a minus sign. -/
def isDown (x : Exponent) : Bool := x.sign = [byte '-']

end Exponent

/-- The floating-point number with a significand and a power of ten that goes up or down
by an exponent, or `none` where it is out of range.  An exponent of 32 bits or more makes
a number zero if it goes down, and is out of range otherwise. -/
def shifted? (significand : Nat) (shift : Int) (down : Bool) (exponent : Nat) : Option Float :=
  if 0x80000000 ≤ exponent then
    if significand ≠ 0 && !down then none else some 0.0
  else
    scale? significand (clampExponent (if down then shift - exponent else shift + exponent))

/-- The floating-point number with a significand, a power of ten and an exponent, if there
is one. -/
def scaledBy? (significand : Nat) (shift : Int) : Option Exponent → Option Float
  | none => scale? significand shift
  | some x => shifted? significand shift x.isDown (decimal 0 x.digits)

/-- What stands behind the integral part of a number. -/
structure Ending where
  /-- The digits after the point. -/
  fraction : Option Bytes
  exponent : Option Exponent

namespace Ending

/-- The text of an ending. -/
def text (e : Ending) : Bytes :=
  e.fraction.elim [] (byte '.' :: ·) ++ e.exponent.elim [] Exponent.text

/-- The ending is one of a number of a JSON text. -/
structure IsWellFormed (e : Ending) : Prop where
  fraction : ∀ places ∈ e.fraction, places ≠ [] ∧ ∀ d ∈ places, isDigit d = true
  exponent : ∀ x ∈ e.exponent, x.IsWellFormed

/-- The text behind a number does not go on with it. -/
def EndsBefore (e : Ending) (rest : Bytes) : Prop :=
  ∀ b ∈ rest.head?, isDigit b = false ∧
    (e.exponent = none → b ≠ byte 'e' ∧ b ≠ byte 'E') ∧
    (e.exponent = none → e.fraction = none → b ≠ byte '.')

/-- The floating-point number of an integral part with an ending; of the integral part,
only the digits that fit 64 bits are taken, and the number of the others is given. -/
def float? (e : Ending) (front long : Nat) : Option Float :=
  let places := e.fraction.getD []
  let (significand, skipped) := takeDigits front places
  scaledBy? significand (long - (places.length - skipped.length : Nat)) e.exponent

end Ending

/-- A number as it is written. -/
structure Numeral extends Ending where
  negative : Bool
  /-- The digits of the integral part. -/
  whole : Bytes

namespace Numeral

/-- The text of a number behind its sign. -/
def unsignedText (n : Numeral) : Bytes := n.whole ++ n.toEnding.text

/-- The text of a number. -/
def text (n : Numeral) : Bytes := (if n.negative then [byte '-'] else []) ++ n.unsignedText

/-- The number is one of a JSON text. -/
structure IsWellFormed (n : Numeral) : Prop where
  /-- Zero is the only integral part that starts with a zero. -/
  whole : n.whole = [byte '0'] ∨ ∃ d ds, n.whole = d :: ds ∧ d ≠ byte '0'
  digits : ∀ d ∈ n.whole, isDigit d = true
  ending : n.toEnding.IsWellFormed

/-- The number without fraction and exponent; negative zero and what is below the range of
signed words is a floating-point number. -/
def ofWhole (negative : Bool) (m : Nat) : Number :=
  if negative then
    if m = 0 || 0x8000000000000000 < m then signed true m.toUInt64.toFloat
    else .integer (-m)
  else .integer m

/-- The number that is written, or `none` where it is out of range. -/
def number? (n : Numeral) : Option Number :=
  if n.fraction.isNone ∧ n.exponent.isNone ∧ decimal 0 n.whole < 0x10000000000000000 then
    some (ofWhole n.negative (decimal 0 n.whole))
  else
    (n.float? (takeDigits 0 n.whole).1 (takeDigits 0 n.whole).2.length).map (signed n.negative)

end Numeral

end WebClient.Json
