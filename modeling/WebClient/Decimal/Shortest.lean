/-!
# Shortest decimals

A finite binary floating-point number is the nearest one to a whole interval of
reals.  `shortest` looks for the decimal with the fewest digits in that
interval: for one digit, two digits and so on it tests the two neighbours of the
value on the grid of decimals of that precision, and the first precision with a
hit wins.  Of two hits the nearer one is taken, and of two equally near ones the
even one.  All arithmetic is exact.
-/

namespace WebClient.Decimal

/-- The value `coefficient * 10 ^ exponent`. -/
structure Scaled where
  coefficient : Nat
  exponent : Int
  deriving DecidableEq, Repr

/-- A positive finite binary value `mantissa * 2 ^ exponent`, and whether the
next smaller one lies at half the distance of the next larger one. -/
structure Binary where
  mantissa : Nat
  exponent : Int
  narrow : Bool
  deriving DecidableEq, Repr

/-- Read the bits of a double precision number, the sign apart. -/
def Binary.ofBits (bits : UInt64) : Binary :=
  let n := bits.toNat
  let fraction : Nat := n % Nat.pow 2 52
  let biased : Nat := n / Nat.pow 2 52 % Nat.pow 2 11
  if biased = 0 then ⟨fraction, -1074, false⟩
  else ⟨Nat.pow 2 52 + fraction, (biased : Int) - 1075, fraction = 0 && biased ≠ 1⟩

/-- The reals that round to a value, in units of `1 / den`: the value itself, its
two bounds, and whether the bounds belong to the interval. -/
structure Interval where
  value : Nat
  low : Nat
  high : Nat
  den : Nat
  closed : Bool
  deriving DecidableEq, Repr

/-- The interval of the reals that round to a binary value. -/
def Binary.interval (b : Binary) : Interval :=
  let scale := b.exponent - 2
  let up := Nat.pow 2 scale.toNat
  let quarter := b.mantissa * 4
  { value := quarter * up
    low := (quarter - if b.narrow then 1 else 2) * up
    high := (quarter + 2) * up
    den := Nat.pow 2 (-scale).toNat
    closed := b.mantissa % 2 = 0 }

/-- Number of decimal digits of a number. -/
def digitCount (n : Nat) : Nat := (Nat.toDigits 10 n).length

/-- The exponent of the greatest power of ten that is at most `num / den`. -/
def magnitude (num den : Nat) : Int :=
  let guess : Int := (digitCount num : Int) - digitCount den
  let reached := den * Nat.pow 10 guess.toNat ≤ num * Nat.pow 10 (-guess).toNat
  if reached then guess else guess - 1

/-- The point `coefficient * 10 ^ exponent` lies in the interval. -/
def Interval.holds (i : Interval) (p : Scaled) : Bool :=
  let point := p.coefficient * Nat.pow 10 p.exponent.toNat * i.den
  let scale := Nat.pow 10 (-p.exponent).toNat
  if i.closed then i.low * scale ≤ point && point ≤ i.high * scale
  else i.low * scale < point && point < i.high * scale

/-- The neighbour of the value on the grid of the multiples of a power of ten
that lies in the interval, the nearer one where both do. -/
def Interval.onGrid (i : Interval) (exponent : Int) : Option Scaled :=
  let num := i.value * Nat.pow 10 (-exponent).toNat
  let den := i.den * Nat.pow 10 exponent.toNat
  let below : Scaled := ⟨num / den, exponent⟩
  let above : Scaled := ⟨num / den + 1, exponent⟩
  let rest := num % den
  match i.holds below, i.holds above with
  | false, false => none
  | true, false => some below
  | false, true => some above
  | true, true =>
      if rest * 2 < den then some below
      else if den < rest * 2 then some above
      else if below.coefficient % 2 = 0 then some below
      else some above

/-- The first precision, counted from the leading digit, with a decimal in the
interval. -/
def Interval.search (i : Interval) (top : Int) : Nat → Nat → Option Scaled
  | 0, _ => none
  | fuel + 1, digits =>
      match i.onGrid (top - digits) with
      | some p => some p
      | none => i.search top fuel (digits + 1)

/-- Move the trailing zeros of a coefficient into the exponent. -/
def Scaled.stripZeros : Nat → Scaled → Scaled
  | 0, p => p
  | fuel + 1, p =>
      if p.coefficient ≠ 0 && p.coefficient % 10 = 0 then
        stripZeros fuel ⟨p.coefficient / 10, p.exponent + 1⟩
      else p

/-- The shortest decimal that rounds to a positive binary value; seventeen
digits always suffice. -/
def Binary.shortest (b : Binary) : Scaled :=
  let i := b.interval
  let found := (i.search (magnitude i.value i.den) 17 0).getD ⟨0, 0⟩
  found.stripZeros (digitCount found.coefficient)

/-- How a decimal is written out. -/
structure Layout where
  /-- Least exponent of the leading digit that is written positionally. -/
  low : Int
  /-- Least exponent of the leading digit above those written positionally. -/
  high : Int
  /-- Text that stands after an integral positional number. -/
  integral : String
  /-- Text between the digits and a non-negative exponent. -/
  positiveMark : String
  /-- Text between the digits and the absolute value of a negative exponent. -/
  negativeMark : String
  /-- Text of a value that is not a number. -/
  notANumber : String
  /-- Text of positive infinity. -/
  infinity : String

/-- Write a decimal, which has no trailing zeros, positionally. -/
def Layout.positional (layout : Layout) (p : Scaled) : String :=
  let digits := String.ofList (Nat.toDigits 10 p.coefficient)
  if 0 ≤ p.exponent then
    digits ++ String.ofList (List.replicate p.exponent.toNat '0') ++ layout.integral
  else
    let places := (-p.exponent).toNat
    let padded :=
      List.replicate (places + 1 - digits.length) '0' ++ digits.toList
    let whole := padded.take (padded.length - places)
    let fraction := padded.drop (padded.length - places)
    String.ofList (whole ++ '.' :: fraction)

/-- Write a decimal with one digit before the point and a power of ten. -/
def Layout.scientific (layout : Layout) (p : Scaled) : String :=
  let digits := Nat.toDigits 10 p.coefficient
  let power := p.exponent + (digits.length : Int) - 1
  let lead := digits.take 1
  let fraction := digits.drop 1
  let body := if fraction.isEmpty then lead else lead ++ '.' :: fraction
  let mark := if 0 ≤ power then layout.positiveMark else layout.negativeMark
  String.ofList body ++ mark ++ toString power.natAbs

/-- Write a floating-point number. -/
def Layout.write (layout : Layout) (x : Float) : String :=
  let bits := x.toBits
  let sign := if bits.toNat / Nat.pow 2 63 = 1 then "-" else ""
  if x.isNaN then layout.notANumber
  else if x.isInf then sign ++ layout.infinity
  else
    let b := Binary.ofBits bits
    if b.mantissa = 0 then sign ++ layout.positional ⟨0, 0⟩
    else
      let p := b.shortest
      let power := p.exponent + (digitCount p.coefficient : Int) - 1
      sign ++
        if layout.low ≤ power ∧ power < layout.high then layout.positional p
        else layout.scientific p

end WebClient.Decimal
