import WebClient.Text.Ascii

/-!
# Punycode

A label with characters beyond ASCII as a label in ASCII: first its ASCII
characters, then the others in increasing order, each as the distance from the one
before, written in digits of growing weight.
-/

namespace WebClient.Domain.Punycode

/-- The digit of a value below thirty-six: letters first. -/
def digitChar (n : Nat) : Char :=
  if n < 26 then Char.ofNat (97 + n) else Char.ofNat (22 + n)

/-- The value of a digit. -/
def digitValue? (c : Char) : Option Nat :=
  if 'a' ≤ c ∧ c ≤ 'z' then some (c.toNat - 97)
  else if 'A' ≤ c ∧ c ≤ 'Z' then some (c.toNat - 65)
  else if '0' ≤ c ∧ c ≤ '9' then some (c.toNat - 22)
  else none

/-- Divide a distance by thirty-five until it is at most 455, counting the steps
in digits. -/
def dampen : Nat → Nat → Nat → Nat
  | 0, _, k => k
  | fuel + 1, delta, k =>
      if 455 < delta then dampen fuel (delta / 35) (k + 36) else k + 36 * delta / (delta + 38)

/-- The bias after a distance. -/
def adapt (delta count : Nat) (first : Bool) : Nat :=
  let delta := if first then delta / 700 else delta / 2
  dampen (delta + 1) (delta + delta / count) 0

/-- The threshold of a digit position. -/
def threshold (k bias : Nat) : Nat :=
  if k ≤ bias then 1 else if bias + 26 ≤ k then 26 else k - bias

/-- A distance as digits of growing weight. -/
def encodeDistance (bias : Nat) : Nat → Nat → Nat → List Char
  | 0, _, _ => []
  | fuel + 1, q, k =>
      let t := threshold k bias
      if q < t then [digitChar q]
      else
        digitChar (t + (q - t) % (36 - t)) ::
          encodeDistance bias fuel ((q - t) / (36 - t)) (k + 36)

/-- What the ASCII form of a label keeps track of. -/
structure Progress where
  next : Nat
  delta : Nat
  bias : Nat
  handled : Nat
  first : Bool
  output : List Char

/-- Write the characters of one code point, and count those below it. -/
def encodePoint (point : Nat) (p : Progress) (c : Char) : Progress :=
  let n := c.toNat
  if n < point then { p with delta := p.delta + 1 }
  else if n = point then
    { p with
      output := p.output ++ encodeDistance p.bias (p.delta + 1) p.delta 36
      bias := adapt p.delta (p.handled + 1) p.first
      delta := 0
      handled := p.handled + 1
      first := false }
  else p

/-- Write the code points of a label in increasing order. -/
def encodePoints (label : List Char) : List Nat → Progress → List Char
  | [], p => p.output
  | point :: points, p =>
      let p := { p with delta := p.delta + (point - p.next) * (p.handled + 1) }
      let p := label.foldl (encodePoint point) p
      encodePoints label points { p with next := point + 1, delta := p.delta + 1 }

/-- The ASCII form of a label with other characters, without its mark. -/
def encode (label : List Char) : List Char :=
  let basic := label.filter Text.isAscii
  let others := (label.filter fun c => !Text.isAscii c).map Char.toNat
  let points := (others.mergeSort (· ≤ ·)).eraseReps
  let start := if basic.isEmpty then [] else basic ++ ['-']
  encodePoints label points ⟨0x80, 0, 72, basic.length, true, start⟩

/-- Distances and weights are 32-bit words. -/
def maxWord : Nat := 0xffffffff

/-- Read one distance: the new index and the rest. -/
def decodeDistance (bias : Nat) :
    Nat → Nat → Nat → List Char → Option (Nat × List Char)
  | _, _, _, [] => none
  | i, w, k, c :: rest => do
      let d ← digitValue? c
      let i := i + d * w
      let t := threshold k bias
      if maxWord < i then none
      else if d < t then some (i, rest)
      else if maxWord < w * (36 - t) then none
      else decodeDistance bias i (w * (36 - t)) (k + 36) rest

/-- Read the characters of a label. -/
def decodePoints : Nat → List Char → Nat → Nat → Nat → List Char → Option (List Char)
  | 0, _, _, _, _, _ => none
  | _ + 1, [], _, _, _, output => some output
  | fuel + 1, digits, n, i, bias, output => do
      let (j, rest) ← decodeDistance bias i 1 36 digits
      let count := output.length + 1
      let n := n + j / count
      if 0x10ffff < n || (0xd800 ≤ n && n ≤ 0xdfff) then none
      else
        let at' := j % count
        let output := output.take at' ++ Char.ofNat n :: output.drop at'
        decodePoints fuel rest n (at' + 1) (adapt (j - i) count (i == 0)) output

/-- The label of an ASCII form without its mark: the ASCII characters of the label,
a hyphen if there are any, and the distances of the others. -/
def decode? (form : List Char) : Option (List Char) :=
  let digits := (form.reverse.takeWhile (· != '-')).reverse
  let basic := form.take (form.length - digits.length)
  match basic with
  | ['-'] => none
  | _ => decodePoints (form.length + 1) digits 0x80 0 72 basic.dropLast

end WebClient.Domain.Punycode
