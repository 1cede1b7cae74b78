/-!
# UTF-8

Texts as bytes and back.  `encode` writes each character in its shortest form
and `decode` accepts exactly those forms; a byte sequence outside them is
reported with the index where the valid part ends and the number of bytes that
cannot start a character there.
-/

namespace WebClient

/-- Sequences of bytes, as bodies and files hold them. -/
abbrev Bytes := List UInt8

namespace Text.Utf8

/-- The bytes of one character. -/
def encodeChar (c : Char) : Bytes :=
  let n := c.toNat
  if n < 0x80 then [UInt8.ofNat n]
  else if n < 0x800 then
    [UInt8.ofNat (0xc0 + n / 64), UInt8.ofNat (0x80 + n % 64)]
  else if n < 0x10000 then
    [UInt8.ofNat (0xe0 + n / 4096), UInt8.ofNat (0x80 + n / 64 % 64),
      UInt8.ofNat (0x80 + n % 64)]
  else
    [UInt8.ofNat (0xf0 + n / 262144), UInt8.ofNat (0x80 + n / 4096 % 64),
      UInt8.ofNat (0x80 + n / 64 % 64), UInt8.ofNat (0x80 + n % 64)]

/-- The bytes of a list of characters. -/
def encode (s : List Char) : Bytes := s.flatMap encodeChar

/-- Why a sequence of bytes is not UTF-8. -/
structure Fault where
  /-- Length of the longest valid beginning. -/
  validUpTo : Nat
  /-- Number of bytes there that start no character, or `none` when the input
  stops inside a character. -/
  length : Option Nat
  deriving DecidableEq, Repr

/-- The wording of a fault. -/
def Fault.message (fault : Fault) : String :=
  match fault.length with
  | some n => s!"invalid utf-8 sequence of {n} bytes from index {fault.validUpTo}"
  | none => s!"incomplete utf-8 byte sequence from index {fault.validUpTo}"

/-- The byte continues a character. -/
def isTail (b : UInt8) : Bool := 0x80 ≤ b.toNat && b.toNat ≤ 0xbf

/-- The second byte may follow the first one of a three byte character. -/
def isSecondOfThree (a b : UInt8) : Bool :=
  isTail b && (a.toNat != 0xe0 || 0xa0 ≤ b.toNat) && (a.toNat != 0xed || b.toNat ≤ 0x9f)

/-- The second byte may follow the first one of a four byte character. -/
def isSecondOfFour (a b : UInt8) : Bool :=
  isTail b && (a.toNat != 0xf0 || 0x90 ≤ b.toNat) && (a.toNat != 0xf4 || b.toNat ≤ 0x8f)

/-- Put a decoded character in front of a decoded rest. -/
def prepend (n : Nat) : Except Fault (List Char) → Except Fault (List Char) :=
  Except.map (Char.ofNat n :: ·)

/-- Decode a sequence that starts at the given index of the whole input. -/
def decodeFrom (index : Nat) : Bytes → Except Fault (List Char)
  | [] => .ok []
  | a :: rest =>
      let n := a.toNat
      if n < 0x80 then prepend n (decodeFrom (index + 1) rest)
      else if 0xc2 ≤ n ∧ n ≤ 0xdf then
        match rest with
        | [] => .error ⟨index, none⟩
        | b :: rest =>
            if isTail b then
              prepend ((n - 0xc0) * 64 + (b.toNat - 0x80)) (decodeFrom (index + 2) rest)
            else .error ⟨index, some 1⟩
      else if 0xe0 ≤ n ∧ n ≤ 0xef then
        match rest with
        | [] => .error ⟨index, none⟩
        | b :: rest =>
            if isSecondOfThree a b then
              match rest with
              | [] => .error ⟨index, none⟩
              | c :: rest =>
                  if isTail c then
                    prepend ((n - 0xe0) * 4096 + (b.toNat - 0x80) * 64 + (c.toNat - 0x80))
                      (decodeFrom (index + 3) rest)
                  else .error ⟨index, some 2⟩
            else .error ⟨index, some 1⟩
      else if 0xf0 ≤ n ∧ n ≤ 0xf4 then
        match rest with
        | [] => .error ⟨index, none⟩
        | b :: rest =>
            if isSecondOfFour a b then
              match rest with
              | [] => .error ⟨index, none⟩
              | c :: rest =>
                  if isTail c then
                    match rest with
                    | [] => .error ⟨index, none⟩
                    | d :: rest =>
                        if isTail d then
                          prepend
                            ((n - 0xf0) * 262144 + (b.toNat - 0x80) * 4096 +
                              (c.toNat - 0x80) * 64 + (d.toNat - 0x80))
                            (decodeFrom (index + 4) rest)
                        else .error ⟨index, some 3⟩
                  else .error ⟨index, some 2⟩
            else .error ⟨index, some 1⟩
      else .error ⟨index, some 1⟩

/-- Decode a sequence of bytes, or report where it stops being UTF-8. -/
def decode (bytes : Bytes) : Except Fault (List Char) := decodeFrom 0 bytes

end Text.Utf8

/-- The UTF-8 bytes of a text. -/
def Text.bytes (s : String) : Bytes := Text.Utf8.encode s.toList

/-- The text of a sequence of UTF-8 bytes. -/
def Text.ofBytes (bytes : Bytes) : Except Text.Utf8.Fault String :=
  (Text.Utf8.decode bytes).map String.ofList

end WebClient
