import WebClient.Text.Ascii
import WebClient.Text.Utf8

/-!
# Hexadecimal text

Bytes as two small hexadecimal digits each, and back.
-/

namespace WebClient.Text.Hex

/-- The digits of bytes. -/
def encode (bytes : Bytes) : String :=
  String.ofList (bytes.flatMap fun b => [lowerHex (b.toNat / 16), lowerHex (b.toNat % 16)])

/-- The bytes of digits of either case. -/
def decode? : List Char → Option Bytes
  | [] => some []
  | h :: l :: rest => do
      let high ← hexValue? h
      let low ← hexValue? l
      return UInt8.ofNat (high * 16 + low) :: (← decode? rest)
  | [_] => none

end WebClient.Text.Hex
