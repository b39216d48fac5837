import CredentialReach.Text.Blank

/-! Percent-encoding: a byte as a percent sign and two hexadecimal digits. -/

namespace CredentialReach.Text

def upperHexDigit (n : Nat) : Char := "0123456789ABCDEF".toList.getD n '0'

def percentByte (byte : UInt8) : List Char :=
  ['%', upperHexDigit (byte.toNat / 16), upperHexDigit (byte.toNat % 16)]

/-- Control characters and everything beyond ASCII. -/
def isControl (c : Char) : Bool := c.toNat < 0x20 || 0x7E < c.toNat

/-- Encodes the characters that `escapes` picks, byte by byte. -/
def percentEncode (escapes : Char → Bool) (text : List Char) : List Char :=
  text.flatMap fun c =>
    if escapes c then (String.utf8EncodeChar c).flatMap percentByte else [c]

def hexDigit? (c : Char) : Option Nat :=
  if c.isDigit then some (c.toNat - '0'.toNat)
  else if 'a' ≤ c ∧ c ≤ 'f' then some (c.toNat - 'a'.toNat + 10)
  else if 'A' ≤ c ∧ c ≤ 'F' then some (c.toNat - 'A'.toNat + 10)
  else none

/-- The bytes of a text after decoding; a percent sign without two digits
stands for itself. -/
def percentDecode : List Char → List UInt8
  | [] => []
  | '%' :: a :: b :: rest =>
    match hexDigit? a, hexDigit? b with
    | some high, some low => UInt8.ofNat (16 * high + low) :: percentDecode rest
    | _, _ => String.utf8EncodeChar '%' ++ percentDecode (a :: b :: rest)
  | c :: rest => String.utf8EncodeChar c ++ percentDecode rest

end CredentialReach.Text
