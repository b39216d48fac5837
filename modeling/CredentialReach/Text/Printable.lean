import CredentialReach.Decimal.Shortest
import CredentialReach.Unicode.Category

/-! Texts in quotes for logs: characters that cannot be seen, or not on their own,
are written by their numbers. -/

namespace CredentialReach.Text

open Unicode

def lowerHex (n : Nat) : List Char := Nat.toDigits 16 n

def escapeChar (c : Char) : List Char :=
  if c = '\x00' then ['\\', '0']
  else if c = '\t' then ['\\', 't']
  else if c = '\r' then ['\\', 'r']
  else if c = '\n' then ['\\', 'n']
  else if c = '"' then ['\\', '"']
  else if c = '\\' then ['\\', '\\']
  else if isUnprintable c || extendsGrapheme c then
    '\\' :: 'u' :: '\x7b' :: lowerHex c.toNat ++ ['\x7d']
  else [c]

def quotedForLog (text : String) : List Char := '"' :: text.toList.flatMap escapeChar ++ ['"']

end CredentialReach.Text
