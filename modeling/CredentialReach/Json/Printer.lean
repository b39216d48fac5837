import CredentialReach.Decimal.Shortest
import CredentialReach.Json.Basic

/-! JSON documents as text: on one line, and with one item on a line. -/

namespace CredentialReach.Json

open Decimal

/-- Numbers in JSON text carry the sign of a positive exponent. -/
def numbers : Notation := ⟨true⟩

def integerText (value : Int) : List Char :=
  (if value < 0 then ['-'] else []) ++ numeral value.natAbs

def numberText : JsonNumber → List Char
  | .integer value => integerText value
  | .float value => numbers.render value

def hexDigit (n : Nat) : Char := "0123456789abcdef".toList.getD n '0'

/-- Quotes, backslashes and control characters are escaped, and nothing else. -/
def escape (c : Char) : List Char :=
  if c = '"' then ['\\', '"']
  else if c = '\\' then ['\\', '\\']
  else if c = '\n' then ['\\', 'n']
  else if c = '\r' then ['\\', 'r']
  else if c = '\t' then ['\\', 't']
  else if c = '\x08' then ['\\', 'b']
  else if c = '\x0c' then ['\\', 'f']
  else if c.toNat < 0x20 then
    ['\\', 'u', '0', '0', hexDigit (c.toNat / 16), hexDigit (c.toNat % 16)]
  else [c]

def textLiteral (value : String) : List Char := '"' :: value.toList.flatMap escape ++ ['"']

mutual

def compactChars : Json → List Char
  | .null => "null".toList
  | .bool value => (if value then "true" else "false").toList
  | .number value => numberText value
  | .string value => textLiteral value
  | .array items => '[' :: compactItems items ++ [']']
  | .object members => '\x7b' :: compactMembers members ++ ['\x7d']

def compactItems : List Json → List Char
  | [] => []
  | [item] => compactChars item
  | item :: items => compactChars item ++ ',' :: compactItems items

def compactMembers : List (String × Json) → List Char
  | [] => []
  | [(name, value)] => textLiteral name ++ ':' :: compactChars value
  | (name, value) :: members =>
    textLiteral name ++ ':' :: compactChars value ++ ',' :: compactMembers members

end

def compact (document : Json) : String := String.ofList document.compactChars

def newLine (depth : Nat) : List Char := '\n' :: List.replicate (2 * depth) ' '

mutual

def prettyChars (depth : Nat) : Json → List Char
  | .array [] => "[]".toList
  | .array items => '[' :: prettyItems (depth + 1) items ++ newLine depth ++ [']']
  | .object [] => "\x7b\x7d".toList
  | .object members =>
    '\x7b' :: prettyMembers (depth + 1) members ++ newLine depth ++ ['\x7d']
  | .null => "null".toList
  | .bool value => (if value then "true" else "false").toList
  | .number value => numberText value
  | .string value => textLiteral value

def prettyItems (depth : Nat) : List Json → List Char
  | [] => []
  | [item] => newLine depth ++ prettyChars depth item
  | item :: items => newLine depth ++ prettyChars depth item ++ ',' :: prettyItems depth items

def prettyMembers (depth : Nat) : List (String × Json) → List Char
  | [] => []
  | [(name, value)] =>
    newLine depth ++ textLiteral name ++ ':' :: ' ' :: prettyChars depth value
  | (name, value) :: members =>
    newLine depth ++ textLiteral name ++ ':' :: ' ' :: prettyChars depth value ++
      ',' :: prettyMembers depth members

end

/-- The document with one item or member on a line, indented by two spaces a level. -/
def pretty (document : Json) : String := String.ofList (document.prettyChars 0)

end CredentialReach.Json
