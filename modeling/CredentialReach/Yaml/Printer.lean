import CredentialReach.Json.Printer
import CredentialReach.Yaml.Scalar

/-! Documents in YAML, with one item or member on a line. -/

namespace CredentialReach.Yaml

/-- Numbers in YAML do not carry the sign of a positive exponent. -/
def numbers : Decimal.Notation := ⟨false⟩

def numberText : JsonNumber → List Char
  | .integer value => Json.integerText value
  | .float value => numbers.render value

def indentation (indent : Nat) : List Char := List.replicate indent ' '

/-- The longest key, in bytes, that stands in front of its value. -/
def longestKey : Nat := 128

def isShortKey (key : List Char) : Bool :=
  !key.any isBreak && (String.ofList key).utf8ByteSize ≤ longestKey

/-- A key, up to where its value belongs. A long one has a line of its own. -/
def keyText (indent : Nat) (key : List Char) : List Char :=
  if isShortKey key then scalarText true (indent + 2) key ++ [':']
  else '?' :: ' ' :: endLine (scalarText false (indent + 2) key) ++ indentation indent ++ [':']

mutual

/-- A value that starts on the line of the mark before it; `indent` is that of
the mark. -/
def beside (indent : Nat) : Json → List Char
  | .null => " null\n".toList
  | .bool value => (if value then " true\n" else " false\n").toList
  | .number value => ' ' :: numberText value ++ ['\n']
  | .string value => ' ' :: endLine (scalarText false (indent + 2) value.toList)
  | .array [] => " []\n".toList
  | .array items => ' ' :: itemsText (indent + 2) items
  | .object [] => " \x7b\x7d\n".toList
  | .object members => ' ' :: membersText (indent + 2) members

/-- The items of a list, one below the other. The first line is not indented. -/
def itemsText (indent : Nat) : List Json → List Char
  | [] => []
  | [item] => '-' :: beside indent item
  | item :: items => '-' :: beside indent item ++ indentation indent ++ itemsText indent items

/-- The members of an object, one below the other. The first line is not
indented. -/
def membersText (indent : Nat) : List (String × Json) → List Char
  | [] => []
  | [(name, value)] => keyText indent name.toList ++ memberValue indent name value
  | (name, value) :: members =>
    keyText indent name.toList ++ memberValue indent name value ++ indentation indent ++
      membersText indent members

/-- The value of a member: lists and objects start on a line of their own,
unless the key has one. -/
def memberValue (indent : Nat) (name : String) : Json → List Char
  | .array (item :: items) =>
    if isShortKey name.toList then
      '\n' :: indentation indent ++ itemsText indent (item :: items)
    else ' ' :: itemsText (indent + 2) (item :: items)
  | .object (member :: members) =>
    if isShortKey name.toList then
      '\n' :: indentation (indent + 2) ++ membersText (indent + 2) (member :: members)
    else ' ' :: membersText (indent + 2) (member :: members)
  | .null => " null\n".toList
  | .bool value => (if value then " true\n" else " false\n").toList
  | .number value => ' ' :: numberText value ++ ['\n']
  | .string value => ' ' :: endLine (scalarText false (indent + 2) value.toList)
  | .array [] => " []\n".toList
  | .object [] => " \x7b\x7d\n".toList

end

def render : Json → String
  | .object (member :: members) => String.ofList (membersText 0 (member :: members))
  | .array (item :: items) => String.ofList (itemsText 0 (item :: items))
  | document => String.ofList ((beside 0 document).drop 1)

end CredentialReach.Yaml
