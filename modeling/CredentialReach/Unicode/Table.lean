import CredentialReach.Text.Percent

/-! Tables of characters as text. A code point is written in hexadecimal, and a
range as its first and its last one with a dash between them. -/

namespace CredentialReach.Unicode

open Text

def codePoint (digits : List Char) : Nat :=
  digits.foldl (fun n c => 16 * n + (hexDigit? c).getD 0) 0

def character (digits : List Char) : Char := Char.ofNat (codePoint digits)

/-- A closed range; a code point alone is a range of its own. -/
def range (text : List Char) : Nat × Nat :=
  match cutAt? ['-'] text with
  | some (first, last) => (codePoint first, codePoint last)
  | none => (codePoint text, codePoint text)

/-- The ranges of a table, which stand between blanks. -/
def ranges (table : String) : List (Nat × Nat) := (words table.toList).map range

/-- The words of each line that has any. -/
def rows (table : String) : List (List (List Char)) :=
  ((splitAt '\n' table.toList).map words).filter fun row => !row.isEmpty

/-- Characters that are written with a plus sign between them. -/
def characters (text : List Char) : List Char := (splitAt '+' text).map character

end CredentialReach.Unicode
