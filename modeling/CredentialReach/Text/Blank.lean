import CredentialReach.Text.Search

/-! White space: the 25 characters with the Unicode property White_Space, the
words between them, and trimming. -/

namespace CredentialReach.Text

/-- Closed ranges of code points, ascending and apart. -/
def blankRanges : List (Nat × Nat) :=
  [(0x09, 0x0D), (0x20, 0x20), (0x85, 0x85), (0xA0, 0xA0), (0x1680, 0x1680), (0x2000, 0x200A),
   (0x2028, 0x2029), (0x202F, 0x202F), (0x205F, 0x205F), (0x3000, 0x3000)]

def inRanges (ranges : List (Nat × Nat)) (c : Char) : Bool :=
  ranges.any fun range => range.1 ≤ c.toNat && c.toNat ≤ range.2

def isBlank (c : Char) : Bool := inRanges blankRanges c

def trimStart (text : List Char) : List Char := text.dropWhile isBlank

def trimEnd (text : List Char) : List Char := (text.reverse.dropWhile isBlank).reverse

def trim (text : List Char) : List Char := trimEnd (trimStart text)

/-- Drops every `c` at the end. -/
def dropLast (c : Char) (text : List Char) : List Char :=
  (text.reverse.dropWhile (· == c)).reverse

/-- The longest stretches without white space. -/
def words (text : List Char) : List (List Char) :=
  (splitWhere isBlank text).filter fun word => !word.isEmpty

def trimmed (text : String) : String := String.ofList (trim text.toList)

end CredentialReach.Text
