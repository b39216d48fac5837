import CredentialReach.Text.Blank

/-! Quoted identifiers. A stretch between two equal quote characters is plain
text: neither a separator nor a parenthesis counts there. Inside a quoted
identifier the quote itself is written twice. -/

namespace CredentialReach.Text

def backtick : Char := '\x60'

/-- The quote characters, in the order in which they are tried. -/
def quoteMarks : List Char := [backtick, '"', '\'']

/-- Where a reader stands: inside a stretch opened by `quote`, and how deep in
parentheses. -/
structure Place where
  quote : Option Char
  depth : Nat
deriving DecidableEq, Repr

namespace Place

def start : Place := ⟨none, 0⟩

/-- A surplus closing parenthesis is ignored. -/
def next (place : Place) (c : Char) : Place :=
  match place.quote with
  | some mark => if c = mark then { place with quote := none } else place
  | none =>
    if c ∈ quoteMarks then { place with quote := some c }
    else if c = '(' then { place with depth := place.depth + 1 }
    else if c = ')' then { place with depth := place.depth - 1 }
    else place

/-- Outside every quoted stretch and every parenthesis. -/
def isOutside (place : Place) : Bool := place.quote.isNone && place.depth == 0

/-- Whether a reader at `place` cuts at `c`. Quotes and parentheses never separate. -/
def cuts (place : Place) (separator c : Char) : Bool :=
  place.isOutside && c == separator && !(c ∈ quoteMarks || c == '(' || c == ')')

end Place

/-- The pieces between the outside occurrences of `separator`, from `place` on. -/
def splitFrom (separator : Char) (place : Place) : List Char → List (List Char)
  | [] => [[]]
  | c :: rest =>
    if place.cuts separator c then [] :: splitFrom separator place rest
    else
      match splitFrom separator (place.next c) rest with
      | [] => [[c]]
      | piece :: pieces => (c :: piece) :: pieces

/-- Splits at every `separator` outside quotes and parentheses. -/
def splitOutside (separator : Char) (text : List Char) : List (List Char) :=
  splitFrom separator .start text

/-- Two quotes in a row stand for one. -/
def undouble (mark : Char) : List Char → List Char
  | [] => []
  | [c] => [c]
  | c :: d :: rest =>
    if c = mark ∧ d = mark then mark :: undouble mark rest
    else c :: undouble mark (d :: rest)

/-- The inside of a text that starts and ends with `mark`. -/
def between? (mark : Char) (text : List Char) : Option (List Char) :=
  (after? [mark] text).bind (before? [mark])

/-- The name that an identifier stands for, quoted or bare. -/
def unquote (identifier : List Char) : List Char :=
  let bare := trim identifier
  match quoteMarks.findSome? fun mark => (between? mark bare).map (undouble mark) with
  | some name => name
  | none => bare

end CredentialReach.Text
