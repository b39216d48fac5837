import CredentialReach.Unicode.Composition
import CredentialReach.Unicode.Direction
import CredentialReach.Unicode.Joining
import CredentialReach.Url.DomainMap
import CredentialReach.Url.Punycode

/-! Labels: the parts of a domain name between its dots. -/

namespace CredentialReach.Url.Label

open Text Unicode

/-! Joiners: characters without a width that change how their neighbours are written. -/

/-- The combining class of signs that drop the vowel of a consonant. -/
def viramaClass : Nat := 9

/-- Whether the first character that is no mark joins. -/
def firstJoins (joins : Char → Bool) (text : List Char) : Bool :=
  (text.dropWhile isTransparent).head?.any joins

/-- Whether a joiner may stand here; `before` starts with the closest character.
The one that separates may also stand between letters that would be joined. -/
def allowsJoiner (before : List Char) (joiner : Char) (after : List Char) : Bool :=
  before.head?.any (combiningClass · == viramaClass) ||
    (joiner == '\u200C' && firstJoins joinsNext before && firstJoins joinsPrevious after)

def isJoiner (c : Char) : Bool := c == '\u200C' || c == '\u200D'

/-- Whether all joiners of a text are where they may stand. -/
def joinersFit (before : List Char) : List Char → Bool
  | [] => true
  | c :: rest => (!isJoiner c || allowsJoiner before c rest) && joinersFit (c :: before) rest

/-! Direction: in a name with letters from right to left, no label may look as if
its parts were in another order. -/

def directionsOf (label : List Char) : List Direction :=
  ((label.map Direction.of).reverse.dropWhile (· == .mark)).reverse

def readsFromLeft (directions : List Direction) : Bool :=
  directions.all [.left, .europeanNumber, .neutral, .mark].contains &&
    directions.getLast?.all [.left, .europeanNumber].contains

def readsFromRight (directions : List Direction) : Bool :=
  directions.all [.right, .arabicNumber, .europeanNumber, .neutral, .mark].contains &&
    directions.getLast?.all [.right, .arabicNumber, .europeanNumber].contains &&
    !(directions.contains .arabicNumber && directions.contains .europeanNumber)

def hasOneDirection (label : List Char) : Bool :=
  match directionsOf label with
  | [] => label.isEmpty
  | first :: rest =>
    (first == .left && readsFromLeft (first :: rest)) ||
      (first == .right && readsFromRight (first :: rest))

def isFromRight (c : Char) : Bool :=
  Direction.of c == .right || Direction.of c == .arabicNumber

/-! Labels as they are read. -/

def greatestLength : Nat := 1000

/-- A label does not start with a mark. -/
def isAllowed (label : List Char) : Bool :=
  !label.head?.any isMark && joinersFit [] label &&
    (label.all (·.toNat < 128) || label.length ≤ greatestLength)

def punycodeMark : List Char := "xn--".toList

def greatestPunycode : Nat := 2000

/-- Whether a text is what it would be read as. -/
def isCanonical (text : List Char) : Bool :=
  text.all (fun c => mapChar c == some [c]) && normalize text == text

/-- A label in Punycode has other characters than ASCII, and is written in no
other way. -/
def decodePunycode (text : List Char) : Option (List Char) :=
  if text.length ≤ greatestPunycode && text.getLast?.any (· != '-') then
    (Punycode.decode? text).filter isCanonical
  else none

def read (text : List Char) : Option (List Char) :=
  let label := match after? punycodeMark text with
    | some code => decodePunycode code
    | none => some text
  label.filter isAllowed

end CredentialReach.Url.Label
