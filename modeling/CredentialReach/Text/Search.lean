/-! Finding, cutting and replacing stretches of text. Every search takes the
leftmost occurrence. -/

namespace CredentialReach.Text

/-- What follows `start`, if the text starts with it. -/
def after? (start text : List Char) : Option (List Char) := List.isPrefixOf? start text

def before? (finish text : List Char) : Option (List Char) := List.isSuffixOf? finish text

def cutAt? (mark : List Char) : List Char → Option (List Char × List Char)
  | [] => (after? mark []).map ([], ·)
  | c :: rest =>
    match after? mark (c :: rest) with
    | some tail => some ([], tail)
    | none => (cutAt? mark rest).map fun cut => (c :: cut.1, cut.2)

/-- The text before the first occurrence of any of `marks`, or all of it. -/
def beforeAny (marks : List (List Char)) : List Char → List Char
  | [] => []
  | c :: rest =>
    if marks.any fun mark => mark.isPrefixOf (c :: rest) then []
    else c :: beforeAny marks rest

def contains (mark text : List Char) : Bool := (cutAt? mark text).isSome

/-- The pieces between the characters that `cut` picks; there is always one. -/
def splitWhere (cut : Char → Bool) : List Char → List (List Char)
  | [] => [[]]
  | c :: rest =>
    if cut c then [] :: splitWhere cut rest
    else
      match splitWhere cut rest with
      | [] => [[c]]
      | piece :: pieces => (c :: piece) :: pieces

def splitAt (separator : Char) (text : List Char) : List (List Char) :=
  splitWhere (· == separator) text

def joinWith (separator : List Char) : List (List Char) → List Char
  | [] => []
  | [piece] => piece
  | piece :: pieces => piece ++ separator ++ joinWith separator pieces

/-- ASCII letters alone have a case here. -/
def upper (text : List Char) : List Char := text.map Char.toUpper

def lower (text : List Char) : List Char := text.map Char.toLower

/-- Equal but for the case of ASCII letters. -/
def sameIgnoringCase (a b : List Char) : Bool := lower a == lower b

end CredentialReach.Text
