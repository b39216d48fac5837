import CredentialReach.Text.Percent

/-! Paths of addresses. A step of one dot stays where it is, and a step of two
goes back. -/

namespace CredentialReach.Url

open Text

def escapedInPath (c : Char) : Bool :=
  isControl c || " \"#<>?\x60\x7b\x7d".toList.contains c

def isDot (step : List Char) : Bool := ["." , "%2e"].any (·.toList == lower step)

def isDoubleDot (step : List Char) : Bool :=
  ["..", "%2e%2e", ".%2e", "%2e."].any (·.toList == lower step)

/-- The letter of a drive, which no step goes back from. -/
def isDrive : List Char → Bool
  | [letter, mark] | letter :: mark :: '\\' :: _ => letter.isAlpha && (mark == ':' || mark == '|')
  | _ => false

/-- One step back; `walked` are the steps so far, last first. -/
def goBack : (walked : List (List Char)) → List (List Char)
  | [] => []
  | step :: walked => if isDrive step then step :: walked else walked

/-- The steps that remain, last first. A path that ends in a dotted step ends in
a slash. -/
def walk (walked : List (List Char)) : List (List Char) → List (List Char)
  | [] => walked
  | step :: rest =>
    let walked :=
      if isDoubleDot step then goBack walked
      else if isDot step then walked
      else step :: walked
    if rest.isEmpty && (isDot step || isDoubleDot step) then [] :: walked
    else walk walked rest

/-- The path with these steps. -/
def pathOf (steps : List (List Char)) : List Char :=
  '/' :: joinWith ['/'] (walk [] (steps.map (percentEncode escapedInPath))).reverse

end CredentialReach.Url
