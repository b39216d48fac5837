import CredentialReach.Json.Basic
import CredentialReach.Text.Search

/-! Pointers into a document: names and positions, each after a slash. -/

namespace CredentialReach.Json

/-- In a step of a pointer `~1` stands for a slash and `~0` for a tilde. -/
def pointerStep : List Char → List Char
  | '~' :: '1' :: rest => '/' :: pointerStep rest
  | '~' :: '0' :: rest => '~' :: pointerStep rest
  | c :: rest => c :: pointerStep rest
  | [] => []

/-- A position in an array: digits without a leading zero. -/
def position? (step : List Char) : Option Nat :=
  if step.isEmpty || !step.all Char.isDigit || (step.head? = some '0' && step.length ≠ 1) then none
  else some (step.foldl (fun n c => n * 10 + (c.toNat - '0'.toNat)) 0)

def step? (step : List Char) : Json → Option Json
  | object members => NameMap.lookup (String.ofList step) members
  | array items => (position? step).bind (items[·]?)
  | _ => none

/-- The part of a document that a pointer leads to; the empty pointer leads to
the whole. -/
def pointer? (pointer : String) (document : Json) : Option Json :=
  match pointer.toList with
  | [] => some document
  | '/' :: steps =>
    (Text.splitAt '/' steps).foldl (fun place step => place.bind (step? (pointerStep step)))
      (some document)
  | _ => none

end CredentialReach.Json
