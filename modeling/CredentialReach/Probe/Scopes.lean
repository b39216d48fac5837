import CredentialReach.Text.Blank

/-! Scope lists that vendors reveal when they turn a request down:
`Invalid scope(s): a, b. This endpoint requires ...`, in any letter case. -/

namespace CredentialReach.Probe

open Text

/-- Marks of quoting and listing are dropped before texts are compared. -/
def plain (text : List Char) : List Char :=
  text.filter fun c => !(c == '\\' || c == '"' || c == '[' || c == ']')

/-- Characters that differ in case alone have one folded form; the long s is
an s. -/
def fold (c : Char) : Char := if c = 'ſ' then 's' else c.toLower

/-- What follows `start` in any letter case. -/
def afterFolded? : (start text : List Char) → Option (List Char)
  | [], text => some text
  | _ :: _, [] => none
  | s :: start, c :: rest => if fold c = s then afterFolded? start rest else none

def introductions : List (List Char) :=
  ["invalid scope(s):".toList, "invalid scopes:".toList, "invalid scope:".toList]

def conclusion : List Char := "this endpoint requires".toList

/-- Whether the list is over: a full stop, white space and the conclusion. -/
def concludes : List Char → Bool
  | '.' :: rest => (afterFolded? conclusion (trimStart rest)).isSome
  | _ => false

/-- What precedes the conclusion on the same line. -/
def beforeConclusion? : List Char → Option (List Char)
  | [] => none
  | c :: rest =>
    if concludes (c :: rest) then some []
    else if c = '\n' then none
    else (beforeConclusion? rest).map (c :: ·)

/-- The list that is introduced right here. -/
def listHere? (text : List Char) : Option (List Char) :=
  (introductions.findSome? (afterFolded? · text)).bind fun rest =>
    beforeConclusion? (trimStart rest)

def list? : List Char → Option (List Char)
  | [] => none
  | c :: rest =>
    match listHere? (c :: rest) with
    | some list => some list
    | none => list? rest

/-- The scopes named in a response body, if it reveals them. -/
def revealedScopes? (body : String) : Option (List String) :=
  (list? (plain body.toList)).map fun list =>
    (((splitAt ',' list).map trim).filter fun scope => !scope.isEmpty).map String.ofList

end CredentialReach.Probe
