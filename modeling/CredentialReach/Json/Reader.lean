import CredentialReach.Json.Literal

/-! Reading JSON text: any document, or one of a given shape. The first fault
in the order of the text is the one reported. -/

namespace CredentialReach.Json

/-- How deep arrays and objects may be nested. -/
def depthLimit : Nat := 127

abbrev Reader (α : Type) := (levels : Nat) → List Char → Except JsonFault (α × List Char)

def endOfValue : JsonFault := .ended "a value"

def tooDeep : JsonFault := .malformed "nested too deeply"

/-- The items of an array up to its end, in at most `fuel` rounds. -/
def readItems (read : List Char → Except JsonFault (α × List Char)) :
    (fuel : Nat) → (first : Bool) → List Char → Except JsonFault (List α × List Char)
  | 0, _, _ => .error endOfValue
  | fuel + 1, first, text =>
    let item (text : List Char) : Except JsonFault (List α × List Char) := do
      let (value, rest) ← read text
      let (values, rest) ← readItems read fuel false rest
      return (value :: values, rest)
    match skipSpace text with
    | [] => .error (.ended "an array")
    | ']' :: rest => .ok ([], rest)
    | c :: rest =>
      if first then item (c :: rest)
      else if c ≠ ',' then .error (.malformed "expected ',' or the end of the array")
      else
        match skipSpace rest with
        | [] => .error endOfValue
        | ']' :: _ => .error (.malformed "comma before the end of the array")
        | next => item next

def readName (first : Bool) (text : List Char) : Except JsonFault (Option String × List Char) := do
  let name (text : List Char) : Except JsonFault (Option String × List Char) := do
    let (name, rest) ← readText text
    return (some name, rest)
  match skipSpace text with
  | [] => throw (.ended "an object")
  | '\x7d' :: rest => return (none, rest)
  | '"' :: rest =>
    if first then name rest else throw (.malformed "expected ',' or the end of the object")
  | ',' :: rest =>
    if first then throw (.malformed "a name has to be a text")
    match skipSpace rest with
    | [] => throw endOfValue
    | '"' :: rest => name rest
    | _ => throw (.malformed "a name has to be a text")
  | _ => throw (.malformed "a name has to be a text")

def readColon (text : List Char) : Except JsonFault (List Char) :=
  match skipSpace text with
  | [] => .error (.ended "an object")
  | ':' :: rest => .ok rest
  | _ => .error (.malformed "expected ':'")

/-- The members of an object up to its end, in at most `fuel` rounds. -/
def readMembers (read : List Char → Except JsonFault (α × List Char)) :
    (fuel : Nat) → (first : Bool) → List Char →
      Except JsonFault (List (String × α) × List Char)
  | 0, _, _ => .error endOfValue
  | fuel + 1, first, text => do
    match ← readName first text with
    | (none, rest) => return ([], rest)
    | (some name, rest) =>
      let (value, rest) ← read (← readColon rest)
      let (members, rest) ← readMembers read fuel false rest
      return ((name, value) :: members, rest)

/-- A value of any shape; `close` makes an object of its members. -/
def readValue (close : List (String × Json) → Json) : Reader Json
  | levels, text =>
    match skipSpace text with
    | [] => .error endOfValue
    | 'n' :: rest => do return (.null, ← readKeyword "ull".toList rest)
    | 't' :: rest => do return (.bool true, ← readKeyword "rue".toList rest)
    | 'f' :: rest => do return (.bool false, ← readKeyword "alse".toList rest)
    | '"' :: rest => do
      let (value, rest) ← readText rest
      return (.string value, rest)
    | '-' :: rest => do
      let (value, rest) ← readNumber true rest
      return (.number value, rest)
    | '[' :: rest =>
      match levels with
      | 0 => .error tooDeep
      | levels + 1 => do
        let (items, rest) ← readItems (readValue close levels) (rest.length + 1) true rest
        return (.array items, rest)
    | '\x7b' :: rest =>
      match levels with
      | 0 => .error tooDeep
      | levels + 1 => do
        let (members, rest) ← readMembers (readValue close levels) (rest.length + 1) true rest
        return (close members, rest)
    | c :: rest =>
      if c.isDigit then do
        let (value, rest) ← readNumber false (c :: rest)
        return (.number value, rest)
      else .error (.malformed "expected a value")

inductive Container where
  | list
  | members
deriving DecidableEq

mutual

/-- Passes over a value of any shape and depth; `opened` are the containers
around it, innermost first. -/
def skipValue : (fuel : Nat) → (opened : List Container) → List Char →
    Except JsonFault (List Char)
  | 0, _, _ => .error endOfValue
  | fuel + 1, opened, text =>
    match skipSpace text with
    | [] => .error endOfValue
    | 'n' :: rest => do skipOn fuel true opened (← readKeyword "ull".toList rest)
    | 't' :: rest => do skipOn fuel true opened (← readKeyword "rue".toList rest)
    | 'f' :: rest => do skipOn fuel true opened (← readKeyword "alse".toList rest)
    | '"' :: rest => do skipOn fuel true opened (← skipText rest)
    | '-' :: rest => do skipOn fuel true opened (← skipNumber rest)
    | '[' :: rest => skipOn fuel false (.list :: opened) rest
    | '\x7b' :: rest => skipOn fuel false (.members :: opened) rest
    | c :: rest =>
      if c.isDigit then do skipOn fuel true opened (← skipNumber (c :: rest))
      else .error (.malformed "expected a value")

/-- Goes on after a value, or after the start of a container. -/
def skipOn : (fuel : Nat) → (afterValue : Bool) → (opened : List Container) → List Char →
    Except JsonFault (List Char)
  | 0, _, _, _ => .error endOfValue
  | _ + 1, _, [], text => .ok text
  | fuel + 1, afterValue, .list :: outer, text =>
    match skipSpace text with
    | [] => .error (.ended "an array")
    | ']' :: rest => skipOn fuel true outer rest
    | c :: rest =>
      if !afterValue then skipValue fuel (.list :: outer) (c :: rest)
      else if c = ',' then skipValue fuel (.list :: outer) rest
      else .error (.malformed "expected ',' or the end of the array")
  | fuel + 1, afterValue, .members :: outer, text =>
    match skipSpace text with
    | [] => .error (.ended "an object")
    | '\x7d' :: rest => skipOn fuel true outer rest
    | c :: rest =>
      if afterValue && c ≠ ',' then .error (.malformed "expected ',' or the end of the object")
      else
        match skipSpace (if afterValue then rest else c :: rest) with
        | [] => .error (.ended "an object")
        | '"' :: rest => do
          skipValue fuel (.members :: outer) (← readColon (← skipText rest))
        | _ => .error (.malformed "a name has to be a text")

end

def skip (text : List Char) : Except JsonFault (List Char) :=
  skipValue (2 * text.length + 2) [] text

/-- The fault of a value that is there but not `what` was asked for. A scalar
has to be well formed to count as a value. -/
def mismatch (what : String) (text : List Char) : JsonFault :=
  let expected (scalar : Except JsonFault (Unit × List Char)) : JsonFault :=
    match scalar with
    | .ok _ => .expected what
    | .error fault => fault
  match skipSpace text with
  | [] => endOfValue
  | 'n' :: rest => expected do return ((), ← readKeyword "ull".toList rest)
  | 't' :: rest => expected do return ((), ← readKeyword "rue".toList rest)
  | 'f' :: rest => expected do return ((), ← readKeyword "alse".toList rest)
  | '"' :: rest => expected do return ((), (← readText rest).2)
  | '-' :: rest => expected do return ((), (← readNumber true rest).2)
  | '[' :: _ | '\x7b' :: _ => .expected what
  | c :: rest =>
    if c.isDigit then expected do return ((), (← readNumber false (c :: rest)).2)
    else .malformed "expected a value"

namespace Reader

def text : Reader Json := fun _ input =>
  match skipSpace input with
  | '"' :: rest => do
    let (value, rest) ← readText rest
    return (.string value, rest)
  | _ => .error (mismatch "a text" input)

def flag : Reader Json := fun _ input =>
  match skipSpace input with
  | 't' :: rest => do return (.bool true, ← readKeyword "rue".toList rest)
  | 'f' :: rest => do return (.bool false, ← readKeyword "alse".toList rest)
  | _ => .error (mismatch "a flag" input)

/-- A natural number below 2 ^ 64. -/
def count : Reader Json := fun _ input =>
  let close (number : JsonNumber × List Char) : Except JsonFault (Json × List Char) :=
    match number with
    | (.integer (.ofNat n), rest) => .ok (.ofNat n, rest)
    | _ => .error (.expected "a count")
  match skipSpace input with
  | '-' :: rest => do close (← readNumber true rest)
  | c :: rest =>
    if c.isDigit then do close (← readNumber false (c :: rest))
    else .error (mismatch "a count" input)
  | [] => .error endOfValue

def optional (read : Reader Json) : Reader Json := fun levels input =>
  match skipSpace input with
  | 'n' :: rest => do return (.null, ← readKeyword "ull".toList rest)
  | _ => read levels input

def list (read : Reader Json) : Reader Json := fun levels input =>
  match skipSpace input with
  | '[' :: rest =>
    match levels with
    | 0 => .error tooDeep
    | levels + 1 => do
      let (items, rest) ← readItems (read levels) (rest.length + 1) true rest
      return (.array items, rest)
  | _ => .error (mismatch "an array" input)

structure Field where
  name : String
  required : Bool
  read : Reader Json

/-- The members of a record, each known one at most once; unknown ones are
passed over. `found` are those already read. -/
def recordMembers (fields : List Field) (levels : Nat) : (fuel : Nat) → (first : Bool) →
    (found : List (String × Json)) → List Char →
      Except JsonFault (List (String × Json) × List Char)
  | 0, _, _, _ => .error endOfValue
  | fuel + 1, first, found, text => do
    match ← readName first text with
    | (none, rest) => return (found, rest)
    | (some name, rest) =>
      match fields.find? (·.name == name) with
      | some field =>
        if (found.lookup name).isSome then throw (.repeated name)
        let (value, rest) ← field.read levels (← readColon rest)
        recordMembers fields levels fuel false ((name, value) :: found) rest
      | none =>
        recordMembers fields levels fuel false found (← skip (← readColon rest))

/-- The fields of a record in their order, as items of an array. Those that
are not required may be missing at the end. -/
def recordItems (levels : Nat) : List Field → (first : Bool) → List Char →
    Except JsonFault (List (String × Json) × List Char)
  | [], _, text =>
    match skipSpace text with
    | [] => .error (.ended "an array")
    | ']' :: rest => .ok ([], rest)
    | _ => .error (.malformed "trailing items")
  | field :: fields, first, text => do
    let item (text : List Char) : Except JsonFault (List (String × Json) × List Char) := do
      let (value, rest) ← field.read levels text
      let (values, rest) ← recordItems levels fields false rest
      return ((field.name, value) :: values, rest)
    match skipSpace text with
    | [] => throw (.ended "an array")
    | ']' :: rest =>
      match (field :: fields).find? (·.required) with
      | some absent => throw (.missing absent.name)
      | none => return ([], rest)
    | c :: rest =>
      if first then item (c :: rest)
      else if c ≠ ',' then throw (.malformed "expected ',' or the end of the array")
      else
        match skipSpace rest with
        | [] => throw endOfValue
        | ']' :: _ => throw (.malformed "comma before the end of the array")
        | next => item next

def record (fields : List Field) : Reader Json := fun levels input =>
  match skipSpace input, levels with
  | '\x7b' :: _, 0 | '[' :: _, 0 => .error tooDeep
  | '\x7b' :: rest, levels + 1 => do
    let (found, rest) ← recordMembers fields levels (rest.length + 1) true [] rest
    match fields.find? fun field => field.required && (found.lookup field.name).isNone with
    | some absent => throw (.missing absent.name)
    | none => return (.ofMembers found, rest)
  | '[' :: rest, levels + 1 => do
    let (found, rest) ← recordItems levels fields true rest
    return (.ofMembers found, rest)
  | _, _ => .error (mismatch "a record" input)

/-- Any value, with every member of an object kept, that passes a test. -/
def checked (test : Json → Except JsonFault Json) : Reader Json := fun levels input => do
  let (value, rest) ← readValue .object levels input
  return (← test value, rest)

def run (read : Reader α) (input : String) : Except JsonFault α := do
  let (value, rest) ← read depthLimit input.toList
  if (skipSpace rest).isEmpty then return value
  else throw (.malformed "trailing characters")

end Reader

/-- Reads a document of any shape. Of two members with one name the later one
stands. -/
def parse (input : String) : Except JsonFault Json := Reader.run (readValue .ofMembers) input

end CredentialReach.Json
