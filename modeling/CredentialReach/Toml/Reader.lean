import CredentialReach.Toml.Scalar

/-! Reading TOML text. -/

namespace CredentialReach.Toml

open Text

def unexpected (what : String) : TomlFault := ⟨s!"expected {what}"⟩

def isGap (c : Char) : Bool := c == ' ' || c == '\t'

def skipGap (text : List Char) : List Char := text.dropWhile isGap

/-- Tabs and everything that is no control character. -/
def isTextChar (c : Char) : Bool := c == '\t' || (0x20 ≤ c.toNat && c.toNat ≠ 0x7F)

def afterBreak? : List Char → Option (List Char)
  | '\n' :: rest | '\r' :: '\n' :: rest => some rest
  | _ => none

def skipComment (text : List Char) : List Char :=
  match text with
  | '#' :: rest => rest.dropWhile isTextChar
  | _ => text

/-- The next line, if nothing but a comment is left of this one. -/
def endLine (text : List Char) : Except TomlFault (List Char) :=
  match skipComment (skipGap text) with
  | [] => .ok []
  | rest =>
    match afterBreak? rest with
    | some next => .ok next
    | none => .error (unexpected "the end of the line")

/-! Quoted texts. -/

/-- The character with a number of `width` hexadecimal digits, and the rest. -/
def readNumbered (width : Nat) (text : List Char) : Except TomlFault (Char × List Char) :=
  let digits := text.take width
  let value := valueIn 16 digits
  if digits.length = width && digits.all (fun c => (hexDigit? c).isSome) && value.isValidChar then
    .ok (Char.ofNat value, text.drop width)
  else .error (unexpected "the number of a character")

/-- What a backslash and the following characters stand for. -/
def readEscape : List Char → Except TomlFault (Char × List Char)
  | 'b' :: rest => .ok ('\x08', rest)
  | 't' :: rest => .ok ('\t', rest)
  | 'n' :: rest => .ok ('\n', rest)
  | 'f' :: rest => .ok ('\x0c', rest)
  | 'r' :: rest => .ok ('\r', rest)
  | '"' :: rest => .ok ('"', rest)
  | '\\' :: rest => .ok ('\\', rest)
  | 'u' :: rest => readNumbered 4 rest
  | 'U' :: rest => readNumbered 8 rest
  | _ => .error (unexpected "an escape")

/-- The inside of a text on one line up to its closing `mark`. -/
def readLine (mark : Char) (escapes : Bool) : (fuel : Nat) → List Char →
    Except TomlFault (List Char × List Char)
  | 0, _ | _, [] => .error (unexpected "the end of a text")
  | fuel + 1, c :: rest =>
    if c = mark then .ok ([], rest)
    else if escapes && c = '\\' then do
      let (value, rest) ← readEscape rest
      let (values, rest) ← readLine mark escapes fuel rest
      return (value :: values, rest)
    else if isTextChar c then do
      let (values, rest) ← readLine mark escapes fuel rest
      return (c :: values, rest)
    else .error (unexpected "a character of a text")

/-- What follows a backslash at the end of a line: the next text, in whichever
line it is. -/
def afterLineEnd? (text : List Char) : Option (List Char) :=
  (afterBreak? (skipGap text)).map fun rest =>
    let skipped (c : Char) : Bool := isGap c || c == '\n'
    let rec skip : (fuel : Nat) → List Char → List Char
      | 0, text => text
      | fuel + 1, text =>
        match text.dropWhile skipped with
        | '\r' :: '\n' :: rest => skip fuel rest
        | rest => rest
    skip rest.length rest

/-- The inside of a text of several lines up to three marks. Up to two more
marks in front of these belong to the text. -/
def readLines (mark : Char) (escapes : Bool) : (fuel : Nat) → List Char →
    Except TomlFault (List Char × List Char)
  | 0, _ | _, [] => .error (unexpected "the end of a text")
  | fuel + 1, c :: rest =>
    let next (value : Char) (rest : List Char) : Except TomlFault (List Char × List Char) := do
      let (values, rest) ← readLines mark escapes fuel rest
      return (value :: values, rest)
    if c = mark then
      let marks := ((c :: rest).takeWhile (· == mark)).length
      if marks < 3 then next c rest
      else
        let inside := min (marks - 3) 2
        .ok (List.replicate inside mark, (c :: rest).drop (inside + 3))
    else
      match afterBreak? (c :: rest) with
      | some rest => next '\n' rest
      | none =>
        if escapes && c = '\\' then
          match afterLineEnd? rest with
          | some rest => readLines mark escapes fuel rest
          | none => do
            let (value, rest) ← readEscape rest
            next value rest
        else if isTextChar c then next c rest
        else .error (unexpected "a character of a text")

/-- A text after its first mark; three marks open several lines. -/
def readText (mark : Char) (text : List Char) : Except TomlFault (String × List Char) := do
  let escapes := mark == '"'
  let (value, rest) ← match after? [mark, mark] text with
    | some rest => readLines mark escapes (rest.length + 1) ((afterBreak? rest).getD rest)
    | none => readLine mark escapes (text.length + 1) text
  return (String.ofList value, rest)

/-! Keys. -/

/-- How deep tables and arrays may be nested. -/
def depthLimit : Nat := 79

def isBareKeyChar (c : Char) : Bool := c.isAlphanum || c == '_' || c == '-'

def readSimpleKey (text : List Char) : Except TomlFault (String × List Char) :=
  let quoted (mark : Char) (rest : List Char) : Except TomlFault (String × List Char) := do
    let (key, rest) ← readLine mark (mark == '"') (rest.length + 1) rest
    return (String.ofList key, rest)
  match text with
  | '"' :: rest => quoted '"' rest
  | '\'' :: rest => quoted '\'' rest
  | _ =>
    let key := text.takeWhile isBareKeyChar
    if key.isEmpty then .error (unexpected "a key")
    else .ok (String.ofList key, text.dropWhile isBareKeyChar)

/-- Keys with dots between them. -/
def readKeys : (fuel : Nat) → List Char → Except TomlFault (List String × List Char)
  | 0, _ => .error ⟨"too many keys"⟩
  | fuel + 1, text => do
    let (key, rest) ← readSimpleKey (skipGap text)
    match skipGap rest with
    | '.' :: rest => do
      let (keys, rest) ← readKeys fuel rest
      return (key :: keys, rest)
    | rest => return ([key], rest)

/-! Values. -/

/-- White space, line breaks and comments between the items of an array. -/
def skipLines : (fuel : Nat) → List Char → List Char
  | 0, text => text
  | fuel + 1, text =>
    let rest := skipComment (skipGap text)
    match afterBreak? rest with
    | some next => skipLines fuel next
    | none => rest

/-- The items of an array up to its end. -/
def readItems (read : List Char → Except TomlFault (Toml × List Char)) : (fuel : Nat) →
    List Char → Except TomlFault (List Toml × List Char)
  | 0, _ => .error (unexpected "the end of an array")
  | fuel + 1, text =>
    match skipLines text.length text with
    | ']' :: rest => .ok ([], rest)
    | start => do
      let (item, rest) ← read start
      match skipLines rest.length rest with
      | ',' :: rest => do
        let (items, rest) ← readItems read fuel rest
        return (item :: items, rest)
      | ']' :: rest => return ([item], rest)
      | _ => throw (unexpected "',' or the end of the array")

/-- Keys, an equals sign and a value. -/
def readAssignment (read : List Char → Except TomlFault (Toml × List Char)) (text : List Char) :
    Except TomlFault (List String × Toml × List Char) := do
  let (keys, rest) ← readKeys depthLimit text
  match rest with
  | '=' :: rest => do
    let (value, rest) ← read (skipGap rest)
    return (keys, value, rest)
  | _ => throw (unexpected "'='")

/-- The entries of an inline table up to its end, added to `whole`. -/
def readEntries (read : List Char → Except TomlFault (Toml × List Char)) : (fuel : Nat) →
    (whole : Toml) → List Char → Except TomlFault (Toml × List Char)
  | 0, _, _ => .error (unexpected "the end of a table")
  | fuel + 1, whole, text => do
    let (keys, value, rest) ← readAssignment read text
    let whole ← whole.assign keys value
    match skipGap rest with
    | ',' :: rest => readEntries read fuel whole rest
    | '\x7d' :: rest => return (whole, rest)
    | _ => throw (unexpected "',' or the end of the table")

def isWordChar (c : Char) : Bool := c.isAlphanum || "_+-.:".toList.contains c

def ofWord (word : List Char) : Except TomlFault Toml :=
  let literal := String.ofList word
  if literal = "true" then .ok (.boolean true)
  else if literal = "false" then .ok (.boolean false)
  else if isDatetime word then .ok (.datetime literal)
  else if isFloat word then .ok (.float literal)
  else
    match integer? word with
    | some value => .ok (.integer value)
    | none => .error (unexpected "a value")

/-- A number, a date or a truth value. A date and a time may be parted by a space. -/
def readWord (text : List Char) : Except TomlFault (Toml × List Char) := do
  let word := text.takeWhile isWordChar
  let rest := text.dropWhile isWordChar
  match rest with
  | ' ' :: later =>
    let whole := word ++ ' ' :: later.takeWhile isWordChar
    if isDatetime whole then
      return (.datetime (String.ofList whole), later.dropWhile isWordChar)
    return (← ofWord word, rest)
  | _ => return (← ofWord word, rest)

/-- An inline table is closed once it is read. -/
def closeTable : Toml → Toml
  | table _ entries => table .inline entries
  | other => other

/-- A value, with `levels` more levels of nesting allowed in it. -/
def readValue : (levels : Nat) → List Char → Except TomlFault (Toml × List Char)
  | levels, text =>
    match text, levels with
    | '"' :: rest, _ => do
      let (value, rest) ← readText '"' rest
      return (.string value, rest)
    | '\'' :: rest, _ => do
      let (value, rest) ← readText '\'' rest
      return (.string value, rest)
    | '[' :: _, 0 | '\x7b' :: _, 0 => .error ⟨"nested too deeply"⟩
    | '[' :: rest, levels + 1 => do
      let (items, rest) ← readItems (readValue levels) (rest.length + 1) rest
      return (.array false items, rest)
    | '\x7b' :: rest, levels + 1 =>
      match skipGap rest with
      | '\x7d' :: rest => .ok (.table .inline [], rest)
      | rest => do
        let (whole, rest) ←
          readEntries (readValue levels) (rest.length + 1) (.table .header []) rest
        return (closeTable whole, rest)
    | _, _ => readWord text

/-! Documents. -/

structure Place where
  document : Toml := .table .header []
  path : List String := []

/-- `[keys]` or `[[keys]]`, of which the first bracket has been read. -/
def Place.readHeader (place : Place) (text : List Char) : Except TomlFault (Place × List Char) := do
  let (isItem, start) := match text with
    | '[' :: rest => (true, rest)
    | _ => (false, text)
  let (keys, rest) ← readKeys depthLimit start
  let some rest := after? (if isItem then "]]".toList else "]".toList) rest
    | throw (unexpected "the end of the header")
  let rest ← endLine rest
  let some key := keys.getLast? | throw (unexpected "a key")
  let document ← place.document.change false keys.dropLast
    (if isItem then openItem key else openTable key)
  return (⟨document, keys⟩, rest)

def Place.readEntry (place : Place) (text : List Char) : Except TomlFault (Place × List Char) := do
  let (keys, value, rest) ← readAssignment (readValue depthLimit) text
  let rest ← endLine rest
  let document ← place.document.change false place.path fun origin entries =>
    (table origin entries).assign keys value
  return ({ place with document }, rest)

def Place.readLines : (fuel : Nat) → Place → List Char → Except TomlFault Toml
  | 0, place, _ => .ok place.document
  | fuel + 1, place, text => do
    match skipGap text with
    | [] => return place.document
    | '[' :: rest =>
      let (place, rest) ← place.readHeader rest
      readLines fuel place rest
    | c :: rest =>
      if c = '#' || c = '\n' || c = '\r' then readLines fuel place (← endLine (c :: rest))
      else
        let (place, rest) ← place.readEntry (c :: rest)
        readLines fuel place rest

def parse (text : String) : Except TomlFault Toml :=
  let lines := match text.toList with
    | '\ufeff' :: rest => rest
    | lines => lines
  Place.readLines (lines.length + 1) {} lines

end CredentialReach.Toml
