import CredentialReach.Json.Basic
import CredentialReach.Json.Fault

/-! Reading the scalars of JSON text: keywords, numbers and quoted texts. Each
reader returns what it read and the rest of the text. -/

namespace CredentialReach.Json

open Decimal

def isSpace (c : Char) : Bool := c == ' ' || c == '\n' || c == '\t' || c == '\r'

def skipSpace (text : List Char) : List Char := text.dropWhile isSpace

def readKeyword : List Char → List Char → Except JsonFault (List Char)
  | [], text => .ok text
  | _ :: _, [] => .error (.ended "a value")
  | expected :: more, c :: rest =>
    if c = expected then readKeyword more rest else .error (.malformed "unknown word")

def hexValue? (c : Char) : Option Nat :=
  if c.isDigit then some (c.toNat - '0'.toNat)
  else if 'a' ≤ c ∧ c ≤ 'f' then some (c.toNat - 'a'.toNat + 10)
  else if 'A' ≤ c ∧ c ≤ 'F' then some (c.toNat - 'A'.toNat + 10)
  else none

def badEscape : JsonFault := .malformed "invalid escape"

def endOfText : JsonFault := .ended "a text"

/-- Four hexadecimal digits. Too short a rest, counted in bytes, ends the text early. -/
def readHex4 : List Char → Except JsonFault (Nat × List Char)
  | a :: b :: c :: d :: rest =>
    match hexValue? a, hexValue? b, hexValue? c, hexValue? d with
    | some w, some x, some y, some z => .ok (((w * 16 + x) * 16 + y) * 16 + z, rest)
    | _, _, _, _ => .error badEscape
  | text => .error (if (String.ofList text).utf8ByteSize < 4 then endOfText else badEscape)

def isLeadingSurrogate (n : Nat) : Bool := 0xD800 ≤ n && n ≤ 0xDBFF

def isTrailingSurrogate (n : Nat) : Bool := 0xDC00 ≤ n && n ≤ 0xDFFF

/-- A character written by its number; two surrogates make one character. -/
def readNumberedChar (text : List Char) : Except JsonFault (Char × List Char) := do
  let (first, rest) ← readHex4 text
  if isTrailingSurrogate first then throw (.malformed "lone surrogate")
  if !isLeadingSurrogate first then return (Char.ofNat first, rest)
  match rest with
  | [] | ['\\'] => throw endOfText
  | '\\' :: 'u' :: rest =>
    let (second, rest) ← readHex4 rest
    if !isTrailingSurrogate second then throw (.malformed "lone surrogate")
    return (Char.ofNat ((first - 0xD800) * 0x400 + (second - 0xDC00) + 0x10000), rest)
  | _ => throw (.malformed "lone surrogate")

/-- What a letter after a backslash stands for. -/
def escaped? : Char → Option Char
  | '"' => some '"'
  | '\\' => some '\\'
  | '/' => some '/'
  | 'b' => some '\x08'
  | 'f' => some '\x0c'
  | 'n' => some '\n'
  | 'r' => some '\r'
  | 't' => some '\t'
  | _ => none

def readEscape : List Char → Except JsonFault (Char × List Char)
  | [] => .error endOfText
  | 'u' :: rest => readNumberedChar rest
  | c :: rest =>
    match escaped? c with
    | some d => .ok (d, rest)
    | none => .error badEscape

/-- The rest of a quoted text, in at most `fuel` characters. -/
def readTextBody : (fuel : Nat) → List Char → Except JsonFault (List Char × List Char)
  | _, [] | 0, _ => .error endOfText
  | fuel + 1, c :: rest =>
    if c = '"' then .ok ([], rest)
    else if c = '\\' then do
      let (d, rest) ← readEscape rest
      let (body, rest) ← readTextBody fuel rest
      return (d :: body, rest)
    else if c.toNat < 0x20 then .error (.malformed "control character in a text")
    else do
      let (body, rest) ← readTextBody fuel rest
      return (c :: body, rest)

def readText (text : List Char) : Except JsonFault (String × List Char) := do
  let (body, rest) ← readTextBody text.length text
  return (String.ofList body, rest)

/-- Passes over the rest of a quoted text. Surrogates need no partner here. -/
def skipTextBody : (fuel : Nat) → List Char → Except JsonFault (List Char)
  | _, [] | 0, _ => .error endOfText
  | fuel + 1, c :: rest =>
    if c = '"' then .ok rest
    else if c = '\\' then
      match rest with
      | [] => .error endOfText
      | 'u' :: rest => do
        let (_, rest) ← readHex4 rest
        skipTextBody fuel rest
      | d :: rest => if (escaped? d).isSome then skipTextBody fuel rest else .error badEscape
    else if c.toNat < 0x20 then .error (.malformed "control character in a text")
    else skipTextBody fuel rest

def skipText (text : List Char) : Except JsonFault (List Char) := skipTextBody text.length text

/-- The largest natural that a number without point and exponent can be. -/
def greatestCount : Nat := Nat.pow 2 64 - 1

/-- Reads digits as long as the number fits; also says how many were read. -/
def readDigits (significand : Nat) : List Char → Nat × Nat × List Char
  | [] => (significand, 0, [])
  | c :: rest =>
    let next := significand * 10 + (c.toNat - '0'.toNat)
    if c.isDigit && next ≤ greatestCount then
      let (value, count, rest) := readDigits next rest
      (value, count + 1, rest)
    else (significand, 0, c :: rest)

def outOfRange : JsonFault := .malformed "number out of range"

def badNumber : JsonFault := .malformed "invalid number"

def greatestPower : Nat := 308

def powerOfTen (n : Nat) : Binary := (Binary.ofDecimal? 1 n).getD .zero

/-- Scales by a power of ten, which is itself a rounded number. Two divisions
by the greatest power leave nothing of any significand. -/
def scaleByPower : (fuel : Nat) → Binary → Int → Option Binary
  | 0, x, _ => some x
  | fuel + 1, x, exponent =>
    if exponent.natAbs ≤ greatestPower then
      if 0 ≤ exponent then x.scaleUp? (powerOfTen exponent.toNat)
      else x.scaleDown? (powerOfTen exponent.natAbs)
    else if x.isZero then some x
    else if 0 ≤ exponent then none
    else
      match x.scaleDown? (powerOfTen greatestPower) with
      | some y => scaleByPower fuel y (exponent + greatestPower)
      | none => none

def floatOf (negative : Bool) (significand : Nat) (exponent : Int) :
    Except JsonFault JsonNumber :=
  match (Binary.nearest? significand 1).bind fun x => scaleByPower 4 x exponent with
  | some x => .ok (.float { x with negative })
  | none => .error outOfRange

def skipDigits (text : List Char) : List Char := text.dropWhile Char.isDigit

/-- The first exponent that is not kept. -/
def exponentLimit : Nat := Nat.pow 2 31

/-- The number after its exponent mark; `shift` is the exponent of the
significand alone. -/
def readExponent (negative : Bool) (significand : Nat) (shift : Int) (text : List Char) :
    Except JsonFault (JsonNumber × List Char) :=
  let (below, digits) :=
    match text with
    | '+' :: rest => (false, rest)
    | '-' :: rest => (true, rest)
    | _ => (false, text)
  match digits with
  | [] => .error (.ended "a number")
  | c :: _ =>
    if !c.isDigit then .error badNumber
    else
      let rest := skipDigits digits
      let exponent := (digits.takeWhile Char.isDigit).foldl
        (fun n c => min exponentLimit (n * 10 + (c.toNat - '0'.toNat))) 0
      if exponent = exponentLimit then
        if significand ≠ 0 && !below then .error outOfRange
        else .ok (.float { Binary.zero with negative }, rest)
      else do
        let number ← floatOf negative significand
          (if below then shift - exponent else shift + exponent)
        return (number, rest)

def readMagnitude (negative : Bool) (significand : Nat) (shift : Int) (text : List Char) :
    Except JsonFault (JsonNumber × List Char) :=
  match text with
  | 'e' :: rest | 'E' :: rest => readExponent negative significand shift rest
  | _ => do
    let number ← floatOf negative significand shift
    return (number, text)

/-- The number after its point. Digits that no longer fit are dropped. -/
def readFraction (negative : Bool) (significand : Nat) (shift : Int) (text : List Char) :
    Except JsonFault (JsonNumber × List Char) :=
  let (significand, count, rest) := readDigits significand text
  match rest with
  | [] => if count = 0 then .error (.ended "a number")
    else readMagnitude negative significand (shift - count) rest
  | c :: _ =>
    if c.isDigit then readMagnitude negative significand (shift - count) (skipDigits rest)
    else if count = 0 then .error badNumber
    else readMagnitude negative significand (shift - count) rest

/-- A number without point and exponent. Those below the least 64-bit integer,
and minus zero, are kept as floats. -/
def integerOf (negative : Bool) (significand : Nat) : Except JsonFault JsonNumber :=
  if !negative then .ok (.integer significand)
  else if significand = 0 || Nat.pow 2 63 < significand then floatOf true significand 0
  else .ok (.integer (-significand))

def readNumber (negative : Bool) (text : List Char) : Except JsonFault (JsonNumber × List Char) :=
  match text with
  | [] => .error (.ended "a number")
  | '0' :: c :: rest =>
    if c.isDigit then .error badNumber else afterInteger 0 0 (c :: rest)
  | c :: rest =>
    if !c.isDigit then .error badNumber
    else
      let (significand, _, more) := readDigits (c.toNat - '0'.toNat) rest
      let dropped := more.length - (skipDigits more).length
      afterInteger significand dropped (skipDigits more)
where
  afterInteger (significand dropped : Nat) (text : List Char) :
      Except JsonFault (JsonNumber × List Char) :=
    match text with
    | '.' :: rest => readFraction negative significand dropped rest
    | 'e' :: rest | 'E' :: rest => readExponent negative significand dropped rest
    | _ => do
      let number ← if dropped = 0 then integerOf negative significand
        else floatOf negative significand dropped
      return (number, text)

def skipExponent (text : List Char) : Except JsonFault (List Char) :=
  let digits :=
    match text with
    | '+' :: rest | '-' :: rest => rest
    | _ => text
  if digits.head?.any Char.isDigit then .ok (skipDigits digits) else .error badNumber

def skipMagnitude (text : List Char) : Except JsonFault (List Char) :=
  match text with
  | 'e' :: rest | 'E' :: rest => skipExponent rest
  | _ => .ok text

/-- Passes over a number after its sign. Its size does not matter. -/
def skipNumber (text : List Char) : Except JsonFault (List Char) :=
  let afterDigits :=
    match text with
    | '0' :: rest => if rest.head?.any Char.isDigit then none else some rest
    | c :: rest => if c.isDigit then some (skipDigits rest) else none
    | [] => none
  match afterDigits with
  | none => .error badNumber
  | some ('.' :: rest) =>
    if rest.head?.any Char.isDigit then skipMagnitude (skipDigits rest) else .error badNumber
  | some rest => skipMagnitude rest

end CredentialReach.Json
