import CredentialReach.Decimal.Literal
import CredentialReach.Text.Percent
import CredentialReach.Toml.Basic

/-! Numbers, dates and times of TOML, each read from the whole of a word. -/

namespace CredentialReach.Toml

open Text

/-- Digits, of which neighbours may be parted by an underscore. -/
def digits? (isDigit : Char → Bool) : List Char → Option (List Char)
  | [] => none
  | [c] => if isDigit c then some [c] else none
  | c :: '_' :: rest => if isDigit c then (digits? isDigit rest).map (c :: ·) else none
  | c :: rest => if isDigit c then (digits? isDigit rest).map (c :: ·) else none

def splitSign : List Char → Bool × List Char
  | '-' :: rest => (true, rest)
  | '+' :: rest => (false, rest)
  | text => (false, text)

/-- Decimal digits without a needless zero in front. -/
def wholeDigits? (text : List Char) : Option (List Char) :=
  match digits? Char.isDigit text with
  | some ('0' :: _ :: _) => none
  | found => found

def valueIn (base : Nat) (digits : List Char) : Nat :=
  digits.foldl (fun n c => n * base + (hexDigit? c).getD 0) 0

def basedInteger? (base : Nat) (text : List Char) : Option Nat :=
  (digits? (fun c => (hexDigit? c).any (· < base)) text).map (valueIn base)

/-- An integer of 64 bits. -/
def integer? (text : List Char) : Option Int :=
  let limit : Int := Nat.pow 2 63
  let fits (value : Int) : Bool := -limit ≤ value && value < limit
  let value : Option Int := match text with
    | '0' :: 'x' :: rest => (basedInteger? 16 rest).map Int.ofNat
    | '0' :: 'o' :: rest => (basedInteger? 8 rest).map Int.ofNat
    | '0' :: 'b' :: rest => (basedInteger? 2 rest).map Int.ofNat
    | _ =>
      let (negative, unsigned) := splitSign text
      (wholeDigits? unsigned).map fun digits =>
        if negative then -(valueIn 10 digits : Int) else valueIn 10 digits
  value.filter fits

def exponent? (text : List Char) : Option (List Char) :=
  let (negative, unsigned) := splitSign text
  (digits? Char.isDigit unsigned).map fun digits => if negative then '-' :: digits else digits

/-- A float without its underscores: a whole number with a fraction, an exponent
or both. -/
def floatText? (text : List Char) : Option (List Char) := do
  let isExponentMark (c : Char) : Bool := c == 'e' || c == 'E'
  let (negative, unsigned) := splitSign text
  let significand := unsigned.takeWhile fun c => !isExponentMark c
  let exponent ← match unsigned.dropWhile fun c => !isExponentMark c with
    | [] => some []
    | _ :: rest => (exponent? rest).map ('e' :: ·)
  let digits ← match cutAt? ['.'] significand with
    | some (whole, fraction) => do
      return (← wholeDigits? whole) ++ '.' :: (← digits? Char.isDigit fraction)
    | none => if exponent.isEmpty then none else wholeDigits? significand
  return (if negative then ['-'] else []) ++ digits ++ exponent

def specialFloats : List String := ["inf", "+inf", "-inf", "nan", "+nan", "-nan"]

def isFloat (text : List Char) : Bool :=
  specialFloats.contains (String.ofList text) ||
    ((floatText? text).bind fun plain =>
      (Decimal.Literal.read? plain).bind (·.value?)).isSome

/-! Dates and times. -/

/-- A number of two digits up to `greatest`, and the rest. -/
def twoDigits? (greatest : Nat) : List Char → Option (Nat × List Char)
  | a :: b :: rest =>
    let n := valueIn 10 [a, b]
    if a.isDigit && b.isDigit && n ≤ greatest then some (n, rest) else none
  | _ => none

def isLeapYear (year : Nat) : Bool :=
  year % 4 == 0 && (year % 100 != 0 || year % 400 == 0)

def daysIn (year month : Nat) : Nat :=
  if month = 2 then (if isLeapYear year then 29 else 28)
  else if month ∈ [4, 6, 9, 11] then 30 else 31

/-- What follows a date. -/
def afterDate? : List Char → Option (List Char)
  | a :: b :: c :: d :: '-' :: rest => do
    if [a, b, c, d].any (!·.isDigit) then none
    let (month, rest) ← twoDigits? 12 rest
    let rest ← after? ['-'] rest
    let (day, rest) ← twoDigits? (daysIn (valueIn 10 [a, b, c, d]) month) rest
    if month = 0 || day = 0 then none else some rest
  | _ => none

def afterFraction? : List Char → Option (List Char)
  | '.' :: c :: rest => if c.isDigit then some (rest.dropWhile Char.isDigit) else none
  | '.' :: _ => none
  | text => some text

/-- What follows a time of day. -/
def afterTime? (text : List Char) : Option (List Char) := do
  let (_, rest) ← twoDigits? 23 text
  let (_, rest) ← twoDigits? 59 (← after? [':'] rest)
  let (_, rest) ← twoDigits? 60 (← after? [':'] rest)
  afterFraction? rest

/-- Whether a text is the offset of a time zone, or nothing. -/
def isOffset : List Char → Bool
  | [] | ['Z'] | ['z'] => true
  | c :: rest =>
    (c == '+' || c == '-') &&
      (do
        let (_, rest) ← twoDigits? 23 rest
        let (_, rest) ← twoDigits? 59 (← after? [':'] rest)
        return rest.isEmpty : Option Bool).getD false

def isDatetime (text : List Char) : Bool :=
  match afterDate? text with
  | some [] => true
  | some (mark :: rest) =>
    (mark == 'T' || mark == 't' || mark == ' ') && (afterTime? rest).any isOffset
  | none => (afterTime? text).any (·.isEmpty)

end CredentialReach.Toml
