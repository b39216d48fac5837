import CredentialReach.Decimal.Binary

/-! Decimal literals: digits with a point and an exponent. -/

namespace CredentialReach.Decimal

/-- The value `0.digits · 10 ^ point`, or its negative. -/
structure Literal where
  negative : Bool := false
  digits : List Char
  point : Int
deriving DecidableEq, Repr

def digitsValue (digits : List Char) : Nat :=
  digits.foldl (fun n c => n * 10 + (c.toNat - '0'.toNat)) 0

namespace Literal

def readExponent? (text : List Char) : Option Int :=
  let (negative, digits) := match text with
    | '-' :: rest => (true, rest)
    | '+' :: rest => (false, rest)
    | _ => (false, text)
  if digits.isEmpty || !digits.all Char.isDigit then none
  else some (if negative then -(digitsValue digits : Int) else digitsValue digits)

/-- What may follow the digits: nothing, or an exponent. -/
def readTail? : List Char → Option Int
  | [] => some 0
  | 'e' :: rest | 'E' :: rest => readExponent? rest
  | _ => none

def readUnsigned? (negative : Bool) (text : List Char) : Option Literal :=
  let whole := text.takeWhile Char.isDigit
  let (fraction, tail) := match text.dropWhile Char.isDigit with
    | '.' :: rest => (rest.takeWhile Char.isDigit, rest.dropWhile Char.isDigit)
    | rest => ([], rest)
  if (whole ++ fraction).isEmpty then none
  else (readTail? tail).map fun exponent => ⟨negative, whole ++ fraction, exponent + whole.length⟩

def read? (text : List Char) : Option Literal :=
  match text with
  | '-' :: rest => readUnsigned? true rest
  | '+' :: rest => readUnsigned? false rest
  | _ => readUnsigned? false text

/-- The value nearest to the literal; none if it is out of range. A literal
below the least positive value is zero. -/
def value? (literal : Literal) : Option Binary :=
  let digits := literal.digits.dropWhile (· == '0')
  let point := literal.point - (literal.digits.length - digits.length : Nat)
  let magnitude :=
    if digits.isEmpty || point < -400 then some .zero
    else if 400 < point then none
    else Binary.ofDecimal? (digitsValue digits) (point - digits.length)
  magnitude.map fun x => { x with negative := literal.negative }

end Literal

end CredentialReach.Decimal
