import CredentialReach.Decimal.Binary

/-! The fewest decimal digits that read back to a binary number, and how they
are laid out. -/

namespace CredentialReach.Decimal

/-- The value digits · 10 ^ exponent. -/
structure Scaled where
  digits : Nat
  exponent : Int
deriving DecidableEq, Repr

/-- Compares `a · 10 ^ i` with `n · 2 ^ j`. -/
def compareScaled (a : Nat) (i : Int) (n : Nat) (j : Int) : Ordering :=
  compare (a * Nat.pow 10 i.toNat * Nat.pow 2 (-j).toNat)
    (n * Nat.pow 2 j.toNat * Nat.pow 10 (-i).toNat)

/-- Whether `d` lies among the reals that round to the magnitude of `x`. They
end halfway to the neighbours; below a power of two the gap is half as wide. -/
def Binary.readsBack (x : Binary) (d : Scaled) : Bool :=
  let narrow := x.mantissa == Nat.pow 2 52 && Binary.leastExponent < x.exponent
  let low := 4 * x.mantissa - if narrow then 1 else 2
  let high := 4 * x.mantissa + 2
  let inclusive := x.mantissa % 2 == 0
  let toLow := compareScaled d.digits d.exponent low (x.exponent - 2)
  let toHigh := compareScaled d.digits d.exponent high (x.exponent - 2)
  (toLow == .gt || (inclusive && toLow == .eq)) && (toHigh == .lt || (inclusive && toHigh == .eq))

/-- How many digits the magnitude has before the point, or minus the zeros after
it: the least `k` with `x < 10 ^ k`. `guess` starts at or below it. -/
def Binary.scaleFrom (x : Binary) : (steps : Nat) → (guess : Int) → Int
  | 0, guess => guess
  | steps + 1, guess =>
    if compareScaled 1 guess x.mantissa x.exponent == .gt then guess
    else x.scaleFrom steps (guess + 1)

def Binary.scale (x : Binary) : Int :=
  let bits : Int := x.exponent + x.mantissa.log2
  x.scaleFrom 6 (bits * 30102 / 100000 - 1)

/-- The multiple of `10 ^ exponent` nearest to the magnitude that reads back, if
there is one; a tie goes to the even one. -/
def Binary.onGrid? (x : Binary) (exponent : Int) : Option Scaled :=
  let above := x.mantissa * Nat.pow 2 x.exponent.toNat * Nat.pow 10 (-exponent).toNat
  let below := Nat.pow 2 (-x.exponent).toNat * Nat.pow 10 exponent.toNat
  let floor := above / below
  let lower : Scaled := ⟨floor, exponent⟩
  let upper : Scaled := ⟨floor + 1, exponent⟩
  match x.readsBack lower, x.readsBack upper with
  | true, true =>
    match compare (2 * (above % below)) below with
    | .lt => some lower
    | .gt => some upper
    | .eq => some (if floor % 2 == 0 then lower else upper)
  | true, false => some lower
  | false, true => some upper
  | false, false => none

def Scaled.strip : (steps : Nat) → Scaled → Scaled
  | 0, d => d
  | steps + 1, d =>
    if d.digits != 0 && d.digits % 10 == 0 then strip steps ⟨d.digits / 10, d.exponent + 1⟩ else d

/-- The magnitude itself, digit by digit. -/
def Binary.exact (x : Binary) : Scaled :=
  if 0 ≤ x.exponent then ⟨x.mantissa * Nat.pow 2 x.exponent.toNat, 0⟩
  else ⟨x.mantissa * Nat.pow 5 (-x.exponent).toNat, x.exponent⟩

/-- The shortest decimal that reads back, and of those the nearest. Seventeen
digits are enough; the exact value stands behind them. -/
def Binary.shortest (x : Binary) : Scaled :=
  if x.isZero then ⟨0, 0⟩
  else
    let scale := x.scale
    match (List.range 17).findSome? fun n => x.onGrid? (scale - (n + 1 : Nat)) with
    | some d => d.strip 17
    | none => x.exact

def numeral (n : Nat) : List Char := Nat.toDigits 10 n

/-- Layout: numbers from 10⁻⁵ to below 10¹⁶ are written with a point and at least
one digit after it, others with an exponent. -/
structure Notation where
  /-- Whether a positive exponent carries its sign. -/
  plusSign : Bool

def Notation.layout (style : Notation) (d : Scaled) : List Char :=
  let digits := numeral d.digits
  let count : Int := digits.length
  let point := count + d.exponent
  if d.digits = 0 then "0.0".toList
  else if 0 ≤ d.exponent && point ≤ 16 then
    digits ++ List.replicate d.exponent.toNat '0' ++ ".0".toList
  else if 0 < point && point ≤ 16 then
    digits.take point.toNat ++ '.' :: digits.drop point.toNat
  else if -5 < point && point ≤ 0 then
    "0.".toList ++ List.replicate (-point).toNat '0' ++ digits
  else
    let exponent := point - 1
    let sign := if exponent < 0 then ['-'] else if style.plusSign then ['+'] else []
    let significand :=
      match digits with
      | [] => []
      | [c] => [c]
      | c :: rest => c :: '.' :: rest
    significand ++ 'e' :: sign ++ numeral exponent.natAbs

def Notation.render (style : Notation) (x : Binary) : List Char :=
  (if x.negative then ['-'] else []) ++ style.layout x.shortest

end CredentialReach.Decimal
