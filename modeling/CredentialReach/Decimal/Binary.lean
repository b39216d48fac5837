/-! Finite numbers of the 64-bit binary format, as exact values. Every operation
computes the exact result and rounds it once, to nearest, ties to even. -/

namespace CredentialReach.Decimal

/-- The value ± mantissa · 2 ^ exponent. The mantissa has 53 bits, unless the
exponent is the least one. -/
structure Binary where
  negative : Bool
  mantissa : Nat
  exponent : Int
deriving DecidableEq, Repr

namespace Binary

def leastExponent : Int := -1074

def greatestExponent : Int := 971

def zero : Binary := ⟨false, 0, leastExponent⟩

def isZero (x : Binary) : Bool := x.mantissa == 0

/-- The integer nearest to a quotient, a tie going to the even one. -/
def nearestInteger (numerator denominator : Nat) : Nat :=
  let floor := numerator / denominator
  let doubled := 2 * (numerator % denominator)
  if doubled < denominator then floor
  else if denominator < doubled then floor + 1
  else if floor % 2 == 0 then floor else floor + 1

/-- The quotient of `numerator · 2 ^ -scale` and `denominator` as two naturals. -/
def scaled (numerator denominator : Nat) (scale : Int) : Nat × Nat :=
  (numerator * Nat.pow 2 (-scale).toNat, denominator * Nat.pow 2 scale.toNat)

/-- The exponent at which the quotient has 53 bits, but no less than the least one. -/
def exponentOf (numerator denominator : Nat) : Int :=
  let guess : Int := (numerator.log2 : Int) - denominator.log2 - 53
  let (above, below) := scaled numerator denominator guess
  let exponent := if Nat.pow 2 53 ≤ above / below then guess + 1 else guess
  max exponent leastExponent

/-- The value nearest to a quotient; none if it is out of range. -/
def nearest? (numerator denominator : Nat) : Option Binary :=
  if numerator = 0 then some zero
  else
    let exponent := exponentOf numerator denominator
    let (above, below) := scaled numerator denominator exponent
    let mantissa := nearestInteger above below
    let rounded : Binary :=
      if mantissa = Nat.pow 2 53 then ⟨false, Nat.pow 2 52, exponent + 1⟩
      else ⟨false, mantissa, exponent⟩
    if greatestExponent < rounded.exponent then none else some rounded

/-- The value nearest to `digits · 10 ^ exponent`. -/
def ofDecimal? (digits : Nat) (exponent : Int) : Option Binary :=
  nearest? (digits * Nat.pow 10 exponent.toNat) (Nat.pow 10 (-exponent).toNat)

/-- The sign of the first operand is kept, and the second counts as positive. -/
def scaleUp? (x y : Binary) : Option Binary :=
  let exponent := x.exponent + y.exponent
  (nearest? (x.mantissa * y.mantissa * Nat.pow 2 exponent.toNat)
      (Nat.pow 2 (-exponent).toNat)).map
    fun product => { product with negative := x.negative }

/-- As `scaleUp?`, by division. -/
def scaleDown? (x y : Binary) : Option Binary :=
  let exponent := x.exponent - y.exponent
  (nearest? (x.mantissa * Nat.pow 2 exponent.toNat)
      (y.mantissa * Nat.pow 2 (-exponent).toNat)).map
    fun quotient => { quotient with negative := x.negative }

end Binary

end CredentialReach.Decimal
