/-!
# Binary floating point

Finite numbers of 53 significant bits, kept as an exact significand and exponent. Every operation is
the exact rational one followed by one rounding to nearest, ties to even.
-/

namespace OrchestrationGraph.Decimal

/-- The number `significand * 2 ^ exponent`, with its sign. Numbers that come out of `nearest?` have
either 53 significant bits or the least exponent, -1074. -/
structure Double where
  negative : Bool
  significand : Nat
  exponent : Int
  deriving DecidableEq, Repr, Inhabited

namespace Double

def leastExponent : Int := -1074

def greatestExponent : Int := 971

def zero : Double := ⟨false, 0, leastExponent⟩

def isZero (d : Double) : Bool := d.significand == 0

/-- The nearest number to `n`, ties to even; `half` is twice the remainder, compared with `den`. -/
def roundEven (quotient twiceRest den : Nat) : Nat :=
  if twiceRest < den then quotient
  else if den < twiceRest then quotient + 1
  else if quotient % 2 = 0 then quotient else quotient + 1

/-- `n / d` scaled by the power of two `-e`, as a fraction. -/
def scaled (n d : Nat) (e : Int) : Nat × Nat :=
  if e < 0 then (n * Nat.pow 2 (-e).toNat, d) else (n, d * Nat.pow 2 e.toNat)

/-- The exponent that leaves 53 bits of `n / d` before the point, or the least one. -/
def exponentFor (n d : Nat) : Int :=
  let bits : Int := (n.log2 : Int) - d.log2
  let (a, b) := scaled n d bits
  max leastExponent ((if b ≤ a then bits else bits - 1) - 52)

/-- The number nearest to `n / d`, or nothing if that lies beyond the greatest one. -/
def nearest? (negative : Bool) (n d : Nat) : Option Double :=
  if n = 0 then some { zero with negative }
  else
    let e := exponentFor n d
    let (a, b) := scaled n d e
    let m := roundEven (a / b) (2 * (a % b)) b
    let (m, e) := if m = Nat.pow 2 53 then (Nat.pow 2 52, e + 1) else (m, e)
    if greatestExponent < e then none else some ⟨negative, m, e⟩

def fraction (d : Double) : Nat × Nat :=
  if d.exponent < 0 then (d.significand, Nat.pow 2 (-d.exponent).toNat)
  else (d.significand * Nat.pow 2 d.exponent.toNat, 1)

def mul? (x y : Double) : Option Double :=
  let (a, b) := x.fraction
  let (c, d) := y.fraction
  nearest? (x.negative != y.negative) (a * c) (b * d)

/-- The quotient; the divisor must not be zero. -/
def div? (x y : Double) : Option Double :=
  let (a, b) := x.fraction
  let (c, d) := y.fraction
  nearest? (x.negative != y.negative) (a * d) (b * c)

def ofNat? (n : Nat) : Option Double := nearest? false n 1

/-- Greatest power of ten that is a number of this kind. -/
def greatestPower : Nat := 308

/-- The power of ten nearest to the exact one, for exponents up to `greatestPower`. -/
def powerOfTen (k : Nat) : Double := (ofNat? (Nat.pow 10 k)).getD zero

/-- Divides by `10 ^ k` in steps of at most `greatestPower`, each one rounded. -/
def divideByPower (x : Double) (k : Nat) : Double :=
  if x.isZero then x
  else if k ≤ greatestPower then (x.div? (powerOfTen k)).getD x
  else if 0 < k then
    divideByPower ((x.div? (powerOfTen greatestPower)).getD zero) (k - greatestPower)
  else x
termination_by k
decreasing_by simp only [greatestPower]; omega

/-- The number that is written `significand * 10 ^ exponent`: the rounded significand times or
divided by the rounded power of ten. Nothing if that overflows. -/
def ofParts? (negative : Bool) (significand : Nat) (exponent : Int) : Option Double := do
  let x ← ofNat? significand
  let size ←
    if exponent < 0 then some (x.divideByPower exponent.natAbs)
    else if exponent.natAbs ≤ greatestPower then x.mul? (powerOfTen exponent.natAbs)
    else if x.isZero then some x else none
  return { size with negative }

end Double

end OrchestrationGraph.Decimal
