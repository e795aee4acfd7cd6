import OrchestrationGraph.Decimal.Double

/-!
# The shortest decimal that reads back

Of the decimals that round to a given number, those with the fewest digits, and of these the one
nearest to the number. A power of two has a nearer neighbour below than above.
-/

namespace OrchestrationGraph.Decimal

structure Digits where
  digits : Nat
  exponent : Int
  deriving DecidableEq, Repr

/-- Numbers that round to one number: from `low / den` to `high / den`, the ends included or not.
The number itself is `mid / den`. -/
structure Interval where
  low : Nat
  mid : Nat
  high : Nat
  den : Nat
  closed : Bool

namespace Interval

/-- What rounds to the size of `d`. -/
def around (d : Double) : Interval :=
  let m := d.significand
  let below := if m = Nat.pow 2 52 && Double.leastExponent < d.exponent then 1 else 2
  let closed := m % 2 == 0
  if d.exponent < 0 then
    ⟨4 * m - below, 4 * m, 4 * m + 2, 4 * Nat.pow 2 (-d.exponent).toNat, closed⟩
  else
    let unit := Nat.pow 2 d.exponent.toNat
    ⟨(4 * m - below) * unit, 4 * m * unit, (4 * m + 2) * unit, 4, closed⟩

/-- `n * 10 ^ k` as a fraction over `den`, compared with the ends by cross-multiplying. -/
def holds (i : Interval) (n : Nat) (k : Int) : Bool :=
  let (up, down) := if k < 0 then (1, Nat.pow 10 (-k).toNat) else (Nat.pow 10 k.toNat, 1)
  let x := n * up * i.den
  let low := i.low * down
  let high := i.high * down
  if i.closed then low ≤ x && x ≤ high else low < x && x < high

/-- The multiple of `10 ^ k` just below the number, and whether the next one is nearer; of two that
are equally near, the even one counts as nearer. -/
def floorAt (i : Interval) (k : Int) : Nat × Bool :=
  let (up, down) := if k < 0 then (1, Nat.pow 10 (-k).toNat) else (Nat.pow 10 k.toNat, 1)
  let a := i.mid * down
  let b := i.den * up
  let q := a / b
  let rest := 2 * (a % b)
  (q, b < rest || (rest == b && q % 2 == 1))

/-- The nearest multiple of `10 ^ k` within the interval, if one of the two neighbours is. -/
def hit? (i : Interval) (k : Int) : Option Nat :=
  let (q, upper) := i.floorAt k
  match i.holds q k && 0 < q, i.holds (q + 1) k with
  | true, true => some (if upper then q + 1 else q)
  | true, false => some q
  | false, true => some (q + 1)
  | false, false => none

def leadingExponent (i : Interval) : Int :=
  if i.den ≤ i.mid then ((Nat.toDigits 10 (i.mid / i.den)).length : Int) - 1
  else -((Nat.toDigits 10 ((i.den - 1) / i.mid)).length : Int)

/-- Tries ever finer powers of ten. -/
def search (i : Interval) : Nat → Int → Digits
  | 0, k => ⟨(i.floorAt k).1, k⟩
  | tries + 1, k =>
    match i.hit? k with
    | some n => ⟨n, k⟩
    | none => i.search tries (k - 1)

end Interval

def Digits.stripped (d : Digits) : Digits :=
  if h : d.digits ≠ 0 ∧ d.digits % 10 = 0 then
    stripped ⟨d.digits / 10, d.exponent + 1⟩
  else d
termination_by d.digits
decreasing_by omega

/-- The shortest decimal for the size of a number that is not zero. -/
def shortest (d : Double) : Digits :=
  let i := Interval.around d
  (i.search 18 i.leadingExponent).stripped

structure ExponentStyle where
  plus : Bool

/-- Positional with a point between `1e-5` and `1e16`, with an exponent elsewhere. -/
def ExponentStyle.render (style : ExponentStyle) (d : Double) : List Char :=
  let sign := if d.negative then ['-'] else []
  if d.isZero then sign ++ ['0', '.', '0']
  else
    let s := shortest d
    let digits := Nat.toDigits 10 s.digits
    let point : Int := digits.length + s.exponent
    let zeros (n : Int) := List.replicate n.toNat '0'
    sign ++
      if 0 ≤ s.exponent && point ≤ 16 then digits ++ zeros s.exponent ++ ['.', '0']
      else if 0 < point && point ≤ 16 then
        digits.take point.toNat ++ ['.'] ++ digits.drop point.toNat
      else if -5 < point && point ≤ 0 then ['0', '.'] ++ zeros (-point) ++ digits
      else
        let e := point - 1
        let head := digits.take 1 ++ if digits.length = 1 then [] else '.' :: digits.drop 1
        let mark := if e < 0 then ['e', '-'] else if style.plus then ['e', '+'] else ['e']
        head ++ mark ++ Nat.toDigits 10 e.natAbs

end OrchestrationGraph.Decimal
