import OrchestrationGraph.Decimal.Double

/-!
# Texts that a YAML reader takes for something else

A text that spells a null, a truth value or a number has to be quoted, or it does not read back as a
text.
-/

namespace OrchestrationGraph.Yaml

def isDigit (c : Char) : Bool := '0' ≤ c && c ≤ '9'

def digit? (base : Nat) (c : Char) : Option Nat :=
  let n := if isDigit c then c.toNat - '0'.toNat
    else if 'a' ≤ c && c ≤ 'z' then c.toNat - 'a'.toNat + 10
    else if 'A' ≤ c && c ≤ 'Z' then c.toNat - 'A'.toNat + 10
    else base
  if n < base then some n else none

/-- The number that digits of the base spell. -/
def natural? (base : Nat) : List Char → Option Nat
  | [] => none
  | l => l.foldlM (fun n c => (digit? base c).map (n * base + ·)) 0

/-! ### Integers -/

/-- The bases other than ten, and their marks. -/
def markedBases : List (List Char × Nat) := [(['0', 'x'], 16), (['0', 'o'], 8), (['0', 'b'], 2)]

/-- An integer in a marked base. It must fit 128 bits; a negative one has half of the range. -/
def isMarkedInteger (l : List Char) : Bool :=
  let negative := l.head? == some '-'
  let size := if negative || l.head? == some '+' then l.tail else l
  markedBases.any fun (mark, base) =>
    mark.isPrefixOf size &&
      match natural? base (size.drop mark.length) with
      | none => false
      | some n => if negative then n ≤ Nat.pow 2 127 else n < Nat.pow 2 128

/-! ### Decimals -/

/-- What follows one sign. -/
def unsigned (l : List Char) : List Char :=
  match l with
  | '+' :: rest | '-' :: rest => rest
  | _ => l

/-- From here on a number rounds to infinity. -/
def infinityBound : Nat := Nat.pow 2 1024 - Nat.pow 2 970

/-- Whether `n * 10 ^ e` is below the bound; no power of ten larger than needed is formed. -/
def isFinite (n : Nat) (e : Int) : Bool :=
  let digits : Int := (Nat.toDigits 10 n).length
  if n = 0 || digits + e ≤ 308 then true
  else if 309 < digits + e then false
  else if 0 ≤ e then n * Nat.pow 10 e.toNat < infinityBound
  else n < infinityBound * Nat.pow 10 (-e).toNat

/-- Reads a number with an optional point and exponent; at least one digit stands beside the point.
-/
def isFiniteDecimal (l : List Char) : Bool :=
  let whole := l.takeWhile isDigit
  let rest := l.dropWhile isDigit
  let point := rest.head? == some '.'
  let fraction := if point then rest.tail.takeWhile isDigit else []
  let rest := if point then rest.tail.dropWhile isDigit else rest
  let digits := whole ++ fraction
  match natural? 10 digits with
  | none => false
  | some n =>
    match rest with
    | [] => isFinite n (-(fraction.length : Int))
    | mark :: exponent =>
      (mark = 'e' || mark = 'E') &&
        match natural? 10 (unsigned exponent) with
        | none => false
        | some e =>
          let e : Int := if exponent.head? == some '-' then -(e : Int) else e
          isFinite n (e - fraction.length)

def infinities : List String := [".inf", ".Inf", ".INF"]

def isNumber (l : List Char) : Bool :=
  isMarkedInteger l || infinities.contains (String.ofList (unsigned l)) ||
    isFiniteDecimal (unsigned l)

/-- Digits after a zero are no number, but are quoted like one. -/
def isZeroLed (l : List Char) : Bool :=
  match unsigned l with
  | '0' :: c :: rest => (c :: rest).all isDigit
  | _ => false

/-- Whether a plain text would read as something else than a text, or looks as if it would. -/
def isAmbiguous (s : String) : Bool :=
  ["", "null", "Null", "NULL", "~", "true", "True", "TRUE", "false", "False", "FALSE",
    ".nan", ".NaN", ".NAN"].contains s || isNumber s.toList || isZeroLed s.toList

end OrchestrationGraph.Yaml
