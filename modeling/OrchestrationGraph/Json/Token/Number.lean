import OrchestrationGraph.Json.Token

/-!
# Numbers in a JSON text

The digits of a numeral, and the number that it stands for.
-/

namespace OrchestrationGraph.Json

def isDigit (c : Char) : Bool := '0' ≤ c && c ≤ '9'

def digitValue (c : Char) : Nat := c.toNat - '0'.toNat

/-- A significand takes up digits as long as it stays below this. -/
def significandBound : Nat := 0x10000000000000000

/-- Takes up digits while they fit; the digits from the first that does not fit are left over. -/
def takeUp : Nat → List Char → Nat × List Char
  | s, [] => (s, [])
  | s, c :: rest =>
    if s * 10 + digitValue c < significandBound then takeUp (s * 10 + digitValue c) rest
    else (s, c :: rest)

/-- An exponent beyond this overflows, or underflows, whatever it belongs to. -/
def exponentBound : Nat := 0x80000000

structure Numeral where
  negative : Bool
  whole : List Char
  fraction : Option (List Char)
  exponent : Option (Bool × List Char)

namespace Numeral

/-- Digits of the whole part that do not fit the significand raise the exponent; digits of the
fraction that do not fit are dropped. -/
def double (n : Numeral) : Except Fault Number := do
  let (s, left) := takeUp 0 n.whole
  let fraction := n.fraction.getD []
  let (s, unused) := takeUp s fraction
  let shift : Int := left.length - (fraction.length - unused.length : Nat)
  let (below, digits) := n.exponent.getD (false, [])
  let e := digits.foldl (fun e c => e * 10 + digitValue c) 0
  if exponentBound ≤ e then
    if s ≠ 0 && !below then throw .numberOutOfRange
    return .double { Decimal.Double.zero with negative := n.negative }
  match Decimal.Double.ofParts? n.negative s (shift + if below then -(e : Int) else e) with
  | some d => return .double d
  | none => throw .numberOutOfRange

/-- A numeral of digits alone is an integer, if it is within the bounds and not a negative zero. -/
def value (n : Numeral) : Except Fault Number :=
  let size : Int := n.whole.foldl (fun e c => e * 10 + (digitValue c : Int)) 0
  let signed := if n.negative then -size else size
  if n.fraction.isNone && n.exponent.isNone && !(n.negative && size == 0) &&
      Number.leastInteger ≤ signed && signed ≤ Number.greatestInteger then
    .ok (.integer signed)
  else n.double

end Numeral

/-- The token for a place where a digit is missing; `rest` is what stands there. -/
def noDigit (rest : List Char) : Token :=
  .broken (if rest.isEmpty then .endInValue else .invalidNumber) .invalidNumber

/-- What follows the sign of an exponent, if it has one. -/
def afterSign (l : List Char) : List Char :=
  if l.head? == some '-' || l.head? == some '+' then l.tail else l

def readExponent (n : Numeral) (l : List Char) : Token × List Char :=
  match l with
  | c :: rest =>
    if c = 'e' || c = 'E' then
      let digits := (afterSign rest).takeWhile isDigit
      let after := (afterSign rest).dropWhile isDigit
      if digits.isEmpty then (noDigit after, [])
      else (.number { n with exponent := some (rest.head? == some '-', digits) }.value, after)
    else (.number n.value, l)
  | [] => (.number n.value, [])

def readFraction (n : Numeral) (l : List Char) : Token × List Char :=
  match l with
  | '.' :: rest =>
    let digits := rest.takeWhile isDigit
    let rest := rest.dropWhile isDigit
    if digits.isEmpty then (noDigit rest, [])
    else readExponent { n with fraction := some digits } rest
  | _ => readExponent n l

/-- Reads a number that is known to begin with a digit or a sign. -/
def readNumber (negative : Bool) (l : List Char) : Token × List Char :=
  let digits := l.takeWhile isDigit
  let rest := l.dropWhile isDigit
  match digits with
  | [] => (noDigit rest, [])
  | '0' :: _ :: _ => (.broken .invalidNumber .invalidNumber, [])
  | _ => readFraction ⟨negative, digits, none, none⟩ rest

/-! ### Lengths -/

theorem dropWhile_length_le (p : Char → Bool) (l : List Char) :
    (l.dropWhile p).length ≤ l.length :=
  (List.dropWhile_sublist p).length_le

theorem readExponent_length (n : Numeral) (l : List Char) :
    (readExponent n l).2.length ≤ l.length := by
  unfold readExponent
  split
  · rename_i c rest
    split
    · dsimp only
      have htail : (afterSign rest).length ≤ rest.length := by
        unfold afterSign; split <;> simp
      have := dropWhile_length_le isDigit (afterSign rest)
      split <;> simp only [List.length_cons, List.length_nil] <;> omega
    · exact Nat.le_refl _
  · exact Nat.le_refl _

theorem readFraction_length (n : Numeral) (l : List Char) :
    (readFraction n l).2.length ≤ l.length := by
  unfold readFraction
  split
  · rename_i rest
    dsimp only
    have := dropWhile_length_le isDigit rest
    split
    · exact Nat.zero_le _
    · refine Nat.le_trans (readExponent_length _ _) ?_
      simp only [List.length_cons]; omega
  · exact readExponent_length n l

/-- A number that begins with a digit takes at least that digit. -/
theorem readNumber_length (negative : Bool) (l : List Char) :
    (readNumber negative l).2.length ≤ l.length - 1 := by
  unfold readNumber
  dsimp only
  split
  · exact Nat.zero_le _
  · exact Nat.zero_le _
  · rename_i hne _
    refine Nat.le_trans (readFraction_length _ _) ?_
    have hsum : l.length = (l.takeWhile isDigit).length + (l.dropWhile isDigit).length := by
      rw [← List.length_append, List.takeWhile_append_dropWhile]
    have hpos : 0 < (l.takeWhile isDigit).length := List.length_pos_iff.mpr hne
    omega

end OrchestrationGraph.Json
