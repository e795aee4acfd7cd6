import OrchestrationGraph.Json.Token.Number

/-!
# Written integers read back

The digits of an integer within the bounds are one number token, if no character that could go on a
numeral stands after them.
-/

namespace OrchestrationGraph.Json

variable {c : Char} {n : Nat} {l digits rest : List Char}

/-! ### Digits -/

theorem isDigit_eq (c : Char) : isDigit c = c.isDigit := rfl

theorem isDigit_of_mem_toDigits (written : c ∈ Nat.toDigits 10 n) : isDigit c = true := by
  rw [isDigit_eq]
  exact Nat.isDigit_of_mem_toDigits (by decide) (by decide) written

/-- Only zero itself is written with a zero in front. -/
theorem head?_toDigits_ne_zero (positive : 0 < n) : (Nat.toDigits 10 n).head? ≠ some '0' := by
  induction n using Nat.base_induction 10 (by decide) with
  | single m small =>
    rw [Nat.toDigits_of_lt_base small]
    intro zero
    have : m = 0 := by simpa using zero
    omega
  | digit m k small more ih =>
    rw [← Nat.toDigits_append_toDigits (by decide) more small]
    obtain ⟨c, l, front⟩ := List.exists_cons_of_ne_nil (Nat.toDigits_ne_nil (n := m) (b := 10))
    have ih := ih more
    rw [front] at ih ⊢
    exact ih

theorem toDigits_ne_zero_cons (n : Nat) (c : Char) (l : List Char) :
    Nat.toDigits 10 n ≠ '0' :: c :: l := by
  intro written
  obtain rfl | positive := Nat.eq_zero_or_pos n
  · rw [Nat.toDigits_zero] at written
    simp at written
  · have head := head?_toDigits_ne_zero positive
    rw [written] at head
    exact head rfl

theorem foldl_digits (l : List Char) (k : Nat) :
    l.foldl (fun e c => e * 10 + (digitValue c : Int)) (k : Int) = (Nat.ofDigitChars 10 l k : Nat) := by
  induction l generalizing k with
  | nil => rfl
  | cons c l ih =>
    rw [List.foldl_cons, Nat.ofDigitChars_cons, ← ih]
    congr 1
    have value : digitValue c = c.toNat - '0'.toNat := rfl
    rw [value]
    omega

theorem foldl_toDigits (n : Nat) :
    (Nat.toDigits 10 n).foldl (fun e c => e * 10 + (digitValue c : Int)) 0 = n := by
  have fold := foldl_digits (Nat.toDigits 10 n) 0
  rw [Nat.ofDigitChars_ten_toDigits] at fold
  exact fold

/-! ### Numerals -/

/-- The number of a sign and digits. -/
def signed (negative : Bool) (n : Nat) : Int := if negative then -(n : Int) else n

/-- The integers that are kept exactly. -/
def Number.InBounds (n : Int) : Prop := leastInteger ≤ n ∧ n ≤ greatestInteger

instance (n : Int) : Decidable (Number.InBounds n) :=
  inferInstanceAs (Decidable (_ ∧ _))

theorem Numeral.value_toDigits (negative : Bool) (within : Number.InBounds (signed negative n))
    (notNegativeZero : negative = true → n ≠ 0) :
    Numeral.value ⟨negative, Nat.toDigits 10 n, none, none⟩ = .ok (.integer (signed negative n)) := by
  unfold Numeral.value
  have size : (Nat.toDigits 10 n).foldl (fun e c => e * 10 + (digitValue c : Int)) 0 = n :=
    foldl_toDigits n
  have zero : (negative && (n : Int) == 0) = false := by
    cases negative with
    | false => rfl
    | true => simpa using notNegativeZero rfl
  have value : (if negative = true then -(n : Int) else n) = signed negative n := rfl
  simp only [size, value, zero]
  simp [within.1, within.2]

/-- A character that cannot go on a numeral stands first, if any does. -/
def EndsNumeral (l : List Char) : Prop :=
  ∀ c, l.head? = some c → isDigit c = false ∧ c ≠ '.' ∧ c ≠ 'e' ∧ c ≠ 'E'

theorem takeWhile_digits (all : ∀ c ∈ digits, isDigit c = true) (ends : EndsNumeral rest) :
    (digits ++ rest).takeWhile isDigit = digits := by
  rw [List.takeWhile_append_of_pos all]
  cases rest with
  | nil => simp
  | cons c rest => simp [(ends c rfl).1]

theorem dropWhile_digits (all : ∀ c ∈ digits, isDigit c = true) (ends : EndsNumeral rest) :
    (digits ++ rest).dropWhile isDigit = rest := by
  rw [List.dropWhile_append_of_pos all]
  cases rest with
  | nil => rfl
  | cons c rest => simp [(ends c rfl).1]

theorem readExponent_of_ends (numeral : Numeral) (ends : EndsNumeral rest) :
    readExponent numeral rest = (.number numeral.value, rest) := by
  cases rest with
  | nil => rfl
  | cons c rest =>
    obtain ⟨-, -, lower, upper⟩ := ends c rfl
    simp [readExponent, lower, upper]

theorem readFraction_of_ends (numeral : Numeral) (ends : EndsNumeral rest) :
    readFraction numeral rest = (.number numeral.value, rest) := by
  unfold readFraction
  split
  · exact absurd rfl (ends '.' rfl).2.1
  · exact readExponent_of_ends numeral ends

theorem readNumber_toDigits (negative : Bool) (within : Number.InBounds (signed negative n))
    (notNegativeZero : negative = true → n ≠ 0) (ends : EndsNumeral rest) :
    readNumber negative (Nat.toDigits 10 n ++ rest) =
      (.number (.ok (.integer (signed negative n))), rest) := by
  have all : ∀ c ∈ Nat.toDigits 10 n, isDigit c = true := fun c => isDigit_of_mem_toDigits
  unfold readNumber
  rw [takeWhile_digits all ends, dropWhile_digits all ends]
  dsimp only
  split
  · rename_i none
    exact absurd none Nat.toDigits_ne_nil
  · rename_i c l two
    exact absurd two (toDigits_ne_zero_cons n c l)
  · rw [readFraction_of_ends _ ends, Numeral.value_toDigits negative within notNegativeZero]

/-! ### Negative zero -/

/-- An integer that is not kept as one. -/
def Number.minusZero : Number := .double { Decimal.Double.zero with negative := true }

theorem Numeral.value_minusZero :
    Numeral.value ⟨true, ['0'], some ['0'], none⟩ = .ok Number.minusZero := by
  have parts : Decimal.Double.ofParts? true 0 (-1) =
      some { Decimal.Double.zero with negative := true } := by decide +kernel
  have bound : ¬ exponentBound ≤ 0 := by decide
  have first : takeUp 0 ['0'] = (0, []) := by decide
  simp [value, double, first, bound, parts, Number.minusZero, pure, Except.pure]

theorem readNumber_minusZero (ends : EndsNumeral rest) :
    readNumber true ('0' :: '.' :: '0' :: rest) = (.number (.ok Number.minusZero), rest) := by
  have digit : ∀ c ∈ ['0'], isDigit c = true := List.forall_mem_singleton.mpr (by decide)
  have fraction : ('0' :: rest).takeWhile isDigit = ['0'] :=
    show (['0'] ++ rest).takeWhile isDigit = ['0'] from takeWhile_digits digit ends
  have after : ('0' :: rest).dropWhile isDigit = rest :=
    show (['0'] ++ rest).dropWhile isDigit = rest from dropWhile_digits digit ends
  show readFraction ⟨true, ['0'], none, none⟩ ('.' :: '0' :: rest) = _
  rw [readFraction, fraction, after]
  show readExponent ⟨true, ['0'], some ['0'], none⟩ rest = _
  rw [readExponent_of_ends _ ends, Numeral.value_minusZero]

end OrchestrationGraph.Json
