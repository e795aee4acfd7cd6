import OrchestrationGraph.Json.Printer
import OrchestrationGraph.Json.Token.Text

/-!
# Written texts read back

Each character of a text is written as itself, as a short escape or as a number, and is read back as
one unit. No character is written as a pair of surrogates.
-/

namespace OrchestrationGraph.Json

variable {c d : Char}

/-- Whether a character is written as its number. -/
def isNumbered (c : Char) : Bool :=
  c.toNat < 0x20 && c != '\x08' && c != '\t' && c != '\n' && c != '\x0c' && c != '\r'

/-- What a written character reads as. -/
def unitOf (c : Char) : Unit16 := if isNumbered c then .code c.toNat else .char c

/-- A character is written as a short escape, as its number or as itself. -/
theorem escapedChar_cases (c : Char) :
    (∃ e, escapedChar c = ['\\', e] ∧ shortEscape? e = some c ∧ e ≠ 'u' ∧ isNumbered c = false) ∨
    (escapedChar c = '\\' :: 'u' :: '0' :: '0' :: hexByte c.toNat ∧
      c.toNat < 0x20 ∧ isNumbered c = true) ∨
    (escapedChar c = [c] ∧ c ≠ '"' ∧ c ≠ '\\' ∧ ¬ c.toNat < 0x20 ∧ isNumbered c = false) := by
  by_cases quote : c = '"'
  · subst quote
    exact .inl ⟨'"', rfl, rfl, by decide, rfl⟩
  by_cases backslash : c = '\\'
  · subst backslash
    exact .inl ⟨'\\', rfl, rfl, by decide, rfl⟩
  by_cases backspace : c = '\x08'
  · subst backspace
    exact .inl ⟨'b', rfl, rfl, by decide, rfl⟩
  by_cases tab : c = '\t'
  · subst tab
    exact .inl ⟨'t', rfl, rfl, by decide, rfl⟩
  by_cases lineFeed : c = '\n'
  · subst lineFeed
    exact .inl ⟨'n', rfl, rfl, by decide, rfl⟩
  by_cases formFeed : c = '\x0c'
  · subst formFeed
    exact .inl ⟨'f', rfl, rfl, by decide, rfl⟩
  by_cases carriageReturn : c = '\r'
  · subst carriageReturn
    exact .inl ⟨'r', rfl, rfl, by decide, rfl⟩
  by_cases control : c.toNat < 0x20
  · refine .inr (.inl ⟨?_, control, ?_⟩)
    · simp [escapedChar, quote, backslash, backspace, tab, lineFeed, formFeed, carriageReturn,
        control]
    · simp [isNumbered, backspace, tab, lineFeed, formFeed, carriageReturn, control]
  · refine .inr (.inr ⟨?_, quote, backslash, control, ?_⟩)
    · simp [escapedChar, quote, backslash, backspace, tab, lineFeed, formFeed, carriageReturn,
        control]
    · simp [isNumbered, control]

/-! ### Units -/

theorem hexNumber?_hexByte :
    ∀ n < 0x20, hexNumber? (['0', '0'] ++ hexByte n) = some n ∧
      Text.byteLength (['0', '0'] ++ hexByte n) = 4 := by
  decide

theorem readUnits_number {n : Nat} (small : n < 0x20) (l : List Char) :
    readUnits ('\\' :: 'u' :: (['0', '0'] ++ hexByte n) ++ l) =
      (.code n :: (readUnits l).1, (readUnits l).2) := by
  obtain ⟨value, width⟩ := hexNumber?_hexByte n small
  have four : (['0', '0'] ++ hexByte n ++ l).take 4 = ['0', '0'] ++ hexByte n := rfl
  have after : (['0', '0'] ++ hexByte n ++ l).drop 4 = l := rfl
  rw [List.cons_append, List.cons_append, readUnits, four, after, width, value]
  rfl

theorem readUnits_short {e : Char} (short : shortEscape? e = some c) (notNumber : e ≠ 'u')
    (l : List Char) :
    readUnits ('\\' :: e :: l) = (.char c :: (readUnits l).1, (readUnits l).2) := by
  rw [readUnits, short]
  exact notNumber

theorem readUnits_plain (notQuote : c ≠ '"') (notEscape : c ≠ '\\') (visible : ¬ c.toNat < 0x20)
    (l : List Char) : readUnits (c :: l) = (.char c :: (readUnits l).1, (readUnits l).2) := by
  rw [readUnits, if_neg visible]
  · exact notQuote
  · exact fun escape _ => notEscape escape
  · exact fun _ escape _ => notEscape escape
  · exact fun _ _ escape _ => notEscape escape

theorem readUnits_escapedChar (c : Char) (l : List Char) :
    readUnits (escapedChar c ++ l) = (unitOf c :: (readUnits l).1, (readUnits l).2) := by
  obtain ⟨e, written, short, notNumber, plain⟩ | ⟨written, small, numbered⟩ |
    ⟨written, notQuote, notEscape, visible, plain⟩ := escapedChar_cases c
  · have unit : unitOf c = .char c := by simp [unitOf, plain]
    rw [written, unit]
    exact readUnits_short short notNumber l
  · have unit : unitOf c = .code c.toNat := by simp [unitOf, numbered]
    rw [written, unit]
    exact readUnits_number small l
  · have unit : unitOf c = .char c := by simp [unitOf, plain]
    rw [written, unit]
    exact readUnits_plain notQuote notEscape visible l

theorem readUnits_escaped (s rest : List Char) :
    readUnits (s.flatMap escapedChar ++ '"' :: rest) = (s.map unitOf, .closed, rest) := by
  induction s with
  | nil => rw [List.flatMap_nil, List.nil_append, readUnits, List.map_nil]
  | cons c s ih =>
    rw [List.flatMap_cons, List.append_assoc, readUnits_escapedChar, ih, List.map_cons]

/-! ### Texts -/

theorem joinUnits_unitOf (c : Char) (units : List Unit16) :
    joinUnits .closed (unitOf c :: units) = (joinUnits .closed units).map (c :: ·) := by
  unfold unitOf
  split
  · rename_i numbered
    have small : c.toNat < 0x20 := by
      unfold isNumbered at numbered
      simp only [Bool.and_eq_true, decide_eq_true_iff] at numbered
      exact numbered.1.1.1.1.1
    have notTrailing : isTrailing c.toNat = false := by
      simp only [isTrailing, Bool.and_eq_false_iff, decide_eq_false_iff_not]
      omega
    have notLeading : isLeading c.toNat = false := by
      simp only [isLeading, Bool.and_eq_false_iff, decide_eq_false_iff_not]
      omega
    rw [joinUnits.eq_def]
    simp [notTrailing, notLeading, Char.ofNat_toNat]
  · rw [joinUnits]

theorem joinUnits_map_unitOf (s : List Char) : joinUnits .closed (s.map unitOf) = .ok s := by
  induction s with
  | nil => rfl
  | cons c s ih =>
    rw [List.map_cons, joinUnits_unitOf, ih]
    rfl

/-- A written text reads as itself, whatever its characters. -/
theorem readText_escaped (s : String) (rest : List Char) :
    readText (s.toList.flatMap escapedChar ++ '"' :: rest) = (.text (.ok s), rest) := by
  unfold readText
  rw [readUnits_escaped]
  dsimp only [TextEnd.fault?]
  rw [joinUnits_map_unitOf]
  show (Token.text (.ok (String.ofList s.toList)), rest) = (.text (.ok s), rest)
  rw [String.ofList_toList]

end OrchestrationGraph.Json
