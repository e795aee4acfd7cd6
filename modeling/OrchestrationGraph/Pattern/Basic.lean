/-!
# Patterns

Search patterns over text as data, and what they mean: `Pattern.Accepts p before taken after` says
that between `before` and `after` the pattern `p` may take exactly `taken`. Preference among several
ways to take text is the business of `Pattern.table`; the two are tied there.
-/

namespace OrchestrationGraph

/-- Simple case folding, as far as it leads to an ASCII letter: besides the capitals A to Z that is
the Kelvin sign and the long s. -/
def foldCase (c : Char) : Char :=
  if c = '\u212A' then 'k' else if c = '\u017F' then 's' else c.toLower

inductive Mark where
  | opens (group : String)
  | closes (group : String)
  deriving DecidableEq, Repr

inductive Pattern where
  /-- Exactly this text. -/
  | literal (text : List Char)
  /-- This text, whatever the case of its letters. -/
  | folded (text : List Char)
  /-- One character of a class. -/
  | oneOf (cls : Char → Bool)
  /-- Any number of characters of a class, rather more than fewer. -/
  | many (cls : Char → Bool)
  /-- Any number of characters of a class, rather fewer than more. -/
  | few (cls : Char → Bool)
  /-- One after the other. -/
  | seq (first second : Pattern)
  /-- One of the two, rather the first. -/
  | either (first second : Pattern)
  /-- No text; the place is noted. -/
  | mark (m : Mark)
  /-- No text, between a word character and one that is none. -/
  | edge (word : Char → Bool)
  /-- No text, at the start of the whole text. -/
  | atStart
  /-- No text, at the end of the whole text. -/
  | atEnd

namespace Pattern

instance : Append Pattern := ⟨seq⟩

/-- No text. -/
def nothing : Pattern := literal []

/-- The pattern or no text, rather the pattern. -/
def optional (p : Pattern) : Pattern := either p nothing

/-- One of several, an earlier one rather than a later. -/
def choice (first : Pattern) (others : List Pattern) : Pattern :=
  match others with
  | [] => first
  | next :: rest => either first (choice next rest)

/-- At least one character of a class, rather more than fewer. -/
def oneOrMore (cls : Char → Bool) : Pattern := oneOf cls ++ many cls

/-- At least one character of a class, rather fewer than more. -/
def oneOrFew (cls : Char → Bool) : Pattern := oneOf cls ++ few cls

/-- A pattern whose text is wanted under a name. -/
def group (name : String) (p : Pattern) : Pattern :=
  mark (.opens name) ++ p ++ mark (.closes name)

/-- Whether a word starts or ends between the two neighbours. -/
def isEdge (word : Char → Bool) (before after : Option Char) : Bool :=
  before.any word != after.any word

/-- Between `before` and `after` the pattern may take exactly `taken`. -/
def Accepts : Pattern → (before taken after : List Char) → Prop
  | literal text, _, taken, _ => taken = text
  | folded text, _, taken, _ => taken.map foldCase = text.map foldCase
  | oneOf cls, _, taken, _ => ∃ c, taken = [c] ∧ cls c = true
  | many cls, _, taken, _ => ∀ c ∈ taken, cls c = true
  | few cls, _, taken, _ => ∀ c ∈ taken, cls c = true
  | seq p q, before, taken, after => ∃ t₁ t₂, taken = t₁ ++ t₂ ∧
      p.Accepts before t₁ (t₂ ++ after) ∧ q.Accepts (before ++ t₁) t₂ after
  | either p q, before, taken, after =>
      p.Accepts before taken after ∨ q.Accepts before taken after
  | mark _, _, taken, _ => taken = []
  | edge word, before, taken, after =>
      taken = [] ∧ isEdge word before.getLast? after.head? = true
  | atStart, before, taken, _ => taken = [] ∧ before = []
  | atEnd, _, taken, after => taken = [] ∧ after = []

/-- Somewhere in the text the pattern may take something. -/
def Occurs (p : Pattern) (text : List Char) : Prop :=
  ∃ before taken after, text = before ++ taken ++ after ∧ p.Accepts before taken after

end Pattern

end OrchestrationGraph
