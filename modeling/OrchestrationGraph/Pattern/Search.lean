import OrchestrationGraph.Pattern.Table
import OrchestrationGraph.Text.Offset

/-!
# Searching

The first match of a pattern in a text, and all matches one after the other. Of the matches at one
place the preferred one counts, and of two places the earlier.
-/

namespace OrchestrationGraph

/-- A match: where it starts and stops, and the places noted in between. -/
structure Match where
  start : Nat
  stop : Nat
  marks : List (Mark × Nat)
  deriving DecidableEq, Repr

namespace Match

/-- The characters of `text` from place `i` up to place `j`. -/
def slice (text : List Char) (i j : Nat) : List Char := (text.drop i).take (j - i)

/-- The text of a named group, if the match went through it. -/
def group? (m : Match) (name : String) (text : List Char) : Option (List Char) := do
  let (_, i) ← m.marks.find? fun e => e.1 = .opens name
  let (_, j) ← m.marks.find? fun e => e.1 = .closes name
  return slice text i j

/-- The bytes before the match and the bytes up to its end. -/
def byteSpan (m : Match) (text : List Char) : Nat × Nat :=
  (Text.byteLength (text.take m.start), Text.byteLength (text.take m.stop))

end Match

namespace Pattern

/-- The preferred match from each place. -/
def hits (p : Pattern) (text : List Char) : Table := p.table text (.halt text.length)

def occursIn (p : Pattern) (text : List Char) : Bool := (p.hits text).any Option.isSome

/-- The matches that the table offers from its first place on, that place being `i`. -/
def matchesFrom : Nat → Table → List Match
  | _, [] => []
  | i, none :: table => matchesFrom (i + 1) table
  | i, some h :: table => ⟨i, h.stop, h.marks⟩ :: matchesFrom (i + 1) table

/-- The preferred match at every place that has one, overlaps included. -/
def allMatches (p : Pattern) (text : List Char) : List Match := matchesFrom 0 (p.hits text)

def find? (p : Pattern) (text : List Char) : Option Match := (p.allMatches text).head?

/-- Leaves out each match that starts before the one kept last has stopped. -/
def withoutOverlaps : Nat → List Match → List Match
  | _, [] => []
  | free, m :: rest =>
    if m.start < free then withoutOverlaps free rest
    else m :: withoutOverlaps m.stop rest

def findAll (p : Pattern) (text : List Char) : List Match :=
  withoutOverlaps 0 (p.allMatches text)

end Pattern

end OrchestrationGraph
