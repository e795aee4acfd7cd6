import OrchestrationGraph.Text.Offset

/-!
# Balanced spans

Bodies and argument lists are cut out of source text by counting brackets: the span ends with the
closing bracket that balances it, once a required character was seen inside the brackets.
-/

namespace OrchestrationGraph.Source

structure Brackets where
  opening : Char
  closing : Char
  /-- One of these has to stand inside the brackets before the span may end; none is asked for if
  the list is empty. -/
  required : List Char := []
  deriving Repr

namespace Brackets

/-- Depth after a character. An opening bracket counts first where both brackets are the same. The
depth has no bound here; a count in 32 bits is the same on texts of fewer than 2^31 characters. -/
def after (b : Brackets) (depth : Int) (c : Char) : Int :=
  if c = b.opening then depth + 1 else if c = b.closing then depth - 1 else depth

/-- Whether the character ends the span, given the depth after it and what was seen before. -/
def endsAt (b : Brackets) (depth : Int) (seen : Bool) (c : Char) : Bool :=
  c ≠ b.opening && c = b.closing && depth ≤ 0 && seen

/-- Whether a required character has been seen inside the brackets, the last character included. -/
def seenAfter (b : Brackets) (depth : Int) (seen : Bool) (c : Char) : Bool :=
  seen || (0 < depth && b.required.contains c)

/-- The length in characters of the rest of the span, given the depth and what was seen so far. -/
def spanLength? (b : Brackets) : Int → Bool → List Char → Option Nat
  | _, _, [] => none
  | depth, seen, c :: rest =>
    let now := b.after depth c
    if b.endsAt now seen c then some 1
    else (b.spanLength? now (b.seenAfter now seen c) rest).map (· + 1)

def span? (b : Brackets) (l : List Char) : Option (List Char) :=
  (b.spanLength? 0 b.required.isEmpty l).map l.take

/-- The span that begins at byte `start`, if a character begins there and the span closes. -/
def spanFrom? (b : Brackets) (start : Nat) (l : List Char) : Option (List Char) :=
  (Text.dropBytes? start l).bind b.span?

end Brackets

end OrchestrationGraph.Source
