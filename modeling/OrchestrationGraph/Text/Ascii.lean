/-!
# ASCII letter case

Comparisons that ignore the case of the letters A to Z and no other character's.
-/

namespace OrchestrationGraph.Text

/-- Lower-cases A to Z; every other character stays. -/
def asciiLower (s : String) : String := s.map Char.toLower

/-- Upper-cases a to z; every other character stays. -/
def asciiUpper (s : String) : String := s.map Char.toUpper

/-- Equal when the case of ASCII letters is ignored. -/
def sameIgnoringCase (a b : String) : Bool := asciiLower a == asciiLower b

/-- `l` with `tail` taken off its end, if it ends so. -/
def dropTail? (tail l : List Char) : Option (List Char) :=
  if tail.isSuffixOf l then some (l.take (l.length - tail.length)) else none

end OrchestrationGraph.Text
