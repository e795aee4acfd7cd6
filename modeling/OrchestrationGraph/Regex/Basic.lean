/-!
# Regular expressions

Expressions that are only known when the program runs. Of the ways in which an expression can match
from a place, the preferred one counts: `Regex.stops` gives for each place of a text where the
preferred way from there stops, in terms of what follows the expression.
-/

namespace OrchestrationGraph

inductive Regex where
  /-- No text. -/
  | nothing
  /-- One character of a class. -/
  | oneOf (cls : Char → Bool)
  /-- No text, where the characters before and after the place pass the test. -/
  | between (test : Option Char → Option Char → Bool)
  /-- One after the other. -/
  | seq (first second : Regex)
  /-- One of the two, rather the first. -/
  | either (first second : Regex)
  /-- Any number of times, rather more than fewer unless it is `reluctant`. -/
  | repeated (r : Regex) (reluctant : Bool)

/-- For each place of a text, from its start to its end, where the preferred way from there stops.
-/
abbrev Stops := List (Option Nat)

namespace Stops

/-- Stopping right here, at each of `n + 1` places. -/
def here (n : Nat) : Stops := (List.range (n + 1)).map some

/-- One character of the class, and then on. -/
def step (cls : Char → Bool) : List Char → Stops → Stops
  | c :: text, _ :: stops => (if cls c then stops.head?.join else none) :: step cls text stops
  | _, stops => stops.map fun _ => none

/-- Keeps the ways on from places whose neighbours pass the test; `before` stands before the first
place. -/
def keep (test : Option Char → Option Char → Bool) : Option Char → List Char → Stops → Stops
  | _, _, [] => []
  | before, text, k :: stops =>
    (if test before text.head? then k else none) :: keep test text.head? text.tail stops

/-- Where the first offers no way, the second does. -/
def orElse (first second : Stops) : Stops := first.zipWith Option.or second

/-- Goes through `pass` again and again before it goes on as `after` says, or goes on at once if
`reluctant`. From `sofar`, each round adds one pass; once a round adds nothing, no other will. -/
def again (pass : Stops → Stops) (reluctant : Bool) (after : Stops) :
    (rounds : Nat) → (sofar : Stops) → Stops
  | 0, sofar => sofar
  | rounds + 1, sofar =>
    let next := if reluctant then after.orElse (pass sofar) else (pass sofar).orElse after
    if next = sofar then sofar else again pass reluctant after rounds next

end Stops

namespace Regex

def oneOrMore (r : Regex) (reluctant : Bool) : Regex := seq r (repeated r reluctant)

def optional (r : Regex) (reluctant : Bool) : Regex :=
  if reluctant then either nothing r else either r nothing

/-- The stops of the expression followed by what `after` stands for. A repetition passes at most
once through each place. -/
def stops (text : List Char) : Regex → Stops → Stops
  | nothing, after => after
  | oneOf cls, after => .step cls text after
  | between test, after => .keep test none text after
  | seq r s, after => r.stops text (s.stops text after)
  | either r s, after => (r.stops text after).orElse (s.stops text after)
  | repeated r reluctant, after =>
    .again (r.stops text) reluctant after (text.length + 1) after

/-- The first match of all: its start and its stop. -/
def find? (r : Regex) (text : List Char) : Option (Nat × Nat) :=
  ((r.stops text (.here text.length)).zipIdx.findSome? fun (stop?, i) => stop?.map (i, ·))

end Regex

end OrchestrationGraph
