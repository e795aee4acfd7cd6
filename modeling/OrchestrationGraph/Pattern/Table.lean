import OrchestrationGraph.Pattern.Basic

/-!
# Matching by tables

A table holds, for each place of a text from its start to its end, the preferred way to finish a
match from there, if there is one. A pattern turns the table of what follows it into the table of
itself and what follows (`Pattern.table`), so a match costs one pass over the text for each part of
the pattern. Since the way on depends on the place alone, preference is settled place by place.
-/

namespace OrchestrationGraph

/-- How a match went on from a place: where it stopped, and the places noted on the way. Places
count characters. -/
structure Hit where
  stop : Nat
  marks : List (Mark × Nat) := []
  deriving DecidableEq, Repr

/-- For each place, the preferred way to finish from there. -/
abbrev Table := List (Option Hit)

namespace Table

/-- Stopping right here, at each of `n + 1` places. -/
def halt (n : Nat) : Table := (List.range (n + 1)).map fun i => some { stop := i }

/-- Keeps a way on where the text that follows passes `test`. -/
def filterTails (test : List Char → Bool) : List Char → Table → Table
  | _, [] => []
  | text, k :: table => (if test text then k else none) :: filterTails test text.tail table

/-- The way on after `n` more characters; there is none from the last `n` places. -/
def later (n : Nat) (table : Table) : Table :=
  table.drop n ++ List.replicate (min n table.length) none

/-- Goes on over characters of the class as long as a later place offers a way to finish, and
stops early only where none does. -/
def extend (cls : Char → Bool) : List Char → Table → Table
  | c :: text, k :: table =>
    let rest := extend cls text table
    (if cls c then (rest.head?.join).or k else k) :: rest
  | _, table => table

/-- Stops as early as a place offers a way to finish, and goes on over characters of the class only
where it offers none. -/
def delay (cls : Char → Bool) : List Char → Table → Table
  | c :: text, k :: table =>
    let rest := delay cls text table
    (if cls c then k.or rest.head?.join else k) :: rest
  | _, table => table

/-- Notes the place in every way on; `i` is the first place. -/
def note (m : Mark) : Nat → Table → Table
  | _, [] => []
  | i, k :: table => (k.map fun h => { h with marks := (m, i) :: h.marks }) :: note m (i + 1) table

/-- Keeps a way on at the edges of words; `prev` stands before the first place. -/
def filterEdges (word : Char → Bool) : Option Char → List Char → Table → Table
  | _, _, [] => []
  | prev, text, k :: table =>
    (if Pattern.isEdge word prev text.head? then k else none) ::
      filterEdges word text.head? text.tail table

/-- Keeps the first place's way on. -/
def onlyFirst : Table → Table
  | [] => []
  | k :: table => k :: table.map fun _ => none

/-- Keeps the last place's way on. -/
def onlyLast : Table → Table
  | [] => []
  | [k] => [k]
  | _ :: table => none :: onlyLast table

end Table

/-- Whether `text` begins with `wanted`, letter case aside. -/
def beginsFolded : (wanted text : List Char) → Bool
  | [], _ => true
  | _ :: _, [] => false
  | w :: wanted, c :: text => foldCase w == foldCase c && beginsFolded wanted text

/-- The table of the pattern followed by what `table` stands for. -/
def Pattern.table (text : List Char) : Pattern → Table → Table
  | literal wanted, table => .filterTails wanted.isPrefixOf text (.later wanted.length table)
  | folded wanted, table => .filterTails (beginsFolded wanted) text (.later wanted.length table)
  | oneOf cls, table => .filterTails (fun l => l.head?.any cls) text (.later 1 table)
  | many cls, table => .extend cls text table
  | few cls, table => .delay cls text table
  | seq p q, table => p.table text (q.table text table)
  | either p q, table => (p.table text table).zipWith Option.or (q.table text table)
  | mark m, table => .note m 0 table
  | edge word, table => .filterEdges word none text table
  | atStart, table => .onlyFirst table
  | atEnd, table => .onlyLast table

end OrchestrationGraph
