import OrchestrationGraph.Json.Fault

/-!
# Words of a JSON text

A text falls into tokens. Two kinds of reader use them: one that wants the value, and one that skips
it and does not notice numbers that are too large or halves of surrogate pairs. A token that is none
keeps the fault that each of the two meets.
-/

namespace OrchestrationGraph.Json

inductive Token where
  | comma
  | colon
  | openList
  | closeList
  | openObject
  | closeObject
  | null
  | bool (b : Bool)
  | number (n : Except Fault Number)
  | text (s : Except Fault String)
  | brokenText (fault skipping : Fault)
  | broken (fault skipping : Fault)

end OrchestrationGraph.Json
