import OrchestrationGraph.Graph.Json

/-!
# Reports

What a traversal of a project hands out: the graph, and the temporary folders that its files lie in.
-/

namespace OrchestrationGraph

open Json (Reader Shape Value)

structure Report where
  graph : Graph := {}
  temporary : List String := []

namespace Report

/-- The paths that a report tells. -/
def paths (r : Report) : List String := r.graph.toList.filterMap (·.file) ++ r.temporary

def toJson (r : Report) : Value :=
  .object [("functions", r.graph.toJson), ("tempFolders", .ofTexts r.temporary)]

structure Partial where
  graph : Option Graph := none
  temporary : Option (List String) := none

def Partial.finish (r : Partial) : Except Json.Fault Report := do
  let some graph := r.graph | throw (.missingField "functions")
  let some temporary := r.temporary | throw (.missingField "tempFolders")
  return { graph, temporary }

def shape : Shape Partial Report where
  title := "TraversalResult"
  fields := [
    { name := "functions", required := true, isSet := fun r => r.graph.isSome,
      read := fun room r v => do return { r with graph := some (← Graph.reader room v) } },
    { name := "tempFolders", required := true, isSet := fun r => r.temporary.isSome,
      read := fun room r v => do
        return { r with
          temporary := some (← Reader.list (Reader.textAs "path string") room v) } }]
  start := {}
  finish := Partial.finish

def reader : Reader Report := shape.reader

end Report

end OrchestrationGraph
