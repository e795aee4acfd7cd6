import OrchestrationGraph.Graph.Declared
import OrchestrationGraph.Graph.Inference
import OrchestrationGraph.Project.Root
import OrchestrationGraph.Project.Sources
import OrchestrationGraph.Report.Basic

/-!
# Traversals

From a location to the graph of the project there: the root, the runtime, the catalog, the sources,
the edges, and for .NET the declared bindings. A failure ends the whole; there are no partial
graphs.
-/

namespace OrchestrationGraph

variable {σ : Type}

namespace Graph

/-- Notes where the sources of functions were found. -/
def place (g : Graph) (sources : Dictionary Source) : Graph :=
  sources.entries.foldl (fun g (name, s) =>
    g.modify name fun n =>
      { n with file := some s.file, position := some s.position, line := some s.line }) g

/-- The functions that get declared bindings, with their number. -/
def declaredCounts (g : Graph) (sources : Dictionary Source) : List (String × Nat) :=
  ((g.ofKind .other).map fun n => (n.name, (declaredFor sources n.name).length)).filter
    fun e => e.2 ≠ 0 && g.contains e.1

end Graph

namespace Context

def declare (g : Graph) (sources : Dictionary Source) : Step σ Graph := do
  (g.declaredCounts sources).forM fun (name, n) => note (.bindingsDeclared name n)
  let (g, n) := g.declareBindings sources
  note (.allBindingsDeclared n)
  return g

def stages (c : Context σ) (location : String) : Action σ Graph := do
  let root ← c.projectRoot (.ofText location)
  c.checkpoint
  let runtime ← Runtime.detect c root
  c.report (.runtimeDetected runtime.name)
  let working ← if runtime = .dotnet then c.publish root else pure root
  c.checkpoint
  let catalog ← Catalog.build c working
  c.checkpoint
  let sources ← catalog.locate c runtime root working
  c.checkpoint
  let g := catalog.graph.place sources
  let (g, n) := g.applyAll (g.findEdges sources)
  c.report (.matchingComplete n)
  if runtime = .dotnet then (declare g sources : Step σ Graph) else pure g

/-- The traversal of the project at a location. The first event says that it starts, the last one
how it ended. -/
def traverse (c : Context σ) (location : String) : Step σ (Except Failure Report) := do
  c.report (.started location)
  match ← (c.stages location).run with
  | .ok graph =>
    c.report (.completed graph.size)
    return .ok { graph, temporary := (← get).temporary }
  | .error failure =>
    c.report (.failed failure.message)
    return .error failure

end Context

end OrchestrationGraph
