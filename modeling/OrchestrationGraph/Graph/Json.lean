import OrchestrationGraph.Graph.Basic
import OrchestrationGraph.Node.Json

/-!
# Graphs in JSON

An object of nodes by name. A node may be kept under a name that is not its own.
-/

namespace OrchestrationGraph.Graph

def toJson (g : Graph) : Json.Value := .object (g.nodes.entries.map fun e => (e.1, e.2.toJson))

def reader : Json.Reader Graph := fun room v => do
  return ⟨← Json.Reader.dictionary Node.reader room v⟩

end OrchestrationGraph.Graph
