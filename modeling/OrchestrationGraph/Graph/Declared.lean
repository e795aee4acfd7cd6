import OrchestrationGraph.Binding.Attribute
import OrchestrationGraph.Graph.Basic
import OrchestrationGraph.Source.Basic

/-!
# Declared bindings

Located functions that no durable trigger fires get the bindings that their code declares by
attributes.
-/

namespace OrchestrationGraph.Graph

def declaredFor (sources : Dictionary Source) (name : String) : List Binding :=
  (sources.get? name).elim [] fun s => Binding.declaredIn s.code.toList

/-- Adds the declared bindings of the functions named; tells how many were added. -/
def declareEach (sources : Dictionary Source) : Graph → List String → Graph × Nat
  | g, [] => (g, 0)
  | g, name :: names =>
    let bs := declaredFor sources name
    let (g, found) := g.addBindings name bs
    let (g, n) := declareEach sources g names
    (g, if found then n + bs.length else n)

/-- Adds all declared bindings; tells how many were added. -/
def declareBindings (g : Graph) (sources : Dictionary Source) : Graph × Nat :=
  declareEach sources g ((g.ofKind .other).map (·.name))

end OrchestrationGraph.Graph
