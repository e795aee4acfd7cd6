import OrchestrationGraph.Binding.Label
import OrchestrationGraph.Graph.Basic

/-!
# Diagrams

A graph as the statements of a flowchart. Each node gives one block of statements; nodes that are
fired from outside and not called by others come first.
-/

namespace OrchestrationGraph

inductive Statement where
  /-- A function, drawn in the form of its kind. -/
  | function (name : String) (kind : Node.Kind)
  | call (caller callee : String)
  /-- What fires the function from outside. -/
  | trigger (name type label : String)
  /-- A binding, numbered among those of its function. -/
  | binding (name type : String) (index : Nat) (label : String) (direction : Direction)
  | signal (sender event target : String)
  | continuation (name : String)
  deriving DecidableEq, Repr

namespace Diagram

/-- Called by no function, but fired from outside. -/
def isEntryPoint (n : Node) : Bool := n.callers.isEmpty && n.externalTrigger?.isSome

def triggerStatements (n : Node) : List Statement :=
  if n.callers.isEmpty then
    n.externalTrigger?.elim [] fun b => [.trigger n.name b.type b.label]
  else []

def bindingStatements (n : Node) : List Statement :=
  (n.bindings.zipIdx.filter fun (b, _) => !b.isTrigger).map fun (b, i) =>
    .binding n.name b.type i b.label b.direction

def block (n : Node) : List Statement :=
  .function n.name n.kind ::
    n.callers.map (fun caller => .call caller n.name) ++
    triggerStatements n ++
    bindingStatements n ++
    n.signals.map (fun s => .signal s.sender s.event n.name) ++
    if n.continuesAsNew then [.continuation n.name] else []

/-- Entry points come before all others; within each group names ascend. -/
def comesBefore (a b : Node) : Bool :=
  if isEntryPoint a = isEntryPoint b then a.name ≤ b.name else isEntryPoint a

def order (g : Graph) : List Node := g.toList.mergeSort comesBefore

def statements (g : Graph) : List Statement := (order g).flatMap block

end Diagram

end OrchestrationGraph
