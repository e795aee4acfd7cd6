import OrchestrationGraph.Graph.Basic

/-!
# Edges

An edge is noted at the node to which it leads, and only if all functions it names are in the graph;
otherwise it is refused and the graph stays as it is.
-/

namespace OrchestrationGraph

inductive Edge where
  | call (caller callee : String)
  | signal (sender target event : String)
  /-- A function starts itself anew. -/
  | continuation (function : String)
  deriving DecidableEq, Repr

namespace Edge

def target : Edge → String
  | call _ callee => callee
  | signal _ target _ => target
  | continuation function => function

def ends : Edge → List String
  | call caller callee => [caller, callee]
  | signal sender target _ => [sender, target]
  | continuation function => [function]

def note : Edge → Node → Node
  | call caller _, n => { n with callers := n.callers ++ [caller] }
  | signal sender _ event, n => { n with signals := n.signals ++ [⟨sender, event⟩] }
  | continuation _, n => { n with continuesAsNew := true }

end Edge

namespace Graph

/-- Notes an edge; tells whether it was kept. -/
def apply (g : Graph) (e : Edge) : Graph × Bool :=
  if e.ends.all g.contains then (g.modify e.target e.note, true) else (g, false)

/-- Notes edges in order; tells how many were kept. -/
def applyAll : Graph → List Edge → Graph × Nat
  | g, [] => (g, 0)
  | g, e :: edges =>
    let (g, kept) := g.apply e
    let (g, n) := g.applyAll edges
    (g, if kept then n + 1 else n)

end Graph

end OrchestrationGraph
