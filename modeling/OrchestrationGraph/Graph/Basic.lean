import OrchestrationGraph.Node.Basic

/-!
# Graphs

Nodes by name. Nodes are only ever added, and the first of a name stays.
-/

namespace OrchestrationGraph

structure Graph where
  nodes : Dictionary Node := ∅

namespace Graph

def contains (g : Graph) (name : String) : Bool := g.nodes.contains name

def get? (g : Graph) (name : String) : Option Node := g.nodes.get? name

def size (g : Graph) : Nat := g.nodes.size

def isEmpty (g : Graph) : Bool := g.nodes.isEmpty

/-- The names under which nodes are kept, in ascending order. -/
def names (g : Graph) : List String := g.nodes.keys

/-- The nodes in ascending order of the names under which they are kept. -/
def toList (g : Graph) : List Node := g.nodes.values

def ofKind (g : Graph) (kind : Node.Kind) : List Node := g.toList.filter fun n => n.kind = kind

def modify (g : Graph) (name : String) (f : Node → Node) : Graph := ⟨g.nodes.modify name f⟩

/-- Adds a node unless its name is taken; tells whether it was added. -/
def insert (g : Graph) (n : Node) : Graph × Bool :=
  if g.contains n.name then (g, false) else (⟨g.nodes.insert n.name n⟩, true)

/-- The first node of a name stays. -/
def ofList (l : List Node) : Graph := l.foldl (fun (g : Graph) n => (g.insert n).1) {}

/-- Adds bindings to the node of that name; tells whether there is one. -/
def addBindings (g : Graph) (name : String) (bs : List Binding) : Graph × Bool :=
  (g.modify name fun n => { n with bindings := n.bindings ++ bs }, g.contains name)

end Graph

end OrchestrationGraph
