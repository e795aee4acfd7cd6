import OrchestrationGraph.Binding.Basic

/-!
# Nodes

A node of the graph is a function with its bindings, the functions that call or signal it, and the
place of its source code as far as that is known.
-/

namespace OrchestrationGraph

/-- Another function raises an event that this one waits for. -/
structure Signal where
  sender : String
  event : String
  deriving DecidableEq, Repr, Inhabited

structure Node where
  name : String
  bindings : List Binding := []
  callers : List String := []
  signals : List Signal := []
  continuesAsNew : Bool := false
  file : Option String := none
  /-- The byte in the file at which the declaration starts. -/
  position : Option Nat := none
  line : Option Nat := none

/-- The group of a function, which decides what it may call. -/
inductive Node.Kind where
  | orchestrator
  | activity
  | entity
  | other
  deriving DecidableEq, Repr

namespace Node

def Kind.name : Kind → String
  | orchestrator => "orchestrator"
  | activity => "activity"
  | entity => "entity"
  | other => "function"

/-- The kind that a durable trigger makes. -/
def Kind.ofTrigger (b : Binding) : Kind :=
  if b.isType Binding.orchestrationTrigger then .orchestrator
  else if b.isType Binding.activityTrigger then .activity
  else .entity

/-- The first durable trigger decides. -/
def kind (n : Node) : Kind := (n.bindings.find? Binding.isDurable).elim .other Kind.ofTrigger

def trigger? (n : Node) : Option Binding := n.bindings.find? Binding.isTrigger

def externalTrigger? (n : Node) : Option Binding := n.bindings.find? Binding.isExternal

end Node

end OrchestrationGraph
