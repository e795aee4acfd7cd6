import OrchestrationGraph.Graph.Edge
import OrchestrationGraph.Source.Basic
import OrchestrationGraph.Usage

/-!
# Finding edges

Functions are grouped by kind, and the code of each is searched for the uses that lead to another
group. Only functions whose source code is known take part, at either end of an edge.
-/

namespace OrchestrationGraph

structure Located where
  name : String
  code : List Char
  deriving DecidableEq

namespace Graph

/-- The located functions of one kind, in ascending order of names. -/
def located (g : Graph) (sources : Dictionary Source) (kind : Node.Kind) : List Located :=
  (g.ofKind kind).filterMap fun n => (sources.get? n.name).map fun s => ⟨n.name, s.code.toList⟩

def users (p : Pattern) (l : List Located) : List Located := l.filter fun f => p.occursIn f.code

def startEdges (others : List Located) (o : Located) : List Edge :=
  (users (Usage.startsOrchestration o.name) others).map fun f => .call f.name o.name

/-- Orchestrations that the orchestration calls, itself left out. -/
def subOrchestrationEdges (orchestrators : List Located) (o : Located) : List Edge :=
  (orchestrators.filter fun s =>
    s.name ≠ o.name && (Usage.callsOrchestration s.name).occursIn o.code).map
      fun s => .call o.name s.name

def activityEdges (activities : List Located) (o : Located) : List Edge :=
  (activities.filter fun a => (Usage.callsActivity a.name).occursIn o.code).map
    fun a => .call o.name a.name

def continuationEdges (o : Located) : List Edge :=
  if Usage.continuesAsNew.occursIn o.code then [.continuation o.name] else []

/-- Functions that raise an event for which the orchestration waits. -/
def signalEdges (others : List Located) (o : Located) : List Edge :=
  (Usage.awaitedEvents o.code).flatMap fun event =>
    (users (Usage.raisesEvent event) others).map fun f => .signal f.name o.name event

def entityEdges (others : List Located) (e : Located) : List Edge :=
  (users (Usage.refersToEntity e.name) others).map fun f => .call f.name e.name

/-- Every edge between located functions: first those of each orchestration, then those of each
entity. -/
def findEdges (g : Graph) (sources : Dictionary Source) : List Edge :=
  let orchestrators := g.located sources .orchestrator
  let activities := g.located sources .activity
  let entities := g.located sources .entity
  let others := g.located sources .other
  (orchestrators.flatMap fun o =>
    startEdges others o ++ subOrchestrationEdges orchestrators o ++ activityEdges activities o ++
      continuationEdges o ++ signalEdges others o) ++
  entities.flatMap (entityEdges others)

end Graph

end OrchestrationGraph
