import OrchestrationGraph.Project.Event
import OrchestrationGraph.Tool.Basic

/-!
# The journal of a run

Everything that happens during a run and is worth a record, events included.
-/

namespace OrchestrationGraph

/-- An occurrence that is no event of the traversal. -/
inductive Note where
  | programStarted
  | argumentsRead (arguments : String)
  | settingsLoaded (settings : String)
  | temporaryCreated (path : String)
  | temporaryKept (path : String)
  | temporaryRemoved (path : String)
  | temporaryStuck (path error : String)
  | temporaryCleared (removed : Nat)
  | outputWritten (path : String)
  | toolStarted (command : Tool.Command)
  | toolEnded (command : Tool.Command) (outcome : Tool.Outcome)
  | cloned (url target : String)
  | published (output : String)
  | manifestLoaded (function : String) (bindings : Nat)
  | sourcesIndexed (files : Nat)
  | sourceUnreadable (path error : String)
  | folderUnlisted (path error : String)
  | scriptUnreadable (path error : String)
  | bindingsDeclared (function : String) (bindings : Nat)
  | allBindingsDeclared (bindings : Nat)
  deriving DecidableEq, Repr

inductive Entry where
  | event (e : Event)
  | note (n : Note)
  deriving DecidableEq, Repr

namespace Entry

def event? : Entry → Option Event
  | event e => some e
  | note _ => none

end Entry

end OrchestrationGraph
