/-!
# Events of a traversal

What a traversal tells those who watch it, in the order in which it happens.
-/

namespace OrchestrationGraph

inductive Event where
  | started (location : String)
  | cloneStarted (url target : String)
  | manifestFound (path : String)
  | runtimeDetected (runtime : String)
  | publishStarted (project output : String)
  /-- A function's manifest could not be read; the function is left out. -/
  | manifestFailed (path error : String)
  | catalogComplete (functions : Nat)
  /-- A function's source code could not be found; it stays without edges. -/
  | sourceNotFound (function : String)
  | matchingComplete (edges : Nat)
  | completed (functions : Nat)
  | failed (error : String)
  deriving DecidableEq, Repr

end OrchestrationGraph
