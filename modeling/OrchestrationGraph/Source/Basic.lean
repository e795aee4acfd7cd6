/-!
# Located source code

The part of a file that belongs to a function.
-/

namespace OrchestrationGraph

structure Source where
  function : String
  code : String
  file : String
  /-- The byte in the file at which the function's part begins. -/
  position : Nat
  line : Nat
  deriving DecidableEq, Repr, Inhabited

end OrchestrationGraph
