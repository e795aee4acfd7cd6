import OrchestrationGraph.Files.Error

/-!
# Failures of a traversal

What ends a traversal before its time. Whatever can be passed over is an event instead.

Two kinds that a traversal has a name for do not occur here. A search pattern is never refused: the
names in it are escaped, and only an event's name of some hundred thousand characters makes one that
exceeds the size a pattern may have. And no task in the background breaks down, as those that read
files neither panic nor are called off.
-/

namespace OrchestrationGraph

inductive Failure where
  | pathNotFound (path : String)
  | manifestNotFound (root : String)
  | clone (url message : String)
  | publish (project message : String)
  | file (path : String) (error : FileError)
  | cancelled
  deriving DecidableEq, Repr

namespace Failure

def message : Failure → String
  | pathNotFound path => "Path does not exist: " ++ path
  | manifestNotFound root => "host.json file not found under " ++ root
  | clone url message => "Failed to clone " ++ url ++ ": " ++ message
  | publish project message => "Failed to publish " ++ project ++ ": " ++ message
  | file path error => "I/O error at " ++ path ++ ": " ++ error.message
  | cancelled => "Traversal cancelled"

def cause? : Failure → Option FileError
  | file _ error => some error
  | _ => none

/-- The message and, after it, that of the cause, although the former may name it already. -/
def chain (f : Failure) : String := f.message ++ f.cause?.elim "" fun e => ": " ++ e.message

end Failure

end OrchestrationGraph
