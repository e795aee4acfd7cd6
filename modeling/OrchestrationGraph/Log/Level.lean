import OrchestrationGraph.Text.Lowercase

/-!
# Levels of log records
-/

namespace OrchestrationGraph.Log

/-- From the most talkative level to the gravest. -/
inductive Level where
  | trace
  | debug
  | info
  | warn
  | error
  deriving DecidableEq, Repr

namespace Level

def name : Level → String
  | trace => "trace"
  | debug => "debug"
  | info => "info"
  | warn => "warn"
  | error => "error"

def title : Level → String
  | trace => "TRACE"
  | debug => "DEBUG"
  | info => "INFO"
  | warn => "WARN"
  | error => "ERROR"

def all : List Level := [trace, debug, info, warn, error]

def rank : Level → Nat
  | trace => 0
  | debug => 1
  | info => 2
  | warn => 3
  | error => 4

/-- The level of that name, in any letter case. -/
def named? (name : String) : Option Level :=
  let name := Text.lower name
  all.find? fun l => l.name = name

end Level

end OrchestrationGraph.Log
