import OrchestrationGraph.Project.Failure
import OrchestrationGraph.Project.Host
import OrchestrationGraph.Project.Journal
import OrchestrationGraph.Project.Settings

/-!
# Steps of a traversal

A step changes the session and may fail; the session outlives a failure. A session holds the state
of the host, the journal, and the temporary folders that have not been removed.
-/

namespace OrchestrationGraph

structure Session (σ : Type) where
  state : σ
  journal : List Entry := []
  /-- Temporary folders in the order in which they were recorded. -/
  temporary : List String := []

/-- A step that cannot fail. -/
abbrev Step (σ α : Type) : Type := StateM (Session σ) α

/-- A step that may fail. -/
abbrev Action (σ α : Type) : Type := ExceptT Failure (StateM (Session σ)) α

structure Context (σ : Type) where
  host : Host σ
  settings : Settings := {}

namespace Session

def events {σ : Type} (s : Session σ) : List Event := s.journal.filterMap Entry.event?

end Session

/-! ### Single steps

They are written for every monad over the session, so that they stand among steps that may fail as
well as among others. -/

section

variable {σ α : Type} {m : Type → Type} [Monad m] [MonadState (Session σ) m]

def ask (question : σ → α) : m α := do return question (← get).state

def perform (deed : σ → α × σ) : m α :=
  modifyGet fun (s : Session σ) => ((deed s.state).1, { s with state := (deed s.state).2 })

def note (n : Note) : m Unit :=
  modify fun (s : Session σ) => { s with journal := s.journal ++ [.note n] }

def Context.report (c : Context σ) (e : Event) : m Unit :=
  modify fun (s : Session σ) =>
    { s with state := c.host.hear e s.state, journal := s.journal ++ [.event e] }

end

namespace Context

variable {σ : Type}

/-- Fails if the traversal is asked to stop. -/
def checkpoint (c : Context σ) : Action σ Unit := do
  if ← perform c.host.isInterrupted then throw .cancelled

/-- Runs a command to its end; the error is that it could not be started. -/
def runTool (c : Context σ) (command : Tool.Command) :
    Step σ (Except FileError Tool.Outcome) := do
  note (.toolStarted command)
  let result ← perform (c.host.run command)
  if let .ok outcome := result then note (.toolEnded command outcome)
  return result

end Context

end OrchestrationGraph
