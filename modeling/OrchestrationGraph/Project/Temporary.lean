import OrchestrationGraph.Files.Path
import OrchestrationGraph.Project.Action

/-!
# Temporary folders

A folder is recorded before it is made, so that none is forgotten when making or using it fails.
Nothing is removed by itself.
-/

namespace OrchestrationGraph

variable {σ : Type}

/-- Adds a folder to a record, unless it is there already. -/
def recorded (folders : List String) (path : String) : List String :=
  if folders.any (Path.same path) then folders else folders ++ [path]

def recordTemporary {m : Type → Type} [MonadState (Session σ) m] (path : String) : m Unit :=
  modify fun s => { s with temporary := recorded s.temporary path }

def Context.createTemporary (c : Context σ) (title : String) : Action σ String := do
  let name ← perform c.host.freshName
  let path := Path.join c.settings.temporaryFolder (title ++ name)
  recordTemporary path
  match ← perform (c.host.createFolder path) with
  | .error e => throw (.file path e)
  | .ok () =>
    note (.temporaryCreated path)
    return path

/-- Removes folders that are there; tells how many were removed, and which ones could not be. -/
def Context.removeEach (c : Context σ) : List String → Step σ (Nat × List String)
  | [] => return (0, [])
  | path :: paths => do
    if ← ask (c.host.hasEntry path) then
      match ← perform (c.host.removeFolder path) with
      | .ok () =>
        note (.temporaryRemoved path)
        let (n, stuck) ← c.removeEach paths
        return (n + 1, stuck)
      | .error e =>
        note (.temporaryStuck path e.message)
        let (n, stuck) ← c.removeEach paths
        return (n, path :: stuck)
    else c.removeEach paths

/-- Removes the recorded folders; only those that could not be removed stay recorded. -/
def Context.cleanUp (c : Context σ) : Step σ Nat := do
  let (n, stuck) ← c.removeEach (← get).temporary
  modify fun s => { s with temporary := stuck }
  return n

end OrchestrationGraph
