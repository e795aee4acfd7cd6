import OrchestrationGraph.Files.Path
import OrchestrationGraph.Project.Action

/-!
# Searching a project

Everything below a folder, each folder before what lies in it and names ascending. The search for
the project's root takes the first of the uppermost host manifests.
-/

namespace OrchestrationGraph

variable {σ : Type}

/-- The name of an entry; the root of a search has the name of its path. -/
def Visit.name (root : String) (v : Visit) : String :=
  v.names.getLast?.getD ((Path.fileName? root).getD root)

def Visit.path (root : String) (v : Visit) : String := Path.joinAll root v.names

/-- A lone hyphen stands for standard input, which has nothing in it. -/
def standardInput : String := "-"

/-- The entries at and below a path. A path that cannot be searched is one entry that is no file. -/
def Context.visits (c : Context σ) (root : String) : Step σ (List Visit) := do
  if Path.same root standardInput then return [⟨[], false⟩]
  match ← ask (c.host.tree root) with
  | .ok tree => return tree.walk
  | .error _ => return [⟨[], false⟩]

namespace HostManifest

def fileName : String := "host.json"

/-- Whether an entry is a host manifest; letter case is ignored. -/
def isOne (root : String) (v : Visit) : Bool :=
  v.isFile && Text.sameIgnoringCase (v.name root) fileName

/-- The better of two host manifests: the one further up, else the first. -/
def better (best : Option Visit) (v : Visit) : Option Visit :=
  match best with
  | none => some v
  | some b => if v.depth < b.depth then some v else some b

/-- The host manifest among the entries, the search stopping where it is asked to. -/
def search (c : Context σ) (root : String) : Option Visit → List Visit → Action σ (Option Visit)
  | best, [] => return best
  | best, v :: visits => do
    c.checkpoint
    search c root (if isOne root v then better best v else best) visits

def find (c : Context σ) (root : String) : Action σ (Option String) := do
  let best ← search c root none (← c.visits root)
  return best.map (Visit.path root)

end HostManifest

end OrchestrationGraph
