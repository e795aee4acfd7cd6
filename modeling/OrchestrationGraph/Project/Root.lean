import OrchestrationGraph.Project.Location
import OrchestrationGraph.Project.Search
import OrchestrationGraph.Project.Temporary

/-!
# The root of a project

The folder with the host manifest. A project in a repository is cloned into a temporary folder
first.
-/

namespace OrchestrationGraph

variable {σ : Type}

namespace Context

def cloneCommand (c : Context σ) (url target folder : String) : Tool.Command :=
  { program := c.settings.git
    arguments :=
      "clone" :: (if c.settings.shallowClone then ["--depth", "1"] else []) ++ [url, target]
    folder := some folder }

def clone (c : Context σ) (url : String) : Action σ String := do
  let folder ← c.createTemporary "funcgraph-clone-"
  let target := Path.join folder (Location.repositoryName url)
  c.report (.cloneStarted url target)
  match ← c.runTool (c.cloneCommand url target folder) with
  | .error e => throw (.clone url e.message)
  | .ok outcome =>
    if !outcome.success then throw (.clone url outcome.failureMessage)
    note (.cloned url target)
    return target

/-- The folder in which to look for the project. -/
def searchRoot (c : Context σ) : Location → Action σ String
  | .folder path => do
    if !(← ask (c.host.hasEntry path)) then throw (.pathNotFound path)
    return path
  | .repository url folders => do
    let root := Path.joinAll (← c.clone url) folders
    if !(← ask (c.host.hasEntry root)) then throw (.pathNotFound root)
    return root

def projectRoot (c : Context σ) (location : Location) : Action σ String := do
  let root ← c.searchRoot location
  c.checkpoint
  match ← HostManifest.find c root with
  | none => throw (.manifestNotFound root)
  | some manifest =>
    c.report (.manifestFound manifest)
    return (Path.parent? manifest).getD root

end Context

end OrchestrationGraph
