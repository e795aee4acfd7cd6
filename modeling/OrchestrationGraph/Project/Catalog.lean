import OrchestrationGraph.Files.Path
import OrchestrationGraph.Graph.Basic
import OrchestrationGraph.Project.Action
import OrchestrationGraph.Project.Manifest

/-!
# The catalog of functions

Each folder directly in the working folder is a function if it has a manifest. A manifest that
cannot be read is reported, and its function left out.
-/

namespace OrchestrationGraph

variable {σ : Type}

structure Catalog where
  graph : Graph := {}
  /-- The paths of the scripts that manifests name. -/
  scripts : Dictionary String := ∅

namespace Catalog

inductive Finding where
  | function (m : Manifest)
  | broken (error : String)
  | nothing

def Finding.ofText (read : Except FileError String) : Finding :=
  match read with
  | .error .missing => nothing
  | .error e => broken e.message
  | .ok content =>
    match Manifest.ofText content.toList with
    | .ok m => function m
    | .error fault => broken fault.message

def folderNames (entries : List (String × EntryKind)) : List String :=
  ((entries.filter fun e => e.2 = .folder).map (·.1)).mergeSort

/-- The catalog with one more function, whose folder is given. -/
def add (catalog : Catalog) (folder name : String) (m : Manifest) : Catalog where
  graph := (catalog.graph.insert { name, bindings := m.bindings }).1
  scripts :=
    match m.script with
    | none => catalog.scripts
    | some script => catalog.scripts.insert name (Path.join folder script)

def readFolders (c : Context σ) (working : String) : Catalog → List String → Step σ Catalog
  | catalog, [] => return catalog
  | catalog, name :: names => do
    let folder := Path.join working name
    let path := Path.join folder Manifest.fileName
    match Finding.ofText (← ask (c.host.readText path)) with
    | .nothing => readFolders c working catalog names
    | .broken error =>
      c.report (.manifestFailed path error)
      readFolders c working catalog names
    | .function m =>
      note (.manifestLoaded name m.bindings.length)
      readFolders c working (catalog.add folder name m) names

def build (c : Context σ) (working : String) : Action σ Catalog := do
  match ← ask (c.host.list working) with
  | .error e => throw (.file working e)
  | .ok entries =>
    c.checkpoint
    let catalog ← readFolders c working {} (folderNames entries)
    c.report (.catalogComplete catalog.graph.size)
    return catalog

end Catalog

end OrchestrationGraph
