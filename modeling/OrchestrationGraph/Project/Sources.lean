import OrchestrationGraph.Project.Catalog
import OrchestrationGraph.Project.Runtime
import OrchestrationGraph.Project.Search
import OrchestrationGraph.Source.File

/-!
# Finding source code

The functions of a .NET project are declared anywhere below its root. Of all others each has its
script in its own folder, or where its manifest says.
-/

namespace OrchestrationGraph

variable {σ : Type}

namespace SourceFile

/-- Reads the compiled sources among the entries; what cannot be read is left out. -/
def readAll (c : Context σ) (root : String) : List Visit → Action σ (List SourceFile)
  | [] => return []
  | v :: visits => do
    c.checkpoint
    if v.isFile && isCompiled (v.name root) then
      let path := v.path root
      match ← ask (c.host.readText path) with
      | .ok content => return ⟨path, content⟩ :: (← readAll c root visits)
      | .error e =>
        note (.sourceUnreadable path e.message)
        readAll c root visits
    else readAll c root visits

def index (c : Context σ) (root : String) : Action σ (List SourceFile) := do
  let files ← readAll c root (← c.visits root)
  note (.sourcesIndexed files.length)
  return files

end SourceFile

namespace Script

/-- Names of scripts that need not be mentioned in a manifest. -/
def names : List String := ["index.js", "index.ts", "__init__.py"]

/-- Letter case is ignored. -/
def isOne (name : String) : Bool := names.any (Text.sameIgnoringCase name)

/-- The name of the script among the entries of a folder: the first in ascending order. -/
def among? (entries : List (String × EntryKind)) : Option String :=
  ((entries.filter fun e => e.2 = .file && isOne e.1).map (·.1)).mergeSort.head?

def inFolder? (c : Context σ) (folder : String) : Step σ (Option String) := do
  match ← ask (c.host.list folder) with
  | .ok entries => return (among? entries).map (Path.join folder)
  | .error e =>
    note (.folderUnlisted folder e.message)
    return none

def firstReadable? (c : Context σ) : List String → Step σ (Option SourceFile)
  | [] => return none
  | path :: paths => do
    match ← ask (c.host.readText path) with
    | .ok content => return some ⟨path, content⟩
    | .error e =>
      note (.scriptUnreadable path e.message)
      firstReadable? c paths

/-- The script of a function: the one in its folder, else the one of its manifest. -/
def find? (c : Context σ) (function folder : String) (mentioned : Option String) :
    Step σ (Option Source) := do
  let own ← inFolder? c folder
  let file ← firstReadable? c (own.toList ++ mentioned.toList)
  return file.map (·.whole function)

end Script

namespace Catalog

/-- The source of one function; `files` are the compiled sources, if the project has such. -/
def source? (c : Context σ) (files : Option (List SourceFile)) (working : String)
    (catalog : Catalog) (name : String) : Step σ (Option Source) :=
  match files with
  | some files => return SourceFile.find? files name
  | none => Script.find? c name (Path.join working name) (catalog.scripts.get? name)

/-- The sources of functions, and the names of those that have none. -/
def locateEach (c : Context σ) (files : Option (List SourceFile)) (working : String)
    (catalog : Catalog) : List String → Action σ (Dictionary Source × List String)
  | [] => return (∅, [])
  | name :: names => do
    c.checkpoint
    let found ← source? c files working catalog name
    let (sources, missing) ← locateEach c files working catalog names
    match found with
    | some s => return (sources.insert name s, missing)
    | none => return (sources, name :: missing)

/-- The sources of all functions; each that has none is reported. -/
def locate (c : Context σ) (runtime : Runtime) (root working : String) (catalog : Catalog) :
    Action σ (Dictionary Source) := do
  let files ←
    if runtime = .dotnet then do pure (some (← SourceFile.index c root)) else pure none
  let (sources, missing) ← locateEach c files working catalog catalog.graph.names
  missing.forM fun name => c.report (.sourceNotFound name)
  return sources

end Catalog

end OrchestrationGraph
