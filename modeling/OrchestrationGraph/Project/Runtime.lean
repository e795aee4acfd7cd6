import OrchestrationGraph.Project.Temporary

/-!
# Runtimes

Projects for .NET are published before their functions have folders; the functions of all other
projects have theirs already. The files in a project's root tell which it is.
-/

namespace OrchestrationGraph

variable {σ : Type}

inductive Runtime where
  | dotnet
  | interpreted
  deriving DecidableEq, Repr

namespace Runtime

def name : Runtime → String
  | dotnet => "dotnet"
  | interpreted => "interpreted"

/-- Extensions of any project are kept in this file. -/
def extensionsFile : String := "extensions.csproj"

/-- Whether a file of that name marks the root of a .NET project. -/
def isMarker (name : String) : Bool :=
  let name := (Text.asciiLower name).toList
  ".sln".toList.isSuffixOf name || ".fsproj".toList.isSuffixOf name ||
    (".csproj".toList.isSuffixOf name && name ≠ extensionsFile.toList)

def ofEntries (entries : List (String × EntryKind)) : Runtime :=
  if entries.any fun e => e.2 = .file && isMarker e.1 then dotnet else interpreted

def detect (c : Context σ) (root : String) : Action σ Runtime := do
  match ← ask (c.host.list root) with
  | .error e => throw (.file root e)
  | .ok entries => return ofEntries entries

end Runtime

namespace Context

def publishCommand (c : Context σ) (project output : String) : Tool.Command :=
  { program := c.settings.dotnet, arguments := ["publish", "-o", output], folder := some project }

def publish (c : Context σ) (project : String) : Action σ String := do
  let output ← c.createTemporary "funcgraph-publish-"
  c.report (.publishStarted project output)
  match ← c.runTool (c.publishCommand project output) with
  | .error e => throw (.publish project e.message)
  | .ok outcome =>
    if !outcome.success then throw (.publish project outcome.failureMessage)
    note (.published output)
    return output

end Context

end OrchestrationGraph
