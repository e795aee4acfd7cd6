import OrchestrationGraph.Binding.Json

/-!
# Function manifests

The manifest in a function's folder lists its bindings and may name its script.
-/

namespace OrchestrationGraph

open Json (Reader Shape)

structure Manifest where
  bindings : List Binding := []
  /-- The script, seen from the function's folder. -/
  script : Option String := none

namespace Manifest

def fileName : String := "function.json"

structure Partial where
  bindings : Option (List Binding) := none
  script : Option (Option String) := none

def shape : Shape Partial Manifest where
  title := "FunctionManifest"
  fields := [
    { name := "bindings", required := false, isSet := fun m => m.bindings.isSome,
      read := fun room m v => do
        return { m with bindings := some (← Reader.list Binding.reader room v) } },
    { name := "scriptFile", required := false, isSet := fun m => m.script.isSome,
      read := fun room m v => do
        return { m with script := some (← Reader.optional Reader.text room v) } }]
  start := {}
  finish := fun m => .ok { bindings := m.bindings.getD [], script := m.script.join }

/-- Some tools write this mark before everything else. -/
def byteOrderMark : Char := '\uFEFF'

def ofText (content : List Char) : Except Json.Fault Manifest :=
  Json.read shape.reader (content.dropWhile (· = byteOrderMark))

end Manifest

end OrchestrationGraph
