import OrchestrationGraph.Machine.Basic

/-!
# A machine as systems set it up

The folders that every system has, a few utilities, and a few devices.
-/

namespace OrchestrationGraph.Machine

def utilities : List String := [
  "basename", "cat", "dash", "dirname", "echo", "false", "head", "ls", "mkdir", "printf", "pwd",
  "rm", "rmdir", "seq", "sh", "sleep", "tail", "touch", "true", "wc"]

/-- A folder with items, which may be given in any order. -/
def Item.ofList (items : List (String × Item)) : Item :=
  .folder (items.foldl (fun l e => Dictionary.put e.1 e.2 l) [])

/-- A program of the system; what it does is not in its file. -/
def program : Item := .file .empty true

def programs : Item := Item.ofList (utilities.map fun name => (name, program))

def devices : List (String × Item) := [
  ("full", .device .full), ("null", .device .drops), ("stderr", .device .drops),
  ("stdin", .device .drops), ("stdout", .device .prints), ("zero", .device .drops)]

def standardRoot : Item :=
  Item.ofList [
    ("bin", programs), ("usr", Item.ofList [("bin", programs), ("lib", default)]),
    ("dev", Item.ofList devices), ("etc", Item.ofList [("passwd", Item.ofText "")]),
    ("home", default), ("proc", default), ("root", default), ("tmp", default),
    ("var", Item.ofList [("tmp", default)])]

/-- Puts items below a folder and makes it the one where programs start. -/
def standard (folder : String) (items : List (String × Item)) : Machine :=
  let disk := plantAll (((Disk.createFolder { root := standardRoot } folder).toOption).getD {})
    folder items
  { disk := { disk with current := (Disk.steps folder).filter (· ≠ ".") } }

end OrchestrationGraph.Machine
