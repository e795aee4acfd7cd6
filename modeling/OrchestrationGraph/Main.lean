import OrchestrationGraph.CommandLine.Run
import OrchestrationGraph.Machine.Standard

/-!
# The program

It carries out its command line on files that it reads as one JSON object from the standard input:
paths below the folder it starts in, with the text of each file. What it writes to files it prints
as well, as the files are its own.
-/

namespace OrchestrationGraph.Program

/-- The folder in which the program starts. -/
def folder : String := "/work"

/-- Variables that have a say in a run. -/
def variableNames : List String := [
  Settings.gitVariable, Settings.dotnetVariable, Settings.temporaryFolderVariable,
  Settings.systemFolderVariable, Settings.shallowCloneVariable, Settings.logLevelVariable,
  "FUNCGRAPH_LOG_JSON", "NO_COLOR", CommandLine.filterVariable]

def environment : IO Environment :=
  variableNames.filterMapM fun name => do return (← IO.getEnv name).map fun value => (name, value)

def machineOf (snapshot : String) : Except Json.Fault Machine := do
  let v ← Json.read Json.Reader.value snapshot.toList
  let files := (v.members?.getD []).filterMap fun (path, content) =>
    content.text?.map fun s => (path, Machine.Item.ofText s)
  return Machine.standard folder files

def written (words : List String) (m : Machine) : String :=
  match CommandLine.Arguments.ofWords words with
  | .error _ => ""
  | .ok a => ((a.command.output.bind fun path => (m.disk.readText path).toOption)).getD ""

def carryOut (words : List String) (m : Machine) : IO UInt32 := do
  let e ← environment
  let ending := CommandLine.run Machine.host e words m
  ending.errorLines.forM IO.eprintln
  IO.print (ending.session.state.printed ++ ending.stdout)
  if ending.exitCode = 0 then IO.print (written words ending.session.state)
  return ending.exitCode.toUInt32

end OrchestrationGraph.Program

open OrchestrationGraph in
def main (words : List String) : IO UInt32 := do
  let snapshot ← (← IO.getStdin).readToEnd
  match Program.machineOf (if snapshot.isEmpty then "\x7b\x7d" else snapshot) with
  | .ok m => Program.carryOut words m
  | .error fault =>
    IO.eprintln ("Error: " ++ fault.message)
    return 1
