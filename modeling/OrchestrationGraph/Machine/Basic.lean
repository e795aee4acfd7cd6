import OrchestrationGraph.Machine.Disk
import OrchestrationGraph.Machine.Shell.Run

/-!
# A machine in memory

A disk, some programs on it, and a switch that asks traversals to stop. Such a machine is a host, so
that everything can run without touching a real one. Together with its disk and its shell it only
stands in for the system and the external tools in trial runs; nothing of it is part of the program.
-/

namespace OrchestrationGraph

open Machine

/-- A program that behaves as it is told to, in place of a real tool. -/
structure StandIn where
  /-- The exit code, which counts modulo 256; none if a signal ends the program. -/
  code : Option Int := some 0
  stdout : String := ""
  stderr : String := ""
  output : Option (List (String × Item)) := none
  /-- The target folder among the arguments. -/
  target : List String → Option String := fun l => l.getLast?

structure ToolRun where
  place : List String
  arguments : List String
  folder : String
  deriving DecidableEq, Repr

structure Machine where
  disk : Disk := {}
  /-- Folders in which programs without a slash in their name are looked for. -/
  programFolders : List String := Shell.searchPath
  standIns : List (List String × StandIn) := []
  runs : List ToolRun := []
  names : Nat := 0
  interrupted : Bool := false
  /-- Whether an event makes the machine ask traversals to stop. -/
  stopsAt : Event → Bool := fun _ => false

namespace Machine

/-- The folders that a variable lists, with colons between them. -/
def foldersOf (list : String) : List String :=
  (Text.piecesBy (· = ':') list.toList).map String.ofList

/-- What has been printed by way of a device. -/
def printed (m : Machine) : String := Shell.textOfBytes m.disk.printed.toList

def pathOf (place : List String) : String := "/" ++ "/".intercalate place

def programAt (d : Disk) (path : String) : Except FileError (List String) := do
  match ← d.resolve true path with
  | (place, some (.file _ true)) => return place
  | (_, some _) => throw .denied
  | (_, none) => throw .missing

/-- The place of a program in the first folder where it may be run. -/
def programIn (d : Disk) (program : String) :
    (folders : List String) → Except FileError (List String)
  | [] => .error .missing
  | folder :: folders =>
    match programAt d (Path.join folder program) with
    | .error .denied =>
      match programIn d program folders with
      | .ok place => .ok place
      | .error _ => .error .denied
    | .error _ => programIn d program folders
    | .ok place => .ok place

def findProgram (d : Disk) (folders : List String) (program : String) :
    Except FileError (List String) :=
  if program.toList.contains '/' then programAt d program
  else if program.isEmpty then .error .missing
  else if Disk.nameBound < Text.byteLength program.toList then .error .nameTooLong
  else programIn d program folders

/-- Bytes that a word of a command must stay below. -/
def wordBound : Nat := 131072

/-- Puts items below a folder, as far as that can be done. -/
def plantAll (d : Disk) (folder : String) (items : List (String × Item)) : Disk :=
  items.foldl (fun d (path, i) => ((d.plant (Path.join folder path) i).toOption).getD d) d

def runStandIn (m : Machine) (place : List String) (s : StandIn) (arguments : List String) :
    Tool.Outcome × Machine :=
  let disk := match s.output, s.target arguments with
    | some items, some folder =>
      plantAll ((m.disk.createFolder folder).toOption.getD m.disk) folder items
    | _, _ => m.disk
  let code := s.code.map (· % 256)
  (⟨code = some 0, code, s.stdout, s.stderr⟩,
    { m with disk, runs := m.runs ++ [⟨place, arguments, pathOf m.disk.current⟩] })

def runUtility (m : Machine) (program name : String) (arguments : List String) :
    Tool.Outcome × Machine :=
  let o := Shell.runProgram m.disk m.programFolders program name arguments
  (⟨o.code = some 0, o.code, Shell.textOfBytes o.written, Shell.textOfBytes o.complaints⟩,
    { m with disk := o.disk })

/-- Runs a command; it fails if the folder or the program cannot be used. -/
def run (command : Tool.Command) (m : Machine) : Except FileError Tool.Outcome × Machine :=
  let started : Except FileError (List String × Disk) := do
    let words := command.program :: command.arguments
    if (words ++ command.folder.toList).any fun w => w.toList.contains (Char.ofNat 0) then
      throw .commandHoldsNul
    let disk ← match command.folder with
      | none => pure m.disk
      | some folder =>
        match ← m.disk.resolve true folder with
        | (place, some (.folder _)) => pure { m.disk with current := place }
        | (_, some _) => throw .notFolder
        | (_, none) => throw .missing
    let place ← findProgram disk m.programFolders command.program
    if words.any fun w => wordBound ≤ Text.byteLength w.toList then throw .wordTooLong
    return (place, disk)
  match started with
  | .error e => (.error e, m)
  | .ok (place, disk) =>
    let there : Machine := { m with disk }
    let (outcome, after) := match m.standIns.lookup place with
      | some s => runStandIn there place s command.arguments
      | none => runUtility there command.program (place.getLast?.getD "") command.arguments
    (.ok outcome, { after with disk := { after.disk with current := m.disk.current } })

def nameDigits (n : Nat) : String :=
  let digits := Nat.toDigits 16 n
  String.ofList (List.replicate (32 - digits.length) '0' ++ digits)

def changeDisk (m : Machine) (r : Except FileError Disk) : Except FileError Unit × Machine :=
  match r with
  | .ok disk => (.ok (), { m with disk })
  | .error e => (.error e, m)

def host : Host Machine where
  isText _ := true
  hasEntry path m := (m.disk.item? path).isSome
  hasFolder path m := m.disk.hasFolder path
  readText path m := m.disk.readText path
  list path m := m.disk.list path
  tree path m := (m.disk.item path).map Item.tree
  writeText path content m := m.changeDisk (m.disk.write path (.ofText content))
  createFolder path m := m.changeDisk (m.disk.createFolder path)
  removeFolder path m :=
    let (r, disk) := m.disk.removeFolder path
    (r, { m with disk })
  freshName m := (nameDigits m.names, { m with names := m.names + 1 })
  run := Machine.run
  hear e m := if m.stopsAt e then { m with interrupted := true } else m
  isInterrupted m := (m.interrupted, m)
  print _ _ m := (.ok (), m)

end Machine

end OrchestrationGraph
