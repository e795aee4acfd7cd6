import OrchestrationGraph.Machine.Disk
import OrchestrationGraph.Machine.Shell.Command
import OrchestrationGraph.Text.Lossy

/-!
# What a running script knows

Variables, parameters, the disk, and where its channels lead.

The shell stands in for external tools in trial runs; nothing here is part of the program.
-/

namespace OrchestrationGraph.Machine.Shell

inductive Target where
  | output
  | errors
  /-- To the script that waits for it, the outermost of them having the number 0. -/
  | pipe (number : Nat)
  | file (path : String)
  | nowhere
  deriving DecidableEq

/-- What has been written, in pieces of which the last comes first. -/
abbrev Writing : Type := List (List UInt8)

def Writing.bytes (w : Writing) : List UInt8 := w.reverse.flatten

structure State where
  disk : Disk
  /-- The name by which the shell was started. -/
  own : String := "sh"
  parameters : List String := []
  values : List (String × String) := []
  /-- Variables that programs see as well. -/
  exported : List String := []
  /-- Variables whose values stay as they are. -/
  fixed : List String := []
  /-- Variables of the function that runs, each with its value outside; none if no function runs. -/
  outer : Option (List (String × Option String)) := none
  functions : List (String × Command) := []
  /-- What is done when a signal comes, or at the end, which counts as signal 0. -/
  traps : List (Nat × String) := []
  status : Nat := 0
  /-- The code of the last script whose output became a part of the command that runs. -/
  captured : Nat := 0
  /-- The code of the last command that ran in the background. -/
  job : Option Nat := none
  line : Nat := 1
  /-- The part of the shell that a complaint comes from. -/
  speaker : Option String := none
  /-- Whether the shell is below another one, whose number it shares. -/
  isBelow : Bool := false
  /-- Signals for the outermost shell. -/
  sent : List Nat := []
  loops : Nat := 0
  input : List UInt8 := []
  targets : List (Nat × Target) := [(1, .output), (2, .errors)]
  written : Writing := []
  complaints : Writing := []
  pipes : List Writing := []
  /-- Why some of the output of the command that runs is lost. -/
  loss : Option FileError := none
  /-- Whether a failure ends the script. -/
  failsFast : Bool := false
  /-- Whether commands are shown before they are carried out. -/
  shows : Bool := false
  /-- Whether patterns do not stand for paths. -/
  keepsPatterns : Bool := false
  /-- Whether a parameter must be there when it is used. -/
  needsParameters : Bool := false

/-- Why a script does not go on with the next command. -/
inductive Leave where
  | exited
  | killed (signal : Nat)
  | returned
  /-- So many loops are left. -/
  | broken (loops : Nat)
  /-- So many loops are left, and the next one goes on. -/
  | continued (loops : Nat)
  deriving DecidableEq

/-- A step of a script; the state outlives its end. -/
abbrev Run (α : Type) : Type := ExceptT Leave (StateM State) α

def bytesOf (s : String) : List UInt8 := s.toUTF8.toList

def textOfBytes (l : List UInt8) : String := String.ofList (Text.decodeLossy l)

/-! ### Writing -/

def writeTo (t : Target) (bytes : List UInt8) : Run Unit := do
  match t with
  | .output => modify fun s => { s with written := bytes :: s.written }
  | .errors => modify fun s => { s with complaints := bytes :: s.complaints }
  | .pipe number =>
    modify fun s => { s with
      pipes := s.pipes.mapIdx fun i w => if i + number + 1 = s.pipes.length then bytes :: w else w }
  | .nowhere => return
  | .file path =>
    modify fun s =>
      let before := ((s.disk.readBytes path).toOption).getD .empty
      match s.disk.write path (.file (before ++ ⟨bytes.toArray⟩) false) with
      | .ok disk => { s with disk }
      | .error _ => s

/-- Where a channel leads; what is written on a closed one is lost. -/
def State.target (s : State) (channel : Nat) : Target := (s.targets.lookup channel).getD .nowhere

def Target.fault? (d : Disk) : Target → Option FileError
  | .nowhere => some .closed
  | .file path => if (d.item? path).any (· matches .device .full) then some .noSpace else none
  | _ => none

/-- Writes to the output, and takes note if that fails. -/
def emit (bytes : List UInt8) : Run Unit := do
  let s ← get
  let target := s.target 1
  if !bytes.isEmpty then set { s with loss := s.loss.or (target.fault? s.disk) }
  writeTo target bytes

def emitText (s : String) : Run Unit := emit (bytesOf s)

def setStatus (n : Nat) : Run Unit := modify fun s => { s with status := n }

/-- A complaint of a program of its own. -/
def complainPlainly (message : String) : Run Unit := do
  writeTo ((← get).target 2) (bytesOf (message ++ "\n"))

/-- A complaint of the shell, with the place in the script. -/
def complain (message : String) : Run Unit := do
  let s ← get
  let speaker := s.speaker.elim "" (· ++ ": ")
  complainPlainly (s.own ++ ": " ++ toString s.line ++ ": " ++ speaker ++ message)

def fail {α : Type} (message : String) : Run α := do
  complain message
  setStatus 2
  throw .exited

/-- Whether output of the command that ends was lost; the next one begins anew. -/
def takeLoss : Run (Option FileError) := do
  let s ← get
  set { s with loss := none }
  return s.loss

/-! ### Variables -/

def variableValue (name : String) : Run (Option String) := do return (← get).values.lookup name

def State.erase (s : State) (name : String) : State :=
  { s with values := s.values.filter fun v => v.1 ≠ name }

def State.put (s : State) (name value : String) : State :=
  { s with values := (name, value) :: (s.erase name).values }

def assign (name value : String) : Run Unit := do
  if (← get).fixed.contains name then fail (name ++ ": is read only")
  modify (·.put name value)

def restore (values : List (String × Option String)) : Run Unit :=
  values.forM fun (name, value) => modify fun s => value.elim (s.erase name) (s.put name)

/-- The value of a parameter that is no list. -/
def value? (name : String) : Run (Option String) := do
  let s ← get
  match name.toList with
  | ['?'] => return some (toString s.status)
  | ['#'] => return some (toString s.parameters.length)
  | ['$'] => return some "1"
  | ['!'] => return s.job.map fun _ => "2"
  | ['-'] =>
    let letter (isOn : Bool) (c : String) : String := if isOn then c else ""
    return some (letter s.failsFast "e" ++ letter s.keepsPatterns "f" ++ letter s.shows "x" ++
      letter s.needsParameters "u")
  | ['@'] | ['*'] =>
    return if s.parameters.isEmpty then none else some (" ".intercalate s.parameters)
  | l =>
    if l.all Char.isDigit then
      match l.foldl (fun n d => n * 10 + (d.toNat - '0'.toNat)) 0 with
      | 0 => return some s.own
      | n + 1 => return s.parameters[n]?
    else variableValue name

/-! ### Redirections -/

/-- The reason why a file cannot be opened, in the shell's words. -/
def openFault (isNew : Bool) : FileError → String
  | .missing => if isNew then "Directory nonexistent" else "No such file"
  | .notFolder => if isNew then "Directory nonexistent" else "Not a directory"
  | e => e.reason

/-- The place of a file as an absolute path. -/
def placeOf (d : Disk) (path : String) : String :=
  match d.resolve true path with
  | .ok (place, _) => "/" ++ "/".intercalate place
  | .error _ => path

def lead (channel : Nat) (t : Target) : Run Unit :=
  modify fun s => { s with targets := (channel, t) :: s.targets.filter fun e => e.1 ≠ channel }

/-- Gives the standard input, if it is that channel. -/
def feed (channel : Nat) (input : List UInt8) : Run Unit := do
  if channel = 0 then modify fun s => { s with input }

/-- Opens the target of one redirection; the answer is a complaint if that fails. -/
def openTarget (channel : Nat) (d : Direction) (target : String) : Run (Option String) := do
  let s ← get
  match d, target with
  | .document, text =>
    feed channel (bytesOf text)
    return none
  | .write, "/dev/stdout" | .append, "/dev/stdout" =>
    lead channel (s.target 1)
    return none
  | .write, "/dev/stderr" | .append, "/dev/stderr" =>
    lead channel (s.target 2)
    return none
  | .copy, "0" => return none
  | .copy, "-" =>
    if channel = 0 then feed 0 []
    modify fun s => { s with targets := s.targets.filter fun e => e.1 ≠ channel }
    return none
  | .copy, _ =>
    match target.toList with
    | [digit] =>
      if !digit.isDigit then return some "Syntax error: Bad fd number"
      match s.targets.lookup (digit.toNat - '0'.toNat) with
      | some t =>
        lead channel t
        return none
      | none => return some (target ++ ": Bad file descriptor")
    | _ => return some "Syntax error: Bad fd number"
  | .read, "/dev/stdin" => return none
  | .read, _ =>
    match s.disk.readBytes target with
    | .ok content =>
      feed channel content.toList
      return none
    | .error .isFolder =>
      feed channel []
      return none
    | .error e => return some ("cannot open " ++ target ++ ": " ++ openFault false e)
  | .write, _ | .append, _ =>
    let before := if d = .append then ((s.disk.readBytes target).toOption).getD .empty else .empty
    match s.disk.write target (.file before false) with
    | .ok disk =>
      modify fun s => { s with disk }
      lead channel (.file (placeOf disk target))
      return none
    | .error e => return some ("cannot create " ++ target ++ ": " ++ openFault true e)

end OrchestrationGraph.Machine.Shell
