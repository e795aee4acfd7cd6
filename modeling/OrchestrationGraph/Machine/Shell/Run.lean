import OrchestrationGraph.Machine.Shell.Builtin
import OrchestrationGraph.Machine.Shell.Expansion

/-!
# Running scripts

Commands act on the state of the shell. A script that runs in a shell of its own leaves behind the
disk, what it wrote and its code, and nothing else.

The shell stands in for external tools in trial runs; nothing here is part of the program.
-/

namespace OrchestrationGraph.Machine.Shell

/-- Goes on after what ends a command early, and tells why it ended. -/
def attempt (body : Run Unit) : Run (Option Leave) :=
  fun s =>
    match body s with
    | (.ok (), s) => (.ok none, s)
    | (.error leave, s) => (.ok (some leave), s)

def leaveAs : Option Leave → Run Unit
  | none => return
  | some leave => throw leave

/-- Runs a body in a shell of its own, which begins as `start` says. -/
def isolated (start : State → State) (body : Run Unit) : Run Unit := do
  let before ← get
  modify start
  let leave ← attempt body
  modify fun s => { before with
    disk := { s.disk with current := before.disk.current }
    input := s.input
    written := s.written
    complaints := s.complaints
    pipes := s.pipes
    sent := s.sent
    status := s.status }
  match leave with
  | some (.killed signal) => throw (.killed signal)
  | _ => return

/-- A shell below another one, which has not its answers to signals. -/
def State.below (s : State) : State :=
  { s with
    traps := s.traps.filter fun t => t.2.isEmpty
    isBelow := true
    loops := 0
    outer := none
    job := none }

/-- Runs a body and collects what it writes to the output. -/
def collected (body : Run Unit) : Run (List UInt8) := do
  modify fun s => { s with pipes := [] :: s.pipes }
  let before := (← get).targets
  lead 1 (.pipe ((← get).pipes.length - 1))
  let leave ← attempt body
  let bytes := ((← get).pipes.headD []).bytes
  modify fun s => { s with pipes := s.pipes.tail, targets := before }
  leaveAs leave
  return bytes

/-- Opens the targets of redirections up to the first one that fails. -/
def openAll (capture : List Char → Run String) : List Redirection → Run Bool
  | [] => return true
  | r :: rest => do
    match ← openTarget r.channel r.direction (← expandText capture r.target) with
    | none => openAll capture rest
    | some message =>
      complain message
      setStatus 2
      return false

/-- Runs a body with redirections, after which the channels lead where they did before. -/
def redirecting (capture : List Char → Run String) (redirections : List Redirection)
    (body : Run Unit) (onFault : Run Unit) : Run Unit := do
  let before ← get
  let leave ← attempt do if ← openAll capture redirections then body else onFault
  modify fun s => { s with
    targets := before.targets
    input := if redirections.any (·.channel = 0) then before.input else s.input }
  leaveAs leave

/-- A fresh shell that a script starts as a program. -/
def State.fresh (s : State) (own : String) (parameters : List String) : State :=
  { disk := s.disk
    own
    parameters
    values := s.values.filter fun v => s.exported.contains v.1
    exported := s.exported
    input := s.input
    targets := s.targets
    written := s.written
    complaints := s.complaints
    pipes := s.pipes }

/-- A script on lines from `line` on, as its tokens and the number of its last line. -/
def readScript (line : Nat) (script : List Char) : Nat × Tokens :=
  (line + lineBreaks script, tokensOf line script)

/-- What a shell is asked to do by the words after its name. -/
inductive Task where
  | script (text : List Char) (own : String) (parameters : List String)
  | file (path : String) (parameters : List String)
  /-- The script comes as the standard input. -/
  | input (parameters : List String)
  | missing

def taskOf (own : String) : List String → List String × Task
  | [] => ([], .input [])
  | w :: words =>
    if w.startsWith "-" && w.length > 1 && w ≠ "--" then
      let (switches, task) := taskOf own words
      let letters := (w.drop 1).toString.toList
      let kept := String.ofList (letters.filter fun c => c ≠ 'c' && c ≠ 's')
      let switches := if kept.isEmpty then switches else ("-" ++ kept) :: switches
      if letters.contains 'c' then
        match task with
        | .file script parameters =>
          (switches, .script script.toList (parameters.headD own) parameters.tail)
        | .input _ => (switches, .missing)
        | task => (switches, task)
      else if letters.contains 's' then
        match task with
        | .file path parameters => (switches, .input (path :: parameters))
        | task => (switches, task)
      else (switches, task)
    else if w = "--" || w = "-" then
      match words with
      | [] => ([], .input [])
      | path :: parameters => ([], .file path parameters)
    else ([], .file w words)

def isShell (name : String) : Bool := name = "sh" || name = "dash"

/-- How a command is shown before it is carried out. -/
def shown (assignments : List (String × String)) (words : List String) : String :=
  "+ " ++ " ".intercalate (assignments.map (fun a => a.1 ++ "=" ++ a.2) ++ words)

mutual

/-- Runs a script line by line. -/
def runTokens (last : Nat) : (steps : Nat) → Tokens → Run Unit
  | 0, _ => throw (.killed 9)
  | steps + 1, l => do
    match readLine? last l with
    | .error fault =>
      modify fun s => { s with line := fault.line }
      fail ("Syntax error: " ++ fault.message)
    | .ok none => return
    | .ok (some (c, rest)) =>
      exec steps false c
      runTokens last steps rest

def runWhole (line : Nat) (script : List Char) : (steps : Nat) → Run Unit
  | 0 => throw (.killed 9)
  | steps + 1 => do
    let (last, l) := readScript line script
    let leave ← attempt (runTokens last steps l)
    match leave with
    | some (.killed signal) => throw (.killed signal)
    | _ => runEnd steps

/-- What a shell does when it ends; the code stays unless the action exits. -/
def runEnd : (steps : Nat) → Run Unit
  | 0 => throw (.killed 9)
  | steps + 1 => do
    let s ← get
    match s.traps.lookup 0 with
    | none => return
    | some action =>
      modify fun s => { s with traps := s.traps.filter fun t => t.1 ≠ 0 }
      let (last, l) := readScript 1 action.toList
      match ← attempt (runTokens last steps l) with
      | some (.killed signal) => throw (.killed signal)
      | some .exited => return
      | _ => setStatus s.status

/-- Runs a script for its output, without the line ends after it. -/
def capture : (steps : Nat) → (script : List Char) → Run String
  | 0, _ => throw (.killed 9)
  | steps + 1, script => do
    let s ← get
    let bytes ← collected (isolated State.below do
      setStatus 0
      runWhole s.line script steps)
    modify fun now => { now with captured := now.status, status := s.status }
    settle (answer steps)
    let bytes := (bytes.filter (· ≠ 0)).reverse.dropWhile (· = 10)
    return textOfBytes bytes.reverse

/-- Answers a signal; the code is the same afterwards. -/
def answer : (steps : Nat) → (action : String) → Run Unit
  | 0, _ => throw (.killed 9)
  | steps + 1, action => do
    let before := (← get).status
    let (last, l) := readScript (← get).line action.toList
    runTokens last steps l
    setStatus before

/-- Carries out a command. If its code is `tested`, a failure does not end the script. -/
def exec : (steps : Nat) → (tested : Bool) → Command → Run Unit
  | 0, _, _ => throw (.killed 9)
  | steps + 1, tested, c => do
    /- The end of a script that a failure ends. -/
    let check : Run Unit := do
      let s ← get
      if s.failsFast && !tested && s.status ≠ 0 then throw .exited
    match c with
    | .nothing => setStatus 0
    | .sequence first second =>
      exec steps tested first
      exec steps tested second
    | .ifSuccess first second =>
      exec steps true first
      if (← get).status = 0 then exec steps tested second
    | .ifFailure first second =>
      exec steps true first
      if (← get).status ≠ 0 then exec steps tested second
    | .negation c =>
      exec steps true c
      modify fun s => { s with status := if s.status = 0 then 1 else 0 }
    | .pipe first second =>
      let outer ← get
      let bytes ← collected (isolated State.below do
        leaveAs (← attempt (exec steps tested first))
        runEnd steps)
      modify fun s => { s with input := bytes, status := outer.status }
      let leave ← attempt (isolated State.below do
        leaveAs (← attempt (exec steps tested second))
        runEnd steps)
      modify fun s => { s with input := outer.input }
      leaveAs leave
      settle (answer steps)
      check
    | .background c =>
      let outer ← get
      isolated (fun s => { s.below with input := [] }) do
        leaveAs (← attempt (exec steps tested c))
        runEnd steps
      modify fun s => { s with job := some s.status, input := outer.input, status := 0 }
      settle (answer steps)
    | .subshell c =>
      isolated State.below do
        match ← attempt (exec steps tested c) with
        | some (.killed signal) => throw (.killed signal)
        | _ => runEnd steps
      settle (answer steps)
      check
    | .redirected line c redirections =>
      modify fun s => { s with line }
      redirecting (capture steps) redirections (exec steps tested c) check
    | .choice test yes no =>
      exec steps true test
      if (← get).status = 0 then exec steps tested yes else exec steps tested no
    | .loop untilSuccess test body =>
      let outer := (← get).loops
      modify fun s => { s with loops := outer + 1 }
      let leave ← attempt (execLoop untilSuccess test body tested 0 steps)
      modify fun s => { s with loops := outer }
      leaveAs leave
    | .forEach name words body =>
      let values ← match words with
        | none => pure (← get).parameters
        | some words => pure (← words.mapM (expand (capture steps))).flatten
      let outer := (← get).loops
      modify fun s => { s with loops := outer + 1, status := 0 }
      let leave ← attempt (execEach name body tested steps values)
      modify fun s => { s with loops := outer }
      leaveAs leave
    | .cases word arms =>
      let text ← expandText (capture steps) word
      setStatus 0
      execArms text.toList tested steps arms
    | .function name body =>
      modify fun s =>
        { s with functions := (name, body) :: s.functions.filter fun f => f.1 ≠ name, status := 0 }
    | .simple line assignments words redirections =>
      modify fun s => { s with line, captured := 0 }
      execSimple assignments words redirections tested steps
      check

def execLoop (untilSuccess : Bool) (test body : Command) (tested : Bool) (status : Nat) :
    (steps : Nat) → Run Unit
  | 0 => throw (.killed 9)
  | steps + 1 => do
    let round ← attempt do
      exec steps true test
      if ((← get).status = 0) = untilSuccess then throw (.broken 0)
      exec steps tested body
    match round with
    | some (.broken 0) => setStatus status
    | some (.broken 1) => return
    | some (.broken (n + 2)) => throw (.broken (n + 1))
    | some (.continued (n + 2)) => throw (.continued (n + 1))
    | none | some (.continued _) =>
      execLoop untilSuccess test body tested (← get).status steps
    | some leave => throw leave

def execEach (name : String) (body : Command) (tested : Bool) :
    (steps : Nat) → (values : List String) → Run Unit
  | 0, _ => throw (.killed 9)
  | _, [] => return
  | steps + 1, value :: values => do
    assign name value
    match ← attempt (exec steps tested body) with
    | some (.broken (n + 2)) => throw (.broken (n + 1))
    | some (.broken _) => return
    | some (.continued (n + 2)) => throw (.continued (n + 1))
    | none | some (.continued _) => execEach name body tested steps values
    | some leave => throw leave

def execArms (text : List Char) (tested : Bool) :
    (steps : Nat) → (arms : List (List Word × Command)) → Run Unit
  | 0, _ => throw (.killed 9)
  | _, [] => return
  | steps + 1, (patterns, body) :: arms => do
    let isChosen ← patterns.anyM fun p => do
      return matchesAll (← expandPattern (capture steps) p) text
    if isChosen then exec steps tested body else execArms text tested steps arms

/-- Carries out assignments, or calls what the first word names. -/
def execSimple (assignments : List (String × Word)) (words : List Word)
    (redirections : List Redirection) (tested : Bool) : (steps : Nat) → Run Unit
  | 0 => throw (.killed 9)
  | steps + 1 => do
    let before ← get
    let words := (← words.mapM (expand (capture steps))).flatten
    let isSpecial := words.head?.any fun w =>
      specials.contains w && (before.functions.lookup w).isNone
    let givesAll : Run (List (String × String)) := assignments.mapM fun a => do
      return (a.1, ← expandText (capture steps) a.2)
    let tell (values : List (String × String)) : Run Unit := do
      if before.shows then complainPlainly (shown values words)
    match words with
    | [] =>
      let assignAll : Run Unit := do
        let values ← assignments.mapM fun a => do
          let value ← expandText (capture steps) a.2
          assign a.1 value
          return (a.1, value)
        if !values.isEmpty then tell values
        modify fun s => { s with status := s.captured }
      redirecting (capture steps) redirections assignAll (return)
    | ["exec"] =>
      if !(← openAll (capture steps) redirections) then throw .exited
      setStatus 0
    | name :: rest =>
      let run : Run Unit := do
        let values ← givesAll
        values.forM fun a => assign a.1 a.2
        tell values
        if isSpecial || values.isEmpty then call name rest tested steps
        else
          let exported := (← get).exported
          modify fun s => { s with exported := values.map (·.1) ++ exported }
          let leave ← attempt (call name rest tested steps)
          modify fun s => { s with exported }
          restore (values.map fun a => (a.1, before.values.lookup a.1))
          leaveAs leave
      redirecting (capture steps) redirections run (if isSpecial then throw .exited else return)

def call (name : String) (words : List String) (tested : Bool) : (steps : Nat) → Run Unit
  | 0 => throw (.killed 9)
  | steps + 1 => do
    match (← get).functions.lookup name with
    | some body => callFunction body words tested steps
    | none => callOther name words tested steps

def callFunction (body : Command) (words : List String) (tested : Bool) : (steps : Nat) → Run Unit
  | 0 => throw (.killed 9)
  | steps + 1 => do
    let before ← get
    modify fun s => { s with parameters := words, outer := some [], loops := 0 }
    let leave ← attempt (exec steps tested body)
    restore ((← get).outer.getD [])
    modify fun s =>
      { s with parameters := before.parameters, outer := before.outer, loops := before.loops }
    leaveAs (leave.filter (· ≠ .returned))

def callOther (name : String) (words : List String) (tested : Bool) : (steps : Nat) → Run Unit
  | 0 => throw (.killed 9)
  | steps + 1 => do
    let before := (← get).speaker
    if builtins.contains name then modify fun s => { s with speaker := some name }
    let leave ← attempt do
      match name with
      | "eval" =>
        let (last, l) := readScript 1 (" ".intercalate words).toList
        if l.isEmpty then setStatus 0
        runTokens last steps l
      | "." =>
        match words with
        | [] => setStatus 0
        | path :: _ =>
          match (← get).disk.readBytes path with
          | .ok content =>
            let (last, l) := readScript 1 (textOfBytes content.toList).toList
            modify fun s => { s with status := 0, speaker := some path }
            match ← attempt (runTokens last steps l) with
            | some .returned => return
            | leave => leaveAs leave
          | .error e => fail ("cannot open " ++ path ++ ": " ++ openFault false e)
      | "exec" =>
        modify fun s => { s with traps := s.traps.filter fun t => t.2.isEmpty }
        callProgram (words.headD "") words.tail steps
        throw .exited
      | "command" =>
        match words with
        | "-v" :: names => (names.take 1).forM (tellCommand true)
        | "-V" :: names => (names.take 1).forM (tellCommand false)
        | "-p" :: name :: rest | name :: rest =>
          modify fun s => { s with speaker := before }
          callOther name rest tested steps
        | [] => setStatus 0
      | _ =>
        if builtins.contains name then builtin (answer steps) name words
        else callProgram name words steps
    if (← takeLoss).isSome then
      complain (name ++ ": I/O error")
      modify fun s => { s with status := s.status ||| 1 }
    modify fun s => { s with speaker := before }
    leaveAs leave

def callProgram (name : String) (words : List String) : (steps : Nat) → Run Unit
  | 0 => throw (.killed 9)
  | steps + 1 => do
    let disk := (← get).disk
    let path? := ((← get).programPath? name).bind fun path => (disk.resolve true path).toOption
    match path? with
    | some (place, some (.file content true)) =>
      let program := place.getLast?.getD ""
      let isOfSystem := place.dropLast = ["usr", "bin"] || place.dropLast = ["bin"]
      if isOfSystem && !isShell program then
        isolated (fun s => { s with speaker := none }) do
          let _ ← utility name program words
      else
        let before ← get
        let start (s : State) : State := { s.fresh name [] with status := 0 }
        let leave ← attempt (isolated start do
          if isOfSystem then runShell name words steps
          else
            modify fun s => { s with parameters := words }
            runWhole 1 (textOfBytes content.toList).toList steps)
        match leave with
        | some (.killed signal) =>
          setStatus (128 + signal)
          if let some message := endOf signal then complainPlainly message
        | _ => modify fun s => { s with line := before.line }
    | some (_, some _) =>
      complain (name ++ ": Permission denied")
      setStatus (if name.isEmpty then 127 else 126)
    | _ =>
      complain (name ++ ": not found")
      setStatus 127

def runShell (own : String) (words : List String) : (steps : Nat) → Run Unit
  | 0 => throw (.killed 9)
  | steps + 1 => do
    modify fun s => { s with own, line := 0 }
    let (switches, task) := taskOf own words
    let leave ← attempt do let _ ← setSwitches switches
    match leave with
    | some (.killed signal) => throw (.killed signal)
    | some _ => return
    | none =>
      let disk := (← get).disk
      match task with
      | .missing =>
        complain "-c requires an argument"
        setStatus 2
      | .script text own parameters =>
        modify fun s => { s with own, parameters }
        runWhole 1 text steps
      | .input parameters =>
        let text := textOfBytes (← takeInput)
        modify fun s => { s with parameters }
        runWhole 1 text.toList steps
      | .file path parameters =>
        match disk.readBytes path with
        | .ok content =>
          modify fun s => { s with own := path, parameters }
          runWhole 1 (textOfBytes content.toList).toList steps
        | .error e =>
          complain ("cannot open " ++ path ++ ": " ++ openFault false e)
          setStatus 2

end

/-- More steps than a script takes that ends. -/
def runBound : Nat := 1000000000

/-- What a program has written and how it ended; a signal leaves no code. -/
structure Output where
  written : List UInt8
  complaints : List UInt8
  code : Option Nat
  disk : Disk

def Output.of (r : Except Leave Unit × State) : Output :=
  { written := r.2.written.bytes
    complaints := r.2.complaints.bytes
    code := match r.1 with
      | .error (.killed _) => none
      | _ => some (r.2.status % 256)
    disk := r.2.disk }

/-- Runs a program of the system, the name of which is its last part, with no input. Scripts look
for other programs in `folders`. -/
def runProgram (disk : Disk) (folders : List String) (own name : String) (words : List String) :
    Output :=
  let folder := "/" ++ "/".intercalate disk.current
  let start : State := {
    disk
    values := [("PWD", folder), ("PATH", ":".intercalate folders)]
    exported := ["PWD", "PATH"] }
  .of <| StateT.run (ExceptT.run (
    if isShell name then runShell own words runBound else do let _ ← utility own name words)) start

end OrchestrationGraph.Machine.Shell
