import OrchestrationGraph.Machine.Shell.Condition
import OrchestrationGraph.Machine.Shell.Utility

/-!
# Commands of the shell itself

What scripts call by name and what only the shell can do: it changes variables, parameters, the
current folder, or the way the script goes on.

The shell stands in for external tools in trial runs; nothing here is part of the program.
-/

namespace OrchestrationGraph.Machine.Shell

def builtins : List String := specials ++ [
  "[", "alias", "bg", "cd", "command", "echo", "false", "fg", "getopts", "hash", "jobs", "kill",
  "local", "printf", "pwd", "read", "test", "true", "type", "ulimit", "umask", "unalias", "wait"]

/-! ### Numbers -/

/-- The number that a word is, with blanks and a sign perhaps. -/
def countOf (w : String) : Run Nat := do
  let trimmed := (Text.trim w).toList
  let digits := if trimmed.head? = some '+' then trimmed.tail else trimmed
  let n := digits.foldl (fun n d => n * 10 + (d.toNat - '0'.toNat)) 0
  if digits.isEmpty || !digits.all Char.isDigit || 0x7fffffff < n then
    fail ("Illegal number: " ++ w)
  return n

/-! ### Signals -/

def signals : List (String × Nat) := [
  ("EXIT", 0), ("HUP", 1), ("INT", 2), ("QUIT", 3), ("ILL", 4), ("TRAP", 5), ("ABRT", 6),
  ("BUS", 7), ("FPE", 8), ("KILL", 9), ("USR1", 10), ("SEGV", 11), ("USR2", 12), ("PIPE", 13),
  ("ALRM", 14), ("TERM", 15), ("CHLD", 17), ("CONT", 18), ("STOP", 19), ("TSTP", 20), ("TTIN", 21),
  ("TTOU", 22), ("URG", 23), ("XCPU", 24), ("XFSZ", 25), ("VTALRM", 26), ("PROF", 27),
  ("WINCH", 28), ("IO", 29), ("PWR", 30), ("SYS", 31)]

/-- The signal of a number or name. -/
def signal? (w : String) : Option Nat :=
  let l := w.toList
  if !l.isEmpty && l.all Char.isDigit then
    let n := l.foldl (fun n d => n * 10 + (d.toNat - '0'.toNat)) 0
    if n ≤ 64 then some n else none
  else signals.lookup (Text.asciiUpper w)

def signalName (n : Nat) : String :=
  if n = 0 then "EXIT"
  else if n ≤ 31 then ((signals.find? fun s => s.2 = n).map (·.1)).getD (toString n)
  else if n ≤ 33 then toString n
  else if n = 34 then "RTMIN"
  else if n < 50 then "RTMIN+" ++ toString (n - 34)
  else if n < 64 then "RTMAX-" ++ toString (64 - n)
  else "RTMAX"

/-- Whether a program goes on at a signal that it does nothing about. -/
def isHarmless (n : Nat) : Bool := [0, 17, 18, 23, 28].contains n

def endOf (n : Nat) : Option String :=
  [(1, "Hangup"), (3, "Quit"), (4, "Illegal instruction"), (5, "Trace/breakpoint trap"),
    (6, "Aborted"), (7, "Bus error"), (8, "Floating point exception"), (9, "Killed"),
    (10, "User defined signal 1"), (11, "Segmentation fault"), (12, "User defined signal 2"),
    (14, "Alarm clock"), (15, "Terminated"), (16, "Stack fault"), (24, "CPU time limit exceeded"),
    (25, "File size limit exceeded"), (26, "Virtual timer expired"),
    (27, "Profiling timer expired"), (29, "I/O possible"), (30, "Power failure"),
    (31, "Bad system call")].lookup n

def takeSignal (answer : String → Run Unit) (n : Nat) : Run Unit := do
  match (← get).traps.lookup n with
  | some action => if n = 9 then throw (.killed n) else answer action
  | none => if isHarmless n then return else throw (.killed n)

/-- Sends a signal to the outermost shell, which gets it once the shells below it have ended. -/
def sendSignal (answer : String → Run Unit) (n : Nat) : Run Unit := do
  if (← get).isBelow then modify fun s => { s with sent := s.sent ++ [n] }
  else takeSignal answer n

def settle (answer : String → Run Unit) : Run Unit := do
  if !(← get).isBelow then
    let sent := (← get).sent
    modify fun s => { s with sent := [] }
    sent.forM (takeSignal answer)

/-- Processes are the script, which has number 1, and no others. -/
def killAll (answer : String → Run Unit) (words : List String) : Run Unit := do
  let usage : Run Unit := fail
    "Usage: kill [-s sigspec | -signum | -sigspec] [pid | job]... or\nkill -l [exitstatus]"
  let chosen : Option (Except String Nat × List String) := match words with
    | "-s" :: w :: rest =>
      some ((signal? w).elim (.error ("invalid signal number or name: " ++ w)) .ok, rest)
    | w :: rest =>
      if w.startsWith "-" && w ≠ "--" && w.length > 1 then
        let name := (w.drop 1).toString
        some ((signal? name).elim (.error ("Illegal option -" ++ (name.take 1).toString)) .ok, rest)
      else if w = "--" then some (.ok 15, rest)
      else some (.ok 15, words)
    | [] => none
  match words, chosen with
  | ["-l", code], _ =>
    let n ← countOf code
    emitText (signalName (if 128 < n then n - 128 else n) ++ "\n")
  | ["-l"], _ =>
    let names := (List.range 64).map fun n => signalName (n + 1)
    emitText (String.join (("0" :: names).map (· ++ "\n")))
  | _, none | _, some (_, []) => usage
  | _, some (.error message, _) => fail message
  | _, some (.ok n, processes) =>
    processes.forM fun w => do
      match w with
      | "1" | "%%" | "%1" => sendSignal answer n
      | _ =>
        let _ ← countOf (if w.startsWith "-" then (w.drop 1).toString else w)
        complain "No such process\n"
        setStatus 1

def setTraps (words : List String) : Run Unit := do
  let setAll (action : Option String) (names : List String) : Run Unit :=
    names.forM fun name => do
      match signal? name with
      | none =>
        complainPlainly ("trap: " ++ name ++ ": bad trap")
        setStatus 1
      | some n =>
        modify fun s => { s with traps :=
          (action.map (n, ·)).toList ++ s.traps.filter fun t => t.1 ≠ n }
  match words with
  | [] =>
    let traps := (← get).traps
    (List.range 65).forM fun n => do
      match traps.lookup n with
      | some action => emitText ("trap -- '" ++ action ++ "' " ++ signalName n ++ "\n")
      | none => return
  | "--" :: action :: names => setAll (some action) names
  | "-" :: names => setAll none names
  | [name] => setAll none [name]
  | action :: names =>
    if (signal? action).isSome then setAll none words else setAll (some action) names

/-! ### Variables and parameters -/

def badName {α : Type} (name : String) : Run α := fail (name ++ ": bad variable name")

def splitAssignment (w : String) : String × Option String :=
  let name := w.toList.takeWhile (· ≠ '=')
  (String.ofList name,
    if name.length = w.length then none else some (String.ofList (w.toList.drop (name.length + 1))))

/-- Gives variables a property, and values where the words assign some. -/
def declare (property : State → String → State) (words : List String) : Run Unit :=
  words.forM fun w => do
    if w = "-p" || w = "--" then return
    let (name, value) := splitAssignment w
    if !isName name then badName name
    if let some value := value then assign name value
    modify fun s => property s name

def makeLocal (words : List String) : Run Unit := do
  match (← get).outer with
  | none => fail "not in a function"
  | some _ =>
    words.forM fun w => do
      let (name, value) := splitAssignment w
      if !isName name then badName name
      modify fun s => { s with outer := s.outer.map ((name, s.values.lookup name) :: ·) }
      if let some value := value then assign name value

def unsetAll (words : List String) : Run Unit := do
  let ofFunctions := words.head? = some "-f"
  let names := if ofFunctions || words.head? = some "-v" then words.tail else words
  names.forM fun name => do
    if ofFunctions then
      modify fun s => { s with functions := s.functions.filter fun f => f.1 ≠ name }
    else
      if !isName name then badName name
      if (← get).fixed.contains name then fail (name ++ ": is read only")
      modify (·.erase name)

def switch (letter : Char) (isOn : Bool) : Run Unit := do
  match letter with
  | 'e' => modify fun s => { s with failsFast := isOn }
  | 'u' => modify fun s => { s with needsParameters := isOn }
  | 'x' => modify fun s => { s with shows := isOn }
  | 'f' => modify fun s => { s with keepsPatterns := isOn }
  | _ =>
    if !"InmsvVEabC".toList.contains letter then
      fail ("Illegal option -" ++ String.singleton letter)

def switchNamed (name : String) : Run Char := do
  match [("errexit", 'e'), ("nounset", 'u'), ("xtrace", 'x'), ("noglob", 'f'), ("ignoreeof", 'I'),
      ("noexec", 'n'), ("monitor", 'm'), ("stdin", 's'), ("verbose", 'v'), ("vi", 'V'),
      ("emacs", 'E'), ("allexport", 'a'), ("notify", 'b'), ("noclobber", 'C')].lookup name with
  | some letter => return letter
  | none => fail ("Illegal option -o " ++ name)

/-- Sets switches; the answer is the words after them, and whether they are parameters even if there
are none. -/
def setSwitches : List String → Run (List String × Bool)
  | [] => return ([], false)
  | "--" :: words | "-" :: words => return (words, true)
  | w :: words => do
    match w.toList with
    | sign :: letters =>
      if sign ≠ '-' && sign ≠ '+' || letters.isEmpty then return (w :: words, true)
      if letters = ['o'] then
        match words with
        | name :: words =>
          switch (← switchNamed name) (sign = '-')
          setSwitches words
        | [] => return ([], false)
      else
        letters.forM fun letter => switch letter (sign = '-')
        setSwitches words
    | [] => return (w :: words, true)

def setParameters (words : List String) : Run Unit := do
  let (parameters, areGiven) ← setSwitches words
  if areGiven then modify fun s => { s with parameters }

def shiftParameters (words : List String) : Run Unit := do
  let n ← match words with
    | [] => pure 1
    | w :: _ => countOf w
  if (← get).parameters.length < n then fail "can't shift that many"
  modify fun s => { s with parameters := s.parameters.drop n }

/-! ### Folders -/

/-- The names of a path without dots, where two of them take back a name. -/
def plainNames (path : String) : List String :=
  (Path.pieces path).foldl (fun names name =>
    if name = "" || name = "." then names
    else if name = ".." then names.dropLast
    else names ++ [name]) []

def workingFolder : Run String := do
  return (← variableValue "PWD").getD ("/" ++ "/".intercalate (← get).disk.current)

def changeFolder (words : List String) : Run Unit := do
  let words := words.filter fun w => w ≠ "-L" && w ≠ "-P" && w ≠ "--"
  let before ← workingFolder
  let target ← match words with
    | [] => pure ((← variableValue "HOME").getD "")
    | "-" :: _ => pure ((← variableValue "OLDPWD").getD before)
    | w :: _ => pure w
  if target.isEmpty then return
  let path := "/" ++ "/".intercalate
    (plainNames (if Path.isAbsolute target then target else before ++ "/" ++ target))
  match (← get).disk.resolve true path with
  | .ok (place, some (.folder _)) =>
    modify fun s => { s with disk := { s.disk with current := place } }
    modify fun s => (s.put "OLDPWD" before).put "PWD" path
    if words.head? = some "-" then emitText (path ++ "\n")
  | _ =>
    complain ("can't cd to " ++ target)
    setStatus 2

/-! ### Input -/

/-- Splits a line among so many variables; the last one takes what is left. -/
def splitLine (separators : List Char) : (count : Nat) → List (Char × Bool) → List String
  | 0, _ => []
  | count + 1, l =>
    let isSeparator (c : Char × Bool) : Bool := !c.2 && separators.contains c.1
    let isBlank (c : Char × Bool) : Bool := isSeparator c && Text.isBlank c.1
    let text (l : List (Char × Bool)) : String := String.ofList (l.map (·.1))
    let l := l.dropWhile isBlank
    match count with
    | 0 =>
      let trimmed := (l.reverse.dropWhile isBlank).reverse
      let rest := trimmed.dropWhile fun c => !isSeparator c
      [text (if rest.length = 1 then trimmed.dropLast else trimmed)]
    | _ =>
      let rest := (l.dropWhile fun c => !isSeparator c).dropWhile isBlank
      let rest := if rest.head?.any isSeparator then rest.tail else rest
      text (l.takeWhile fun c => !isSeparator c) :: splitLine separators count rest

/-- Takes the characters of a line, where a backslash may protect one or join lines; with each comes
whether it is protected. -/
def takeLine (isRaw : Bool) : List Char → List (Char × Bool)
  | [] => []
  | '\\' :: '\n' :: rest => if isRaw then [('\\', false)] else takeLine isRaw rest
  | '\\' :: c :: rest =>
    if isRaw then ('\\', false) :: takeLine isRaw (c :: rest) else (c, true) :: takeLine isRaw rest
  | '\n' :: _ => []
  | c :: rest => if c = '\\' && !isRaw then [] else (c, false) :: takeLine isRaw rest

/-- The bytes of a line with its end, and those after it. -/
def cutLine (isRaw : Bool) : List UInt8 → List UInt8 × List UInt8
  | [] => ([], [])
  | 92 :: b :: rest =>
    if isRaw then
      let (line, after) := cutLine isRaw (b :: rest)
      (92 :: line, after)
    else
      let (line, after) := cutLine isRaw rest
      (92 :: b :: line, after)
  | 10 :: rest => ([10], rest)
  | b :: rest =>
    let (line, after) := cutLine isRaw rest
    (b :: line, after)

def readInput (words : List String) : Run Unit := do
  let isRaw := words.contains "-r"
  let names := words.filter fun w => !w.startsWith "-"
  if names.isEmpty then
    complain "arg count"
    setStatus 2
    return
  let (line, after) := cutLine isRaw (← get).input
  modify fun s => { s with input := after }
  let separators := ((← variableValue "IFS").getD " \t\n").toList
  let values := splitLine separators names.length (takeLine isRaw (textOfBytes line).toList)
  (names.zip values).forM fun (name, value) => assign name value
  if line.getLast? ≠ some 10 then setStatus 1

/-! ### Names of commands -/

/-- Folders in which programs without a slash in their name are looked for. -/
def searchPath : List String :=
  ["/usr/local/sbin", "/usr/local/bin", "/usr/sbin", "/usr/bin", "/sbin", "/bin"]

def State.programPath? (s : State) (name : String) : Option String :=
  let folders := (Text.piecesBy (· = ':') ((s.values.lookup "PATH").getD "").toList).map
    String.ofList
  let paths := if name.toList.contains '/' then [name] else folders.map (Path.join · name)
  paths.find? fun p => (s.disk.item? p).isSome

/-- Tells what a command is; the short form is what stands for it in a script. -/
def tellCommand (isShort : Bool) (name : String) : Run Unit := do
  let s ← get
  let say (long short : String) : Run Unit := emitText ((if isShort then short else long) ++ "\n")
  if reserved.contains name then say (name ++ " is a shell keyword") name
  else if specials.contains name then say (name ++ " is a special shell builtin") name
  else if (s.functions.lookup name).isSome then say (name ++ " is a shell function") name
  else if builtins.contains name then say (name ++ " is a shell builtin") name
  else match s.programPath? name with
    | some path => say (name ++ " is " ++ path) path
    | none =>
      if !isShort then emitText (name ++ ": not found\n")
      setStatus 127

/-! ### Going on elsewhere -/

def leaveLoops (words : List String) (leave : Nat → Leave) : Run Unit := do
  let n ← match words with
    | [] => pure 1
    | w :: _ => countOf w
  if n = 0 then fail ("Illegal number: " ++ words.headD "")
  let loops := (← get).loops
  if loops ≠ 0 then throw (leave (min n loops))

def condition (words : List String) : Run Unit := do
  match Condition.holds (← get).disk (words.length + 1) words with
  | .ok value => setStatus (if value then 0 else 1)
  | .error message =>
    complain message
    setStatus 2

/-- Carries out a command of the shell that needs no other scripts. -/
def builtin (answer : String → Run Unit) (name : String) (words : List String) : Run Unit := do
  let before := (← get).status
  setStatus 0
  match name with
  | "exit" =>
    match words with
    | [] => setStatus before
    | w :: _ => setStatus ((← countOf w) % 256)
    throw .exited
  | "return" =>
    match words with
    | [] => setStatus before
    | w :: _ => setStatus (← countOf w)
    throw .returned
  | "break" => leaveLoops words .broken
  | "continue" => leaveLoops words .continued
  | "false" => setStatus 1
  | "echo" => echo true words
  | "printf" => printf complain words
  | "pwd" =>
    if words.contains "-P" then emitText ("/" ++ "/".intercalate (← get).disk.current ++ "\n")
    else emitText ((← workingFolder) ++ "\n")
  | "cd" => changeFolder words
  | "read" => readInput words
  | "shift" => shiftParameters words
  | "set" => setParameters words
  | "unset" => unsetAll words
  | "export" => declare (fun s name => { s with exported := name :: s.exported }) words
  | "readonly" => declare (fun s name => { s with fixed := name :: s.fixed }) words
  | "local" => makeLocal words
  | "test" => condition words
  | "[" =>
    if words.getLast? = some "]" then condition words.dropLast
    else
      complain "missing ]"
      setStatus 2
  | "kill" => killAll answer words
  | "trap" => setTraps words
  | "wait" => modify fun s => { s with status := if words.isEmpty then 0 else s.job.getD 127 }
  | "type" => words.forM (tellCommand false)
  | "umask" => if words.isEmpty then emitText "0022\n"
  | _ => return

end OrchestrationGraph.Machine.Shell
