import OrchestrationGraph.Machine.Shell.Printf

/-!
# Utilities

Programs of the system that scripts and commands call by name.

The shell stands in for external tools in trial runs; nothing here is part of the program.
-/

namespace OrchestrationGraph.Machine.Shell

def takeInput : Run (List UInt8) := do
  let s ← get
  set { s with input := [] }
  return s.input

def refuse (name file : String) (e : FileError) : Run Unit := do
  let isPart := name = "head" || name = "tail"
  let file := if isPart then "cannot open '" ++ file ++ "' for reading" else file
  complainPlainly (name ++ ": " ++ file ++ ": " ++ e.reason)
  setStatus 1

def isInput (file : String) : Bool := file = "-" || file = "/dev/stdin"

/-- The contents of files, or the standard input if there are none. -/
def contentsOf (name : String) (files : List String) : Run (List (String × List UInt8)) := do
  let files := if files.isEmpty then ["-"] else files
  files.filterMapM fun file => do
    if isInput file then return some (file, ← takeInput)
    match (← get).disk.readBytes file with
    | .ok content => return some (file, content.toList)
    | .error e =>
      refuse name file e
      return none

def linesOf (l : List UInt8) : List (List UInt8) :=
  match l.splitBy fun a _ => a ≠ 10 with
  | [] => []
  | lines => lines

def wordCount (l : List UInt8) : Nat :=
  ((Text.piecesBy Text.isBlank (textOfBytes l).toList).filter (!·.isEmpty)).length

/-- The options of a utility that takes letters only, and the other words. -/
def splitOptions (words : List String) : List Char × List String :=
  let isOption (w : String) := w.startsWith "-" && w.length > 1
  let options := words.filter fun w => isOption w && w ≠ "--"
  ((options.flatMap fun w => w.toList.tail), words.filter fun w => !isOption w)

def namesIn (options : List Char) (entries : List (String × Item)) : List String :=
  let names := (entries.map (·.1)).filter fun n =>
    options.contains 'a' || options.contains 'A' || !n.startsWith "."
  (if options.contains 'a' then [".", ".."] else []) ++ names

def list (words : List String) : Run Unit := do
  let (options, places) := splitOptions words
  let disk := (← get).disk
  let found ← (if places.isEmpty then ["."] else places).filterMapM fun path => do
    match disk.item path with
    | .error e =>
      complainPlainly ("ls: cannot access '" ++ path ++ "': " ++ e.reason)
      setStatus 2
      return none
    | .ok (.folder entries) =>
      return some (path, if options.contains 'd' then none else some (namesIn options entries))
    | .ok _ => return some (path, none)
  let text (names : List String) : String := String.join (names.map (· ++ "\n"))
  let files := (found.filter (·.2.isNone)).map (·.1)
  let folders := found.filterMap fun f => f.2.map fun names =>
    (if places.length < 2 then "" else f.1 ++ ":\n") ++ text names
  emitText ("\n".intercalate ((if files.isEmpty then [] else [text files]) ++ folders))

/-- Parts of the contents from one end, counted in lines or bytes. -/
def part (name : String) (fromEnd : Bool) (words : List String) : Run Unit := do
  let count (w : String) : Nat := (w.toNat?).getD 10
  let (bytes, n, files) := match words with
    | "-n" :: n :: files => (false, count n, files)
    | "-c" :: n :: files => (true, count n, files)
    | w :: files =>
      if w.startsWith "-n" then (false, count (w.drop 2).toString, files)
      else if w.startsWith "-c" then (true, count (w.drop 2).toString, files)
      else if w.startsWith "-" && w.length > 1 then (false, count (w.drop 1).toString, files)
      else (false, 10, words)
    | [] => (false, 10, [])
  let cut {α : Type} (l : List α) : List α := if fromEnd then l.drop (l.length - n) else l.take n
  (← contentsOf name files).forM fun (_, content) =>
    emit (if bytes then cut content else (cut (linesOf content)).flatten)

/-- Counts lines, words and bytes, or what the options ask for. -/
def count (words : List String) : Run Unit := do
  let (options, files) := splitOptions words
  let contents ← contentsOf "wc" files
  let chosen (content : List UInt8) : List Nat :=
    let all := [('l', content.count 10), ('w', wordCount content), ('c', content.length)]
    (all.filter fun n => options.isEmpty || options.contains n.1).map (·.2)
  let total := ((contents.map fun c => c.2.length).foldl (· + ·) 0)
  let width := if options.length = 1 && contents.length = 1 then 0
    else if contents.any fun c => isInput c.1 then 7
    else (toString total).length
  let line (numbers : List Nat) (file : String) : String :=
    let pad (n : Nat) : String := "".pushn ' ' (width - (toString n).length) ++ toString n
    let name := if file = "-" && files.isEmpty then "" else " " ++ file
    " ".intercalate (numbers.map pad) ++ name ++ "\n"
  contents.forM fun (file, content) => emitText (line (chosen content) file)
  if 1 < contents.length then
    let sums := (contents.map fun c => chosen c.2).foldl (fun a b =>
      if a.isEmpty then b else List.zipWith (· + ·) a b) []
    emitText (line sums "total")

def sequence (words : List String) : Run Unit := do
  let (first, step, last) : Int × Int × Int := match words.map fun w => (w.toInt?).getD 0 with
    | [last] => (1, 1, last)
    | [first, last] => (first, 1, last)
    | [first, step, last] => (first, step, last)
    | _ => (1, 1, 0)
  let length := if step = 0 then 0 else ((last - first).fdiv step + 1).toNat
  let numbers := (List.range length).map fun (i : Nat) => first + step * (i : Int)
  emitText (String.join (numbers.map fun n => toString n ++ "\n"))

/-- Changes the disk for each path; one that cannot be changed is complained about. -/
def changeAll (complaint : String) (paths : List String)
    (f : Disk → String → Except FileError Disk) : Run Unit :=
  paths.forM fun path => do
    match f (← get).disk path with
    | .ok disk => modify fun s => { s with disk }
    | .error e =>
      complainPlainly (complaint ++ " '" ++ path ++ "': " ++ e.reason)
      setStatus 1

def makeFolders (words : List String) : Run Unit := do
  let (options, paths) := splitOptions words
  changeAll "mkdir: cannot create directory" paths fun d path =>
    if options.contains 'p' then d.createFolder path else d.makeFolder path

def remove (words : List String) : Run Unit := do
  let (options, paths) := splitOptions words
  changeAll "rm: cannot remove" paths fun d path => do
    match ← d.resolve false path with
    | (_, none) => if options.contains 'f' then return d else throw .missing
    | (place, some i) =>
      if i.isFolder && !options.contains 'r' && !options.contains 'R' then throw .isFolder
      return { d with root := d.root.erase place }

def removeFolders (paths : List String) : Run Unit :=
  changeAll "rmdir: failed to remove" paths fun d path => do
    match ← d.resolve false path with
    | (_, none) => throw .missing
    | (place, some (.folder entries)) =>
      if !entries.isEmpty then throw .notEmpty
      return { d with root := d.root.erase place }
    | _ => throw .notFolder

def touch (paths : List String) : Run Unit :=
  changeAll "touch: cannot touch" paths fun d path => do
    match ← d.resolve true path with
    | (_, some _) => return d
    | (_, none) => d.write path (.ofText "")

def baseName (path ending : String) : String :=
  let names := (Path.pieces path).filter (· ≠ "")
  let name := names.getLast?.getD (if path.isEmpty then "" else "/")
  if !ending.isEmpty && name ≠ ending && name.endsWith ending then
    (name.dropEnd ending.length).toString
  else name

def folderName (path : String) : String :=
  let trimmed := Text.trimEndBy (· = '/') path.toList
  let before := Text.trimEndBy (· ≠ '/') trimmed
  if before.isEmpty then (if trimmed.isEmpty && !path.isEmpty then "/" else ".")
  else match Text.trimEndBy (· = '/') before with
    | [] => "/"
    | l => String.ofList l

def echo (resolves : Bool) (words : List String) : Run Unit := do
  let (words, ending) : List String × List UInt8 := match words with
    | "-n" :: rest => (rest, [])
    | words => (words, [10])
  let line := " ".intercalate words
  if resolves then
    let (bytes, ended) := unescapeAll line
    emit (bytes ++ if ended then [] else ending)
  else emit (bytesOf line ++ ending)

def printf (complain : String → Run Unit) (words : List String) : Run Unit := do
  match if words.head? = some "--" then words.tail else words with
  | [] =>
    complain "usage: printf format [arg ...]"
    setStatus 2
  | format :: words =>
    let r := formatWords format words
    emit r.bytes
    r.faults.forM complain
    if !r.faults.isEmpty then setStatus (if r.isBroken then 2 else 1)

/-- Tells of output that got lost, under the name that the utility was called by. -/
def tellLoss (own name : String) : Run Unit := do
  if let some e ← takeLoss then
    let what := if name = "cat" && e = .closed then "standard output" else "write error"
    complainPlainly (own ++ ": " ++ what ++ ": " ++ e.reason)
    setStatus (if name = "ls" then 2 else 1)

def utilityTask (name : String) (words : List String) : Run Bool := do
  setStatus 0
  match name with
  | "true" | "sleep" => return true
  | "false" => setStatus 1
  | "echo" => echo false words
  | "printf" => printf (fun message => complainPlainly ("printf: " ++ message)) words
  | "pwd" => emitText ("/" ++ "/".intercalate (← get).disk.current ++ "\n")
  | "cat" =>
    let (_, files) := splitOptions words
    (← contentsOf "cat" files).forM fun f => emit f.2
  | "ls" => list words
  | "head" => part "head" false words
  | "tail" => part "tail" true words
  | "wc" => count words
  | "seq" => sequence words
  | "mkdir" => makeFolders words
  | "rm" => remove words
  | "rmdir" => removeFolders words
  | "touch" => touch words
  | "basename" => emitText (baseName (words.headD "") (words.tail.headD "") ++ "\n")
  | "dirname" => emitText (folderName (words.headD "") ++ "\n")
  | _ => return false
  return true

/-- Runs a utility, unless there is none of that name; `own` is what it was called by. -/
def utility (own name : String) (words : List String) : Run Bool := do
  let isThere ← utilityTask name words
  tellLoss own name
  return isThere

end OrchestrationGraph.Machine.Shell
