import OrchestrationGraph.Machine.Shell.Word

/-!
# Commands of a shell script

Simple commands, what is built from them, and how they are read. A script is read one line after the
other, so that a fault shows only when its line is reached; a line ends where its command is
complete.

The shell stands in for external tools in trial runs; nothing here is part of the program.
-/

namespace OrchestrationGraph.Machine.Shell

structure Redirection where
  channel : Nat
  direction : Direction
  target : Word

inductive Command where
  | simple (line : Nat) (assignments : List (String × Word)) (words : List Word)
      (redirections : List Redirection)
  | nothing
  | sequence (first second : Command)
  | ifSuccess (first second : Command)
  | ifFailure (first second : Command)
  | negation (c : Command)
  | pipe (first second : Command)
  | background (c : Command)
  | subshell (c : Command)
  | redirected (line : Nat) (c : Command) (redirections : List Redirection)
  | choice (test yes no : Command)
  | loop (untilSuccess : Bool) (test body : Command)
  /-- Goes through words, or through the parameters if none are given. -/
  | forEach (name : String) (words : Option (List Word)) (body : Command)
  | cases (word : Word) (arms : List (List Word × Command))
  | function (name : String) (body : Command)

structure Misreading where
  line : Nat
  message : String
  deriving DecidableEq, Repr

abbrev Reading (α : Type) : Type := StateT Tokens (Except Misreading) α

/-- Commands whose faults end the script and whose assignments stay. -/
def specials : List String := [
  ".", ":", "break", "continue", "eval", "exec", "exit", "export", "readonly", "return", "set",
  "shift", "times", "trap", "unset"]

def reserved : List String := [
  "!", "\x7b", "\x7d", "case", "do", "done", "elif", "else", "esac", "fi", "for", "if", "in",
  "then", "until", "while"]

/-- The text of a word without quotes and parameters. -/
def Word.plain? (w : Word) : Option String :=
  let texts := w.map fun
    | .text l false => some (String.ofList l)
    | _ => none
  if texts.all Option.isSome then some (String.join (texts.map (·.getD ""))) else none

def keyword? : Tokens → Option String
  | (.word w, _) :: _ => (Word.plain? w).filter reserved.contains
  | _ => none

def nameOf (l : Tokens) : String :=
  match l with
  | [] => "end of file"
  | (.operator "\n", _) :: _ => "newline"
  | (.operator s, _) :: _ => "\"" ++ s ++ "\""
  | (.redirection .., _) :: _ => "redirection"
  | (.word _, _) :: _ => (keyword? l).elim "word" fun s => "\"" ++ s ++ "\""
  | (.fault message, _) :: _ => message

/-- Fails at the next token, which is not what was wanted; `last` is the line of the end. -/
def unexpected {α : Type} (last : Nat) (wanted : Option String) : Reading α := do
  let l ← get
  let line := (l.head?.map (·.2)).getD last
  match l with
  | (.fault message, _) :: _ => throw ⟨line, message⟩
  | _ =>
    let wanted := wanted.elim "" fun s => " (expecting " ++ s ++ ")"
    throw ⟨line, nameOf l ++ " unexpected" ++ wanted⟩

def skipBreaks : Reading Unit :=
  modify fun l => l.dropWhile fun t => t.1 matches .operator "\n"

def takeOperator (s : String) : Reading Bool := do
  match ← get with
  | (.operator o, _) :: rest =>
    if o = s then
      set rest
      return true
    return false
  | _ => return false

def takeKeyword (s : String) : Reading Bool := do
  if keyword? (← get) = some s then
    modify List.tail
    return true
  return false

def needKeyword (last : Nat) (s : String) : Reading Unit := do
  if !(← takeKeyword s) then unexpected last (some ("\"" ++ s ++ "\""))

def readRedirections (last : Nat) : (steps : Nat) → Reading (List Redirection)
  | 0 => return []
  | steps + 1 => do
    match ← get with
    | (.redirection channel direction, _) :: rest =>
      set rest
      match rest with
      | (.word target, _) :: rest =>
        set rest
        return ⟨channel, direction, target⟩ :: (← readRedirections last steps)
      | _ => unexpected last none
    | _ => return []

def assignment? (w : Word) : Option (String × Word) :=
  let isText : Part → Bool
    | .text [c] false => c ≠ '='
    | _ => false
  let name := (Word.plain? (w.takeWhile isText)).getD ""
  match w.dropWhile isText with
  | .text ['='] false :: value => if isName name then some (name, value) else none
  | _ => none

/-- A simple command: assignments, words and redirections. -/
def readSimple (last line : Nat) (assignments : List (String × Word)) (words : List Word)
    (redirections : List Redirection) : (steps : Nat) → Reading Command
  | 0 => return .nothing
  | steps + 1 => do
    match ← get with
    | (.word w, _) :: rest =>
      set rest
      match if words.isEmpty then assignment? w else none with
      | some a => readSimple last line (assignments ++ [a]) words redirections steps
      | none => readSimple last line assignments (words ++ [w]) redirections steps
    | (.redirection .., _) :: _ =>
      let more ← readRedirections last 1
      readSimple last line assignments words (redirections ++ more) steps
    | _ => return .simple line assignments words redirections

/-- The words up to the end of the line, or of the list. -/
def readWords : (steps : Nat) → Reading (List Word)
  | 0 => return []
  | steps + 1 => do
    match ← get with
    | (.word w, _) :: rest =>
      set rest
      return w :: (← readWords steps)
    | _ => return []

def readPatterns (last : Nat) : (steps : Nat) → Reading (List Word)
  | 0 => unexpected last none
  | steps + 1 => do
    match ← get with
    | (.word w, _) :: rest =>
      set rest
      if ← takeOperator "|" then return w :: (← readPatterns last steps)
      if ← takeOperator ")" then return [w]
      unexpected last (some "\")\"")
    | _ => unexpected last none

def endsList (l : Tokens) : Bool :=
  match l with
  | [] => true
  | (.operator o, _) :: _ => o = ")" || o = ";;"
  | _ =>
    let starts := ["!", "\x7b", "case", "for", "if", "until", "while", "in"]
    (keyword? l).any fun s => !starts.contains s

mutual

/-- Commands up to the end of a list, or with `oneLine` to the end of the line. -/
def readList (last : Nat) (oneLine : Bool) : (steps : Nat) → Reading Command
  | 0 => unexpected last none
  | steps + 1 => do
    let first ← readChain last steps
    let isBackground ← takeOperator "&"
    let first := if isBackground then .background first else first
    let isSplit ← if isBackground then pure true else takeOperator ";"
    let isBroken := nameOf (← get) = "newline"
    if oneLine then
      if (← get).isEmpty || isBroken then
        modify (·.drop 1)
        return first
      if !isSplit then unexpected last none
    else
      if !isSplit && !isBroken then return first
      skipBreaks
      if endsList (← get) then return first
    return .sequence first (← readList last oneLine steps)

def readChain (last : Nat) : (steps : Nat) → Reading Command
  | 0 => unexpected last none
  | steps + 1 => do readChainAfter last (← readPipeline last steps) steps

def readChainAfter (last : Nat) (first : Command) : (steps : Nat) → Reading Command
  | 0 => unexpected last none
  | steps + 1 => do
    if ← takeOperator "&&" then
      skipBreaks
      readChainAfter last (.ifSuccess first (← readPipeline last steps)) steps
    else if ← takeOperator "||" then
      skipBreaks
      readChainAfter last (.ifFailure first (← readPipeline last steps)) steps
    else return first

def readPipeline (last : Nat) : (steps : Nat) → Reading Command
  | 0 => unexpected last none
  | steps + 1 => do
    let isNegated ← takeKeyword "!"
    let c ← readPipe last (← readCommand last steps) steps
    return if isNegated then .negation c else c

def readPipe (last : Nat) (first : Command) : (steps : Nat) → Reading Command
  | 0 => unexpected last none
  | steps + 1 => do
    if ← takeOperator "|" then
      skipBreaks
      readPipe last (.pipe first (← readCommand last steps)) steps
    else return first

def readBody (last : Nat) : (steps : Nat) → Reading Command
  | 0 => unexpected last none
  | steps + 1 => do
    skipBreaks
    if (← get).isEmpty then return .nothing
    readList last false steps

def readChoice (last : Nat) : (steps : Nat) → Reading Command
  | 0 => unexpected last none
  | steps + 1 => do
    let test ← readBody last steps
    needKeyword last "then"
    let yes ← readBody last steps
    if ← takeKeyword "elif" then return .choice test yes (← readChoice last steps)
    if ← takeKeyword "else" then
      let no ← readBody last steps
      needKeyword last "fi"
      return .choice test yes no
    needKeyword last "fi"
    return .choice test yes .nothing

def readLoopBody (last : Nat) : (steps : Nat) → Reading Command
  | 0 => unexpected last none
  | steps + 1 => do
    needKeyword last "do"
    let body ← readBody last steps
    needKeyword last "done"
    return body

def readFor (last : Nat) : (steps : Nat) → Reading Command
  | 0 => unexpected last none
  | steps + 1 => do
    match ← get with
    | (.word w, line) :: rest =>
      let name := (Word.plain? w).getD ""
      if !isName name then throw ⟨line, "Bad for loop variable"⟩
      set rest
      let words ← do
        let l ← get
        skipBreaks
        if ← takeKeyword "in" then
          let words ← readWords (rest.length + 1)
          if !(← takeOperator ";") && nameOf (← get) ≠ "newline" then unexpected last none
          pure (some words)
        else
          set l
          let _ ← takeOperator ";"
          pure none
      skipBreaks
      return .forEach name words (← readLoopBody last steps)
    | (_, line) :: _ => throw ⟨line, "Bad for loop variable"⟩
    | [] => throw ⟨last, "Bad for loop variable"⟩

def readArms (last : Nat) : (steps : Nat) → Reading (List (List Word × Command))
  | 0 => unexpected last none
  | steps + 1 => do
    skipBreaks
    if ← takeKeyword "esac" then return []
    let _ ← takeOperator "("
    let patterns ← readPatterns last (steps + 1)
    skipBreaks
    let body ← if endsList (← get) then pure .nothing else readBody last steps
    skipBreaks
    if ← takeOperator ";;" then return (patterns, body) :: (← readArms last steps)
    if !(← takeKeyword "esac") then unexpected last (some "\";;\"")
    return [(patterns, body)]

def readCommand (last : Nat) : (steps : Nat) → Reading Command
  | 0 => unexpected last none
  | steps + 1 => do
    let l ← get
    let line := (l.head?.map (·.2)).getD last
    let compound? ← readCompound? last steps
    match compound? with
    | some c =>
      let redirections ← readRedirections last (steps + 1)
      return if redirections.isEmpty then c else .redirected line c redirections
    | none =>
      match l with
      | (.word w, line) :: (.operator "(", _) :: rest =>
        if (assignment? w).isSome || (keyword? l).isSome then
          return ← readSimple last line [] [] [] (l.length + 1)
        set rest
        if !(← takeOperator ")") then unexpected last (some "\")\"")
        let name := (Word.plain? w).getD ""
        if !isName name || specials.contains name then throw ⟨line, "Bad function name"⟩
        skipBreaks
        return .function ((Word.plain? w).getD "") (← readCommand last steps)
      | (.word _, _) :: _ | (.redirection .., _) :: _ =>
        if (keyword? l).isSome then unexpected last none
        readSimple last line [] [] [] (l.length + 1)
      | _ => unexpected last none

/-- A command that is built from others, if one comes next. -/
def readCompound? (last : Nat) : (steps : Nat) → Reading (Option Command)
  | 0 => unexpected last none
  | steps + 1 => do
    if ← takeOperator "(" then
      let c ← readBody last steps
      if !(← takeOperator ")") then unexpected last (some "\")\"")
      return some (.subshell c)
    if ← takeKeyword "\x7b" then
      let c ← readBody last steps
      needKeyword last "\x7d"
      return some c
    if ← takeKeyword "if" then return some (← readChoice last steps)
    if ← takeKeyword "while" then
      let test ← readBody last steps
      return some (.loop false test (← readLoopBody last steps))
    if ← takeKeyword "until" then
      let test ← readBody last steps
      return some (.loop true test (← readLoopBody last steps))
    if ← takeKeyword "for" then return some (← readFor last steps)
    if ← takeKeyword "case" then
      match ← get with
      | (.word w, _) :: rest =>
        set rest
        skipBreaks
        needKeyword last "in"
        return some (.cases w (← readArms last steps))
      | _ => unexpected last (some "word")
    return none

end

/-- The first complete command of a script and the tokens after it. -/
def readLine? (last : Nat) (l : Tokens) : Except Misreading (Option (Command × Tokens)) :=
  let l := l.dropWhile fun t => t.1 matches .operator "\n"
  if l.isEmpty then .ok none else ((readList last true (12 * l.length + 12)).run l).map some

end OrchestrationGraph.Machine.Shell
