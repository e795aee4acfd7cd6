import OrchestrationGraph.Report.Format

/-!
# Command line arguments

The program has two commands with options of their own, and some options that may stand before or
after the command's name. Options given at the two places are checked each by themselves.
-/

namespace OrchestrationGraph.CommandLine

/-- A place of the command line with its own options. -/
inductive Scope where
  | program
  | traverse
  | diagram
  deriving DecidableEq, Repr

inductive Refusal where
  | invalidValue
  | unknownArgument
  | invalidSubcommand
  | missingSubcommand
  | tooManyValues
  | missingRequiredArgument
  | argumentConflict
  /-- Help is wanted on one place, or on the command for help, in short or in full. -/
  | displayHelp (topic : Option Scope) (full : Bool)
  | displayVersion
  | displayHelpOnMissingArgument
  deriving DecidableEq, Repr

namespace Refusal

def name : Refusal → String
  | invalidValue => "InvalidValue"
  | unknownArgument => "UnknownArgument"
  | invalidSubcommand => "InvalidSubcommand"
  | missingSubcommand => "MissingSubcommand"
  | tooManyValues => "TooManyValues"
  | missingRequiredArgument => "MissingRequiredArgument"
  | argumentConflict => "ArgumentConflict"
  | displayHelp .. => "DisplayHelp"
  | displayVersion => "DisplayVersion"
  | displayHelpOnMissingArgument => "DisplayHelpOnMissingArgumentOrSubcommand"

/-- Only a request for help or the version is no mistake. -/
def exitCode : Refusal → Nat
  | displayHelp .. | displayVersion => 0
  | _ => 2

end Refusal

/-! ### Options -/

inductive Switch where
  | logLevel
  | verbose
  | quiet
  | format
  | output
  | keepTemp
  | help
  | version
  deriving DecidableEq, Repr

namespace Switch

def long : Switch → String
  | logLevel => "log-level"
  | verbose => "verbose"
  | quiet => "quiet"
  | format => "format"
  | output => "output"
  | keepTemp => "keep-temp"
  | help => "help"
  | version => "version"

def short? : Switch → Option Char
  | verbose => some 'v'
  | quiet => some 'q'
  | format => some 'f'
  | output => some 'o'
  | help => some 'h'
  | version => some 'V'
  | logLevel | keepTemp => none

def takesValue : Switch → Bool
  | logLevel | format | output => true
  | _ => false

def accepts (s : Switch) (value : String) : Bool :=
  match s with
  | format => (Report.Format.named? value).isSome
  | output => !value.isEmpty
  | _ => true

end Switch

namespace Scope

def shared : List Switch := [.logLevel, .verbose, .quiet, .help]

def switches : Scope → List Switch
  | program => .version :: shared
  | traverse => [.format, .output, .keepTemp] ++ shared
  | diagram => [.output, .keepTemp] ++ shared

def long? (s : Scope) (name : String) : Option Switch := s.switches.find? fun x => x.long = name

def short? (s : Scope) (letter : Char) : Option Switch :=
  s.switches.find? fun x => x.short? = some letter

def command? (name : String) : Option Scope :=
  if name = "traverse" then some traverse
  else if name = "diagram" then some diagram
  else none

end Scope

/-! ### Reading one place -/

/-- What one place has given so far. -/
structure Given where
  switches : List (Switch × String) := []
  /-- An option whose value has not been taken in yet, or not even been seen. -/
  pending : Option (Switch × Option String) := none
  location : Option String := none
  /-- Whether only locations may follow. -/
  escaped : Bool := false

namespace Given

def has (g : Given) (s : Switch) : Bool := g.switches.any fun e => e.1 = s

def value? (g : Given) (s : Switch) : Option String :=
  (g.switches.find? fun e => e.1 = s).map (·.2)

/-- Takes in an option that may be given once. -/
def add (g : Given) (s : Switch) (value : String) : Except Refusal Given :=
  if g.has s then .error .argumentConflict
  else if s.accepts value then .ok { g with switches := g.switches ++ [(s, value)] }
  else .error .invalidValue

def settle (g : Given) : Except Refusal Given :=
  match g.pending with
  | none => .ok g
  | some (_, none) => .error .invalidValue
  | some (s, some value) => { g with pending := none }.add s value

/-- Whether the next word is the value of an option, unless it is an option itself. -/
def awaitsValue (g : Given) : Bool :=
  match g.pending with
  | some (_, none) => true
  | _ => false

/-- Takes in an option without value. The long name of the option for help asks for all of it. -/
def flag (scope : Scope) (g : Given) (s : Switch) (isLong : Bool) : Except Refusal Given := do
  let g ← g.settle
  match s with
  | .help => .error (.displayHelp (some scope) isLong)
  | .version => .error .displayVersion
  | _ => g.add s ""

/-- Takes in an option with the value attached to it, if there is one. -/
def valued (g : Given) (s : Switch) (value? : Option String) : Except Refusal Given := do
  let g ← g.settle
  match value? with
  | some value => g.add s value
  | none => return { g with pending := some (s, none) }

def readLong (scope : Scope) (g : Given) (name : String) (value? : Option String) :
    Except Refusal Given :=
  match scope.long? name with
  | none => .error .unknownArgument
  | some s =>
    if s.takesValue then g.valued s value?
    else if value?.isSome then .error .tooManyValues
    else g.flag scope s true

/-- The value attached to an option's letter. -/
def attached? : List Char → Option String
  | [] => none
  | '=' :: rest => some (String.ofList rest)
  | rest => some (String.ofList rest)

/-- Options by their letters; the first that takes a value takes the rest. -/
def readShort (scope : Scope) (g : Given) : List Char → Except Refusal Given
  | [] => .ok g
  | letter :: rest =>
    match scope.short? letter with
    | none => .error .unknownArgument
    | some s =>
      if s.takesValue then g.valued s (attached? rest)
      else do readShort scope (← g.flag scope s false) rest

def readPlain (scope : Scope) (g : Given) (word : String) : Except Refusal Given := do
  if scope = .program then
    throw (if g.escaped && (word = "help" || (Scope.command? word).isSome) then .unknownArgument
      else .invalidSubcommand)
  if g.location.isSome then throw .unknownArgument
  let g ← g.settle
  return { g with location := some word }

def splitLong (l : List Char) : String × Option String :=
  match l.dropWhile (· ≠ '=') with
  | [] => (String.ofList l, none)
  | _ :: value => (String.ofList (l.takeWhile (· ≠ '=')), some (String.ofList value))

def readWord (scope : Scope) (g : Given) (word : String) : Except Refusal Given :=
  if g.escaped then g.readPlain scope word
  else match word.toList with
    | ['-', '-'] => .ok { g with escaped := true }
    | '-' :: '-' :: rest => g.readLong scope (splitLong rest).1 (splitLong rest).2
    | '-' :: c :: rest => g.readShort scope (c :: rest)
    | _ =>
      match g.pending with
      | some (s, none) => .ok { g with pending := some (s, some word) }
      | _ => g.readPlain scope word

/-- Conflicts show once all options of a place are known. -/
def checkConflicts (g : Given) : Except Refusal Given :=
  if g.has .verbose && g.has .quiet then .error .argumentConflict else .ok g

end Given

/-! ### Reading all -/

inductive Command where
  | traverse (location : String) (format : Report.Format) (output : Option String) (keep : Bool)
  | diagram (location : String) (output : Option String) (keep : Bool)
  deriving DecidableEq, Repr

structure Arguments where
  command : Command
  logLevel : Option String
  verbose : Bool
  quiet : Bool
  deriving DecidableEq, Repr

def readCommand (scope : Scope) (words : List String) : Except Refusal Given := do
  let g ← words.foldlM (Given.readWord scope) {}
  let g ← g.settle
  let g ← g.checkConflicts
  if g.location.isNone then throw .missingRequiredArgument
  return g

/-- The words after `help` must be commands, and only one can be. -/
def helpOn : List String → Refusal
  | [] => .displayHelp (some .program) true
  | [name] =>
    match Scope.command? name with
    | some scope => .displayHelp (some scope) true
    | none => if name = "help" then .displayHelp none true else .invalidSubcommand
  | _ => .invalidSubcommand

/-- The program's place, and then the command's with its scope. -/
def readProgram : Given → List String → Except Refusal (Given × Scope × Given)
  | g, [] => do
    let g ← g.settle
    throw (if g.switches.isEmpty then .displayHelpOnMissingArgument else .missingSubcommand)
  | g, word :: words =>
    if !g.escaped && !g.awaitsValue && word = "help" then .error (helpOn words)
    else match if g.escaped || g.awaitsValue then none else Scope.command? word with
      | some scope => do
        let inner ← readCommand scope words
        let g ← g.settle
        let g ← g.checkConflicts
        return (g, scope, inner)
      | none => do readProgram (← g.readWord .program word) words

def Given.command (g : Given) : Scope → Command
  | .diagram => .diagram (g.location.getD "") (g.value? .output) (g.has .keepTemp)
  | .traverse | .program =>
    .traverse (g.location.getD "") (((g.value? .format).bind Report.Format.named?).getD .human)
      (g.value? .output) (g.has .keepTemp)

/-- Reads the words after the program's name. Of an option given at both places the inner one
counts. -/
def Arguments.ofWords (words : List String) : Except Refusal Arguments := do
  let (outer, scope, inner) ← readProgram {} words
  return {
    command := inner.command scope
    logLevel := (inner.value? .logLevel).or (outer.value? .logLevel)
    verbose := inner.has .verbose || outer.has .verbose
    quiet := inner.has .quiet || outer.has .quiet }

end OrchestrationGraph.CommandLine
