import OrchestrationGraph.CommandLine.Help
import OrchestrationGraph.Diagram.Printer
import OrchestrationGraph.Log.Line
import OrchestrationGraph.Project.Traversal

/-!
# Running a command line

A command traverses a project and prints its graph or writes it to a file. Temporary folders are
removed before that, whether the traversal succeeded or not, unless they are to be kept.
-/

namespace OrchestrationGraph.CommandLine

variable {σ : Type}

/-! ### Log level -/

def levelComplaint (word : String) : String :=
  "Invalid log level '" ++ word ++
    "', defaulting to INFO. Valid levels: trace, debug, info, warn, error"

/-- The level of that name, else the default one with a complaint. -/
def readLevel (word : String) : Log.Level × List String :=
  match Log.Level.named? word with
  | some level => (level, [])
  | none => (.info, [levelComplaint word])

def Arguments.level? (a : Arguments) : Option (Log.Level × List String) :=
  match a.logLevel with
  | some word => some (readLevel word)
  | none =>
    if a.verbose then some (.debug, [])
    else if a.quiet then some (.error, [])
    else none

def environmentLevel (e : Environment) : Log.Level × List String :=
  readLevel ((e.value? Settings.logLevelVariable).getD "info")

def filterVariable : String := "RUST_LOG"

/-- The filter for log records; a variable of its own takes the place of the level. -/
def recordFilter (e : Environment) (level : Log.Level) : Log.Filter :=
  match e.value? filterVariable with
  | some s => .ofText s
  | none => .ofLevel level

def filterComplaints (e : Environment) : List String :=
  ((e.value? filterVariable).map Log.Filter.complaints).getD []

/-- The span of a traversal, which holds the records that its stages make. -/
def traversalSpan (location : String) : Log.Span :=
  { name := "traverse", target := "funcgraph::traversal", fields := [("location", location)] }

def writesJson (e : Environment) : Bool := (e.truth? "FUNCGRAPH_LOG_JSON").getD false

def stylesLines (e : Environment) : Bool := (e.value? "NO_COLOR").all (·.isEmpty)

/-! ### Showing arguments -/

def shownBool (b : Bool) : String := if b then "true" else "false"

def shownFields (title : String) (fields : List (String × String)) : String :=
  title ++ " \x7b " ++ ", ".intercalate (fields.map fun f => f.1 ++ ": " ++ f.2) ++ " \x7d"

def shownFormat : Report.Format → String
  | .json => "Json"
  | .yaml => "Yaml"
  | .human => "Human"

def Command.shown : Command → String
  | .traverse location format output keep =>
    "Traverse(" ++ shownFields "TraverseArgs"
      [("location", Text.quoted location), ("format", shownFormat format),
        ("output", Log.Record.shown Text.quoted output), ("keep_temp", shownBool keep)] ++ ")"
  | .diagram location output keep =>
    "Diagram(" ++ shownFields "DiagramArgs"
      [("location", Text.quoted location), ("output", Log.Record.shown Text.quoted output),
        ("keep_temp", shownBool keep)] ++ ")"

def Arguments.shown (a : Arguments) : String :=
  shownFields "CliArgs"
    [("command", a.command.shown), ("log_level", Log.Record.shown Text.quoted a.logLevel),
      ("verbose", shownBool a.verbose), ("quiet", shownBool a.quiet)]

/-! ### Commands -/

namespace Command

def location : Command → String
  | traverse location .. | diagram location .. => location

def output : Command → Option String
  | traverse _ _ output _ | diagram _ output _ => output

def keeps : Command → Bool
  | traverse _ _ _ keep | diagram _ _ keep => keep

/-- The text for a report, or why there is none. -/
def content (isText : String → Bool) (r : Report) : Command → Except String String
  | traverse _ format .. => r.tell isText format
  | diagram .. => .ok (Diagram.render r.graph)

end Command

def settleTemporary (c : Context σ) (keep : Bool) : Step σ Unit := do
  if keep then (← get).temporary.forM fun path => note (.temporaryKept path)
  else note (.temporaryCleared (← c.cleanUp))

/-- Traverses the project and settles its temporary folders. Of the folders in the report only
those that are still there stay. -/
def traverseAndSettle (c : Context σ) (command : Command) :
    Step σ (Except String Report) := do
  let result ← c.traverse command.location
  settleTemporary c command.keeps
  match result with
  | .error failure =>
    return .error ("Failed to traverse " ++ command.location ++ ": " ++ failure.chain)
  | .ok r =>
    let state := (← get).state
    return .ok { r with temporary := r.temporary.filter fun path => c.host.hasEntry path state }

/-! ### Handing out

A channel that does not take what is to be printed on it ends the program there and then, with an
exit code of its own. -/

/-- How a run ends. -/
inductive Close where
  /-- All was handed out. -/
  | done (stdout : String)
  /-- An error was told on the error channel. -/
  | failed (message : String)
  /-- A channel did not take what was to be printed on it. -/
  | broken (channel : Channel) (error : FileError)
  deriving DecidableEq, Repr

namespace Close

def exitCode : Close → Nat
  | done _ => 0
  | failed _ => 1
  | broken .. => 101

def stdout : Close → String
  | done stdout => stdout
  | failed _ | broken .. => ""

def errorText (message : String) : String := "Error: " ++ message

def error? : Close → Option String
  | failed message => some (errorText message)
  | done _ | broken .. => none

end Close

def printLine (host : Host σ) (channel : Channel) (line : String) :
    Step σ (Except FileError Unit) :=
  OrchestrationGraph.perform (host.print channel (line ++ "\n"))

/-- Tells an error. -/
def fail (host : Host σ) (message : String) : Step σ Close := do
  match ← printLine host .error (Close.errorText message) with
  | .ok () => return .failed message
  | .error e => return .broken .error e

def handOut (host : Host σ) (output : Option String) (content : String) : Step σ Close := do
  match output with
  | none =>
    match ← printLine host .output content with
    | .ok () => return .done (content ++ "\n")
    | .error e => return .broken .output e
  | some path =>
    match ← OrchestrationGraph.perform (host.writeText path content) with
    | .ok () =>
      note (.outputWritten path)
      return .done ""
    | .error e => fail host ("Failed to write output to " ++ path ++ ": " ++ e.message)

/-- Hands out a text, or tells why there is none. -/
def conclude (host : Host σ) (output : Option String) : Except String String → Step σ Close
  | .ok content => handOut host output content
  | .error message => fail host message

def carryOut (c : Context σ) (command : Command) : Step σ Close := do
  note (.settingsLoaded c.settings.display)
  let result ← traverseAndSettle c command
  conclude c.host command.output (result.bind fun r => command.content c.host.isText r)

/-- Prints complaints, until one is not taken. -/
def complain (host : Host σ) : List String → Step σ (Except FileError Unit)
  | [] => return .ok ()
  | complaint :: complaints => do
    match ← printLine host .error complaint with
    | .ok () => complain host complaints
    | .error e => return .error e

/-- What a run of the program leaves behind. -/
structure Ending (σ : Type) where
  exitCode : Nat
  stdout : String := ""
  /-- What is printed on the error channel before the log records, as far as it takes them. -/
  complaints : List String := []
  records : List Log.Record := []
  /-- The log records as they are written on the error channel; one that it does not take is passed
  over. -/
  lines : List String := []
  /-- The error that is told on the error channel last. -/
  error : Option String := none
  session : Session σ

def Ending.errorLines (ending : Ending σ) : List String :=
  ending.complaints ++ ending.lines ++ ending.error.toList

/-- The settings of a run: a level that the arguments choose counts more than the environment's. -/
def settingsFor (e : Environment) (level? : Option Log.Level) : Settings :=
  let s := Settings.ofEnvironment e
  match level? with
  | some level => { s with logLevel := level.name }
  | none => s

def perform (host : Host σ) (e : Environment) (a : Arguments) : Step σ Close := do
  note .programStarted
  note (.argumentsRead a.shown)
  let settings := settingsFor e (a.level?.map (·.1))
  match settings.refusal? host (← get).state with
  | some refusal => fail host ("Invalid configuration: " ++ refusal.message)
  | none => carryOut { host, settings } a.command

/-- The entries that pass the filter: each with the span it is made within, as a record. -/
def passingRecords (f : Log.Filter) (location : String) (journal : List Entry) :
    List (Option Log.Span × Log.Record) :=
  let span? (entry : Entry) :=
    if Log.Record.isWithinStages entry then some (traversalSpan location) else none
  (journal.map fun entry => (span? entry, Log.Record.ofEntry entry)).filter fun r =>
    f.passes r.1 r.2

def recordLine (e : Environment) (f : Log.Filter) (span? : Option Log.Span) (r : Log.Record) :
    String :=
  if writesJson e then r.toJson.compact
  else r.line (span?.filter f.names) (stylesLines e)

def complaints (e : Environment) (a : Arguments) : List String :=
  (a.level?.getD (environmentLevel e)).2 ++ filterComplaints e

/-- Complaints are told first of all. -/
def start (host : Host σ) (e : Environment) (a : Arguments) : Step σ Close := do
  match ← complain host (complaints e a) with
  | .ok () => perform host e a
  | .error error => return .broken .error error

/-- Answers words that ask for help or a version, or that are not understood. Whether the answer is
taken does not count. -/
def answer (host : Host σ) (refusal : Refusal) (state : σ) : Ending σ :=
  let text := refusal.answer Log.Record.version
  let (result, state) := host.print .output text state
  { exitCode := refusal.exitCode
    stdout := if result.isOk then text else ""
    session := { state } }

/-- Runs the program with the words after its name. -/
def run (host : Host σ) (e : Environment) (words : List String) (state : σ) : Ending σ :=
  match Arguments.ofWords words with
  | .error refusal => answer host refusal state
  | .ok a =>
    let (close, session) := (start host e a).run { state }
    let filter := recordFilter e (a.level?.getD (environmentLevel e)).1
    let records := passingRecords filter a.command.location session.journal
    { exitCode := close.exitCode
      stdout := close.stdout
      complaints := complaints e a
      records := records.map (·.2)
      lines := records.map fun r => recordLine e filter r.1 r.2
      error := close.error?
      session }

end OrchestrationGraph.CommandLine
