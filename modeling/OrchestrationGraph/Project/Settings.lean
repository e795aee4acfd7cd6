import OrchestrationGraph.Log.Level
import OrchestrationGraph.Project.Host
import OrchestrationGraph.Text.Blank

/-!
# Settings

Settings come from variables of the environment and have defaults. A log level is kept as it was
given, in lower case, and checked with the rest.
-/

namespace OrchestrationGraph

abbrev Environment := List (String × String)

namespace Environment

def value? (e : Environment) (name : String) : Option String :=
  (e.find? fun v => v.1 = name).map (·.2)

/-- A variable that says exactly true or false. -/
def truth? (e : Environment) (name : String) : Option Bool :=
  match e.value? name with
  | some "true" => some true
  | some "false" => some false
  | _ => none

end Environment

structure Settings where
  git : String := "git"
  dotnet : String := "dotnet"
  temporaryFolder : String := "/tmp"
  /-- Whether a clone leaves out the history. -/
  shallowClone : Bool := true
  logLevel : String := "info"
  deriving DecidableEq, Repr

inductive Settings.Refusal where
  | unknownLogLevel (level : String)
  | emptyProgram (name : String)
  | noTemporaryFolder (path : String)
  deriving DecidableEq, Repr

namespace Settings

def Refusal.message : Refusal → String
  | unknownLogLevel level =>
    "Invalid log level: " ++ level ++ ". Valid options: trace, debug, info, warn, error"
  | emptyProgram name => name ++ " must not be empty"
  | noTemporaryFolder path => "Temp directory does not exist: " ++ path

def gitVariable : String := "FUNCGRAPH_GIT"

def dotnetVariable : String := "FUNCGRAPH_DOTNET"

def temporaryFolderVariable : String := "FUNCGRAPH_TEMP_DIR"

def systemFolderVariable : String := "TMPDIR"

def shallowCloneVariable : String := "FUNCGRAPH_SHALLOW_CLONE"

def logLevelVariable : String := "FUNCGRAPH_LOG_LEVEL"

/-- The folder for temporary files: the program's own variable counts unless it is empty, then the
system's. -/
def temporaryFolderIn (e : Environment) : String :=
  match (e.value? temporaryFolderVariable).filter (!·.isEmpty) with
  | some path => path
  | none => (e.value? systemFolderVariable).getD "/tmp"

def ofEnvironment (e : Environment) : Settings where
  git := (e.value? gitVariable).getD "git"
  dotnet := (e.value? dotnetVariable).getD "dotnet"
  temporaryFolder := temporaryFolderIn e
  shallowClone := (e.truth? shallowCloneVariable).getD true
  logLevel := Text.lower ((e.value? logLevelVariable).getD "info")

/-- Only white space. -/
def isBlankText (s : String) : Bool := s.toList.all Text.isBlank

def refusal? {σ : Type} (host : Host σ) (state : σ) (s : Settings) : Option Refusal :=
  if Log.Level.all.all fun l => l.name ≠ s.logLevel then some (.unknownLogLevel s.logLevel)
  else if isBlankText s.git then some (.emptyProgram gitVariable)
  else if isBlankText s.dotnet then some (.emptyProgram dotnetVariable)
  else if !host.hasFolder s.temporaryFolder state then some (.noTemporaryFolder s.temporaryFolder)
  else none

/-- The settings, one on a line. -/
def display (s : Settings) : String :=
  "\n".intercalate [
    "funcgraph configuration:",
    "  git: " ++ s.git,
    "  dotnet: " ++ s.dotnet,
    "  temp dir: " ++ s.temporaryFolder,
    "  shallow clone: " ++ (if s.shallowClone then "true" else "false"),
    "  log level: " ++ s.logLevel]

end Settings

end OrchestrationGraph
