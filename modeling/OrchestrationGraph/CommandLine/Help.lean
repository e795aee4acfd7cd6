import OrchestrationGraph.CommandLine.Arguments

/-!
# Help

What the program tells about itself: in short, with one line for each option, or in full.
-/

namespace OrchestrationGraph.CommandLine

structure HelpItem where
  label : String
  help : String
  notes : List String := []

namespace HelpItem

/-- One line for each item, the texts below each other. -/
def brief (items : List HelpItem) : String :=
  let width := (items.map (·.label.length)).foldl max 0
  "\n".intercalate (items.map fun i =>
    "  " ++ i.label.pushn ' ' (width - i.label.length + 2) ++ " ".intercalate (i.help :: i.notes))

def indent : String := "          "

/-- Texts on lines of their own, with an empty line before the notes and between the items. -/
def full (items : List HelpItem) : String :=
  "\n\n".intercalate (items.map fun i =>
    let notes := if i.notes.isEmpty then [] else "" :: i.notes
    "  " ++ "\n".intercalate (i.label :: (i.help :: notes).map (indent ++ ·)))

end HelpItem

namespace Switch

def valueName? : Switch → Option String
  | logLevel => some "LEVEL"
  | format => some "FORMAT"
  | output => some "FILE"
  | _ => none

def label (s : Switch) : String :=
  (s.short?.elim "    " fun c => "-" ++ String.singleton c ++ ", ") ++ "--" ++ s.long ++
    (s.valueName?.elim "" fun name => " <" ++ name ++ ">")

def summary (full : Bool) : Switch → String
  | logLevel => "Set logging level"
  | verbose => "Verbose output (debug logging)"
  | quiet => "Quiet mode - suppress non-error output"
  | format => "Output format"
  | output => "Write output to file instead of stdout"
  | keepTemp => "Keep cloned and published temp folders"
  | help => "Print help " ++ if full then "(see a summary with '-h')" else "(see more with '--help')"
  | version => "Print version"

def item (full : Bool) (s : Switch) : HelpItem where
  label := s.label
  help := s.summary full
  notes := if s = format then ["[default: human]", "[possible values: json, yaml, human]"] else []

end Switch

namespace Scope

def listed : Scope → List Switch
  | program => [.logLevel, .verbose, .quiet, .help, .version]
  | traverse => [.format, .logLevel, .output, .verbose, .keepTemp, .quiet, .help]
  | diagram => [.logLevel, .output, .keepTemp, .verbose, .quiet, .help]

def about : Scope → String
  | program => "Static call-graph extraction for Azure Functions projects"
  | traverse => "Build the function graph of a project"
  | diagram => "Print the function graph as a Mermaid flowchart"

def fullAbout : Scope → String
  | program =>
    "funcgraph discovers every function of an Azure Functions app (JavaScript, TypeScript, Python " ++
      "or .NET), reads its bindings and infers which functions start, call, signal or continue " ++
      "which others. Projects can be local paths or git URLs, including GitHub tree URLs pointing " ++
      "at a subdirectory."
  | traverse =>
    "Locates the project (cloning it first for URLs), catalogues its functions and prints the " ++
      "resulting function map.\n\nExamples:\n  funcgraph traverse .\n" ++
      "  funcgraph traverse ./my-app --format json\n" ++
      "  funcgraph traverse https://github.com/org/repo/tree/main/samples/app"
  | diagram =>
    "Runs a traversal and renders the function map as Mermaid flowchart text.\n\nExamples:\n" ++
      "  funcgraph diagram .\n  funcgraph diagram ./my-app -o graph.mmd"

def usage : Scope → String
  | program => "[OPTIONS] <COMMAND>"
  | traverse => "traverse [OPTIONS] <LOCATION>"
  | diagram => "diagram [OPTIONS] <LOCATION>"

end Scope

namespace Help

def usageLine (usage : String) : String := "Usage: funcgraph " ++ usage

def section_ (title body : String) : String := title ++ ":\n" ++ body

/-- Parts of a page with empty lines between them. -/
def page (parts : List String) : String := "\n\n".intercalate parts ++ "\n"

def aboutHelp : String := "Print this message or the help of the given subcommand(s)"

def commands : List HelpItem := [
  ⟨"traverse", Scope.traverse.about, []⟩, ⟨"diagram", Scope.diagram.about, []⟩,
  ⟨"help", aboutHelp, []⟩]

def location : HelpItem := { label := "<LOCATION>", help := "Project path or git URL" }

def ofScope (s : Scope) (full : Bool) : String :=
  let items := if full then HelpItem.full else HelpItem.brief
  page [
    if full then s.fullAbout else s.about,
    usageLine s.usage,
    if s = .program then section_ "Commands" (HelpItem.brief commands)
      else section_ "Arguments" (items [location]),
    section_ "Options" (items (s.listed.map (·.item full)))]

/-- The page on the command for help, which has no full form. -/
def ofHelp : String :=
  page [
    aboutHelp,
    usageLine "help [COMMAND]...",
    section_ "Arguments"
      (HelpItem.brief [{ label := "[COMMAND]...", help := "Print help for the subcommand(s)" }])]

end Help

def versionLine (version : String) : String := "funcgraph " ++ version ++ "\n"

def Refusal.answer (version : String) : Refusal → String
  | .displayHelp (some scope) full => Help.ofScope scope full
  | .displayHelp none _ => Help.ofHelp
  | .displayVersion => versionLine version
  | _ => ""

end OrchestrationGraph.CommandLine
