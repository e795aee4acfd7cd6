import OrchestrationGraph.Json.Value
import OrchestrationGraph.Log.Level
import OrchestrationGraph.Project.Journal
import OrchestrationGraph.Text.Quoted

/-!
# Log records

Each entry of a journal makes one record: how grave it is, which part of the program it comes from,
a message, and fields with the details.
-/

namespace OrchestrationGraph.Log

open Json (Value)

structure Record where
  level : Level
  target : String
  message : String
  fields : List (String × Value) := []
  /-- Names of fields that are measured in every run anew. -/
  measures : List String := []

namespace Record

def version : String := "0.1.0"

/-- An optional value, as it is shown to those who look for mistakes. -/
def shown {α : Type} (show_ : α → String) : Option α → String
  | none => "None"
  | some a => "Some(" ++ show_ a ++ ")"

def of (part : String) (level : Level) (message : String) (fields : List (String × Value)) :
    Record :=
  { level, target := "funcgraph::" ++ part, message, fields }

def fieldNames (r : Record) : List String := "message" :: r.fields.map (·.1) ++ r.measures

def ofEvent (e : Event) : Record :=
  let record := of "progress::logging"
  match e with
  | .started location => record .info "Starting traversal" [("location", .text location)]
  | .cloneStarted url target =>
    record .info "Cloning repository" [("url", .text url), ("target", .text target)]
  | .manifestFound path => record .info "Found host.json" [("path", .text path)]
  | .runtimeDetected runtime => record .debug "Detected runtime" [("runtime", .text runtime)]
  | .publishStarted project output =>
    record .info "Publishing .NET project" [("project", .text project), ("output", .text output)]
  | .manifestFailed path error =>
    record .warn "Failed to parse function.json" [("path", .text path), ("error", .text error)]
  | .catalogComplete n => record .info "Function catalog built" [("functions", .ofNat n)]
  | .sourceNotFound name => record .debug "Source code not found" [("function", .text name)]
  | .matchingComplete n => record .debug "Relationship matching complete" [("edges", .ofNat n)]
  | .completed n =>
    { record .info "Traversal complete" [("functions", .ofNat n)] with
      measures := ["total_time_ms"] }
  | .failed error => record .warn "Traversal failed" [("error", .text error)]

def ofNote (n : Note) : Record :=
  match n with
  | .programStarted =>
    { level := .debug, target := "funcgraph", message := "funcgraph v" ++ version ++ " starting" }
  | .argumentsRead arguments =>
    { level := .debug, target := "funcgraph", message := "Arguments: " ++ arguments }
  | .settingsLoaded settings =>
    of "cli::handlers" .debug "Loaded configuration" [("config", .text settings)]
  | .temporaryCreated path =>
    of "traversal::temp" .debug "Created temp folder" [("path", .text path)]
  | .temporaryKept path => of "cli::handlers" .info "Keeping temp folder" [("path", .text path)]
  | .temporaryRemoved path =>
    of "traversal::temp" .debug "Removed temp folder" [("path", .text path)]
  | .temporaryStuck path error =>
    of "traversal::temp" .warn "Failed to remove temp folder"
      [("path", .text path), ("error", .text error)]
  | .temporaryCleared removed =>
    of "cli::handlers" .debug "Temp folders removed" [("removed", .ofNat removed)]
  | .outputWritten path => of "cli::handlers" .info "Output written" [("path", .text path)]
  | .toolStarted command =>
    of "process" .debug "Executing external command"
      [("command", .text command.display), ("cwd", .text (shown Text.quoted command.folder))]
  | .toolEnded command outcome =>
    of "process" .debug "External command finished"
      [("command", .text command.display), ("success", .bool outcome.success),
        ("code", .text (shown toString outcome.code))]
  | .cloned url target =>
    of "locator" .debug "Repository cloned" [("url", .text url), ("target", .text target)]
  | .published output =>
    of "runtime::publish" .debug "Publish complete" [("output", .text output)]
  | .manifestLoaded name n =>
    of "catalog" .debug "Loaded function manifest"
      [("function", .text name), ("bindings", .ofNat n)]
  | .sourcesIndexed files =>
    of "source" .debug "Indexed .NET source files" [("files", .ofNat files)]
  | .sourceUnreadable path error =>
    of "source" .warn "Failed to read source file" [("path", .text path), ("error", .text error)]
  | .folderUnlisted path error =>
    of "source" .debug "Failed to list function folder"
      [("path", .text path), ("error", .text error)]
  | .scriptUnreadable path error =>
    of "source" .debug "Failed to read script" [("path", .text path), ("error", .text error)]
  | .bindingsDeclared name n =>
    of "bindings" .debug "Recovered bindings from attributes"
      [("function", .text name), ("bindings", .ofNat n)]
  | .allBindingsDeclared n =>
    of "traversal" .debug "Attribute bindings recovered" [("bindings", .ofNat n)]

def ofEntry : Entry → Record
  | .event e => ofEvent e
  | .note n => ofNote n

/-- Whether an entry is made while the stages of a traversal run. What reads and lists source files
runs beside them. -/
def isWithinStages : Entry → Bool
  | .event (.started _) | .event (.completed _) | .event (.failed _) => false
  | .event _ => true
  | .note n =>
    match n with
    | .temporaryCreated _ | .toolStarted _ | .toolEnded .. | .cloned .. | .published _
    | .manifestLoaded .. | .bindingsDeclared .. | .allBindingsDeclared _ => true
    | _ => false

/-- The message stands before the other fields. -/
def toJson (r : Record) : Value :=
  .object [("level", .text r.level.title), ("target", .text r.target),
    ("fields", .object (("message", .text r.message) :: r.fields))]

end Record

end OrchestrationGraph.Log
