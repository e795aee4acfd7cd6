import OrchestrationGraph.Json.Printer
import OrchestrationGraph.Report.Outline
import OrchestrationGraph.Yaml.Printer

/-!
# Formats of a report
-/

namespace OrchestrationGraph.Report

inductive Format where
  | json
  | yaml
  | human
  deriving DecidableEq, Repr

def Format.name : Format → String
  | json => "json"
  | yaml => "yaml"
  | human => "human"

def Format.all : List Format := [json, yaml, human]

def Format.named? (name : String) : Option Format := all.find? fun f => f.name = name

/-- How a format is called that has no text for a path that is not UTF-8. -/
def Format.strictName? : Format → Option String
  | json => some "JSON"
  | yaml => some "YAML"
  | human => none

def render (r : Report) : Format → String
  | .json => r.toJson.pretty
  | .yaml => Yaml.document (r.toJson.members?.getD [])
  | .human => r.outline

/-- The text of a report, or why there is none. -/
def tell (r : Report) (isText : String → Bool) (f : Format) : Except String String :=
  match f.strictName? with
  | none => .ok (r.render f)
  | some name =>
    if r.paths.all isText then .ok (r.render f)
    else .error ("Failed to serialize traversal result to " ++ name ++
      ": path contains invalid UTF-8 characters")

end OrchestrationGraph.Report
