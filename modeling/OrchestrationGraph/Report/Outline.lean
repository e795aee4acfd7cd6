import OrchestrationGraph.Report.Basic

/-!
# Reports to read

Counts first, then each function with what is known of it, then the temporary folders.
-/

namespace OrchestrationGraph.Report

def decimal (n : Nat) : String := String.ofList (Nat.toDigits 10 n)

def rule : String := String.ofList (List.replicate 42 '\u2501')

def countLine (g : Graph) : String :=
  let count (kind : Node.Kind) := decimal (g.ofKind kind).length
  "Functions: " ++ decimal g.size ++ " (" ++ count .orchestrator ++ " orchestrators, " ++
    count .activity ++ " activities, " ++ count .entity ++ " entities, " ++ count .other ++
    " other)\n"

def listLine (title : String) (items : List String) : List String :=
  if items.isEmpty then [] else [title ++ ", ".intercalate items]

def sourceLine (n : Node) : String :=
  match n.file, n.line with
  | some file, some line => "Source:     " ++ file ++ ":" ++ decimal line
  | some file, none => "Source:     " ++ file
  | none, _ => "Source:     (not found)"

/-- What is known of a function; the last line always tells its source. -/
def detailLines (n : Node) : List String :=
  n.trigger?.elim [] (fun b => ["Trigger:    " ++ b.type]) ++
  listLine "Called by:  " n.callers ++
  listLine "Signalled:  " (n.signals.map fun s => s.sender ++ " (" ++ s.event ++ ")") ++
  (if n.continuesAsNew then ["Continues as new"] else []) ++
  listLine "Bindings:   "
    ((n.bindings.filter fun b => !b.isTrigger).map fun b =>
      b.type ++ " (" ++ b.direction.name ++ ")") ++
  [sourceLine n]

/-- Lines that hang on a tree, the last one at its foot. -/
def branches : List String → String
  | [] => ""
  | [line] => "\u2514\u2500 " ++ line ++ "\n"
  | line :: lines => "\u251C\u2500 " ++ line ++ "\n" ++ branches lines

def nodeText (n : Node) : String :=
  n.name ++ " (" ++ n.kind.name ++ ")\n" ++ branches (detailLines n)

def folderText (folders : List String) : String :=
  if folders.isEmpty then ""
  else "\nTemp folders:\n" ++ String.join (folders.map fun f => "  - " ++ f ++ "\n")

def outline (r : Report) : String :=
  "\u2713 Function Graph\n" ++ rule ++ "\n\n" ++ countLine r.graph ++
    String.join (r.graph.toList.map fun n => "\n" ++ nodeText n) ++ folderText r.temporary

end OrchestrationGraph.Report
