import OrchestrationGraph.Proofs.Json.Reader
import OrchestrationGraph.Report.Format

/-!
# The folders that a report lists

In every format a report is told in two parts: the graph (`Report.front`), which does not depend on
the folders, and then the list of the folders (`Report.listing`), which does not depend on the graph
(`Report.render_eq_front_listing`). What JSON lists is read back as it was (`read_jsonList`).
-/

namespace OrchestrationGraph.Report

open Json (Reader Value)

/-- What is told before the folders. -/
def front (g : Graph) : Format → String
  | .json => "\x7b\n  \"functions\": " ++ String.ofList (g.toJson.render (.indented 1))
  | .yaml => "functions:" ++ String.ofList (Yaml.render .afterName 0 g.toJson)
  | .human =>
    "\u2713 Function Graph\n" ++ rule ++ "\n\n" ++ countLine g ++
      String.join (g.toList.map fun n => "\n" ++ nodeText n)

def jsonItems (folders : List String) : String :=
  ",".intercalate (folders.map fun f => "\n    " ++ String.ofList (Json.renderText f))

def jsonList (folders : List String) : String :=
  if folders.isEmpty then "[]" else "[" ++ jsonItems folders ++ "\n  ]"

def yamlItems (folders : List String) : String :=
  String.join (folders.map fun f =>
    "- " ++ String.ofList (Yaml.scalar false Yaml.indentStep f ++ Yaml.lineEnd f))

def outlineItems (folders : List String) : String :=
  String.join (folders.map fun f => "  - " ++ f ++ "\n")

/-- The list of the folders, one after the other. -/
def listing (folders : List String) : Format → String
  | .json => ",\n  \"tempFolders\": " ++ jsonList folders ++ "\n\x7d"
  | .yaml => "tempFolders:" ++ (if folders.isEmpty then " []\n" else "\n" ++ yamlItems folders)
  | .human => if folders.isEmpty then "" else "\nTemp folders:\n" ++ outlineItems folders

/-! ### JSON -/

theorem renderItems_texts (folders : List String) :
    Json.renderItems (.indented 2) (folders.map Value.text) =
      folders.flatMap fun f => ',' :: "\n    ".toList ++ Json.renderText f := by
  induction folders with
  | nil => rfl
  | cons f folders ih =>
    rw [List.map_cons, Json.renderItems, ih]
    rfl

theorem jsonItems_cons (f : String) (folders : List String) : (jsonItems (f :: folders)).toList =
    "\n    ".toList ++ Json.renderText f ++
      Json.renderItems (.indented 2) (folders.map Value.text) := by
  induction folders generalizing f with
  | nil => simp [jsonItems, Json.renderItems]
  | cons next folders ih =>
    have later := ih next
    unfold jsonItems at later ⊢
    rw [String.toList_intercalate, List.map_map, renderItems_texts] at later ⊢
    rw [List.map_cons, List.map_cons, List.intercalate_cons_cons, ← List.map_cons, later]
    simp

theorem render_members (g folders : Value) :
    (Value.object [("functions", g), ("tempFolders", folders)]).render (.indented 0) =
      "\x7b\n  \"functions\": ".toList ++ g.render (.indented 1) ++
        ",\n  \"tempFolders\": ".toList ++ folders.render (.indented 1) ++ "\n\x7d".toList := by
  have first : Json.renderText "functions" = "\"functions\"".toList := by decide +kernel
  have second : Json.renderText "tempFolders" = "\"tempFolders\"".toList := by decide +kernel
  rw [Value.render, Json.renderMembers, Json.renderMembers, List.append_nil, first, second]
  simp [Json.Layout.deeper, Json.Layout.newLine, Json.Layout.colon]

theorem render_texts (folders : List String) :
    (Value.ofTexts folders).render (.indented 1) = (jsonList folders).toList := by
  cases folders with
  | nil => rfl
  | cons f folders =>
    have items : (Value.ofTexts (f :: folders)).render (.indented 1) =
        '[' :: "\n    ".toList ++ Json.renderText f ++
          Json.renderItems (.indented 2) (folders.map Value.text) ++ "\n  ".toList ++ [']'] := rfl
    rw [items]
    simp [jsonList, jsonItems_cons]

theorem read_jsonList (folders : List String) :
    Json.read (Reader.list (Reader.textAs "path string")) (jsonList folders).toList =
      .ok folders := by
  have whole : (Value.ofTexts folders).Whole := by
    refine Value.whole_list.mpr fun v here => ?_
    obtain ⟨f, -, rfl⟩ := List.mem_map.mp here
    exact Value.whole_text f
  have shallow : (Value.ofTexts folders).depth < Json.fullRoom := by
    refine Nat.succ_lt_succ (Value.itemsDepth_lt (by decide) fun v here => ?_)
    obtain ⟨f, -, rfl⟩ := List.mem_map.mp here
    exact Nat.zero_lt_succ 126
  rw [← render_texts, Json.read_render whole]
  exact Json.recovers_list (fun s _ => Json.recovers_textAs "path string" s) Json.fullRoom shallow

theorem render_json (r : Report) :
    r.render .json = front r.graph .json ++ listing r.temporary .json := by
  have text : (r.render .json).toList = r.toJson.render (.indented 0) := String.toList_ofList
  apply String.toList_injective
  rw [text, toJson, render_members, render_texts]
  unfold front listing
  simp only [String.toList_append, String.toList_ofList, List.append_assoc]

/-! ### YAML -/

theorem itemEntries_cons (f : String) (folders : List String) :
    Yaml.itemEntries 0 ((f :: folders).map Value.text) =
      ('-' :: ' ' :: Yaml.scalar false Yaml.indentStep f ++ Yaml.lineEnd f) ::
        Yaml.itemEntries 0 (folders.map Value.text) := rfl

theorem toList_yamlItems (folders : List String) :
    (yamlItems folders).toList = (Yaml.itemEntries 0 (folders.map Value.text)).flatten := by
  induction folders with
  | nil => rfl
  | cons f folders ih =>
    unfold yamlItems at ih ⊢
    rw [itemEntries_cons, List.flatten_cons, ← ih, List.map_cons, String.join_cons]
    simp

theorem render_afterName_texts (folders : List String) :
    Yaml.render .afterName 0 (Value.ofTexts folders) =
      (if folders.isEmpty then " []\n" else "\n" ++ yamlItems folders).toList := by
  cases folders with
  | nil => rfl
  | cons f folders =>
    have items : Yaml.render .afterName 0 (Value.ofTexts (f :: folders)) =
        Yaml.entries .afterName 0 (Yaml.itemEntries 0 ((f :: folders).map Value.text)) := rfl
    rw [items, List.isEmpty_cons, if_neg Bool.false_ne_true, String.toList_append,
      toList_yamlItems, itemEntries_cons]
    simp [Yaml.entries, Yaml.blanks]

theorem memberEntries_pair (g folders : Value) :
    (Yaml.memberEntries 0 [("functions", g), ("tempFolders", folders)]).flatten =
      "functions:".toList ++ Yaml.render .afterName 0 g ++
        ("tempFolders:".toList ++ Yaml.render .afterName 0 folders) := by
  have first : Yaml.nameText 0 "functions" = ("functions:".toList, .afterName) := by decide +kernel
  have second : Yaml.nameText 0 "tempFolders" = ("tempFolders:".toList, .afterName) := by
    decide +kernel
  rw [Yaml.memberEntries, Yaml.memberEntries, Yaml.memberEntries, first, second]
  simp

theorem render_yaml (r : Report) :
    r.render .yaml = front r.graph .yaml ++ listing r.temporary .yaml := by
  have text : (r.render .yaml).toList = (Yaml.memberEntries 0
      [("functions", r.graph.toJson), ("tempFolders", .ofTexts r.temporary)]).flatten :=
    String.toList_ofList
  apply String.toList_injective
  rw [text, memberEntries_pair, render_afterName_texts]
  unfold front listing
  simp only [String.toList_append, String.toList_ofList]

/-! ### All formats -/

/-- Every format tells the graph first and then the folders. -/
theorem render_eq_front_listing (r : Report) (f : Format) :
    r.render f = front r.graph f ++ listing r.temporary f := by
  cases f with
  | json => exact render_json r
  | yaml => exact render_yaml r
  | human => rfl

end OrchestrationGraph.Report
