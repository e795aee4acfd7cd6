import OrchestrationGraph.Proofs.Node.Json
import OrchestrationGraph.Report.Format

/-!
# Reports read back

A report that is written as JSON and read is the same report (`read_render_json`).
-/

namespace OrchestrationGraph

open Json (bind_recovers Reader Recovers Value foldWritten_cons)

theorem Graph.recovers_graph {g : Graph}
    (recoverable : ∀ n ∈ g.toList, ∀ b ∈ n.bindings, b.Recoverable) : Recovers reader g.toJson g := by
  have nodes : Recovers (Reader.dictionary Node.reader) g.toJson g.nodes := by
    refine Json.recovers_dictionary fun e here => ?_
    have kept : e.2 ∈ g.toList := List.mem_map_of_mem here
    exact Node.recovers_node (recoverable e.2 kept)
  exact fun room space => bind_recovers nodes space Graph.mk

namespace Report

variable {r : Report}

/-- What a report must satisfy to be read back: its bindings are recoverable, its numbers are
integers that are kept exactly, and not too many containers stand inside each other. -/
structure Recoverable (r : Report) : Prop where
  bindings : ∀ n ∈ r.graph.toList, ∀ b ∈ n.bindings, b.Recoverable
  whole : r.toJson.Whole
  shallow : r.toJson.depth ≤ 127

theorem recovers_report (recoverable : ∀ n ∈ r.graph.toList, ∀ b ∈ n.bindings, b.Recoverable) :
    Recovers reader r.toJson r := by
  refine Json.recovers_shape (s := ⟨some r.graph, some r.temporary⟩) ?_ rfl
  intro room space
  have graph : Recovers Graph.reader r.graph.toJson r.graph := Graph.recovers_graph recoverable
  have temporary : Recovers (Reader.list (Reader.textAs "path string")) (.ofTexts r.temporary)
      r.temporary :=
    Json.recovers_list fun s _ => Json.recovers_textAs "path string" s
  have afterGraph : shape.readMember room {} "functions" r.graph.toJson.outline =
      .ok { graph := some r.graph } :=
    bind_recovers graph (Value.depth_lt_of_mem "functions" (by simp) space)
      fun g => ({ graph := some g } : Partial)
  have afterTemporary : shape.readMember room { graph := some r.graph } "tempFolders"
      (Value.ofTexts r.temporary).outline = .ok ⟨some r.graph, some r.temporary⟩ :=
    bind_recovers temporary (Value.depth_lt_of_mem "tempFolders" (by simp) space)
      fun l => ({ graph := some r.graph, temporary := some l } : Partial)
  exact (foldWritten_cons afterGraph _).trans (foldWritten_cons afterTemporary _)

theorem read_render_json (recoverable : r.Recoverable) :
    Json.read reader (r.render .json).toList = .ok r := by
  have text : (r.render .json).toList = r.toJson.render (.indented 0) := String.toList_ofList
  rw [text, Json.read_render recoverable.whole]
  exact recovers_report recoverable.bindings Json.fullRoom
    (Nat.lt_succ_of_le recoverable.shallow)

/-- A binding with nested properties. -/
def smallBinding : Binding :=
  { type := "queueTrigger"
    direction := .both
    properties := ⟨[
      ("a\"\n\x01", .object [("\u00e9", .list []), ("\u2028", .number (.integer (-5)))]),
      ("path", .list [.null, .bool true, .text "C:\\\t\x7f"])], by decide +kernel⟩ }

/-- A node whose place is known in part. -/
def smallNode : Node :=
  { name := "name"
    bindings := [smallBinding]
    callers := ["b", "a"]
    signals := [⟨"sender", "event"⟩]
    continuesAsNew := true
    position := some 0 }

/-- A report whose node stands under a name that is not its own. -/
def smallReport : Report :=
  { graph := ⟨⟨[("key", smallNode)], by simp⟩⟩
    temporary := ["/tmp/b", "/tmp/a"] }

theorem smallBinding_recoverable : smallBinding.Recoverable where
  noType := by decide
  noDirection := by decide
  ordered := by
    have nested : (Value.object [("\u00e9", .list []), ("\u2028", .number (.integer (-5)))]).Ordered :=
      Value.ordered_object.mpr ⟨by decide +kernel, by simp⟩
    simp only [smallBinding, Dictionary.values, List.map_cons, List.map_nil, List.forall_mem_cons]
    exact ⟨nested, by simp, List.forall_mem_nil _⟩

theorem smallReport_recoverable : smallReport.Recoverable where
  bindings := by
    intro n here b bound
    obtain rfl : n = smallNode := by simpa [Graph.toList, Dictionary.values, smallReport] using here
    obtain rfl : b = smallBinding := by simpa [smallNode] using bound
    exact smallBinding_recoverable
  whole := by
    simp [smallReport, smallNode, smallBinding, toJson, Graph.toJson, Node.toJson, Binding.toJson,
      Signal.toJson, Node.optionalMember, Value.ofTexts, Value.ofNat, Json.Number.InBounds,
      Json.Number.leastInteger, Json.Number.greatestInteger]
  shallow := by decide +kernel

theorem read_render_json_small :
    smallReport.Recoverable ∧ Json.read reader (smallReport.render .json).toList = .ok smallReport :=
  ⟨smallReport_recoverable, read_render_json smallReport_recoverable⟩

end Report

end OrchestrationGraph
