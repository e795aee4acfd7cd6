import OrchestrationGraph.Proofs.Graph.Relationship

/-!
# What the source of one function can change

The source of a function bears on the edges at which the function stands and on no other: between
all others the search finds the same edges in the same order, whatever that source says and whether
it is known at all (`findEdges_independent`).
-/

namespace OrchestrationGraph.Graph

/-- The edges at which the function stands at neither end. -/
def avoiding (name : String) (edges : List Edge) : List Edge := edges.filter fun e => name ∉ e.ends

/-- The functions of another name. -/
def without (name : String) (l : List Located) : List Located := l.filter fun f => f.name ≠ name

/-- The edges among groups of functions, one group for each kind. -/
def edgesAmong (others orchestrators activities entities : List Located) : List Edge :=
  orchestrators.flatMap (edgesOf others orchestrators activities) ++
    entities.flatMap (entityEdges others)

variable {g : Graph} {sources sources' : Dictionary Source} {name : String} {o : Located}
variable {others orchestrators activities entities : List Located}

theorem findEdges_eq_edgesAmong : g.findEdges sources =
    edgesAmong (g.located sources .other) (g.located sources .orchestrator)
      (g.located sources .activity) (g.located sources .entity) := rfl

theorem avoiding_append (edges edges' : List Edge) :
    avoiding name (edges ++ edges') = avoiding name edges ++ avoiding name edges' :=
  List.filter_append ..

/-! ### The edges of one function -/

/-- Where the one varying end of an edge is the function's name, leaving out the edge is leaving out
the function. -/
theorem avoiding_map_filter {l : List Located} {uses : Located → Bool} {edge : Located → Edge}
    (varies : ∀ f, name ∉ (edge f).ends ↔ f.name ≠ name) :
    avoiding name ((l.filter uses).map edge) = ((without name l).filter uses).map edge := by
  unfold avoiding without
  rw [List.filter_map, List.filter_filter, List.filter_filter]
  congr 2
  funext f
  simp only [Function.comp_apply, varies, Bool.and_comm]

theorem avoiding_startEdges (different : o.name ≠ name) :
    avoiding name (startEdges others o) = startEdges (without name others) o :=
  avoiding_map_filter fun f => by simp [Edge.ends, different.symm, eq_comm]

theorem avoiding_subOrchestrationEdges (different : o.name ≠ name) :
    avoiding name (subOrchestrationEdges orchestrators o) =
      subOrchestrationEdges (without name orchestrators) o :=
  avoiding_map_filter fun f => by simp [Edge.ends, different.symm, eq_comm]

theorem avoiding_activityEdges (different : o.name ≠ name) :
    avoiding name (activityEdges activities o) = activityEdges (without name activities) o :=
  avoiding_map_filter fun f => by simp [Edge.ends, different.symm, eq_comm]

theorem avoiding_entityEdges (different : o.name ≠ name) :
    avoiding name (entityEdges others o) = entityEdges (without name others) o :=
  avoiding_map_filter fun f => by simp [Edge.ends, different.symm, eq_comm]

theorem avoiding_continuationEdges (different : o.name ≠ name) :
    avoiding name (continuationEdges o) = continuationEdges o := by
  unfold avoiding
  rw [List.filter_eq_self]
  intro e found
  obtain ⟨_, rfl⟩ := mem_continuationEdges.mp found
  simp [Edge.ends, different.symm]

theorem avoiding_signalEdges (different : o.name ≠ name) :
    avoiding name (signalEdges others o) = signalEdges (without name others) o := by
  unfold signalEdges
  rw [avoiding, List.filter_flatMap]
  congr 1
  funext event
  exact avoiding_map_filter fun f => by simp [Edge.ends, different.symm, eq_comm]

theorem avoiding_edgesOf (different : o.name ≠ name) :
    avoiding name (edgesOf others orchestrators activities o) =
      edgesOf (without name others) (without name orchestrators) (without name activities) o := by
  unfold edgesOf
  simp only [avoiding_append, avoiding_startEdges different,
    avoiding_subOrchestrationEdges different, avoiding_activityEdges different,
    avoiding_continuationEdges different, avoiding_signalEdges different]

/-- All edges found for an orchestration have it at an end. -/
theorem mem_ends_of_mem_edgesOf {e : Edge}
    (found : e ∈ edgesOf others orchestrators activities o) : o.name ∈ e.ends := by
  simp only [edgesOf, List.mem_append, mem_startEdges, mem_subOrchestrationEdges,
    mem_activityEdges, mem_continuationEdges, mem_signalEdges] at found
  rcases found with (((⟨f, _, _, rfl⟩ | ⟨s, _, _, _, rfl⟩) | ⟨a, _, _, rfl⟩) | ⟨_, rfl⟩) |
    ⟨event, _, f, _, _, rfl⟩ <;> simp [Edge.ends]

theorem mem_ends_of_mem_entityEdges {e : Edge} (found : e ∈ entityEdges others o) :
    o.name ∈ e.ends := by
  obtain ⟨f, _, _, rfl⟩ := mem_entityEdges.mp found
  simp [Edge.ends]

/-! ### All edges -/

/-- Edges found function by function, each with the function at an end. -/
theorem avoiding_flatMap {find find' : Located → List Edge} (l : List Located)
    (at_end : ∀ o, ∀ e ∈ find o, o.name ∈ e.ends)
    (others : ∀ o, o.name ≠ name → avoiding name (find o) = find' o) :
    avoiding name (l.flatMap find) = (without name l).flatMap find' := by
  induction l with
  | nil => rfl
  | cons o l ih =>
    rw [List.flatMap_cons, avoiding_append, ih]
    by_cases own : o.name = name
    · have none_left : avoiding name (find o) = [] := by
        unfold avoiding
        rw [List.filter_eq_nil_iff]
        intro e found
        simp [← own, at_end o e found]
      simp [none_left, without, own]
    · simp [others o own, without, own]

theorem avoiding_edgesAmong :
    avoiding name (edgesAmong others orchestrators activities entities) =
      edgesAmong (without name others) (without name orchestrators) (without name activities)
        (without name entities) := by
  unfold edgesAmong
  rw [avoiding_append,
    avoiding_flatMap orchestrators (fun _ _ => mem_ends_of_mem_edgesOf) fun _ => avoiding_edgesOf,
    avoiding_flatMap entities (fun _ _ => mem_ends_of_mem_entityEdges) fun _ =>
      avoiding_entityEdges]

/-! ### Located functions -/

/-- Which other functions are located, and with which code, does not depend on the source. -/
theorem without_located (agree : ∀ other, other ≠ name → sources.get? other = sources'.get? other)
    (kind : Node.Kind) :
    without name (g.located sources kind) = without name (g.located sources' kind) := by
  unfold without located
  rw [List.filter_filterMap, List.filter_filterMap]
  congr 1
  funext n
  by_cases own : n.name = name
  · -- Located or not, the function itself is left out.
    have dropped : ∀ source? : Option Source,
        (source?.map fun s => (⟨n.name, s.code.toList⟩ : Located)).filter
          (fun f => f.name ≠ name) = none := by
      intro source?
      cases source? <;> simp [own]
    rw [dropped, dropped]
  · rw [agree _ own]

/-- A function without a source is not located. -/
theorem without_located_of_missing (missing : sources.get? name = none) (kind : Node.Kind) :
    without name (g.located sources kind) = g.located sources kind := by
  unfold without located
  rw [List.filter_eq_self]
  intro f here
  obtain ⟨n, _, made⟩ := List.mem_filterMap.mp here
  obtain ⟨s, known, rfl⟩ := Option.map_eq_some_iff.mp made
  have different : n.name ≠ name := by
    intro same
    rw [same, missing] at known
    exact absurd known nofun
  simpa using different

/-- Sources that agree on all other functions give the same edges between these, in the same order;
without a source of its own, a function takes exactly its edges away. -/
theorem findEdges_independent (g : Graph) (name : String) (sources sources' : Dictionary Source)
    (agree : ∀ other, other ≠ name → sources.get? other = sources'.get? other) :
    avoiding name (g.findEdges sources) = avoiding name (g.findEdges sources') ∧
      (sources'.get? name = none →
        g.findEdges sources' = avoiding name (g.findEdges sources)) := by
  have same : avoiding name (g.findEdges sources) = avoiding name (g.findEdges sources') := by
    simp only [findEdges_eq_edgesAmong, avoiding_edgesAmong, without_located agree]
  refine ⟨same, fun missing => ?_⟩
  rw [same]
  simp only [findEdges_eq_edgesAmong, avoiding_edgesAmong, without_located_of_missing missing]

/-- Sources of a client and a flow, but not of the step that the flow calls. -/
def sourcesWithoutStep : Dictionary Source := Dictionary.ofList [
  ("Client", ⟨"Client", "client.startNew(\"Flow\")", "client.js", 0, 1⟩),
  ("Flow", ⟨"Flow", "context.df.callActivity(\"Step\")", "flow.js", 0, 1⟩)]

def sourcesWithStep : Dictionary Source :=
  sourcesWithoutStep.insert "Step" ⟨"Step", "", "step.js", 0, 1⟩

/-- The source of the step may be known or not. -/
theorem findEdges_independent_step :
    (∀ other, other ≠ "Step" → sourcesWithStep.get? other = sourcesWithoutStep.get? other) ∧
      sourcesWithoutStep.get? "Step" = none ∧
        avoiding "Step" ((ofList smallNodes).findEdges sourcesWithStep) =
          avoiding "Step" ((ofList smallNodes).findEdges sourcesWithoutStep) ∧
          (ofList smallNodes).findEdges sourcesWithoutStep =
            avoiding "Step" ((ofList smallNodes).findEdges sourcesWithStep) := by
  have agree : ∀ other, other ≠ "Step" →
      sourcesWithStep.get? other = sourcesWithoutStep.get? other := by
    intro other different
    unfold sourcesWithStep
    rw [Dictionary.get?_insert, if_neg different.symm]
  have missing : sourcesWithoutStep.get? "Step" = none := by decide +kernel
  obtain ⟨same, removed⟩ :=
    findEdges_independent (ofList smallNodes) "Step" sourcesWithStep sourcesWithoutStep agree
  exact ⟨agree, missing, same, removed missing⟩

end OrchestrationGraph.Graph
