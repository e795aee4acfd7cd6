import OrchestrationGraph.Proofs.Graph.WellTyped

/-!
# Matching and declaring do not depend on their order

The search for edges and the walk over declared bindings choose functions by name and kind alone
(`located_of_roster`, `ofKind_names_of_roster`), and neither changes a name or a kind: noting edges
leaves all bindings as they are, and declared bindings are no triggers. So each may go first
(`declareBindings_matched_comm`). Nodes need not stand under their own names, and a function may be
named, and extended, more than once.
-/

namespace OrchestrationGraph.Graph

variable {g g' : Graph} {sources : Dictionary Source}

/-! ### What functions are chosen by -/

/-- The names and kinds of the nodes, in the order in which they are kept. -/
def roster (g : Graph) : List (String × Node.Kind) := g.toList.map fun n => (n.name, n.kind)

theorem ofKind_names (g : Graph) (kind : Node.Kind) :
    (g.ofKind kind).map (·.name) = (g.roster.filter fun e => e.2 = kind).map (·.1) := by
  unfold ofKind roster
  rw [List.filter_map, List.map_map]
  rfl

theorem ofKind_names_of_roster (same : g.roster = g'.roster) (kind : Node.Kind) :
    (g.ofKind kind).map (·.name) = (g'.ofKind kind).map (·.name) := by
  rw [ofKind_names, ofKind_names, same]

theorem located_eq (g : Graph) (sources : Dictionary Source) (kind : Node.Kind) :
    g.located sources kind = ((g.ofKind kind).map (·.name)).filterMap fun name =>
      (sources.get? name).map fun s => ⟨name, s.code.toList⟩ := by
  rw [List.filterMap_map]
  rfl

theorem located_of_roster (same : g.roster = g'.roster) (kind : Node.Kind) :
    g.located sources kind = g'.located sources kind := by
  rw [located_eq, located_eq, ofKind_names_of_roster same]

theorem findEdges_of_roster (same : g.roster = g'.roster) :
    g.findEdges sources = g'.findEdges sources := by
  rw [findEdges_eq, findEdges_eq]
  simp only [located_of_roster same]

/-! ### Names and kinds stay -/

theorem roster_modify (g : Graph) {key : String} {f : Node → Node}
    (keeps : ∀ n, (f n).name = n.name ∧ (f n).kind = n.kind) : (g.modify key f).roster = g.roster := by
  unfold roster toList Dictionary.values modify Dictionary.modify Dictionary.adjust
  rw [List.map_map, List.map_map, List.map_map]
  refine List.map_congr_left fun e _ => ?_
  simp only [Function.comp_apply]
  split
  · rw [(keeps e.2).1, (keeps e.2).2]
  · rfl

theorem names_modify (g : Graph) (key : String) (f : Node → Node) : (g.modify key f).names = g.names :=
  Dictionary.keys_modify g.nodes key f

theorem roster_apply (g : Graph) (e : Edge) : (g.apply e).1.roster = g.roster := by
  unfold apply
  split
  · refine roster_modify g fun n => ?_
    cases e <;> exact ⟨rfl, rfl⟩
  · rfl

theorem roster_applyAll (g : Graph) (edges : List Edge) : (g.applyAll edges).1.roster = g.roster := by
  induction edges generalizing g with
  | nil => rfl
  | cons e edges ih => rw [applyAll_cons, ih, roster_apply]

theorem contains_applyAll (g : Graph) (edges : List Edge) (name : String) :
    (g.applyAll edges).1.contains name = g.contains name :=
  contains_of_get?_map (get?_applyAll g edges name)

theorem roster_declareEach (g : Graph) (names : List String) :
    (declareEach sources g names).1.roster = g.roster := by
  induction names generalizing g with
  | nil => rfl
  | cons name names ih =>
    rw [declareEach_cons, ih]
    exact roster_modify g fun n => ⟨rfl, kind_declared name n⟩

theorem names_declareEach (g : Graph) (names : List String) :
    (declareEach sources g names).1.names = g.names := by
  induction names generalizing g with
  | nil => rfl
  | cons name names ih => rw [declareEach_cons, ih, names_modify]

theorem contains_declareEach (g : Graph) (names : List String) (name : String) :
    (declareEach sources g names).1.contains name = g.contains name :=
  contains_of_get?_map (get?_declareEach g names name)

/-- The count depends on the graph only through the names that it has. -/
theorem added_count (g : Graph) (names : List String) :
    (declareEach sources g names).2 =
      ((names.filter g.contains).map fun name => (declaredFor sources name).length).sum := by
  induction names generalizing g with
  | nil => rfl
  | cons name names ih =>
    have known : (g.modify name (extended (declaredFor sources name))).contains = g.contains :=
      funext fun key => contains_modify g name key _
    have rest := ih (g.modify name (extended (declaredFor sources name)))
    rw [known] at rest
    show (if g.contains name then _ + _ else _) = _
    rw [List.filter_cons]
    split
    · rw [List.map_cons, List.sum_cons, Nat.add_comm, ← rest]
      rfl
    · exact rest

/-! ### Either first -/

/-- Noting edges and adding bindings write different parts of a node. -/
theorem noted_extended (name : String) (edges : List Edge) (bs : List Binding) :
    noted name edges ∘ extended bs = extended bs ∘ noted name edges := rfl

theorem declareEach_applyAll (g : Graph) (names : List String) (edges : List Edge) :
    ((declareEach sources g names).1.applyAll edges).1 =
      (declareEach sources (g.applyAll edges).1 names).1 := by
  have same : (declareEach sources g names).1.kept edges = g.kept edges := by
    unfold kept
    rw [funext (contains_declareEach g names)]
  refine ext_get? fun name => ?_
  rw [get?_applyAll, get?_declareEach, get?_declareEach, get?_applyAll, same, Option.map_map,
    Option.map_map, noted_extended]

/-- What decides the group of a node and how it is drawn: its kind and its first triggers. -/
def triggers (n : Node) : Node.Kind × Option Binding × Option Binding :=
  (n.kind, n.trigger?, n.externalTrigger?)

theorem triggers_gained (name : String) (names : List String) (n : Node) :
    triggers (extended (gained sources name names) n) = triggers n := by
  have kind := kind_extended n fun b (here : b ∈ gained sources name names) =>
    not_durable_of_mem_declaredFor (mem_gained here)
  obtain ⟨first, external⟩ := triggers_extended n fun b (here : b ∈ gained sources name names) =>
    not_trigger_of_mem_declaredFor (mem_gained here)
  rw [triggers, kind, first, external, triggers]

/-- Declaring bindings first and matching then, or the other way round, ends in the same graph, with
the same edges found and the same counts. Declared bindings change neither the kind of a node nor
its first trigger nor its first external trigger. -/
theorem declareBindings_matched_comm (g : Graph) (sources : Dictionary Source) :
    ((g.declareBindings sources).1.matched sources).1 =
        ((g.matched sources).1.declareBindings sources).1 ∧
      (g.declareBindings sources).1.findEdges sources = g.findEdges sources ∧
      ((g.declareBindings sources).1.matched sources).2 = (g.matched sources).2 ∧
      (g.declareBindings sources).2 = ((g.matched sources).1.declareBindings sources).2 ∧
      (g.declareBindings sources).1.names = g.names ∧
      ∀ name, ((g.declareBindings sources).1.get? name).map triggers = (g.get? name).map triggers := by
  have found : (g.declareBindings sources).1.findEdges sources = g.findEdges sources :=
    findEdges_of_roster (roster_declareEach g _)
  have chosen : ((g.matched sources).1.ofKind .other).map (·.name) =
      (g.ofKind .other).map (·.name) :=
    ofKind_names_of_roster (roster_applyAll g _) .other
  refine ⟨?_, found, ?_, ?_, names_declareEach g _, ?_⟩
  · rw [matched, found, declareBindings, declareBindings, chosen]
    exact declareEach_applyAll g _ _
  · have known : (g.declareBindings sources).1.contains = g.contains :=
      funext (contains_declareEach g _)
    rw [matched, found, applied_count, matched, applied_count, kept, kept, known]
  · have known : (g.matched sources).1.contains = g.contains := funext (contains_applyAll g _)
    rw [declareBindings, declareBindings, chosen, added_count, added_count, known]
  · intro name
    rw [declareBindings, get?_declareEach, Option.map_map]
    congr 1
    funext n
    exact triggers_gained name _ n

end OrchestrationGraph.Graph
