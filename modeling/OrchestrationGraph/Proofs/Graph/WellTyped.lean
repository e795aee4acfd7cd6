import Mathlib.Algebra.BigOperators.Group.List.Basic
import Mathlib.Algebra.GroupWithZero.Nat
import OrchestrationGraph.Proofs.Graph.Application
import OrchestrationGraph.Proofs.Graph.Declaration
import OrchestrationGraph.Proofs.Graph.Relationship

/-!
# Finished graphs are well typed

From nodes without edges, finding and noting the edges and then adding the declared bindings leads
to a graph in which every edge joins kinds that may be joined, and in which each edge that was found
is noted once (`wellTyped_finished`). The kinds are those of the finished graph.
-/

namespace OrchestrationGraph

/-- The number of edges that are noted at a node. -/
def Node.edgeCount (n : Node) : Nat :=
  n.callers.length + n.signals.length + if n.continuesAsNew then 1 else 0

/-- No edge is noted at the node. -/
def Node.Edgeless (n : Node) : Prop :=
  n.callers = [] ∧ n.signals = [] ∧ n.continuesAsNew = false

namespace Graph

def edgeCount (g : Graph) : Nat := (g.toList.map Node.edgeCount).sum

def HasKind (g : Graph) (kind : Node.Kind) (name : String) : Prop :=
  ∃ n, g.get? name = some n ∧ n.kind = kind

/-- Each edge joins two functions of the graph that may be joined and whose code is known. -/
structure WellTyped (g : Graph) (sources : Dictionary Source) : Prop where
  callers_known : ∀ n ∈ g.toList, ∀ c ∈ n.callers, g.contains c = true
  senders_known : ∀ n ∈ g.toList, ∀ s ∈ n.signals, g.contains s.sender = true
  other_uncalled : ∀ n ∈ g.toList, n.kind = .other → n.callers = []
  activity_callers : ∀ n ∈ g.toList, n.kind = .activity →
    ∀ c ∈ n.callers, g.HasKind .orchestrator c
  entity_callers : ∀ n ∈ g.toList, n.kind = .entity → ∀ c ∈ n.callers, g.HasKind .other c
  orchestrator_callers : ∀ n ∈ g.toList, n.kind = .orchestrator →
    ∀ c ∈ n.callers, g.HasKind .other c ∨ g.HasKind .orchestrator c ∧ c ≠ n.name
  signalled : ∀ n ∈ g.toList, n.signals ≠ [] → n.kind = .orchestrator
  continuing : ∀ n ∈ g.toList, n.continuesAsNew = true → n.kind = .orchestrator
  senders : ∀ n ∈ g.toList, ∀ s ∈ n.signals, g.HasKind .other s.sender
  callers_nodup : ∀ n ∈ g.toList, n.callers.Nodup
  signals_nodup : ∀ n ∈ g.toList, n.signals.Nodup
  target_located : ∀ n ∈ g.toList, ¬ n.Edgeless → sources.contains n.name = true
  callers_located : ∀ n ∈ g.toList, ∀ c ∈ n.callers, sources.contains c = true
  senders_located : ∀ n ∈ g.toList, ∀ s ∈ n.signals, sources.contains s.sender = true

/-- The graph with the edges that its sources show, and their number. -/
def matched (g : Graph) (sources : Dictionary Source) : Graph × Nat :=
  g.applyAll (g.findEdges sources)

/-- The graph with its edges and then the declared bindings. -/
def finished (g : Graph) (sources : Dictionary Source) : Graph :=
  ((g.matched sources).1.declareBindings sources).1

variable {g : Graph} {sources : Dictionary Source} {name : String} {n : Node}

/-! ### Ends of a relationship -/

theorem IsLocated.hasKind {kind : Node.Kind} {code : List Char}
    (located : IsLocated g sources kind name code) : g.HasKind kind name := by
  obtain ⟨n, _, found, isKind, _⟩ := located
  exact ⟨n, found, isKind⟩

theorem IsLocated.source {kind : Node.Kind} {code : List Char}
    (located : IsLocated g sources kind name code) : sources.contains name = true := by
  obtain ⟨_, s, _, _, known, _⟩ := located
  exact Option.isSome_iff_exists.mpr ⟨s, known⟩

theorem HasKind.contains {kind : Node.Kind} (h : g.HasKind kind name) : g.contains name = true := by
  obtain ⟨n, found, _⟩ := h
  exact contains_iff.mpr ⟨n, found⟩

theorem HasKind.kind_eq {kind : Node.Kind} (h : g.HasKind kind name) (found : g.get? name = some n) :
    n.kind = kind := by
  obtain ⟨n', found', rfl⟩ := h
  rw [Option.some.inj (found.symm.trans found')]

/-- Which kinds a call may join. -/
def MayCall (caller callee : Node.Kind) : Prop :=
  (caller = .other ∧ (callee = .orchestrator ∨ callee = .entity)) ∨
    (caller = .orchestrator ∧ (callee = .orchestrator ∨ callee = .activity))

theorem Related.call_ends {caller callee : String} (related : Related g sources (.call caller callee)) :
    ∃ kind kind' code code', IsLocated g sources kind caller code ∧
      IsLocated g sources kind' callee code' ∧ MayCall kind kind' ∧
        (kind = .orchestrator → callee ≠ caller) := by
  cases related with
  | start client orchestration _ =>
    exact ⟨_, _, _, _, client, orchestration, .inl ⟨rfl, .inl rfl⟩, by simp⟩
  | subOrchestration caller called different _ =>
    exact ⟨_, _, _, _, caller, called, .inr ⟨rfl, .inl rfl⟩, fun _ => different⟩
  | activity orchestration activity _ =>
    refine ⟨_, _, _, _, orchestration, activity, .inr ⟨rfl, .inr rfl⟩, ?_⟩
    rintro - rfl
    exact absurd (orchestration.kind_eq activity) (by decide)
  | entity client entity _ =>
    exact ⟨_, _, _, _, client, entity, .inl ⟨rfl, .inr rfl⟩, by simp⟩

theorem Related.signal_ends {sender target event : String}
    (related : Related g sources (.signal sender target event)) :
    ∃ code code', IsLocated g sources .other sender code ∧
      IsLocated g sources .orchestrator target code' := by
  cases related with
  | signal sender orchestration _ _ => exact ⟨_, _, sender, orchestration⟩

theorem Related.continuation_end (related : Related g sources (.continuation name)) :
    ∃ code, IsLocated g sources .orchestrator name code := by
  cases related with
  | continuation orchestration _ => exact ⟨_, orchestration⟩

theorem Related.ends_known {e : Edge} (related : Related g sources e) :
    e.ends.all g.contains = true := by
  cases e with
  | call caller callee =>
    obtain ⟨_, _, _, _, from_, to_, _⟩ := related.call_ends
    simp [Edge.ends, from_.hasKind.contains, to_.hasKind.contains]
  | signal sender target event =>
    obtain ⟨_, _, from_, to_⟩ := related.signal_ends
    simp [Edge.ends, from_.hasKind.contains, to_.hasKind.contains]
  | continuation function =>
    obtain ⟨_, located⟩ := related.continuation_end
    simp [Edge.ends, located.hasKind.contains]

/-! ### The finished graph -/

/-- No edge that was found is refused. -/
theorem kept_findEdges (keyed : g.Keyed) :
    g.kept (g.findEdges sources) = g.findEdges sources := by
  unfold kept
  rw [List.filter_eq_self]
  intro e found
  exact ((mem_findEdges keyed).mp found).ends_known

/-- A node of the finished graph comes from the node of its name, has the same kind, and notes the
edges that were found. -/
theorem get?_finished (keyed : g.Keyed) (sources : Dictionary Source) (name : String) :
    ∃ bs : Node → List Binding, (∀ n, ∀ b ∈ bs n, b.isDurable = false) ∧
      (g.finished sources).get? name = (g.get? name).map fun n =>
        extended (bs n) (noted name (g.findEdges sources) n) := by
  refine ⟨fun n => if n.kind = .other then declaredFor sources name else [], ?_, ?_⟩
  · intro n b here
    dsimp only at here
    split at here
    · exact not_durable_of_mem_declaredFor here
    · simp at here
  · unfold finished matched
    rw [get?_declareBindings (keyed.applyAll _), get?_applyAll, kept_findEdges keyed,
      Option.map_map]
    congr 1
    funext n
    have same : (noted name (g.findEdges sources) n).kind = n.kind := rfl
    simp only [Function.comp_apply, same]
    split
    · rfl
    · simp [extended]

theorem Keyed.finished (keyed : g.Keyed) : (g.finished sources).Keyed := by
  intro name m found
  obtain ⟨bs, _, is⟩ := get?_finished keyed sources name
  rw [is] at found
  obtain ⟨n, before, rfl⟩ := Option.map_eq_some_iff.mp found
  exact keyed name n before

theorem HasKind.finished {kind : Node.Kind} (keyed : g.Keyed) (h : g.HasKind kind name) :
    (g.finished sources).HasKind kind name := by
  obtain ⟨bs, durable, is⟩ := get?_finished keyed sources name
  obtain ⟨n, found, rfl⟩ := h
  rw [found] at is
  exact ⟨_, is, kind_extended _ (durable n)⟩

/-- The edges that a node of the finished graph notes are those that were found for its name. -/
theorem node_finished (keyed : g.Keyed) (edgeless : ∀ name n, g.get? name = some n → n.Edgeless)
    (found : (g.finished sources).get? name = some n) :
    n.name = name ∧ g.HasKind n.kind name ∧
      n.callers = Edge.callersOf name (g.findEdges sources) ∧
      n.signals = Edge.signalsOf name (g.findEdges sources) ∧
      n.continuesAsNew = Edge.continues name (g.findEdges sources) := by
  obtain ⟨bs, durable, is⟩ := get?_finished keyed sources name
  rw [is] at found
  obtain ⟨n₀, before, rfl⟩ := Option.map_eq_some_iff.mp found
  obtain ⟨noCallers, noSignals, noContinuation⟩ := edgeless name n₀ before
  refine ⟨keyed name n₀ before, ⟨n₀, before, (kind_extended _ (durable n₀)).symm⟩, ?_, ?_, ?_⟩
  · simp [extended, noted, noCallers]
  · simp [extended, noted, noSignals]
  · simp [extended, noted, noContinuation]

section

variable (keyed : g.Keyed) (edgeless : ∀ name n, g.get? name = some n → n.Edgeless)

include keyed edgeless

theorem caller_finished (here : n ∈ (g.finished sources).toList) {c : String}
    (calls : c ∈ n.callers) : Related g sources (.call c n.name) := by
  obtain ⟨name, found⟩ := mem_toList.mp here
  obtain ⟨rfl, _, callers, _⟩ := node_finished keyed edgeless found
  rw [callers, Edge.mem_callersOf] at calls
  exact (mem_findEdges keyed).mp calls

theorem signal_finished (here : n ∈ (g.finished sources).toList) {s : Signal}
    (signals : s ∈ n.signals) : Related g sources (.signal s.sender n.name s.event) := by
  obtain ⟨name, found⟩ := mem_toList.mp here
  obtain ⟨rfl, _, _, isSignals, _⟩ := node_finished keyed edgeless found
  rw [isSignals, Edge.mem_signalsOf] at signals
  exact (mem_findEdges keyed).mp signals

theorem continuation_finished (here : n ∈ (g.finished sources).toList)
    (continuing : n.continuesAsNew = true) : Related g sources (.continuation n.name) := by
  obtain ⟨name, found⟩ := mem_toList.mp here
  obtain ⟨rfl, _, _, _, isContinuing⟩ := node_finished keyed edgeless found
  rw [isContinuing, Edge.continues_iff] at continuing
  exact (mem_findEdges keyed).mp continuing

theorem kind_finished (here : n ∈ (g.finished sources).toList) {kind : Node.Kind} {code : List Char}
    (located : IsLocated g sources kind n.name code) : n.kind = kind := by
  obtain ⟨name, found⟩ := mem_toList.mp here
  obtain ⟨rfl, ⟨n₀, before, same⟩, _⟩ := node_finished keyed edgeless found
  exact same.symm.trans (located.hasKind.kind_eq before)

theorem wellTyped_edges : WellTyped (g.finished sources) sources where
  callers_known n here c calls := by
    obtain ⟨_, _, _, _, from_, _⟩ := (caller_finished keyed edgeless here calls).call_ends
    exact (from_.hasKind.finished keyed).contains
  senders_known n here s signals := by
    obtain ⟨_, _, from_, _⟩ := (signal_finished keyed edgeless here signals).signal_ends
    exact (from_.hasKind.finished keyed).contains
  other_uncalled n here isOther := by
    refine List.eq_nil_iff_forall_not_mem.mpr ?_
    intro c calls
    obtain ⟨_, kind', _, _, _, to_, may, _⟩ := (caller_finished keyed edgeless here calls).call_ends
    have same := (kind_finished keyed edgeless here to_).symm.trans isOther
    subst same
    simp [MayCall] at may
  activity_callers n here isActivity c calls := by
    obtain ⟨_, _, _, _, from_, to_, may, _⟩ :=
      (caller_finished keyed edgeless here calls).call_ends
    have same := (kind_finished keyed edgeless here to_).symm.trans isActivity
    subst same
    obtain ⟨_, no⟩ | ⟨rfl, _⟩ := may
    · simp at no
    · exact from_.hasKind.finished keyed
  entity_callers n here isEntity c calls := by
    obtain ⟨_, _, _, _, from_, to_, may, _⟩ :=
      (caller_finished keyed edgeless here calls).call_ends
    have same := (kind_finished keyed edgeless here to_).symm.trans isEntity
    subst same
    obtain ⟨rfl, _⟩ | ⟨_, no⟩ := may
    · exact from_.hasKind.finished keyed
    · simp at no
  orchestrator_callers n here _ c calls := by
    obtain ⟨_, _, _, _, from_, to_, may, different⟩ :=
      (caller_finished keyed edgeless here calls).call_ends
    obtain ⟨rfl, _⟩ | ⟨rfl, _⟩ := may
    · exact .inl (from_.hasKind.finished keyed)
    · exact .inr ⟨from_.hasKind.finished keyed, (different rfl).symm⟩
  signalled n here some_ := by
    obtain ⟨s, signals⟩ := List.exists_mem_of_ne_nil _ some_
    obtain ⟨_, _, _, to_⟩ := (signal_finished keyed edgeless here signals).signal_ends
    exact kind_finished keyed edgeless here to_
  continuing n here continuing := by
    obtain ⟨_, located⟩ := (continuation_finished keyed edgeless here continuing).continuation_end
    exact kind_finished keyed edgeless here located
  senders n here s signals := by
    obtain ⟨_, _, from_, _⟩ := (signal_finished keyed edgeless here signals).signal_ends
    exact from_.hasKind.finished keyed
  callers_nodup n here := by
    obtain ⟨name, found⟩ := mem_toList.mp here
    obtain ⟨_, _, callers, _⟩ := node_finished keyed edgeless found
    exact callers ▸ Edge.nodup_callersOf (nodup_findEdges keyed)
  signals_nodup n here := by
    obtain ⟨name, found⟩ := mem_toList.mp here
    obtain ⟨_, _, _, signals, _⟩ := node_finished keyed edgeless found
    exact signals ▸ Edge.nodup_signalsOf (nodup_findEdges keyed)
  target_located n here noted := by
    by_cases called : n.callers = []
    · by_cases signalled : n.signals = []
      · have continuing : n.continuesAsNew = true := by
          cases flag : n.continuesAsNew with
          | true => rfl
          | false => exact absurd ⟨called, signalled, flag⟩ noted
        obtain ⟨_, located⟩ :=
          (continuation_finished keyed edgeless here continuing).continuation_end
        exact located.source
      · obtain ⟨s, signals⟩ := List.exists_mem_of_ne_nil _ signalled
        obtain ⟨_, _, _, to_⟩ := (signal_finished keyed edgeless here signals).signal_ends
        exact to_.source
    · obtain ⟨c, calls⟩ := List.exists_mem_of_ne_nil _ called
      obtain ⟨_, _, _, _, _, to_, _⟩ := (caller_finished keyed edgeless here calls).call_ends
      exact to_.source
  callers_located n here c calls := by
    obtain ⟨_, _, _, _, from_, _⟩ := (caller_finished keyed edgeless here calls).call_ends
    exact from_.source
  senders_located n here s signals := by
    obtain ⟨_, _, from_, _⟩ := (signal_finished keyed edgeless here signals).signal_ends
    exact from_.source

end

/-! ### Counting -/

/-- Edges whose targets are among the names are counted once when they are counted by target. -/
theorem sum_countP_target {keys : List String} (nodup : keys.Nodup) {edges : List Edge}
    (known : ∀ e ∈ edges, e.target ∈ keys) :
    (keys.map fun k => edges.countP fun e => e.target = k).sum = edges.length := by
  induction edges with
  | nil => exact List.sum_eq_zero (by simp)
  | cons e edges ih =>
    have split : ∀ k ∈ keys, (e :: edges).countP (fun e => e.target = k) =
        edges.countP (fun e => e.target = k) + if e.target = k then 1 else 0 := by
      intro k _
      simp [List.countP_cons]
    have once : (keys.map fun k => if e.target = k then 1 else 0).sum = 1 := by
      rw [List.sum_map_eq_nsmul_single e.target _ fun k different _ => if_neg different.symm,
        nodup.count, if_pos (known e List.mem_cons_self)]
      simp
    rw [List.map_congr_left split, List.sum_map_add, once,
      ih fun e there => known e (List.mem_cons_of_mem _ there), List.length_cons]

theorem Related.target_known {e : Edge} (related : Related g sources e) :
    g.contains e.target = true := by
  have known := List.all_eq_true.mp related.ends_known
  cases e with
  | call caller callee => exact known callee (by simp [Edge.ends])
  | signal sender target event => exact known target (by simp [Edge.ends])
  | continuation function => exact known function (by simp [Edge.ends])

/-- The edges noted in the finished graph are those that were found. -/
theorem edgeCount_finished (keyed : g.Keyed)
    (edgeless : ∀ name n, g.get? name = some n → n.Edgeless) :
    (g.finished sources).edgeCount = (g.findEdges sources).length := by
  have known : ∀ e ∈ g.findEdges sources, e.target ∈ (g.finished sources).names := by
    intro e found
    obtain ⟨n, before⟩ := contains_iff.mp ((mem_findEdges keyed).mp found).target_known
    have after : (g.finished sources).contains e.target = true :=
      (HasKind.finished keyed ⟨n, before, rfl⟩).contains
    exact Dictionary.contains_iff.mp after
  have each : ∀ e ∈ (g.finished sources).nodes.entries, e.2.edgeCount =
      (g.findEdges sources).countP fun edge => edge.target = e.1 := by
    intro e here
    obtain ⟨_, _, callers, signals, continuing⟩ :=
      node_finished keyed edgeless (Dictionary.get?_eq_some_iff.mpr here)
    rw [Node.edgeCount, callers, signals, continuing,
      Edge.countP_target (nodup_findEdges keyed)]
  rw [← sum_countP_target (nodup_names _) known]
  unfold edgeCount toList names Dictionary.values Dictionary.keys
  rw [List.map_map, List.map_map]
  exact congrArg List.sum (List.map_congr_left each)

/-- From nodes without edges every edge that is found is noted once, in a graph that is well
typed. -/
theorem wellTyped_finished (nodes : List Node) (sources : Dictionary Source)
    (edgeless : ∀ n ∈ nodes, n.Edgeless) :
    WellTyped ((ofList nodes).finished sources) sources ∧
      ((ofList nodes).matched sources).2 = ((ofList nodes).findEdges sources).length ∧
      ((ofList nodes).matched sources).2 = ((ofList nodes).finished sources).edgeCount := by
  have keyed := keyed_ofList nodes
  have edgeless : ∀ name n, (ofList nodes).get? name = some n → n.Edgeless :=
    fun name n found => edgeless n (mem_of_ofList found)
  have count : ((ofList nodes).matched sources).2 = ((ofList nodes).findEdges sources).length := by
    unfold matched
    rw [applied_count, kept_findEdges keyed]
  exact ⟨wellTyped_edges keyed edgeless, count, by rw [count, edgeCount_finished keyed edgeless]⟩

theorem smallNodes_edgeless : ∀ n ∈ smallNodes, n.Edgeless := by
  simp [smallNodes, Node.Edgeless]

theorem wellTyped_finished_small : (∀ n ∈ smallNodes, n.Edgeless) ∧
    WellTyped ((ofList smallNodes).finished smallSources) smallSources ∧
      ((ofList smallNodes).matched smallSources).2 =
        ((ofList smallNodes).findEdges smallSources).length ∧
      ((ofList smallNodes).matched smallSources).2 =
        ((ofList smallNodes).finished smallSources).edgeCount :=
  ⟨smallNodes_edgeless, wellTyped_finished smallNodes smallSources smallNodes_edgeless⟩

end Graph

end OrchestrationGraph
