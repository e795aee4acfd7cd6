import OrchestrationGraph.Graph.Inference
import OrchestrationGraph.Proofs.Graph.Keyed
import OrchestrationGraph.Proofs.Usage.AwaitedEvents

/-!
# What edges there are

`Related` says, one rule for each kind of relationship, which edges belong to a graph and its
sources. The search finds exactly these and each of them once (`findEdges_related`): the kinds of
the two ends keep the rules apart, and an edge tells the orchestration or entity it was found for.
-/

namespace OrchestrationGraph.Graph

/-- The function is in the graph with this kind, and its code is known. -/
def IsLocated (g : Graph) (sources : Dictionary Source) (kind : Node.Kind) (name : String)
    (code : List Char) : Prop :=
  ∃ n s, g.get? name = some n ∧ n.kind = kind ∧ sources.get? name = some s ∧
    s.code.toList = code

/-- The relationships between located functions. -/
inductive Related (g : Graph) (sources : Dictionary Source) : Edge → Prop where
  | start {f o : String} {code code' : List Char}
      (client : IsLocated g sources .other f code)
      (orchestration : IsLocated g sources .orchestrator o code')
      (uses : (Usage.startsOrchestration o).Occurs code) : Related g sources (.call f o)
  | subOrchestration {o s : String} {code code' : List Char}
      (caller : IsLocated g sources .orchestrator o code)
      (called : IsLocated g sources .orchestrator s code') (different : s ≠ o)
      (uses : (Usage.callsOrchestration s).Occurs code) : Related g sources (.call o s)
  | activity {o a : String} {code code' : List Char}
      (orchestration : IsLocated g sources .orchestrator o code)
      (activity : IsLocated g sources .activity a code')
      (uses : (Usage.callsActivity a).Occurs code) : Related g sources (.call o a)
  | continuation {o : String} {code : List Char}
      (orchestration : IsLocated g sources .orchestrator o code)
      (uses : Usage.continuesAsNew.Occurs code) : Related g sources (.continuation o)
  | signal {f o event : String} {code code' : List Char}
      (sender : IsLocated g sources .other f code)
      (orchestration : IsLocated g sources .orchestrator o code')
      (awaits : event ∈ Usage.awaitedEvents code')
      (uses : (Usage.raisesEvent event).Occurs code) : Related g sources (.signal f o event)
  | entity {f e : String} {code code' : List Char}
      (client : IsLocated g sources .other f code)
      (entity : IsLocated g sources .entity e code')
      (uses : (Usage.refersToEntity e).Occurs code) : Related g sources (.call f e)

variable {g : Graph} {sources : Dictionary Source}

/-! ### Located functions -/

theorem IsLocated.kind_eq {kind kind' : Node.Kind} {name : String} {code code' : List Char}
    (h : IsLocated g sources kind name code) (h' : IsLocated g sources kind' name code') :
    kind = kind' := by
  obtain ⟨n, _, found, rfl, _⟩ := h
  obtain ⟨n', _, found', rfl, _⟩ := h'
  rw [Option.some.inj (found.symm.trans found')]

theorem mem_located (keyed : g.Keyed) {kind : Node.Kind} {f : Located} :
    f ∈ g.located sources kind ↔ IsLocated g sources kind f.name f.code := by
  unfold located
  rw [List.mem_filterMap]
  constructor
  · rintro ⟨n, here, made⟩
    obtain ⟨s, known, rfl⟩ := Option.map_eq_some_iff.mp made
    obtain ⟨⟨name, found⟩, isKind⟩ := mem_ofKind.mp here
    have own := keyed name n found
    exact ⟨n, s, own ▸ found, isKind, known, rfl⟩
  · rintro ⟨n, s, found, isKind, known, code⟩
    have own := keyed _ n found
    refine ⟨n, mem_ofKind.mpr ⟨⟨_, found⟩, isKind⟩, ?_⟩
    rw [own, known, Option.map_some, code]

/-- A list in which no two functions share a name. -/
def Distinct (l : List Located) : Prop := l.Pairwise fun a b => a.name ≠ b.name

theorem distinct_located (keyed : g.Keyed) (sources : Dictionary Source) (kind : Node.Kind) :
    Distinct (g.located sources kind) := by
  unfold Distinct located ofKind
  refine List.Pairwise.filterMap _ ?_ (keyed.names_ne.sublist List.filter_sublist)
  intro n n' different f made f' made'
  obtain ⟨_, _, rfl⟩ := Option.map_eq_some_iff.mp made
  obtain ⟨_, _, rfl⟩ := Option.map_eq_some_iff.mp made'
  exact different

/-! ### The parts of the search -/

theorem mem_users {p : Pattern} {l : List Located} {f : Located} :
    f ∈ users p l ↔ f ∈ l ∧ p.Occurs f.code := by
  unfold users
  rw [List.mem_filter, Pattern.occursIn_iff]

theorem mem_map_users {p : Pattern} {l : List Located} {edge : Located → Edge} {e : Edge} :
    e ∈ (users p l).map edge ↔ ∃ f ∈ l, p.Occurs f.code ∧ e = edge f := by
  rw [List.mem_map]
  constructor
  · rintro ⟨f, used, rfl⟩
    obtain ⟨here, uses⟩ := mem_users.mp used
    exact ⟨f, here, uses, rfl⟩
  · rintro ⟨f, here, uses, rfl⟩
    exact ⟨f, mem_users.mpr ⟨here, uses⟩, rfl⟩

theorem mem_startEdges {others : List Located} {o : Located} {e : Edge} :
    e ∈ startEdges others o ↔ ∃ f ∈ others,
      (Usage.startsOrchestration o.name).Occurs f.code ∧ e = .call f.name o.name :=
  mem_map_users

theorem mem_subOrchestrationEdges {orchestrators : List Located} {o : Located} {e : Edge} :
    e ∈ subOrchestrationEdges orchestrators o ↔ ∃ s ∈ orchestrators,
      s.name ≠ o.name ∧ (Usage.callsOrchestration s.name).Occurs o.code ∧
        e = .call o.name s.name := by
  unfold subOrchestrationEdges
  simp only [List.mem_map, List.mem_filter, Bool.and_eq_true, decide_eq_true_eq,
    Pattern.occursIn_iff]
  constructor
  · rintro ⟨s, ⟨here, different, uses⟩, rfl⟩
    exact ⟨s, here, different, uses, rfl⟩
  · rintro ⟨s, here, different, uses, rfl⟩
    exact ⟨s, ⟨here, different, uses⟩, rfl⟩

theorem mem_activityEdges {activities : List Located} {o : Located} {e : Edge} :
    e ∈ activityEdges activities o ↔ ∃ a ∈ activities,
      (Usage.callsActivity a.name).Occurs o.code ∧ e = .call o.name a.name := by
  unfold activityEdges
  simp only [List.mem_map, List.mem_filter, Pattern.occursIn_iff]
  constructor
  · rintro ⟨a, ⟨here, uses⟩, rfl⟩
    exact ⟨a, here, uses, rfl⟩
  · rintro ⟨a, here, uses, rfl⟩
    exact ⟨a, ⟨here, uses⟩, rfl⟩

theorem mem_continuationEdges {o : Located} {e : Edge} :
    e ∈ continuationEdges o ↔
      Usage.continuesAsNew.Occurs o.code ∧ e = .continuation o.name := by
  unfold continuationEdges
  rw [← Pattern.occursIn_iff]
  split <;> simp_all

theorem mem_signalEdges {others : List Located} {o : Located} {e : Edge} :
    e ∈ signalEdges others o ↔ ∃ event ∈ Usage.awaitedEvents o.code, ∃ f ∈ others,
      (Usage.raisesEvent event).Occurs f.code ∧ e = .signal f.name o.name event := by
  unfold signalEdges
  rw [List.mem_flatMap]
  exact exists_congr fun event => and_congr_right fun _ => mem_map_users

theorem mem_entityEdges {others : List Located} {y : Located} {e : Edge} :
    e ∈ entityEdges others y ↔ ∃ f ∈ others,
      (Usage.refersToEntity y.name).Occurs f.code ∧ e = .call f.name y.name :=
  mem_map_users

/-- The edges found for one orchestration. -/
def edgesOf (others orchestrators activities : List Located) (o : Located) : List Edge :=
  startEdges others o ++ subOrchestrationEdges orchestrators o ++ activityEdges activities o ++
    continuationEdges o ++ signalEdges others o

theorem findEdges_eq : g.findEdges sources =
    (g.located sources .orchestrator).flatMap (edgesOf (g.located sources .other)
      (g.located sources .orchestrator) (g.located sources .activity)) ++
    (g.located sources .entity).flatMap (entityEdges (g.located sources .other)) := rfl

/-! ### Soundness and completeness -/

theorem related_of_mem_edgesOf (keyed : g.Keyed) {o : Located} {e : Edge}
    (here : o ∈ g.located sources .orchestrator)
    (found : e ∈ edgesOf (g.located sources .other) (g.located sources .orchestrator)
      (g.located sources .activity) o) : Related g sources e := by
  have isOrchestrator := (mem_located keyed).mp here
  simp only [edgesOf, List.mem_append, mem_startEdges, mem_subOrchestrationEdges,
    mem_activityEdges, mem_continuationEdges, mem_signalEdges, mem_located keyed] at found
  rcases found with (((⟨f, client, uses, rfl⟩ | ⟨s, called, different, uses, rfl⟩) |
    ⟨a, activity, uses, rfl⟩) | ⟨uses, rfl⟩) | ⟨event, awaits, f, sender, uses, rfl⟩
  · exact .start client isOrchestrator uses
  · exact .subOrchestration isOrchestrator called different uses
  · exact .activity isOrchestrator activity uses
  · exact .continuation isOrchestrator uses
  · exact .signal sender isOrchestrator awaits uses

theorem mem_findEdges (keyed : g.Keyed) {e : Edge} :
    e ∈ g.findEdges sources ↔ Related g sources e := by
  rw [findEdges_eq, List.mem_append, List.mem_flatMap, List.mem_flatMap]
  constructor
  · rintro (⟨o, here, found⟩ | ⟨y, here, found⟩)
    · exact related_of_mem_edgesOf keyed here found
    · obtain ⟨f, client, uses, rfl⟩ := mem_entityEdges.mp found
      exact .entity ((mem_located keyed).mp client) ((mem_located keyed).mp here) uses
  · intro related
    have at_name : ∀ {kind name code}, IsLocated g sources kind name code →
        (⟨name, code⟩ : Located) ∈ g.located sources kind := fun located =>
      (mem_located keyed).mpr located
    cases related with
    | start client orchestration uses =>
      refine .inl ⟨_, at_name orchestration, ?_⟩
      simp only [edgesOf, List.mem_append]
      exact .inl (.inl (.inl (.inl (mem_startEdges.mpr ⟨_, at_name client, uses, rfl⟩))))
    | subOrchestration caller called different uses =>
      refine .inl ⟨_, at_name caller, ?_⟩
      simp only [edgesOf, List.mem_append]
      exact .inl (.inl (.inl (.inr (mem_subOrchestrationEdges.mpr
        ⟨_, at_name called, different, uses, rfl⟩))))
    | activity orchestration activity uses =>
      refine .inl ⟨_, at_name orchestration, ?_⟩
      simp only [edgesOf, List.mem_append]
      exact .inl (.inl (.inr (mem_activityEdges.mpr ⟨_, at_name activity, uses, rfl⟩)))
    | continuation orchestration uses =>
      refine .inl ⟨_, at_name orchestration, ?_⟩
      simp only [edgesOf, List.mem_append]
      exact .inl (.inr (mem_continuationEdges.mpr ⟨uses, rfl⟩))
    | signal sender orchestration awaits uses =>
      refine .inl ⟨_, at_name orchestration, ?_⟩
      simp only [edgesOf, List.mem_append]
      exact .inr (mem_signalEdges.mpr ⟨_, awaits, _, at_name sender, uses, rfl⟩)
    | entity client entity uses =>
      exact .inr ⟨_, at_name entity, mem_entityEdges.mpr ⟨_, at_name client, uses, rfl⟩⟩

/-! ### No edge twice -/

/-- Edges made of the names of distinct functions are distinct. -/
theorem Distinct.nodup_map {l : List Located} (distinct : Distinct l) (edge : String → Edge)
    (injective : ∀ a b, edge a = edge b → a = b) : (l.map fun f => edge f.name).Nodup := by
  rw [List.nodup_iff_pairwise_ne, List.pairwise_map]
  exact distinct.imp fun different same => different (injective _ _ same)

theorem Distinct.filter {l : List Located} (distinct : Distinct l) (p : Located → Bool) :
    Distinct (l.filter p) :=
  List.Pairwise.sublist List.filter_sublist distinct

def eventOf : Edge → String
  | .signal _ _ event => event
  | .call .. | .continuation _ => ""

theorem nodup_signalEdges {others : List Located} (distinct : Distinct others) (o : Located) :
    (signalEdges others o).Nodup := by
  unfold signalEdges
  refine nodup_flatMap_of_owner id eventOf ?_ ?_ (Usage.nodup_awaitedEvents _)
  · intro event _
    exact (distinct.filter _).nodup_map (.signal · o.name event) fun a b same =>
      (Edge.signal.inj same).1
  · intro event _ e found
    obtain ⟨f, _, _, rfl⟩ := mem_map_users.mp found
    rfl

/-- The kind of the end at which an edge was found keeps the edges of one orchestration apart. -/
theorem nodup_edgesOf (keyed : g.Keyed) {o : Located}
    (here : o ∈ g.located sources .orchestrator) :
    (edgesOf (g.located sources .other) (g.located sources .orchestrator)
      (g.located sources .activity) o).Nodup := by
  have isOrchestrator := (mem_located keyed).mp here
  have apart : ∀ {f : Located}, f ∈ g.located sources .other → f.name ≠ o.name := by
    intro f other same
    have isOther := (mem_located keyed).mp other
    rw [same] at isOther
    exact absurd (isOther.kind_eq isOrchestrator) (by decide)
  have starts : (startEdges (g.located sources .other) o).Nodup :=
    ((distinct_located keyed _ _).filter _).nodup_map (.call · o.name) fun a b same =>
      (Edge.call.inj same).1
  have subs : (subOrchestrationEdges (g.located sources .orchestrator) o).Nodup :=
    ((distinct_located keyed _ _).filter _).nodup_map (.call o.name) fun a b same =>
      (Edge.call.inj same).2
  have activities : (activityEdges (g.located sources .activity) o).Nodup :=
    ((distinct_located keyed _ _).filter _).nodup_map (.call o.name) fun a b same =>
      (Edge.call.inj same).2
  have continuation : (continuationEdges o).Nodup := by
    unfold continuationEdges
    split <;> simp
  have signals := nodup_signalEdges (distinct_located keyed sources .other) o
  unfold edgesOf
  simp only [List.nodup_append, List.mem_append, mem_startEdges, mem_subOrchestrationEdges,
    mem_activityEdges, mem_continuationEdges, mem_signalEdges]
  refine ⟨⟨⟨⟨starts, subs, ?_⟩, activities, ?_⟩, continuation, ?_⟩, signals, ?_⟩
  · rintro _ ⟨f, other, _, rfl⟩ _ ⟨s, _, _, _, rfl⟩ same
    exact apart other (Edge.call.inj same).1
  · rintro _ (⟨f, other, _, rfl⟩ | ⟨s, called, _, _, rfl⟩) _ ⟨a, activity, _, rfl⟩ same
    · exact apart other (Edge.call.inj same).1
    · have isActivity := (mem_located keyed).mp activity
      rw [← (Edge.call.inj same).2] at isActivity
      exact absurd (((mem_located keyed).mp called).kind_eq isActivity) (by decide)
  · rintro _ ((⟨f, _, _, rfl⟩ | ⟨s, _, _, _, rfl⟩) | ⟨a, _, _, rfl⟩) _ ⟨_, rfl⟩ same <;> cases same
  · rintro _ (((⟨f, _, _, rfl⟩ | ⟨s, _, _, _, rfl⟩) | ⟨a, _, _, rfl⟩) | ⟨_, rfl⟩) _
      ⟨event, _, f, _, _, rfl⟩ same <;> cases same

/-- The orchestration or entity for which an edge was found: an end that is no client. -/
def owner (g : Graph) : Edge → String
  | .call caller callee =>
    if (g.get? caller).any fun n => n.kind = .orchestrator then caller else callee
  | .signal _ target _ => target
  | .continuation function => function

theorem owner_of_orchestrator {o callee : String} {code : List Char}
    (located : IsLocated g sources .orchestrator o code) : owner g (.call o callee) = o := by
  obtain ⟨n, _, found, isKind, _⟩ := located
  simp [owner, found, isKind]

theorem owner_of_client {f callee : String} {code : List Char}
    (located : IsLocated g sources .other f code) : owner g (.call f callee) = callee := by
  obtain ⟨n, _, found, isKind, _⟩ := located
  simp [owner, found, isKind]

theorem owner_of_mem_edgesOf (keyed : g.Keyed) {o : Located} {e : Edge}
    (here : o ∈ g.located sources .orchestrator)
    (found : e ∈ edgesOf (g.located sources .other) (g.located sources .orchestrator)
      (g.located sources .activity) o) : owner g e = o.name := by
  have isOrchestrator := (mem_located keyed).mp here
  simp only [edgesOf, List.mem_append, mem_startEdges, mem_subOrchestrationEdges,
    mem_activityEdges, mem_continuationEdges, mem_signalEdges, mem_located keyed] at found
  rcases found with (((⟨f, client, _, rfl⟩ | ⟨s, _, _, _, rfl⟩) | ⟨a, _, _, rfl⟩) | ⟨_, rfl⟩) |
    ⟨event, _, f, _, _, rfl⟩
  · exact owner_of_client client
  · exact owner_of_orchestrator isOrchestrator
  · exact owner_of_orchestrator isOrchestrator
  · rfl
  · rfl

theorem owner_of_mem_entityEdges (keyed : g.Keyed) {y : Located} {e : Edge}
    (found : e ∈ entityEdges (g.located sources .other) y) : owner g e = y.name := by
  obtain ⟨f, client, _, rfl⟩ := mem_entityEdges.mp found
  exact owner_of_client ((mem_located keyed).mp client)

theorem nodup_findEdges (keyed : g.Keyed) : (g.findEdges sources).Nodup := by
  rw [findEdges_eq, List.nodup_append]
  refine ⟨?_, ?_, ?_⟩
  · exact nodup_flatMap_of_owner (·.name) (owner g) (fun o here => nodup_edgesOf keyed here)
      (fun o here e found => owner_of_mem_edgesOf keyed here found) (distinct_located keyed _ _)
  · refine nodup_flatMap_of_owner (·.name) (owner g) ?_
      (fun y _ e found => owner_of_mem_entityEdges keyed found) (distinct_located keyed _ _)
    intro y _
    exact ((distinct_located keyed _ _).filter _).nodup_map (.call · y.name) fun a b same =>
      (Edge.call.inj same).1
  · -- An edge in both parts would make one function an orchestration and an entity.
    rintro e inFirst _ inSecond rfl
    obtain ⟨o, here, found⟩ := List.mem_flatMap.mp inFirst
    obtain ⟨y, there, found'⟩ := List.mem_flatMap.mp inSecond
    have same := (owner_of_mem_edgesOf keyed here found).symm.trans
      (owner_of_mem_entityEdges keyed found')
    have isEntity := (mem_located keyed).mp there
    rw [← same] at isEntity
    exact absurd (((mem_located keyed).mp here).kind_eq isEntity) (by decide)

/-- The search finds the edges of all relationships, no other edge, and no edge twice. -/
theorem findEdges_related (g : Graph) (sources : Dictionary Source) (keyed : g.Keyed) :
    (g.findEdges sources).Nodup ∧ ∀ e, e ∈ g.findEdges sources ↔ Related g sources e :=
  ⟨nodup_findEdges keyed, fun _ => mem_findEdges keyed⟩

/-- A client, a flow that it starts, and a step that the flow calls. -/
def smallNodes : List Node := [
  { name := "Client", bindings := [{ type := "httpTrigger" }] },
  { name := "Flow", bindings := [{ type := Binding.orchestrationTrigger }] },
  { name := "Step", bindings := [{ type := Binding.activityTrigger }] }]

def smallSources : Dictionary Source := Dictionary.ofList [
  ("Client", ⟨"Client", "client.startNew(\"Flow\")", "client.js", 0, 1⟩),
  ("Flow", ⟨"Flow", "context.df.callActivity(\"Step\")", "flow.js", 0, 1⟩),
  ("Step", ⟨"Step", "", "step.js", 0, 1⟩)]

theorem findEdges_related_small : (ofList smallNodes).Keyed ∧
    ((ofList smallNodes).findEdges smallSources).Nodup ∧
      ∀ e, e ∈ (ofList smallNodes).findEdges smallSources ↔
        Related (ofList smallNodes) smallSources e :=
  ⟨keyed_ofList _, findEdges_related _ _ (keyed_ofList _)⟩

end OrchestrationGraph.Graph
