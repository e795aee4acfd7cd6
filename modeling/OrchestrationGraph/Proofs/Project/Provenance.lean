import Mathlib.Data.List.Count
import Mathlib.Data.List.Sort
import OrchestrationGraph.Proofs.Graph.WellTyped
import OrchestrationGraph.Proofs.Project.Traversal
import OrchestrationGraph.Proofs.Text.ByteOrder

/-!
# Where the functions of a graph come from

Every function of a graph that a traversal gives has its name and bindings from a manifest in the
working folder, and its place from the source code that was found for it (`traverse_provenance`).
What is found out later goes back to functions with source code: edges join them alone, and bindings
are declared by them alone.
-/

namespace OrchestrationGraph

open OrchestrationGraph.Graph (extended noted placedAt)

variable {σ : Type}

namespace Passage

variable {c : Context σ} {location : String} {s : Session σ} {p : Passage c location s}
  {name : String} {n : Node}

/-- A function of the graph, from its manifest to what is known of it in the end. -/
theorem node_ending (found : p.ending.1.get? name = some n) :
    ∃ a ∈ p.attempts, ∃ m, a.1 = name ∧ a.manifest? = some m ∧
      n = extended (p.extra { name, bindings := m.bindings })
        (noted name p.edges (placedAt (p.sources.get? name) { name, bindings := m.bindings })) := by
  have kept : p.placed.kept p.edges = p.edges := Graph.kept_findEdges p.keyed_placed
  rw [p.get?_ending, kept] at found
  obtain ⟨n₀, before, rfl⟩ := Option.map_eq_some_iff.mp found
  obtain ⟨a, here, m, own, is, rfl⟩ := p.collected.origin name n₀ before
  exact ⟨a, here, m, own, is, rfl⟩

/-- The place is that of the source code that was found. -/
theorem place_ending (found : p.ending.1.get? name = some n) :
    n.file = (p.sources.get? name).map (·.file) ∧
      n.position = (p.sources.get? name).map (·.position) ∧
      n.line = (p.sources.get? name).map (·.line) := by
  obtain ⟨_, _, _, _, _, rfl⟩ := node_ending found
  cases p.sources.get? name <;> exact ⟨rfl, rfl, rfl⟩

theorem isSome_file_ending (found : p.ending.1.get? name = some n) :
    n.file.isSome = p.sources.contains name := by
  rw [(place_ending found).1, Option.isSome_map]
  rfl

theorem notes_ending (found : p.ending.1.get? name = some n) :
    n.callers = Edge.callersOf name p.edges ∧ n.signals = Edge.signalsOf name p.edges ∧
      n.continuesAsNew = Edge.continues name p.edges := by
  obtain ⟨_, _, _, _, _, rfl⟩ := node_ending found
  cases p.sources.get? name <;> simp [extended, noted, placedAt]

theorem related_edges {e : Edge} (here : e ∈ p.edges) : Graph.Related p.placed p.sources e :=
  (Graph.mem_findEdges p.keyed_placed).mp here

theorem contains_ending (p : Passage c location s) (name : String) :
    p.ending.1.contains name = p.catalog.graph.contains name :=
  Graph.contains_of_get?_map (p.get?_ending name)

/-- A function with source code is in the graph, with its place. -/
theorem located_ending {kind : Node.Kind} {code : List Char}
    (located : Graph.IsLocated p.placed p.sources kind name code) :
    ∃ n, p.ending.1.get? name = some n ∧ n.file.isSome = true := by
  have same : p.ending.1.contains name = p.placed.contains name := by
    rw [p.contains_ending, placed, Graph.contains_of_get?_map (Graph.get?_place _ _ name)]
  obtain ⟨n, found⟩ := Graph.contains_iff.mp (same.trans located.hasKind.contains)
  exact ⟨n, found, (isSome_file_ending found).trans located.source⟩

/-! ### Reports of missing source code -/

theorem mem_missing (p : Passage c location s) {name : String} :
    name ∈ p.missing ↔ p.ending.1.contains name = true ∧ p.sources.contains name = false := by
  rw [missing, List.mem_filter, p.contains_ending]
  exact and_congr Dictionary.contains_iff.symm (by simp)

/-- What is told on the way through all stages tells of each function without source code once, and
of no others. -/
theorem reports_ending (p : Passage c location s) : ∃ told, p.ending.2.events = s.events ++ told ∧
    ∀ name, told.count (.sourceNotFound name) = if name ∈ p.missing then 1 else 0 := by
  obtain ⟨early, each, events⟩ := p.events_ending
  refine ⟨early ++ .catalogComplete p.catalog.graph.size :: p.missing.map .sourceNotFound ++
    [.matchingComplete p.matched.2], by simp [events], fun name => ?_⟩
  have none : early.count (.sourceNotFound name) = 0 := by
    refine List.count_eq_zero.mpr fun here => ?_
    cases each _ here
  have distinct : p.missing.Nodup := (Graph.nodup_names _).filter _
  have injective : Function.Injective Event.sourceNotFound := fun _ _ => Event.sourceNotFound.inj
  have catalog (n : Nat) : Event.catalogComplete n ≠ .sourceNotFound name := Event.noConfusion
  have matched (n : Nat) : Event.matchingComplete n ≠ .sourceNotFound name := Event.noConfusion
  rw [List.count_append, List.count_append, none, List.count_cons_of_ne (catalog _),
    List.count_map_of_injective _ _ injective, distinct.count, List.count_cons_of_ne (matched _),
    List.count_nil, Nat.zero_add, Nat.add_zero]

end Passage

/-! ### Functions of the graph -/

/-- A function of the graph goes back to a manifest in its folder. Its place is that of its source
code, or else it was told once that there is none. What it is called and signalled by has source
code, and so has a function of which an edge was found. -/
structure Originates {c : Context σ} {location : String} {s : Session σ} (p : Passage c location s)
    (told : List Event) (key : String) (n : Node) : Prop where
  name : n.name = key
  folder : (key, EntryKind.folder) ∈ p.entries
  manifest : ∃ content m, (key, .ok content) ∈ p.attempts ∧
    Manifest.ofText content.toList = .ok m ∧
      n.bindings = m.bindings ++ p.extra { name := key, bindings := m.bindings }
  file : n.file = (p.sources.get? key).map (·.file)
  position : n.position = (p.sources.get? key).map (·.position)
  line : n.line = (p.sources.get? key).map (·.line)
  reported : told.count (.sourceNotFound key) = if n.file.isSome then 0 else 1
  target : n.callers ≠ [] ∨ n.signals ≠ [] ∨ n.continuesAsNew = true → n.file.isSome = true
  callers : ∀ caller ∈ n.callers, ∃ m, p.ending.1.get? caller = some m ∧ m.file.isSome = true
  senders : ∀ s ∈ n.signals, ∃ m, p.ending.1.get? s.sender = some m ∧ m.file.isSome = true

namespace Passage

variable {c : Context σ} {location : String} {s : Session σ} {p : Passage c location s}
  {key : String} {n : Node}

/-- A function to which an edge leads has source code, and so has the function it comes from. -/
theorem ends_located {e : Edge} (here : e ∈ p.edges) {name : String} (isEnd : name ∈ e.ends) :
    ∃ n, p.ending.1.get? name = some n ∧ n.file.isSome = true := by
  have related := related_edges here
  cases e with
  | call caller callee =>
    obtain ⟨_, _, _, _, from_, to_, -⟩ := related.call_ends
    simp only [Edge.ends, List.mem_cons, List.not_mem_nil, or_false] at isEnd
    obtain rfl | rfl := isEnd
    · exact located_ending from_
    · exact located_ending to_
  | signal sender target event =>
    obtain ⟨_, _, from_, to_⟩ := related.signal_ends
    simp only [Edge.ends, List.mem_cons, List.not_mem_nil, or_false] at isEnd
    obtain rfl | rfl := isEnd
    · exact located_ending from_
    · exact located_ending to_
  | continuation function =>
    obtain ⟨_, located⟩ := related.continuation_end
    obtain rfl := List.mem_singleton.mp isEnd
    exact located_ending located

/-- An edge was found that leads to a function of which something is noted. -/
theorem exists_edge (found : p.ending.1.get? key = some n)
    (noted : n.callers ≠ [] ∨ n.signals ≠ [] ∨ n.continuesAsNew = true) :
    ∃ e ∈ p.edges, key ∈ e.ends := by
  obtain ⟨callers, signals, continuing⟩ := notes_ending found
  obtain called | signalled | continues := noted
  · obtain ⟨caller, here⟩ := List.exists_mem_of_ne_nil _ called
    exact ⟨_, Edge.mem_callersOf.mp (callers ▸ here), by simp [Edge.ends]⟩
  · obtain ⟨signal, here⟩ := List.exists_mem_of_ne_nil _ signalled
    exact ⟨_, Edge.mem_signalsOf.mp (signals ▸ here), by simp [Edge.ends]⟩
  · exact ⟨_, Edge.continues_iff.mp (continuing ▸ continues), by simp [Edge.ends]⟩

theorem originates (found : p.ending.1.get? key = some n) {told : List Event}
    (reports : told.count (.sourceNotFound key) = if key ∈ p.missing then 1 else 0) :
    Originates p told key n := by
  obtain ⟨callers, signals, -⟩ := notes_ending found
  obtain ⟨file, position, line⟩ := place_ending found
  obtain ⟨⟨folder, read⟩, attempted, m, rfl, is, same⟩ := node_ending found
  constructor
  case name =>
    rw [same]
    exact (Graph.placedAt_keeps _ _).1
  case folder =>
    have named : folder ∈ p.attempts.map (·.1) := List.mem_map.mpr ⟨_, attempted, rfl⟩
    rw [attempts, Catalog.map_fst_readManifests] at named
    exact Catalog.mem_folderNames.mp named
  case manifest =>
    obtain ⟨content, rfl, parsed⟩ := Catalog.Attempt.of_manifest is
    refine ⟨content, m, attempted, parsed, ?_⟩
    rw [same]
    cases p.sources.get? folder <;> rfl
  case file => exact file
  case position => exact position
  case line => exact line
  case reported =>
    have isMissing : folder ∈ p.missing ↔ n.file.isSome = false := by
      rw [mem_missing, isSome_file_ending found]
      exact and_iff_right (Graph.contains_iff.mpr ⟨n, found⟩)
    rw [reports]
    cases known : n.file.isSome <;> simp [isMissing, known]
  case target =>
    intro noted
    obtain ⟨e, here, isEnd⟩ := exists_edge found noted
    obtain ⟨n', found', known⟩ := ends_located here isEnd
    obtain rfl := Option.some.inj (found.symm.trans found')
    exact known
  case callers =>
    intro caller here
    exact ends_located (Edge.mem_callersOf.mp (callers ▸ here)) (by simp [Edge.ends])
  case senders =>
    intro signal here
    exact ends_located (Edge.mem_signalsOf.mp (signals ▸ here)) (by simp [Edge.ends])

end Passage

/-- All functions of the graph have their origin on the way of a traversal, and no other function is
told to have no source code. -/
def Accounted (c : Context σ) (location : String) (s : Session σ) (r : Report) (s' : Session σ) :
    Prop :=
  ∃ (p : Passage c location (c.reported (.started location) s)) (told : List Event),
    r.graph = p.ending.1 ∧ s'.events = s.events ++ told ∧
      (∀ key n, r.graph.get? key = some n → Originates p told key n) ∧
      ∀ key, .sourceNotFound key ∈ told → r.graph.contains key = true

theorem traverse_provenance {c : Context σ} {location : String} {s s' : Session σ} {r : Report}
    (gives : (c.traverse location).run s = (.ok r, s')) : Accounted c location s r s' := by
  rw [traverse_run] at gives
  cases ends : (c.stages location).run.run (c.reported (.started location) s) with
  | mk result t =>
    rw [ends] at gives
    cases result with
    | error f => cases gives
    | ok g =>
      cases gives
      obtain ⟨p, ending⟩ := Passage.yields_stages.mp ends
      obtain ⟨told, events, reports⟩ := p.reports_ending
      rw [ending] at events
      let all := Event.started location :: told ++ [Event.completed g.size]
      have counts (key : String) :
          all.count (.sourceNotFound key) = if key ∈ p.missing then 1 else 0 := by
        have start : Event.started location ≠ .sourceNotFound key := Event.noConfusion
        have finish : Event.completed g.size ≠ .sourceNotFound key := Event.noConfusion
        show (Event.started location :: (told ++ [Event.completed g.size])).count _ = _
        rw [List.count_cons_of_ne start, List.count_append,
          List.count_cons_of_ne finish, List.count_nil, Nat.add_zero, reports]
      have graph : g = p.ending.1 := by rw [ending]
      refine ⟨p, all, graph, ?_, ?_, ?_⟩
      · rw [c.events_reported, events, c.events_reported]
        simp [all]
      · intro key n found
        exact Passage.originates (graph ▸ found) (counts key)
      · intro key here
        have isMissing : key ∈ p.missing := by
          have := List.count_pos_iff.mpr here
          rw [counts] at this
          exact Decidable.byContradiction fun none => by simp [none] at this
        have known := (p.mem_missing.mp isMissing).1
        rwa [← graph] at known

/-! A compiled project of two functions, one of which has no source code. -/

def smallHost : Host Unit where
  isText _ := true
  hasEntry path _ := path = "/p"
  hasFolder _ _ := true
  readText path _ :=
    match path with
    | "/p/Hello.cs" =>
      .ok "[FunctionName(\"Hello\")] void Run()\n\x7b\n[Queue(\"q\")] var q;\n\x7d"
    | "/tmp/funcgraph-publish-0/Hello/function.json" =>
      .ok "\x7b\"bindings\":[\x7b\"type\":\"httpTrigger\"\x7d]\x7d"
    | "/tmp/funcgraph-publish-0/Lost/function.json" => .ok "\x7b\x7d"
    | _ => .error .missing
  list path _ :=
    match path with
    | "/p" => .ok [("App.csproj", .file), ("Hello.cs", .file), ("host.json", .file)]
    | "/tmp/funcgraph-publish-0" => .ok [("Lost", .folder), ("bin", .folder), ("Hello", .folder)]
    | _ => .error .missing
  tree _ _ := .ok (.folder [("App.csproj", .file), ("Hello.cs", .file), ("host.json", .file)])
  writeText _ _ s := (.ok (), s)
  createFolder _ s := (.ok (), s)
  removeFolder _ s := (.ok (), s)
  freshName s := ("0", s)
  run _ s := (.ok { success := true, code := some 0, stdout := "", stderr := "" }, s)
  hear _ s := s
  isInterrupted s := (false, s)
  print _ _ s := (.ok (), s)

namespace Small

def context : Context Unit := { host := smallHost }

def start : Session Unit := context.reported (.started "/p") { state := () }

def folder : String := "/tmp/funcgraph-publish-0"

def entries : List (String × EntryKind) := [("Lost", .folder), ("bin", .folder), ("Hello", .folder)]

theorem folderNames_entries : Catalog.folderNames entries = ["Hello", "Lost", "bin"] := by
  have perm : (Catalog.folderNames entries).Perm ["Hello", "Lost", "bin"] :=
    (List.mergeSort_perm _ _).trans (by decide +kernel)
  exact perm.eq_of_pairwise' (r := (· ≤ ·)) List.sortedLE_mergeSort.pairwise (by decide +kernel)

def rooted : Session Unit := ((context.projectRoot (.ofText "/p")).run.run start).2

def staged : Session Unit :=
  ((context.publish "/p").run.run (context.reported (.runtimeDetected "dotnet") rooted)).2

def catalog : Catalog × Session Unit :=
  (Catalog.readFolders context folder {} ["Hello", "Lost", "bin"]).run staged

def cataloged : Session Unit :=
  context.reported (.catalogComplete catalog.1.graph.size) catalog.2

def located : Except Failure (Dictionary Source) × Session Unit :=
  (catalog.1.locate context .dotnet "/p" folder).run.run cataloged

theorem located_ok : located.1.toOption.isSome = true := by decide +kernel

def passage : Passage context "/p" start where
  root := "/p"
  rooted := rooted
  findsRoot := yields_of_result (by decide +kernel)
  clearAtRoot := rfl
  runtime := .dotnet
  detected := rooted
  detects := yields_of_result (x := Runtime.detect context "/p") (by decide +kernel)
  working := folder
  staged := staged
  stages := yields_of_result (x := context.publish "/p") (by decide +kernel)
  clearAtStage := rfl
  catalog := catalog.1
  cataloged := cataloged
  builds := yields_build.mpr
    ⟨entries, by decide +kernel, rfl, _, by rw [folderNames_entries]; rfl, rfl⟩
  clearAtCatalog := rfl
  sources := located.1.toOption.get located_ok
  located := located.2
  locates := yields_get (x := catalog.1.locate context .dotnet "/p" folder) located_ok
  clearAtSources := rfl

end Small

theorem traverse_provenance_small : ∃ (r : Report) (s' : Session Unit),
    (Small.context.traverse "/p").run { state := () } = (.ok r, s') ∧
      r.graph.names = ["Hello", "Lost"] ∧ Accounted Small.context "/p" { state := () } r s' := by
  have gives := Small.passage.traverse_run
  have names : Small.passage.ending.1.names = ["Hello", "Lost"] := by decide +kernel
  exact ⟨_, _, gives, names, traverse_provenance gives⟩

end OrchestrationGraph
