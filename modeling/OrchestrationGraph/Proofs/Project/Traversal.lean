import OrchestrationGraph.Proofs.Graph.Application
import OrchestrationGraph.Proofs.Graph.Declaration
import OrchestrationGraph.Proofs.Project.Course
import OrchestrationGraph.Proofs.Project.Manifests

/-!
# What a traversal tells

Whatever the host does, a traversal tells first that it starts and last how it ended, and neither in
between (`traverse_tells`). It gives a graph exactly if it passed through all stages, and then the
functions that it counts, twice, are those of the graph.
-/

namespace OrchestrationGraph

variable {σ : Type}

namespace Graph

variable {g g' : Graph}

/-- Graphs that have the same functions list the same names. -/
theorem names_eq_of_contains (same : ∀ name, g'.contains name = g.contains name) :
    g'.names = g.names := by
  have perm : g'.names.Perm g.names := by
    rw [List.perm_ext_iff_of_nodup (nodup_names _) (nodup_names _)]
    intro name
    have := same name
    rw [Bool.eq_iff_iff] at this
    exact Dictionary.contains_iff.symm.trans (this.trans Dictionary.contains_iff)
  refine perm.eq_of_pairwise ?_ (Dictionary.keys_sorted _) (Dictionary.keys_sorted _)
  intro a b _ _ less less'
  exact absurd less' (String.lt_asymm less)

theorem size_eq_length_names (g : Graph) : g.size = g.names.length := (List.length_map ..).symm

/-- The node with the place of its source code, if that was found. -/
def placedAt (source? : Option Source) (n : Node) : Node :=
  source?.elim n fun s =>
    { n with file := some s.file, position := some s.position, line := some s.line }

theorem get?_place (g : Graph) (sources : Dictionary Source) (name : String) :
    (g.place sources).get? name = (g.get? name).map (placedAt (sources.get? name)) := by
  have walk (l : List (String × Source)) (sorted : l.Pairwise fun a b => a.1 < b.1) (g : Graph) :
      (l.foldl (fun g e => g.modify e.1 fun n => placedAt (some e.2) n) g).get? name =
        (g.get? name).map (placedAt (Dictionary.lookup name l)) := by
    induction l generalizing g with
    | nil => exact Option.map_id'.symm
    | cons e l ih =>
      obtain ⟨later, sorted⟩ := List.pairwise_cons.mp sorted
      rw [List.foldl_cons, ih sorted, get?_modify, Option.map_map, Dictionary.lookup]
      by_cases own : e.1 = name
      · have none : Dictionary.lookup name l = none := by
          refine Option.eq_none_iff_forall_not_mem.mpr fun s found => ?_
          have less := later _ (Dictionary.mem_entries_of_lookup found)
          exact String.lt_irrefl _ (own ▸ less)
        rw [none, if_pos own]
        simp only [own.symm, if_true]
        rfl
      · have other : ∀ n : Node, (if name = e.1 then placedAt (some e.2) n else n) = n :=
          fun n => if_neg (Ne.symm own)
        rw [if_neg own]
        congr 1
        funext n
        exact congrArg _ (other n)
  exact walk sources.entries sources.sorted g

theorem placedAt_keeps (source? : Option Source) (n : Node) :
    (placedAt source? n).name = n.name ∧ (placedAt source? n).kind = n.kind := by
  cases source? <;> exact ⟨rfl, rfl⟩

theorem Keyed.place (keyed : g.Keyed) (sources : Dictionary Source) : (g.place sources).Keyed := by
  intro name n found
  rw [get?_place] at found
  obtain ⟨n₀, before, rfl⟩ := Option.map_eq_some_iff.mp found
  exact (placedAt_keeps _ n₀).1.trans (keyed name n₀ before)

end Graph

theorem Context.declare_run (g : Graph) (sources : Dictionary Source) (s : Session σ) :
    ((Context.declare g sources).run s).1 = (g.declareBindings sources).1 := by
  unfold Context.declare
  generalize g.declareBindings sources = m
  obtain ⟨declared, n⟩ := m
  rfl

namespace Passage

open OrchestrationGraph.Graph (extended noted placedAt placedAt_keeps)

variable {c : Context σ} {location : String} {s : Session σ} (p : Passage c location s)

/-- The functions that have no source code. -/
def missing : List String := p.catalog.graph.names.filter fun name => !p.sources.contains name

theorem session_ending : Told (fun _ => False) p.told p.ending.2 := by
  unfold ending
  split
  · exact moves_declare _ _ _
  · exact Lasting.refl _

/-- What is told on the way through all stages. -/
theorem events_ending : ∃ early, (∀ e ∈ early, e.isEarly = true) ∧
    p.ending.2.events = s.events ++ early ++ .catalogComplete p.catalog.graph.size ::
      p.missing.map .sourceNotFound ++ [.matchingComplete p.matched.2] := by
  obtain ⟨entries, -, -, t, read, built⟩ := yields_build.mp p.builds
  have early : ToldEarly s t := by
    have quiet (s : Session σ) : ToldEarly s (s.done c.host.isInterrupted) := told_of_events_eq rfl
    have rooted : ToldEarly s p.rooted := (early_projectRoot c _).yields p.findsRoot
    have detected : ToldEarly _ p.detected := (moves_detect c _).yields p.detects
    have staged : ToldEarly (c.reported (.runtimeDetected p.runtime.name) p.detected) p.staged := by
      have stages := p.stages
      split at stages
      · exact (early_publish c _).yields stages
      · rw [(yields_pure.mp stages).2]
        exact Lasting.refl _
    have cataloged :
        ToldEarly ((p.staged.done c.host.isInterrupted).done c.host.isInterrupted) t := by
      have moves := early_readFolders c p.working {} (Catalog.folderNames entries)
        ((p.staged.done c.host.isInterrupted).done c.host.isInterrupted)
      rwa [read] at moves
    exact rooted.trans ((quiet _).trans (detected.trans ((early_reported c rfl _).trans
      (staged.trans ((quiet _).trans ((quiet _).trans cataloged))))))
  obtain ⟨early, events, each⟩ := early
  refine ⟨early, each, ?_⟩
  have asked (s : Session σ) : (s.done c.host.isInterrupted).events = s.events := rfl
  rw [Told.events_eq p.session_ending, told, c.events_reported, asked, (events_locate p.locates).1,
    asked, built, c.events_reported, events]
  simp [missing]

/-- The entries of the working folder. -/
def entries : List (String × EntryKind) :=
  (c.host.list p.working (p.staged.done c.host.isInterrupted).state).toOption.getD []

/-- The attempts to read the manifests of the folders there. -/
def attempts : List Catalog.Attempt :=
  ((Catalog.readManifests c p.working (Catalog.folderNames p.entries)).run
    ((p.staged.done c.host.isInterrupted).done c.host.isInterrupted)).1

theorem collected : p.catalog.Collected p.attempts := by
  obtain ⟨entries, listed, -, t, read, -⟩ := yields_build.mp p.builds
  have same : p.entries = entries := by
    unfold Passage.entries
    rw [listed]
    rfl
  rw [Catalog.readFolders_run, Prod.mk.injEq] at read
  rw [← read.1, attempts, same]
  exact Catalog.collected_attempts p.working _

theorem keyed_placed : p.placed.Keyed := p.collected.keyed.place p.sources

/-- The bindings that the function gains, given as it is in the catalog. -/
def extra (n : Node) : List Binding :=
  if p.runtime = .dotnet ∧ n.kind = .other then Graph.declaredFor p.sources n.name else []

theorem get?_ending (name : String) :
    p.ending.1.get? name = (p.catalog.graph.get? name).map fun n =>
      extended (p.extra n)
        (noted name (p.placed.kept p.edges) (placedAt (p.sources.get? name) n)) := by
  have keyed : p.matched.1.Keyed := p.keyed_placed.applyAll p.edges
  have matched : p.matched.1.get? name = (p.catalog.graph.get? name).map fun n =>
      noted name (p.placed.kept p.edges) (placedAt (p.sources.get? name) n) := by
    rw [Passage.matched, Graph.get?_applyAll, placed, Graph.get?_place, Option.map_map]
    rfl
  unfold ending
  cases found : p.catalog.graph.get? name with
  | none =>
    split
    · rw [Context.declare_run, Graph.get?_declareBindings keyed, matched, found]
      rfl
    · rw [matched, found]
      rfl
  | some n =>
    have own := p.collected.keyed name n found
    have kind := (placedAt_keeps (p.sources.get? name) n).2
    split
    · rename_i dotnet
      rw [Context.declare_run, Graph.get?_declareBindings keyed, matched, found, Option.map_some,
        Option.map_some, Option.map_some]
      have same : (noted name (p.placed.kept p.edges)
          (placedAt (p.sources.get? name) n)).kind = n.kind := kind
      rw [same, extra, own]
      congr 1
      by_cases other : n.kind = .other
      · rw [if_pos other, if_pos ⟨dotnet, other⟩]
      · rw [if_neg other, if_neg fun both => other both.2, Graph.extended_nil, id]
    · rename_i other
      have none : p.extra n = [] := if_neg fun both => other both.1
      rw [matched, found, Option.map_some, Option.map_some, none, Graph.extended_nil, id]

theorem size_ending : p.ending.1.size = p.catalog.graph.size := by
  have same (name : String) : p.ending.1.contains name = p.catalog.graph.contains name :=
    Graph.contains_of_get?_map (p.get?_ending name)
  rw [Graph.size_eq_length_names, Graph.size_eq_length_names, Graph.names_eq_of_contains same]

end Passage

/-! ### From start to end -/

/-- What is told last. -/
def closing : Except Failure Report → Event
  | .ok r => .completed r.graph.size
  | .error f => .failed f.message

def Event.isCount : Event → Bool
  | catalogComplete _ => true
  | _ => false

theorem Event.isCount_of_isEarly {e : Event} (early : e.isEarly = true) : e.isCount = false := by
  cases e <;> first | rfl | cases early

/-- A traversal tells first that it starts and last how it ended. It gives a graph exactly if it
passed through all stages, and then the functions counted on the way are as many as the graph has;
the temporary folders are those on record. -/
structure Tells (c : Context σ) (location : String) (s : Session σ) (result : Except Failure Report)
    (s' : Session σ) : Prop where
  events : ∃ between, s'.events = s.events ++ .started location :: between ++ [closing result] ∧
    (∀ e ∈ between, e.isInner = true) ∧
    ∀ r, result = .ok r → between.filter Event.isCount = [.catalogComplete r.graph.size]
  passed : ∀ r, result = .ok r ↔ ∃ p : Passage c location (c.reported (.started location) s),
    r = { graph := p.ending.1, temporary := p.ending.2.temporary }
  temporary : ∀ r, result = .ok r → r.temporary = s'.temporary

theorem traverse_run (c : Context σ) (location : String) (s : Session σ) :
    (c.traverse location).run s =
      match (c.stages location).run.run (c.reported (.started location) s) with
      | (.ok graph, t) =>
        (.ok { graph, temporary := t.temporary }, c.reported (.completed graph.size) t)
      | (.error f, t) => (.error f, c.reported (.failed f.message) t) := by
  unfold Context.traverse
  generalize c.stages location = x
  rw [Step.run_bind, run_report, Step.run_bind]
  rcases x.run.run (c.reported (.started location) s) with ⟨f | graph, t⟩ <;> rfl

theorem Passage.traverse_run {c : Context σ} {location : String} {s : Session σ}
    (p : Passage c location (c.reported (.started location) s)) :
    (c.traverse location).run s =
      (.ok { graph := p.ending.1, temporary := p.ending.2.temporary },
        c.reported (.completed p.ending.1.size) p.ending.2) := by
  have passed : Yields (c.stages location) _ p.ending.1 p.ending.2 :=
    Passage.yields_stages.mpr ⟨p, rfl⟩
  rw [OrchestrationGraph.traverse_run, passed]

/-- Of what is told on the way through all stages, one event counts the functions of the graph. -/
theorem Passage.counts_ending {c : Context σ} {location : String} {s : Session σ}
    (p : Passage c location s) : ∃ between, p.ending.2.events = s.events ++ between ∧
      (∀ e ∈ between, e.isInner = true) ∧
      between.filter Event.isCount = [.catalogComplete p.ending.1.size] := by
  obtain ⟨early, each, events⟩ := p.events_ending
  have none : early.filter Event.isCount = [] :=
    List.filter_eq_nil_iff.mpr fun e here =>
      Bool.eq_false_iff.mp (Event.isCount_of_isEarly (each e here))
  have missing : (p.missing.map Event.sourceNotFound).filter Event.isCount = [] := by
    rw [List.filter_eq_nil_iff]
    simp [Event.isCount]
  refine ⟨early ++ .catalogComplete p.catalog.graph.size :: p.missing.map .sourceNotFound ++
    [.matchingComplete p.matched.2], ?_, ?_, ?_⟩
  · simp [events]
  · intro e here
    simp only [List.append_assoc, List.cons_append, List.mem_append, List.mem_cons, List.mem_map,
      List.not_mem_nil, or_false] at here
    obtain here | rfl | ⟨name, -, rfl⟩ | rfl := here
    · exact e.isInner_of_isEarly (each e here)
    · rfl
    · rfl
    · rfl
  · have counted (n : Nat) : (Event.catalogComplete n).isCount = true := rfl
    have matched (n : Nat) : (Event.matchingComplete n).isCount = false := rfl
    simp [none, missing, counted, matched, p.size_ending]

theorem traverse_tells (c : Context σ) (location : String) (s : Session σ) :
    Tells c location s ((c.traverse location).run s).1 ((c.traverse location).run s).2 := by
  rw [traverse_run]
  have inner := inner_stages c location (c.reported (.started location) s)
  have passed (p : Passage c location (c.reported (.started location) s)) :
      (c.stages location).run.run (c.reported (.started location) s) = (.ok p.ending.1, p.ending.2) :=
    Passage.yields_stages.mpr ⟨p, rfl⟩
  cases ends : (c.stages location).run.run (c.reported (.started location) s) with
  | mk result t =>
    rw [ends] at inner
    cases result with
    | error f =>
      show Tells c location s (.error f) (c.reported (.failed f.message) t)
      obtain ⟨between, events, each⟩ := inner
      have all : (c.reported (.failed f.message) t).events =
          s.events ++ .started location :: between ++ [.failed f.message] := by
        rw [c.events_reported, events, c.events_reported]
        simp
      refine ⟨⟨between, all, each, nofun⟩, fun r => ⟨nofun, ?_⟩, nofun⟩
      rintro ⟨p, -⟩
      cases ends.symm.trans (passed p)
    | ok g =>
      show Tells c location s (.ok { graph := g, temporary := t.temporary })
        (c.reported (.completed g.size) t)
      obtain ⟨p, ending⟩ := Passage.yields_stages.mp ends
      obtain ⟨between, events, each, counts⟩ := p.counts_ending
      rw [ending] at events counts
      have all : (c.reported (.completed g.size) t).events =
          s.events ++ .started location :: between ++ [.completed g.size] := by
        rw [c.events_reported, events, c.events_reported]
        simp
      constructor
      case events =>
        refine ⟨between, all, each, fun r ok => ?_⟩
        cases ok
        exact counts
      case passed =>
        intro r
        constructor
        · intro ok
          cases ok
          exact ⟨p, by rw [ending]⟩
        · rintro ⟨p', rfl⟩
          obtain ⟨graphs, sessions⟩ := Prod.mk.inj (ends.symm.trans (passed p'))
          rw [Except.ok.inj graphs, sessions]
      case temporary =>
        intro r ok
        cases ok
        rfl

end OrchestrationGraph
