import OrchestrationGraph.Project.Traversal
import OrchestrationGraph.Proofs.Graph.Keyed
import OrchestrationGraph.Proofs.Project.Step

/-!
# The course of a traversal

A traversal gives a graph exactly if each stage gives its result and nobody asks to stop in between
(`yields_stages`). Up to the catalog only early events are told, and what is told from then on is
known in full (`events_locate`).
-/

namespace OrchestrationGraph

variable {σ : Type} {R : Session σ → Session σ → Prop}

/-- What is told before the functions are counted. -/
def Event.isEarly : Event → Bool
  | cloneStarted .. | manifestFound _ | runtimeDetected _ | publishStarted .. | manifestFailed .. =>
    true
  | _ => false

/-- What is told between the start and the end. -/
def Event.isInner : Event → Bool
  | started _ | completed _ | failed _ => false
  | _ => true

theorem Event.isInner_of_isEarly (e : Event) (early : e.isEarly = true) : e.isInner = true := by
  cases e <;> first | rfl | cases early

abbrev ToldEarly : Session σ → Session σ → Prop := Told fun e => e.isEarly = true

abbrev ToldInner : Session σ → Session σ → Prop := Told fun e => e.isInner = true

/-- Nobody asks the traversal to stop. -/
def Context.GoesOn (c : Context σ) (s : Session σ) : Prop := (c.host.isInterrupted s.state).1 = false

/-! ### What the stages tell -/

section

variable (c : Context σ)

theorem moves_visits [Lasting R] (root : String) : Moves R (c.visits root) := by
  unfold Context.visits
  split
  · exact .pure _
  · refine .bind (.ask _) fun tree => ?_
    split <;> exact .pure _

theorem moves_search [Lasting R] (root : String) (best : Option Visit) (visits : List Visit) :
    Moves R (HostManifest.search c root best visits).run := by
  induction visits generalizing best with
  | nil => exact .pureAction _
  | cons v visits ih => exact .bindAction (moves_checkpoint c) fun _ => ih _

theorem moves_find [Lasting R] (root : String) : Moves R (HostManifest.find c root).run :=
  .bindAction (.lift (moves_visits c root)) fun visits =>
    .bindAction (moves_search c root none visits) fun _ => .pureAction _

theorem early_reported {e : Event} (early : e.isEarly = true) (s : Session σ) :
    ToldEarly s (c.reported e s) :=
  told_reported c early s

theorem early_createTemporary (title : String) : Moves ToldEarly (c.createTemporary title).run :=
  moves_createTemporary c title fun _ _ => told_of_events_eq rfl

theorem early_clone (url : String) : Moves ToldEarly (c.clone url).run := fun s =>
  Lasting.trans s _ _ (early_createTemporary c _ s)
    (clone_after c url (fun _ => early_reported c rfl) s)

theorem early_publish (project : String) : Moves ToldEarly (c.publish project).run := fun s =>
  Lasting.trans s _ _ (early_createTemporary c _ s)
    (publish_after c project (fun _ => early_reported c rfl) s)

theorem early_searchRoot (location : Location) : Moves ToldEarly (c.searchRoot location).run := by
  cases location with
  | folder path =>
    refine .bindAction (.askAction _) fun there => ?_
    split
    · exact .bindAction (.throw _) fun _ => .pureAction _
    · exact .pureAction _
  | repository url folders =>
    refine .bindAction (early_clone c url) fun target => .bindAction (.askAction _) fun there => ?_
    split
    · exact .bindAction (.throw _) fun _ => .pureAction _
    · exact .pureAction _

theorem early_projectRoot (location : Location) : Moves ToldEarly (c.projectRoot location).run := by
  refine .bindAction (early_searchRoot c location) fun root => .bindAction (moves_checkpoint c) fun _ =>
    .bindAction (moves_find c root) fun found => ?_
  split
  · exact .throw _
  · exact .bindAction (.reportAction (early_reported c rfl)) fun _ => .pureAction _

theorem moves_detect [Lasting R] (root : String) : Moves R (Runtime.detect c root).run := by
  refine .bindAction (.askAction _) fun entries => ?_
  split
  · exact .throw _
  · exact .pureAction _

theorem early_readFolders (working : String) (catalog : Catalog) (names : List String) :
    Moves ToldEarly (Catalog.readFolders c working catalog names) := by
  induction names generalizing catalog with
  | nil => exact .pure _
  | cons name names ih =>
    refine .bind (.ask _) fun read => ?_
    split
    · exact ih catalog
    · exact .bind (.report (early_reported c rfl)) fun _ => ih catalog
    · exact .bind (.note _) fun _ => ih _

theorem inner_of_early {x : Step σ α} (moves : Moves ToldEarly x) : Moves ToldInner x := fun s =>
  (moves s).mono Event.isInner_of_isEarly

theorem inner_build (working : String) : Moves ToldInner (Catalog.build c working).run := by
  refine .bindAction (.askAction _) fun entries => ?_
  split
  · exact .throw _
  · exact .bindAction (moves_checkpoint c) fun _ =>
      .bindAction (.lift (inner_of_early (early_readFolders c working _ _))) fun _ =>
        .bindAction (.reportAction (told_reported c rfl)) fun _ => .pureAction _

theorem moves_readAll [Lasting R] (root : String) (visits : List Visit) :
    Moves R (SourceFile.readAll c root visits).run := by
  induction visits with
  | nil => exact .pureAction _
  | cons v visits ih =>
    refine .bindAction (moves_checkpoint c) fun _ => ?_
    split
    · refine .bindAction (.askAction _) fun read => ?_
      split
      · exact .bindAction ih fun _ => .pureAction _
      · exact .bindAction (.noteAction _) fun _ => ih
    · exact ih

theorem moves_index [Lasting R] (root : String) : Moves R (SourceFile.index c root).run :=
  .bindAction (.lift (moves_visits c root)) fun visits =>
    .bindAction (moves_readAll c root visits) fun _ =>
      .bindAction (.noteAction _) fun _ => .pureAction _

theorem moves_firstReadable? [Lasting R] (paths : List String) :
    Moves R (Script.firstReadable? c paths) := by
  induction paths with
  | nil => exact .pure _
  | cons path paths ih =>
    refine .bind (.ask _) fun read => ?_
    split
    · exact .pure _
    · exact .bind (.note _) fun _ => ih

theorem moves_inFolder? [Lasting R] (folder : String) : Moves R (Script.inFolder? c folder) := by
  refine .bind (.ask _) fun entries => ?_
  split
  · exact .pure _
  · exact .bind (.note _) fun _ => .pure _

theorem moves_source? [Lasting R] (files : Option (List SourceFile)) (working : String)
    (catalog : Catalog) (name : String) : Moves R (Catalog.source? c files working catalog name) := by
  cases files with
  | some files => exact .pure _
  | none =>
    exact .bind (moves_inFolder? c _) fun _ => .bind (moves_firstReadable? c _) fun _ => .pure _

theorem moves_locateEach [Lasting R] (files : Option (List SourceFile)) (working : String)
    (catalog : Catalog) (names : List String) :
    Moves R (Catalog.locateEach c files working catalog names).run := by
  induction names with
  | nil => exact .pureAction _
  | cons name names ih =>
    refine .bindAction (moves_checkpoint c) fun _ =>
      .bindAction (.lift (moves_source? c files working catalog name)) fun found =>
        .bindAction ih fun rest => ?_
    split
    split <;> exact .pureAction _

theorem inner_locate (runtime : Runtime) (root working : String) (catalog : Catalog) :
    Moves ToldInner (catalog.locate c runtime root working).run := by
  have each (names : List String) : Moves ToldInner
      (names.forM fun name => c.report (.sourceNotFound name) : Action σ Unit).run := by
    induction names with
    | nil => exact .pureAction _
    | cons name names ih => exact .bindAction (.reportAction (told_reported c rfl)) fun _ => ih
  unfold Catalog.locate
  dsimp only
  split
  · exact .bindAction (moves_index c root) fun files => .bindAction (.pureAction _) fun files =>
      .bindAction (moves_locateEach c _ _ _ _) fun found =>
        .bindAction (each _) fun _ => .pureAction _
  · exact .bindAction (.pureAction _) fun files =>
      .bindAction (moves_locateEach c _ _ _ _) fun found =>
        .bindAction (each _) fun _ => .pureAction _

variable {c}

theorem yields_checkpoint {s s' : Session σ} {u : Unit} :
    Yields c.checkpoint s u s' ↔ c.GoesOn s ∧ s.done c.host.isInterrupted = s' := by
  unfold Context.checkpoint Context.GoesOn
  simp only [yields_bind, yields_perform]
  constructor
  · rintro ⟨asked, t, ⟨rfl, rfl⟩, yields⟩
    split at yields
    · exact absurd yields yields_throw
    · rename_i clear
      exact ⟨Bool.eq_false_iff.mpr clear, (yields_pure.mp yields).2⟩
  · rintro ⟨clear, rfl⟩
    refine ⟨_, _, ⟨rfl, rfl⟩, ?_⟩
    rw [clear]
    exact yields_pure.mpr ⟨rfl, rfl⟩

/-- The catalog is what was read from the folders, and its size is told when it is complete. -/
theorem yields_build {working : String} {catalog : Catalog} {s s' : Session σ} :
    Yields (Catalog.build c working) s catalog s' ↔
      ∃ entries, c.host.list working s.state = .ok entries ∧ c.GoesOn s ∧
        ∃ t, (Catalog.readFolders c working {} (Catalog.folderNames entries)).run
            (s.done c.host.isInterrupted) = (catalog, t) ∧
          s' = c.reported (.catalogComplete catalog.graph.size) t := by
  unfold Catalog.build
  constructor
  · intro built
    obtain ⟨listed, t, asked, built⟩ := yields_bind.mp built
    obtain ⟨rfl, rfl⟩ := yields_ask.mp asked
    split at built
    · exact absurd built yields_throw
    · rename_i entries is
      obtain ⟨_, t, checked, built⟩ := yields_bind.mp built
      obtain ⟨read, t', reads, built⟩ := yields_bind.mp built
      obtain ⟨_, t'', reported, built⟩ := yields_bind.mp built
      obtain ⟨rfl, rfl⟩ := yields_pure.mp built
      obtain rfl := yields_report.mp reported
      obtain ⟨clear, rfl⟩ := yields_checkpoint.mp checked
      obtain ⟨rfl, rfl⟩ := yields_lift.mp reads
      exact ⟨entries, is, clear, _, rfl, rfl⟩
  · rintro ⟨entries, is, clear, t, read, rfl⟩
    refine yields_bind.mpr ⟨_, _, yields_ask.mpr ⟨is, rfl⟩, ?_⟩
    refine yields_bind.mpr ⟨(), _, yields_checkpoint.mpr ⟨clear, rfl⟩, ?_⟩
    refine yields_bind.mpr ⟨catalog, t, yields_lift.mpr ⟨by rw [read], by rw [read]⟩, ?_⟩
    exact yields_bind.mpr ⟨(), _, yields_report.mpr rfl, yields_pure.mpr ⟨rfl, rfl⟩⟩

/-- Each function is either located or missing. -/
theorem locateEach_missing {files : Option (List SourceFile)} {working : String} {catalog : Catalog}
    {names : List String} {sources : Dictionary Source} {missing : List String} {s s' : Session σ}
    (distinct : names.Nodup)
    (located : Yields (Catalog.locateEach c files working catalog names) s (sources, missing) s') :
    missing = names.filter (fun name => !sources.contains name) ∧
      ∀ name, sources.contains name = true → name ∈ names := by
  induction names generalizing s s' sources missing with
  | nil =>
    obtain ⟨same, -⟩ := yields_pure.mp located
    cases same
    exact ⟨rfl, fun name known => nomatch known⟩
  | cons name names ih =>
    obtain ⟨fresh, distinct⟩ := List.nodup_cons.mp distinct
    unfold Catalog.locateEach at located
    obtain ⟨_, t, -, located⟩ := yields_bind.mp located
    obtain ⟨found, t, -, located⟩ := yields_bind.mp located
    obtain ⟨⟨sources', missing'⟩, t, rest, located⟩ := yields_bind.mp located
    obtain ⟨missed, known⟩ := ih distinct rest
    cases found with
    | some source =>
      obtain ⟨same, -⟩ := yields_pure.mp located
      cases same
      have contains (other : String) : (sources'.insert name source).contains other =
          (decide (name = other) || sources'.contains other) := by
        unfold Dictionary.contains
        rw [Dictionary.get?_insert]
        by_cases own : name = other <;> simp [own]
      refine ⟨?_, ?_⟩
      · rw [List.filter_cons_of_neg (by simp [contains]), missed]
        refine List.filter_congr fun other here => ?_
        have differ : name ≠ other := fun same => fresh (same ▸ here)
        simp [contains, differ]
      · intro other present
        rw [contains] at present
        obtain own | before := (Bool.or_eq_true ..).mp present
        · exact of_decide_eq_true own ▸ List.mem_cons_self
        · exact List.mem_cons_of_mem _ (known other before)
    | none =>
      obtain ⟨same, -⟩ := yields_pure.mp located
      cases same
      have absent : sources.contains name = false :=
        Bool.eq_false_iff.mpr fun present => fresh (known name present)
      refine ⟨?_, fun other present => List.mem_cons_of_mem _ (known other present)⟩
      rw [List.filter_cons_of_pos (by simp [absent]), ← missed]

theorem events_forM_report {s s' : Session σ} {names : List String} {event : String → Event} {u : Unit}
    (reported : Yields (names.forM fun name => c.report (event name)) s u s') :
    s'.events = s.events ++ names.map event := by
  induction names generalizing s with
  | nil =>
    obtain ⟨-, rfl⟩ := yields_pure.mp reported
    exact (List.append_nil _).symm
  | cons name names ih =>
    obtain ⟨_, t, first, rest⟩ := yields_bind.mp reported
    obtain rfl := yields_report.mp first
    rw [ih rest, c.events_reported, List.append_assoc, List.map_cons, List.singleton_append]

theorem events_locate {runtime : Runtime} {root working : String} {catalog : Catalog}
    {sources : Dictionary Source} {s s' : Session σ}
    (located : Yields (catalog.locate c runtime root working) s sources s') :
    s'.events = s.events ++
        (catalog.graph.names.filter fun name => !sources.contains name).map .sourceNotFound ∧
      ∀ name, sources.contains name = true → name ∈ catalog.graph.names := by
  have rest {files : Option (List SourceFile)} {t : Session σ} (same : t.events = s.events)
      (located : Yields (do
        let found ← catalog.locateEach c files working catalog.graph.names
        found.2.forM fun name => c.report (.sourceNotFound name)
        return found.1) t sources s') : s'.events = s.events ++
        (catalog.graph.names.filter fun name => !sources.contains name).map .sourceNotFound ∧
      ∀ name, sources.contains name = true → name ∈ catalog.graph.names := by
    obtain ⟨⟨found, missing⟩, t', each, located⟩ := yields_bind.mp located
    obtain ⟨_, t'', reported, located⟩ := yields_bind.mp located
    obtain ⟨rfl, rfl⟩ := yields_pure.mp located
    obtain ⟨missed, known⟩ := locateEach_missing (Graph.nodup_names _) each
    have silent := Told.events_eq ((moves_locateEach c files working catalog _).yields each)
    rw [events_forM_report reported, silent, same, missed]
    exact ⟨rfl, known⟩
  unfold Catalog.locate at located
  dsimp only at located
  split at located
  · obtain ⟨files, t, indexed, located⟩ := yields_bind.mp located
    obtain ⟨_, t', wrapped, located⟩ := yields_bind.mp located
    obtain ⟨rfl, rfl⟩ := yields_pure.mp wrapped
    exact rest (Told.events_eq ((moves_index c root).yields indexed)) located
  · obtain ⟨_, t, wrapped, located⟩ := yields_bind.mp located
    obtain ⟨rfl, rfl⟩ := yields_pure.mp wrapped
    exact rest rfl located

theorem moves_declare [Lasting R] (g : Graph) (sources : Dictionary Source) :
    Moves R (Context.declare g sources : Step σ Graph) := by
  have each (l : List (String × Nat)) :
      Moves R (l.forM fun e => note (.bindingsDeclared e.1 e.2) : Step σ Unit) := by
    induction l with
    | nil => exact .pure _
    | cons e l ih => exact .bind (.note _) fun _ => ih
  exact .bind (each _) fun _ => .bind (.note _) fun _ => .pure _

end

/-! ### All stages -/

theorem staging_bind {β : Type} (c : Context σ) (runtime : Runtime) (root : String)
    (k : String → Action σ β) :
    (if runtime = .dotnet then c.publish root >>= k else pure root >>= k) =
      (if runtime = .dotnet then c.publish root else pure root) >>= k := by
  split <;> rfl

/-- Whether they succeed or not, the stages tell neither that they start nor how they ended. -/
theorem inner_stages (c : Context σ) (location : String) :
    Moves ToldInner (c.stages location).run := by
  unfold Context.stages
  simp only [staging_bind]
  refine .bindAction (inner_of_early (early_projectRoot c _)) fun root =>
    .bindAction (moves_checkpoint c) fun _ => .bindAction (moves_detect c root) fun runtime =>
    .bindAction (.reportAction (told_reported c rfl)) fun _ => .bindAction ?_ fun working =>
    .bindAction (moves_checkpoint c) fun _ => .bindAction (inner_build c working) fun catalog =>
    .bindAction (moves_checkpoint c) fun _ =>
    .bindAction (inner_locate c runtime root working catalog) fun sources =>
    .bindAction (moves_checkpoint c) fun _ => ?_
  · split
    · exact inner_of_early (early_publish c root)
    · exact .pureAction root
  · generalize (catalog.graph.place sources).applyAll _ = m
    obtain ⟨g, n⟩ := m
    refine .bindAction (.reportAction (told_reported c rfl)) fun _ => ?_
    split
    · exact .lift (moves_declare g sources)
    · exact .pureAction g

/-- The way of a traversal through all stages: what each of them gives and the session that it
leaves, nobody asking to stop after any of the stages that are followed by a check. -/
structure Passage (c : Context σ) (location : String) (s : Session σ) where
  root : String
  rooted : Session σ
  findsRoot : Yields (c.projectRoot (.ofText location)) s root rooted
  clearAtRoot : c.GoesOn rooted
  runtime : Runtime
  detected : Session σ
  detects : Yields (Runtime.detect c root) (rooted.done c.host.isInterrupted) runtime detected
  working : String
  staged : Session σ
  stages : Yields (if runtime = .dotnet then c.publish root else pure root)
    (c.reported (.runtimeDetected runtime.name) detected) working staged
  clearAtStage : c.GoesOn staged
  catalog : Catalog
  cataloged : Session σ
  builds : Yields (Catalog.build c working) (staged.done c.host.isInterrupted) catalog cataloged
  clearAtCatalog : c.GoesOn cataloged
  sources : Dictionary Source
  located : Session σ
  locates : Yields (catalog.locate c runtime root working) (cataloged.done c.host.isInterrupted)
    sources located
  clearAtSources : c.GoesOn located

namespace Passage

variable {c : Context σ} {location : String} {s : Session σ}

def placed (p : Passage c location s) : Graph := p.catalog.graph.place p.sources

def edges (p : Passage c location s) : List Edge := p.placed.findEdges p.sources

def matched (p : Passage c location s) : Graph × Nat := p.placed.applyAll p.edges

/-- The session after the edges were told. -/
def told (p : Passage c location s) : Session σ :=
  c.reported (.matchingComplete p.matched.2) (p.located.done c.host.isInterrupted)

/-- The graph that the traversal gives, and the session that it leaves. -/
def ending (p : Passage c location s) : Graph × Session σ :=
  if p.runtime = .dotnet then (Context.declare p.matched.1 p.sources).run p.told
  else (p.matched.1, p.told)

/-- What is left to do once the edges are noted. -/
theorem yields_rest {runtime : Runtime} {sources : Dictionary Source} (m : Graph × Nat)
    {t s' : Session σ} {g : Graph} :
    Yields (match m with
      | (g, n) => do
        c.report (.matchingComplete n)
        if runtime = .dotnet then (Context.declare g sources : Step σ Graph) else pure g) t g s' ↔
      (if runtime = .dotnet then
        (Context.declare m.1 sources).run (c.reported (.matchingComplete m.2) t)
      else (m.1, c.reported (.matchingComplete m.2) t)) = (g, s') := by
  obtain ⟨edged, n⟩ := m
  dsimp only
  rw [yields_bind]
  constructor
  · rintro ⟨_, _, reports, yields⟩
    obtain rfl := yields_report.mp reports
    split at yields
    · rename_i dotnet
      obtain ⟨rfl, rfl⟩ := yields_lift.mp yields
      rw [if_pos dotnet]
      rfl
    · rename_i other
      obtain ⟨rfl, rfl⟩ := yields_pure.mp yields
      rw [if_neg other]
  · intro ends
    refine ⟨(), _, yields_report.mpr rfl, ?_⟩
    split at ends
    · rename_i dotnet
      rw [if_pos dotnet]
      exact yields_lift.mpr ⟨congrArg Prod.fst ends, congrArg Prod.snd ends⟩
    · rename_i other
      rw [if_neg other]
      exact yields_pure.mpr ⟨congrArg Prod.fst ends, congrArg Prod.snd ends⟩

theorem yields_stages {g : Graph} {s' : Session σ} :
    Yields (c.stages location) s g s' ↔ ∃ p : Passage c location s, p.ending = (g, s') := by
  unfold Context.stages
  simp only [staging_bind]
  constructor
  · intro yields
    obtain ⟨root, rooted, findsRoot, yields⟩ := yields_bind.mp yields
    obtain ⟨_, _, clear, yields⟩ := yields_bind.mp yields
    obtain ⟨clearAtRoot, rfl⟩ := yields_checkpoint.mp clear
    obtain ⟨runtime, detected, detects, yields⟩ := yields_bind.mp yields
    obtain ⟨_, _, reports, yields⟩ := yields_bind.mp yields
    obtain rfl := yields_report.mp reports
    obtain ⟨working, staged, stages, yields⟩ := yields_bind.mp yields
    obtain ⟨_, _, clear, yields⟩ := yields_bind.mp yields
    obtain ⟨clearAtStage, rfl⟩ := yields_checkpoint.mp clear
    obtain ⟨catalog, cataloged, builds, yields⟩ := yields_bind.mp yields
    obtain ⟨_, _, clear, yields⟩ := yields_bind.mp yields
    obtain ⟨clearAtCatalog, rfl⟩ := yields_checkpoint.mp clear
    obtain ⟨sources, located, locates, yields⟩ := yields_bind.mp yields
    obtain ⟨_, _, clear, yields⟩ := yields_bind.mp yields
    obtain ⟨clearAtSources, rfl⟩ := yields_checkpoint.mp clear
    let p : Passage c location s := {
      root := root, rooted, findsRoot, clearAtRoot, runtime, detected, detects,
      working, staged, stages, clearAtStage, catalog, cataloged, builds, clearAtCatalog, sources,
      located, locates, clearAtSources }
    exact ⟨p, (yields_rest p.matched).mp yields⟩
  · rintro ⟨p, ends⟩
    have clear {t : Session σ} (goesOn : c.GoesOn t) :
        Yields c.checkpoint t () (t.done c.host.isInterrupted) :=
      yields_checkpoint.mpr ⟨goesOn, rfl⟩
    refine yields_bind.mpr ⟨_, _, p.findsRoot, yields_bind.mpr ⟨_, _, clear p.clearAtRoot, ?_⟩⟩
    refine yields_bind.mpr ⟨_, _, p.detects, yields_bind.mpr ⟨(), _, rfl, ?_⟩⟩
    refine yields_bind.mpr ⟨_, _, p.stages, yields_bind.mpr ⟨_, _, clear p.clearAtStage, ?_⟩⟩
    refine yields_bind.mpr ⟨_, _, p.builds, yields_bind.mpr ⟨_, _, clear p.clearAtCatalog, ?_⟩⟩
    refine yields_bind.mpr ⟨_, _, p.locates, yields_bind.mpr ⟨_, _, clear p.clearAtSources, ?_⟩⟩
    exact (yields_rest p.matched).mpr ends

end Passage

end OrchestrationGraph
