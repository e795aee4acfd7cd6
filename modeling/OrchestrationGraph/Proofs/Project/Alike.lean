import OrchestrationGraph.Proofs.Project.Course

/-!
# Alike runs on two hosts

Hosts that answer alike in related sessions lead a traversal through alike runs: each part gives the
same on both and leaves related sessions (`agrees_traverse`). What the relation says besides is then
known of the whole run. It may change where a temporary folder is made, and after a failure.
-/

namespace OrchestrationGraph

variable {σ τ α β : Type}

/-- In sessions that are related before, the steps give the same, and the sessions after them are
related as the answer says. -/
def Agrees (P : Session σ → Session τ → Prop) (x : Step σ α) (y : Step τ α)
    (R : α → Session σ → Session τ → Prop) : Prop :=
  ∀ s t, P s t → (x.run s).1 = (y.run t).1 ∧ R (x.run s).1 (x.run s).2 (y.run t).2

/-- How sessions are related after something that succeeded, and after something that failed. -/
def Either {ε : Type} (Q E : Session σ → Session τ → Prop) :
    Except ε α → Session σ → Session τ → Prop
  | .ok _ => Q
  | .error _ => E

/-- The hosts give the same answers in related sessions, and what they are asked or told leaves them
related. Sessions that are related may fail. -/
structure Alike (host : Host σ) (host' : Host τ) (Q E : Session σ → Session τ → Prop) : Prop where
  hasEntry : ∀ path s t, Q s t → host.hasEntry path s.state = host'.hasEntry path t.state
  readText : ∀ path s t, Q s t → host.readText path s.state = host'.readText path t.state
  list : ∀ path s t, Q s t → host.list path s.state = host'.list path t.state
  tree : ∀ path s t, Q s t → host.tree path s.state = host'.tree path t.state
  run : ∀ command, Agrees Q (perform (host.run command)) (perform (host'.run command)) fun _ => Q
  isInterrupted : Agrees Q (perform host.isInterrupted) (perform host'.isInterrupted) fun _ => Q
  report : ∀ settings e,
    Agrees Q (Context.report ⟨host, settings⟩ e) (Context.report ⟨host', settings⟩ e) fun _ => Q
  note : ∀ n, Agrees Q (note n) (note n) fun _ => Q
  fails : ∀ s t, Q s t → E s t

variable {P Q R E : Session σ → Session τ → Prop}

namespace Agrees

theorem bind {x : Step σ α} {y : Step τ α} {k : α → Step σ β} {k' : α → Step τ β}
    {S : α → Session σ → Session τ → Prop} {U : β → Session σ → Session τ → Prop}
    (first : Agrees P x y S) (next : ∀ a, Agrees (S a) (k a) (k' a) U) :
    Agrees P (x >>= k) (y >>= k') U := by
  intro s t related
  obtain ⟨same, related⟩ := first s t related
  rw [Step.run_bind, Step.run_bind, ← same]
  exact next _ _ _ related

theorem runs {x : Step σ α} {y : Step τ α} {S : α → Session σ → Session τ → Prop} {s : Session σ}
    {t : Session τ} (agrees : Agrees P x y S) (related : P s t) :
    ∃ a s' t', x.run s = (a, s') ∧ y.run t = (a, t') ∧ S a s' t' :=
  have after := agrees s t related
  ⟨_, _, _, rfl, Prod.ext after.1.symm rfl, after.2⟩

theorem pure (a : α) : Agrees Q (Pure.pure a) (Pure.pure a) fun _ => Q := fun _ _ related =>
  ⟨rfl, related⟩

theorem ask {question : σ → α} {question' : τ → α}
    (same : ∀ s t, Q s t → question s.state = question' t.state) :
    Agrees Q (ask question) (ask question') fun _ => Q := fun s t related =>
  ⟨same s t related, related⟩

theorem mono {x : Step σ α} {y : Step τ α} {S S' : α → Session σ → Session τ → Prop}
    (agrees : Agrees P x y S) (weaker : ∀ a s t, S a s t → S' a s t) : Agrees P x y S' :=
  fun s t related => (agrees s t related).imp_right (weaker _ _ _)

/-! Actions. -/

theorem bindAction {x : Action σ α} {y : Action τ α} {k : α → Action σ β} {k' : α → Action τ β}
    (first : Agrees P x.run y.run (Either Q E))
    (next : ∀ a, Agrees Q (k a).run (k' a).run (Either R E)) :
    Agrees P (x >>= k).run (y >>= k').run (Either R E) := by
  rw [ExceptT.run_bind, ExceptT.run_bind]
  refine bind first fun result => ?_
  cases result with
  | ok a => exact next a
  | error f => exact fun s t related => ⟨rfl, related⟩

theorem lift {x : Step σ α} {y : Step τ α} (agrees : Agrees Q x y fun _ => Q) :
    Agrees Q (x : Action σ α).run (y : Action τ α).run (Either Q E) := by
  intro s t related
  obtain ⟨same, related⟩ := agrees s t related
  exact ⟨congrArg Except.ok same, related⟩

/-- A step that cannot fail, where the answer matters to how sessions are related. -/
theorem bindLift {x : Step σ α} {y : Step τ α} {k : α → Action σ β} {k' : α → Action τ β}
    {S : α → Session σ → Session τ → Prop} {U : Except Failure β → Session σ → Session τ → Prop}
    (first : Agrees P x y S) (next : ∀ a, Agrees (S a) (k a).run (k' a).run U) :
    Agrees P ((x : Action σ α) >>= k).run ((y : Action τ α) >>= k').run U :=
  bind first next

theorem pureAction (a : α) :
    Agrees Q (Pure.pure a : Action σ α).run (Pure.pure a : Action τ α).run (Either Q E) :=
  fun _ _ related => ⟨rfl, related⟩

theorem throw (fails : ∀ s t, P s t → E s t) (f : Failure) :
    Agrees P (throw f : Action σ α).run (throw f : Action τ α).run (Either Q E) :=
  fun s t related => ⟨rfl, fails s t related⟩

theorem weaken {x : Action σ α} {y : Action τ α} (agrees : Agrees P x.run y.run (Either Q E))
    (weaker : ∀ s t, Q s t → R s t) : Agrees P x.run y.run (Either R E) := by
  refine agrees.mono fun result s t related => ?_
  cases result with
  | ok a => exact weaker s t related
  | error f => exact related

end Agrees

/-! ### The parts of a traversal -/

section

variable {host : Host σ} {host' : Host τ} {settings : Settings} (alike : Alike host host' Q E)

include alike

theorem Alike.noteAction (n : Note) :
    Agrees Q (OrchestrationGraph.note n : Action σ Unit).run
      (OrchestrationGraph.note n : Action τ Unit).run (Either Q E) :=
  .lift (alike.note n)

theorem Alike.reportAction (e : Event) :
    Agrees Q (Context.report ⟨host, settings⟩ e : Action σ Unit).run
      (Context.report ⟨host', settings⟩ e : Action τ Unit).run (Either Q E) :=
  .lift (alike.report settings e)

theorem agrees_checkpoint : Agrees Q (Context.checkpoint ⟨host, settings⟩).run
    (Context.checkpoint ⟨host', settings⟩).run (Either Q E) := by
  refine .bindAction (.lift alike.isInterrupted) fun interrupted => ?_
  cases interrupted with
  | true => exact .throw alike.fails _
  | false => exact .pureAction _

theorem agrees_runTool (command : Tool.Command) :
    Agrees Q (Context.runTool ⟨host, settings⟩ command)
      (Context.runTool ⟨host', settings⟩ command) fun _ => Q := by
  refine .bind (alike.note _) fun _ => .bind (alike.run command) fun result => ?_
  cases result with
  | ok outcome => exact .bind (alike.note _) fun _ => .pure _
  | error e => exact .pure _

theorem agrees_visits (root : String) : Agrees Q (Context.visits ⟨host, settings⟩ root)
    (Context.visits ⟨host', settings⟩ root) fun _ => Q := by
  unfold Context.visits
  split
  · exact .pure _
  · refine .bind (.ask (alike.tree root)) fun tree => ?_
    cases tree <;> exact .pure _

theorem agrees_search (root : String) (best : Option Visit) (visits : List Visit) :
    Agrees Q (HostManifest.search ⟨host, settings⟩ root best visits).run
      (HostManifest.search ⟨host', settings⟩ root best visits).run (Either Q E) := by
  induction visits generalizing best with
  | nil => exact .pureAction _
  | cons v visits ih => exact .bindAction (agrees_checkpoint alike) fun _ => ih _

theorem agrees_find (root : String) : Agrees Q (HostManifest.find ⟨host, settings⟩ root).run
    (HostManifest.find ⟨host', settings⟩ root).run (Either Q E) :=
  .bindAction (.lift (agrees_visits alike root)) fun visits =>
    .bindAction (agrees_search alike root none visits) fun _ => .pureAction _

/-- What is done with the end of a tool, whatever the failures are. -/
theorem agrees_outcome {unstarted : FileError → Failure} {unsuccessful : Tool.Outcome → Failure}
    {n : Note} {a : α} (ended : Except FileError Tool.Outcome) :
    let x {υ : Type} : Action υ α := do
      match ended with
      | .error e => throw (unstarted e)
      | .ok outcome =>
        if !outcome.success then throw (unsuccessful outcome)
        note n
        return a
    Agrees Q (x : Action σ α).run (x : Action τ α).run (Either Q E) := by
  cases ended with
  | error e => exact .throw alike.fails _
  | ok outcome =>
    dsimp only
    split
    · exact .bindAction (.throw alike.fails _) fun _ =>
        .bindAction (alike.noteAction _) fun _ => .pureAction _
    · exact .bindAction (alike.noteAction _) fun _ => .pureAction _

theorem agrees_clone (url : String)
    (creates : Agrees P (Context.createTemporary ⟨host, settings⟩ "funcgraph-clone-").run
      (Context.createTemporary ⟨host', settings⟩ "funcgraph-clone-").run (Either Q E)) :
    Agrees P (Context.clone ⟨host, settings⟩ url).run
      (Context.clone ⟨host', settings⟩ url).run (Either Q E) :=
  .bindAction creates fun _ => .bindAction (alike.reportAction _) fun _ =>
    .bindAction (.lift (agrees_runTool alike _)) fun ended => agrees_outcome alike ended

theorem agrees_publish (project : String)
    (creates : Agrees P (Context.createTemporary ⟨host, settings⟩ "funcgraph-publish-").run
      (Context.createTemporary ⟨host', settings⟩ "funcgraph-publish-").run (Either Q E)) :
    Agrees P (Context.publish ⟨host, settings⟩ project).run
      (Context.publish ⟨host', settings⟩ project).run (Either Q E) :=
  .bindAction creates fun _ => .bindAction (alike.reportAction _) fun _ =>
    .bindAction (.lift (agrees_runTool alike _)) fun ended => agrees_outcome alike ended

theorem agrees_present (path : String) : Agrees Q
    (do if !(← ask (host.hasEntry path)) then throw (.pathNotFound path)
        return path : Action σ String).run
    (do if !(← ask (host'.hasEntry path)) then throw (.pathNotFound path)
        return path : Action τ String).run (Either Q E) := by
  refine .bindAction (.lift (.ask (alike.hasEntry path))) fun there => ?_
  split
  · exact .bindAction (.throw alike.fails _) fun _ => .pureAction _
  · exact .pureAction _

theorem agrees_searchRoot (location : Location) (weaker : ∀ s t, P s t → Q s t)
    (creates : Agrees P (Context.createTemporary ⟨host, settings⟩ "funcgraph-clone-").run
      (Context.createTemporary ⟨host', settings⟩ "funcgraph-clone-").run (Either Q E)) :
    Agrees P (Context.searchRoot ⟨host, settings⟩ location).run
      (Context.searchRoot ⟨host', settings⟩ location).run (Either Q E) := by
  cases location with
  | folder path => exact fun s t related => agrees_present alike path s t (weaker s t related)
  | repository url folders =>
    exact .bindAction (agrees_clone alike url creates) fun target => agrees_present alike _

theorem agrees_projectRoot (location : Location) (weaker : ∀ s t, P s t → Q s t)
    (creates : Agrees P (Context.createTemporary ⟨host, settings⟩ "funcgraph-clone-").run
      (Context.createTemporary ⟨host', settings⟩ "funcgraph-clone-").run (Either Q E)) :
    Agrees P (Context.projectRoot ⟨host, settings⟩ location).run
      (Context.projectRoot ⟨host', settings⟩ location).run (Either Q E) := by
  refine .bindAction (agrees_searchRoot alike location weaker creates) fun root =>
    .bindAction (agrees_checkpoint alike) fun _ =>
    .bindAction (agrees_find alike root) fun found => ?_
  cases found with
  | none => exact .throw alike.fails _
  | some manifest => exact .bindAction (alike.reportAction _) fun _ => .pureAction _

theorem agrees_detect (root : String) : Agrees Q (Runtime.detect ⟨host, settings⟩ root).run
    (Runtime.detect ⟨host', settings⟩ root).run (Either Q E) := by
  refine .bindAction (.lift (.ask (alike.list root))) fun entries => ?_
  cases entries with
  | error e => exact .throw alike.fails _
  | ok entries => exact .pureAction _

theorem agrees_readFolders (working : String) (catalog : Catalog) (names : List String) :
    Agrees Q (Catalog.readFolders ⟨host, settings⟩ working catalog names)
      (Catalog.readFolders ⟨host', settings⟩ working catalog names) fun _ => Q := by
  induction names generalizing catalog with
  | nil => exact .pure _
  | cons name names ih =>
    refine .bind (.ask (alike.readText _)) fun read => ?_
    cases Catalog.Finding.ofText read with
    | nothing => exact ih catalog
    | broken error => exact .bind (alike.report _ _) fun _ => ih catalog
    | function m => exact .bind (alike.note _) fun _ => ih _

theorem agrees_build (working : String) : Agrees Q (Catalog.build ⟨host, settings⟩ working).run
    (Catalog.build ⟨host', settings⟩ working).run (Either Q E) := by
  refine .bindAction (.lift (.ask (alike.list working))) fun entries => ?_
  cases entries with
  | error e => exact .throw alike.fails _
  | ok entries =>
    exact .bindAction (agrees_checkpoint alike) fun _ =>
      .bindAction (.lift (agrees_readFolders alike working _ _)) fun _ =>
        .bindAction (alike.reportAction _) fun _ => .pureAction _

theorem agrees_readAll (root : String) (visits : List Visit) :
    Agrees Q (SourceFile.readAll ⟨host, settings⟩ root visits).run
      (SourceFile.readAll ⟨host', settings⟩ root visits).run (Either Q E) := by
  induction visits with
  | nil => exact .pureAction _
  | cons v visits ih =>
    refine .bindAction (agrees_checkpoint alike) fun _ => ?_
    dsimp only
    split
    · refine .bindAction (.lift (.ask (alike.readText _))) fun read => ?_
      cases read with
      | ok content => exact .bindAction ih fun _ => .pureAction _
      | error e => exact .bindAction (alike.noteAction _) fun _ => ih
    · exact ih

theorem agrees_index (root : String) : Agrees Q (SourceFile.index ⟨host, settings⟩ root).run
    (SourceFile.index ⟨host', settings⟩ root).run (Either Q E) :=
  .bindAction (.lift (agrees_visits alike root)) fun visits =>
    .bindAction (agrees_readAll alike root visits) fun _ =>
      .bindAction (alike.noteAction _) fun _ => .pureAction _

theorem agrees_firstReadable? (paths : List String) :
    Agrees Q (Script.firstReadable? ⟨host, settings⟩ paths)
      (Script.firstReadable? ⟨host', settings⟩ paths) fun _ => Q := by
  induction paths with
  | nil => exact .pure _
  | cons path paths ih =>
    refine .bind (.ask (alike.readText path)) fun read => ?_
    cases read with
    | ok content => exact .pure _
    | error e => exact .bind (alike.note _) fun _ => ih

theorem agrees_inFolder? (folder : String) : Agrees Q (Script.inFolder? ⟨host, settings⟩ folder)
    (Script.inFolder? ⟨host', settings⟩ folder) fun _ => Q := by
  refine .bind (.ask (alike.list folder)) fun entries => ?_
  cases entries with
  | ok entries => exact .pure _
  | error e => exact .bind (alike.note _) fun _ => .pure _

theorem agrees_source? (files : Option (List SourceFile)) (working : String) (catalog : Catalog)
    (name : String) : Agrees Q (Catalog.source? ⟨host, settings⟩ files working catalog name)
      (Catalog.source? ⟨host', settings⟩ files working catalog name) fun _ => Q := by
  cases files with
  | some files => exact .pure _
  | none =>
    exact .bind (agrees_inFolder? alike _) fun _ =>
      .bind (agrees_firstReadable? alike _) fun _ => .pure _

theorem agrees_locateEach (files : Option (List SourceFile)) (working : String) (catalog : Catalog)
    (names : List String) :
    Agrees Q (Catalog.locateEach ⟨host, settings⟩ files working catalog names).run
      (Catalog.locateEach ⟨host', settings⟩ files working catalog names).run (Either Q E) := by
  induction names with
  | nil => exact .pureAction _
  | cons name names ih =>
    refine .bindAction (agrees_checkpoint alike) fun _ =>
      .bindAction (.lift (agrees_source? alike files working catalog name)) fun found =>
        .bindAction ih fun rest => ?_
    cases found <;> exact .pureAction _

theorem agrees_locate (runtime : Runtime) (root working : String) (catalog : Catalog) :
    Agrees Q (catalog.locate ⟨host, settings⟩ runtime root working).run
      (catalog.locate ⟨host', settings⟩ runtime root working).run (Either Q E) := by
  have each (names : List String) : Agrees Q
      (names.forM fun name =>
        Context.report ⟨host, settings⟩ (.sourceNotFound name) : Action σ Unit).run
      (names.forM fun name =>
        Context.report ⟨host', settings⟩ (.sourceNotFound name) : Action τ Unit).run (Either Q E) := by
    induction names with
    | nil => exact .pureAction _
    | cons name names ih => exact .bindAction (alike.reportAction _) fun _ => ih
  unfold Catalog.locate
  dsimp only
  split
  · exact .bindAction (agrees_index alike root) fun files =>
      .bindAction (.pureAction _) fun files =>
      .bindAction (agrees_locateEach alike _ _ _ _) fun found =>
        .bindAction (each _) fun _ => .pureAction _
  · exact .bindAction (.pureAction _) fun files =>
      .bindAction (agrees_locateEach alike _ _ _ _) fun found =>
        .bindAction (each _) fun _ => .pureAction _

theorem agrees_declare (g : Graph) (sources : Dictionary Source) :
    Agrees Q (Context.declare g sources) (Context.declare g sources) fun _ => Q := by
  have each (l : List (String × Nat)) :
      Agrees Q (l.forM fun e => note (.bindingsDeclared e.1 e.2) : Step σ Unit)
        (l.forM fun e => note (.bindingsDeclared e.1 e.2) : Step τ Unit) fun _ => Q := by
    induction l with
    | nil => exact .pure _
    | cons e l ih => exact .bind (alike.note _) fun _ => ih
  exact .bind (each _) fun _ => .bind (alike.note _) fun _ => .pure _

end

/-! ### Traversals -/

/-- Relations along a traversal: `P` at its start, `Q` when the root is found, `R` when the project
is staged, and `E` after a failure. -/
structure Accompanies (host : Host σ) (host' : Host τ) (settings : Settings)
    (P Q R E : Session σ → Session τ → Prop) : Prop where
  starts : ∀ e, Agrees P (Context.report ⟨host, settings⟩ e) (Context.report ⟨host', settings⟩ e)
    fun _ => P
  rooted : Alike host host' Q E
  staged : Alike host host' R E
  failed : ∀ e, Agrees E (Context.report ⟨host, settings⟩ e) (Context.report ⟨host', settings⟩ e)
    fun _ => E
  unrooted : ∀ s t, P s t → Q s t
  unstaged : ∀ s t, Q s t → R s t
  clones : Agrees P (Context.createTemporary ⟨host, settings⟩ "funcgraph-clone-").run
    (Context.createTemporary ⟨host', settings⟩ "funcgraph-clone-").run (Either Q E)
  publishes : Agrees Q (Context.createTemporary ⟨host, settings⟩ "funcgraph-publish-").run
    (Context.createTemporary ⟨host', settings⟩ "funcgraph-publish-").run (Either R E)
  record : ∀ s t, R s t → s.temporary = t.temporary

/-- How sessions are related after a traversal: a report lists the folders that are on record. -/
def Reports (R E : Session σ → Session τ → Prop) :
    Except Failure Report → Session σ → Session τ → Prop
  | .ok r, s, t => r.temporary = s.temporary ∧ R s t
  | .error _, s, t => E s t

section

variable {host : Host σ} {host' : Host τ} {settings : Settings}
  (course : Accompanies host host' settings P Q R E)

include course

theorem agrees_stages (location : String) : Agrees P (Context.stages ⟨host, settings⟩ location).run
    (Context.stages ⟨host', settings⟩ location).run (Either R E) := by
  have alike := course.rooted
  have alike' := course.staged
  unfold Context.stages
  simp only [staging_bind]
  refine .bindAction (agrees_projectRoot alike _ course.unrooted course.clones) fun root =>
    .bindAction (agrees_checkpoint alike) fun _ =>
    .bindAction (agrees_detect alike root) fun runtime =>
    .bindAction (alike.reportAction _) fun _ =>
    .bindAction ?_ fun working =>
    .bindAction (agrees_checkpoint alike') fun _ =>
    .bindAction (agrees_build alike' working) fun catalog =>
    .bindAction (agrees_checkpoint alike') fun _ =>
    .bindAction (agrees_locate alike' runtime root working catalog) fun sources =>
    .bindAction (agrees_checkpoint alike') fun _ => ?_
  · split
    · exact agrees_publish alike' root course.publishes
    · exact (Agrees.pureAction root).weaken course.unstaged
  · generalize (catalog.graph.place sources).applyAll _ = m
    obtain ⟨g, n⟩ := m
    refine .bindAction (alike'.reportAction _) fun _ => ?_
    split
    · exact .lift (agrees_declare alike' g sources)
    · exact .pureAction g

theorem agrees_traverse (location : String) : Agrees P (Context.traverse ⟨host, settings⟩ location)
    (Context.traverse ⟨host', settings⟩ location) (Reports R E) := by
  refine .bind (course.starts _) fun _ => .bind (agrees_stages course location) fun result => ?_
  cases result with
  | error f => exact .bind (course.failed _) fun _ s t related => ⟨rfl, related⟩
  | ok g =>
    refine .bind (course.staged.report settings _) fun _ s t related => ?_
    have same : ({ graph := g, temporary := s.temporary } : Report) = ⟨g, t.temporary⟩ := by
      rw [course.record s t related]
    exact ⟨congrArg Except.ok same, rfl, related⟩

end

end OrchestrationGraph
