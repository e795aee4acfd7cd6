import OrchestrationGraph.Proofs.Files.Path
import OrchestrationGraph.Proofs.Project.Alike
import OrchestrationGraph.Proofs.Project.Temporary

/-!
# Watched hosts

A host that keeps a log of what is done to folders, files and channels (`Host.watched`) leads a
traversal through the same run as the host itself, and the log shows that the run makes the folders
that it has on record and does nothing else to them (`traverse_watched`). A clean-up faces each of
these folders and removes those that are there, as far as the host lets it (`Clearing`).
-/

namespace OrchestrationGraph

/-- Something that is done to folders, files or channels, and what came of it. -/
inductive Deed where
  | making (path : String) (result : Except FileError Unit)
  | removing (path : String) (result : Except FileError Unit)
  | writing (path content : String) (result : Except FileError Unit)
  | printing (channel : Channel) (text : String) (result : Except FileError Unit)

namespace Deed

def tried? : Deed → Option String
  | making path _ => some path
  | _ => none

def made? : Deed → Option String
  | making path (.ok _) => some path
  | _ => none

end Deed

/-- The folders that were to be made, in their order. -/
def triedIn (deeds : List Deed) : List String := deeds.filterMap Deed.tried?

/-- The folders that were made, in their order. -/
def madeIn (deeds : List Deed) : List String := deeds.filterMap Deed.made?

theorem mem_triedIn {deeds : List Deed} {path : String} (made : path ∈ madeIn deeds) :
    path ∈ triedIn deeds := by
  obtain ⟨d, here, isMade⟩ := List.mem_filterMap.mp made
  refine List.mem_filterMap.mpr ⟨d, here, ?_⟩
  unfold Deed.made? at isMade
  split at isMade
  · exact isMade
  · cases isMade

variable {σ : Type}

/-- The host with a log of what is done to folders, files and channels. -/
def Host.watched (host : Host σ) : Host (σ × List Deed) where
  isText := host.isText
  hasEntry path w := host.hasEntry path w.1
  hasFolder path w := host.hasFolder path w.1
  readText path w := host.readText path w.1
  list folder w := host.list folder w.1
  tree path w := host.tree path w.1
  writeText path content w :=
    let done := host.writeText path content w.1
    (done.1, done.2, w.2 ++ [.writing path content done.1])
  createFolder path w :=
    let done := host.createFolder path w.1
    (done.1, done.2, w.2 ++ [.making path done.1])
  removeFolder path w :=
    let done := host.removeFolder path w.1
    (done.1, done.2, w.2 ++ [.removing path done.1])
  freshName w := ((host.freshName w.1).1, (host.freshName w.1).2, w.2)
  run command w := ((host.run command w.1).1, (host.run command w.1).2, w.2)
  hear e w := (host.hear e w.1, w.2)
  isInterrupted w := ((host.isInterrupted w.1).1, (host.isInterrupted w.1).2, w.2)
  print channel text w :=
    let done := host.print channel text w.1
    (done.1, done.2, w.2 ++ [.printing channel text done.1])

/-- The session without the log. -/
def Session.forget (s : Session (σ × List Deed)) : Session σ where
  state := s.state.1
  journal := s.journal
  temporary := s.temporary

/-- What has come to the log says of the record what the relation asks. -/
def Watches (before : List Deed) (I : List Deed → List String → Prop)
    (s : Session (σ × List Deed)) (t : Session σ) : Prop :=
  s.forget = t ∧ ∃ log, s.state.2 = before ++ log ∧ I log s.temporary

variable {host : Host σ} {before : List Deed} {settings : Settings} {I J : List Deed → List String → Prop}
  {titles : List String} {folder title : String}

theorem alike_watched (host : Host σ) (before : List Deed)
    (weaker : ∀ log record, I log record → J log record) :
    Alike host.watched host (Watches before I) (Watches before J) where
  hasEntry _ _ _ related := related.1 ▸ rfl
  readText _ _ _ related := related.1 ▸ rfl
  list _ _ _ related := related.1 ▸ rfl
  tree _ _ _ related := related.1 ▸ rfl
  run _ _ _ related := related.1 ▸ ⟨rfl, rfl, related.2⟩
  isInterrupted _ _ related := related.1 ▸ ⟨rfl, rfl, related.2⟩
  report _ _ _ _ related := related.1 ▸ ⟨rfl, rfl, related.2⟩
  note _ _ _ related := related.1 ▸ ⟨rfl, rfl, related.2⟩
  fails _ _ related := ⟨related.1, related.2.imp fun _ is => ⟨is.1, weaker _ _ is.2⟩⟩

/-! ### Making folders -/

/-- Nothing but making folders is in the log, and the record lists them. -/
structure Recorded (log : List Deed) (record : List String) : Prop where
  onlyMaking : ∀ d ∈ log, ∃ path result, d = .making path result
  lists : record = triedIn log

/-- All folders were made, each under one of the titles. -/
structure Titled (folder : String) (titles : List String) (log : List Deed) (record : List String) :
    Prop extends Recorded log record where
  all : madeIn log = triedIn log
  titled : ∀ path ∈ record, ∃ title ∈ titles, ∃ name, path = Path.join folder (title ++ name)

theorem Titled.mono {titles' : List String} {log : List Deed} {record : List String}
    (is : Titled folder titles log record) (more : titles ⊆ titles') :
    Titled folder titles' log record := by
  refine { is with titled := fun path here => ?_ }
  obtain ⟨title, among, name, same⟩ := is.titled path here
  exact ⟨title, more among, name, same⟩

theorem Recorded.making {log : List Deed} {record : List String} (is : Recorded log record)
    (path : String) (result : Except FileError Unit) :
    Recorded (log ++ [.making path result]) (record ++ [path]) := by
  refine ⟨fun d here => ?_, ?_⟩
  · rcases List.mem_append.mp here with before | new
    · exact is.onlyMaking d before
    · exact ⟨path, result, List.mem_singleton.mp new⟩
  · rw [triedIn, List.filterMap_append, is.lists]
    rfl

theorem Titled.making {log : List Deed} {record : List String} (is : Titled folder titles log record)
    (name : String) :
    Titled folder (title :: titles) (log ++ [.making (Path.join folder (title ++ name)) (.ok ())])
      (record ++ [Path.join folder (title ++ name)]) := by
  refine { is.toRecorded.making _ _ with all := ?_, titled := fun path here => ?_ }
  · rw [madeIn, triedIn, List.filterMap_append, List.filterMap_append]
    exact congrArg (· ++ _) is.all
  · rcases List.mem_append.mp here with before | new
    · obtain ⟨title, among, name, same⟩ := is.titled path before
      exact ⟨title, List.mem_cons_of_mem _ among, name, same⟩
    · exact ⟨title, List.mem_cons_self, name, List.mem_singleton.mp new⟩

theorem recorded_of_titled {log : List Deed} {record : List String}
    (is : Titled folder titles log record)
    (fresh : ∀ old ∈ titles, ∀ name name',
      Path.same (Path.join folder (title ++ name)) (Path.join folder (old ++ name')) = false)
    (name : String) : recorded record (Path.join folder (title ++ name)) =
      record ++ [Path.join folder (title ++ name)] := by
  refine if_neg ?_
  rw [List.any_eq_true]
  rintro ⟨path, here, same⟩
  obtain ⟨old, among, name', rfl⟩ := is.titled path here
  exact absurd same (by simp [fresh old among])

theorem alike_titled (host : Host σ) (before : List Deed) (folder : String)
    (titles : List String) :
    Alike host.watched host (Watches before (Titled folder titles)) (Watches before Recorded) :=
  alike_watched host before fun _ _ is => is.toRecorded

theorem agrees_createTemporary (host : Host σ) (before : List Deed)
    (fresh : ∀ old ∈ titles, ∀ name name',
      Path.same (Path.join settings.temporaryFolder (title ++ name))
        (Path.join settings.temporaryFolder (old ++ name')) = false) :
    Agrees (Watches before (Titled settings.temporaryFolder titles))
      (Context.createTemporary ⟨host.watched, settings⟩ title).run
      (Context.createTemporary ⟨host, settings⟩ title).run
      (Either (Watches before (Titled settings.temporaryFolder (title :: titles)))
        (Watches before Recorded)) := by
  let path (name : String) := Path.join settings.temporaryFolder (title ++ name)
  -- The folder is on record before it is in the log.
  let onRecord (name : String) (log : List Deed) (record : List String) :=
    ∃ old, record = old ++ [path name] ∧ Titled settings.temporaryFolder titles log old
  refine .bindLift (S := fun _ => Watches before (Titled settings.temporaryFolder titles)) ?_
    fun name => .bindLift (S := fun _ => Watches before (onRecord name)) ?_ fun _ =>
    .bindLift (S := Either (Watches before (Titled settings.temporaryFolder (title :: titles)))
      (Watches before Recorded)) ?_ fun made => ?_
  · rintro s _ ⟨rfl, is⟩
    exact ⟨rfl, rfl, is⟩
  · rintro s _ ⟨rfl, log, logged, is⟩
    exact ⟨rfl, rfl, log, logged, s.temporary, recorded_of_titled is fresh name, is⟩
  · rintro s _ ⟨rfl, log, logged, old, lists, is⟩
    refine ⟨rfl, ?_⟩
    show Either _ _ (host.createFolder (path name) s.state.1).1
      (s.done (host.watched.createFolder (path name))) (s.forget.done (host.createFolder (path name)))
    have later : (s.done (host.watched.createFolder (path name))).state.2 =
        before ++ (log ++ [.making (path name) (host.createFolder (path name) s.state.1).1]) := by
      rw [← List.append_assoc, ← logged]
      rfl
    have record : (s.done (host.watched.createFolder (path name))).temporary =
        old ++ [path name] := lists
    cases made : (host.createFolder (path name) s.state.1).1 with
    | ok u =>
      rw [made] at later
      refine ⟨rfl, _, later, ?_⟩
      rw [record]
      exact is.making name
    | error e =>
      rw [made] at later
      refine ⟨rfl, _, later, ?_⟩
      rw [record]
      exact is.toRecorded.making _ _
  · cases made with
    | error e => exact .throw (fun _ _ related => related) _
    | ok u =>
      exact .bindAction ((alike_titled host before _ _).noteAction _) fun _ => .pureAction _

theorem publish_ne_clone (folder name name' : String) :
    Path.same (Path.join folder ("funcgraph-publish-" ++ name))
      (Path.join folder ("funcgraph-clone-" ++ name')) = false := by
  have isPiece : Path.IsPiece "funcgraph-publish-" := by unfold Path.IsPiece; decide
  have isPiece' : Path.IsPiece "funcgraph-clone-" := by unfold Path.IsPiece; decide
  refine Path.same_join_eq_false isPiece isPiece' (by decide) (by decide) (fun l l' same => ?_) _ _
  have cut := congrArg (List.drop 10) same
  exact absurd (congrArg List.head? cut) (by simp)

def clones : List String := ["funcgraph-clone-"]

def publications : List String := "funcgraph-publish-" :: clones

/-- A traversal makes at most one folder under each title. So none is recorded twice, even if the
host gives a name twice. -/
theorem accompanies_watched (host : Host σ) (settings : Settings) (before : List Deed) :
    Accompanies host.watched host settings (Watches before (Titled settings.temporaryFolder []))
      (Watches before (Titled settings.temporaryFolder clones))
      (Watches before (Titled settings.temporaryFolder publications))
      (Watches before Recorded) where
  starts := (alike_titled host before _ _).report settings
  rooted := alike_titled host before _ _
  staged := alike_titled host before _ _
  failed := (alike_watched host before fun _ _ is => is).report settings
  unrooted _ _ related :=
    ⟨related.1, related.2.imp fun _ is => ⟨is.1, is.2.mono (List.nil_subset _)⟩⟩
  unstaged _ _ related :=
    ⟨related.1, related.2.imp fun _ is => ⟨is.1, is.2.mono (List.subset_cons_self _ _)⟩⟩
  clones := agrees_createTemporary host before nofun
  publishes := agrees_createTemporary host before fun old here => by
    rw [List.mem_singleton.mp here]
    exact publish_ne_clone _
  record _ _ related := related.1 ▸ rfl

/-- A traversal on the watched host is that on the host itself. It makes the folders that are on
record after it, and if it succeeded, all of them were made and its report lists them. -/
theorem traverse_watched (host : Host σ) (settings : Settings) (location : String)
    (s : Session (σ × List Deed)) (fresh : s.temporary = []) :
    ∃ result t making, (Context.traverse ⟨host.watched, settings⟩ location).run s = (result, t) ∧
      (Context.traverse ⟨host, settings⟩ location).run s.forget = (result, t.forget) ∧
      t.state.2 = s.state.2 ++ making ∧ Recorded making t.temporary ∧
      ∀ r, result = .ok r → madeIn making = triedIn making ∧ r.temporary = t.temporary := by
  have start : Watches s.state.2 (Titled settings.temporaryFolder []) s s.forget := by
    refine ⟨rfl, [], (List.append_nil _).symm, ⟨List.forall_mem_nil _, fresh⟩, rfl, ?_⟩
    rw [fresh]
    exact List.forall_mem_nil _
  obtain ⟨result, t, t', run, run', related⟩ :=
    (agrees_traverse (accompanies_watched host settings s.state.2) location).runs start
  cases result with
  | error f =>
    obtain ⟨rfl, making, logged, is⟩ := related
    exact ⟨_, t, making, run, run', logged, is, nofun⟩
  | ok r =>
    obtain ⟨lists, rfl, making, logged, is⟩ := related
    refine ⟨_, t, making, run, run', logged, is.toRecorded, ?_⟩
    rintro _ ⟨⟩
    exact ⟨is.all, lists⟩

/-! ### Clearing folders away -/

/-- Folders are faced one after the other: one that is there is removed, or its removal fails. -/
inductive Clearing (host : Host σ) : List String → σ → List Deed → σ → Prop
  | nil (state : σ) : Clearing host [] state [] state
  | missing {path : String} {paths : List String} {state state' : σ} {deeds : List Deed}
      (absent : host.hasEntry path state = false) (rest : Clearing host paths state deeds state') :
      Clearing host (path :: paths) state deeds state'
  | faced {path : String} {paths : List String} {state state' : σ} {deeds : List Deed}
      (there : host.hasEntry path state = true)
      (rest : Clearing host paths (host.removeFolder path state).2 deeds state') :
      Clearing host (path :: paths) state
        (.removing path (host.removeFolder path state).1 :: deeds) state'

variable {path : String} {paths : List String} {state state' : σ} {deeds : List Deed}

theorem Clearing.onlyRemoving (clearing : Clearing host paths state deeds state') :
    ∀ d ∈ deeds, ∃ path result, d = .removing path result := by
  induction clearing with
  | nil => nofun
  | missing _ _ ih => exact ih
  | faced _ _ ih => exact List.forall_mem_cons.mpr ⟨⟨_, _, rfl⟩, ih⟩

theorem Clearing.hasFolder_before (clearing : Clearing host paths state deeds state')
    (truthful : Temporary.Truthful host) (there : host.hasFolder path state' = true) :
    host.hasFolder path state = true := by
  induction clearing with
  | nil => exact there
  | missing _ _ ih => exact ih there
  | faced _ _ ih => exact truthful.noNew _ _ _ (ih there)

/-- On a truthful host, the removal of a folder that is there afterwards was attempted and failed. -/
theorem Clearing.attempted (clearing : Clearing host paths state deeds state')
    (truthful : Temporary.Truthful host) (here : path ∈ paths)
    (there : host.hasFolder path state' = true) : ∃ e, Deed.removing path (.error e) ∈ deeds := by
  induction clearing with
  | nil => exact absurd here List.not_mem_nil
  | @missing other paths state state' deeds absent rest ih =>
    rcases List.mem_cons.mp here with rfl | later
    · have seen := truthful.seen _ _ (rest.hasFolder_before truthful there)
      exact absurd seen (by simp [absent])
    · exact ih later there
  | @faced other paths state state' deeds _ rest ih =>
    rcases List.mem_cons.mp here with rfl | later
    · have after := rest.hasFolder_before truthful there
      cases result : (host.removeFolder path state).1 with
      | ok u => exact absurd after (by simp [truthful.gone path state result])
      | error e => exact ⟨e, List.mem_cons_self⟩
    · obtain ⟨e, attempted⟩ := ih later there
      exact ⟨e, List.mem_cons_of_mem _ attempted⟩

/-- Removing on the watched host is removing on the host itself, and faces each folder in turn. -/
theorem removeEach_watched (host : Host σ) (settings : Settings) (paths : List String)
    (s : Session (σ × List Deed)) : ∃ result t deeds,
      (Context.removeEach ⟨host.watched, settings⟩ paths).run s = (result, t) ∧
      (Context.removeEach ⟨host, settings⟩ paths).run s.forget = (result, t.forget) ∧
      t.state.2 = s.state.2 ++ deeds ∧ Clearing host paths s.state.1 deeds t.state.1 := by
  induction paths generalizing s with
  | nil => exact ⟨_, _, [], rfl, rfl, (List.append_nil _).symm, .nil _⟩
  | cons path paths ih =>
    cases there : host.hasEntry path s.state.1 with
    | false =>
      obtain ⟨result, t, deeds, run, run', log, clearing⟩ := ih s
      have skips := Temporary.removeEach_missing (c := ⟨host.watched, settings⟩) paths there
      have skips' := Temporary.removeEach_missing (c := ⟨host, settings⟩) (s := s.forget) paths there
      exact ⟨result, t, deeds, skips.trans run, skips'.trans run', log, .missing there clearing⟩
    | true =>
      cases removes : (host.removeFolder path s.state.1).1 with
      | ok u =>
        obtain ⟨result, t, deeds, run, run', log, clearing⟩ :=
          ih ((s.done (host.watched.removeFolder path)).noted (.temporaryRemoved path))
        have run' : (Context.removeEach ⟨host, settings⟩ paths).run
            ((s.forget.done (host.removeFolder path)).noted (.temporaryRemoved path)) =
              (result, t.forget) := run'
        have first := Temporary.removeEach_removed (c := ⟨host.watched, settings⟩) paths there removes
        have first' :=
          Temporary.removeEach_removed (c := ⟨host, settings⟩) (s := s.forget) paths there removes
        rw [run] at first
        rw [run'] at first'
        exact ⟨_, t, _, first, first', log.trans (List.append_assoc _ _ _), .faced there clearing⟩
      | error e =>
        obtain ⟨result, t, deeds, run, run', log, clearing⟩ :=
          ih ((s.done (host.watched.removeFolder path)).noted (.temporaryStuck path e.message))
        have run' : (Context.removeEach ⟨host, settings⟩ paths).run
            ((s.forget.done (host.removeFolder path)).noted (.temporaryStuck path e.message)) =
              (result, t.forget) := run'
        have first := Temporary.removeEach_stuck (c := ⟨host.watched, settings⟩) paths there removes
        have first' :=
          Temporary.removeEach_stuck (c := ⟨host, settings⟩) (s := s.forget) paths there removes
        rw [run] at first
        rw [run'] at first'
        exact ⟨_, t, _, first, first', log.trans (List.append_assoc _ _ _), .faced there clearing⟩

theorem run_cleanUp (c : Context σ) (s : Session σ) : c.cleanUp.run s =
    (((c.removeEach s.temporary).run s).1.1,
      { ((c.removeEach s.temporary).run s).2 with
        temporary := ((c.removeEach s.temporary).run s).1.2 }) := rfl

theorem cleanUp_watched (host : Host σ) (settings : Settings) (s : Session (σ × List Deed)) :
    ∃ n t deeds, (Context.cleanUp ⟨host.watched, settings⟩).run s = (n, t) ∧
      (Context.cleanUp ⟨host, settings⟩).run s.forget = (n, t.forget) ∧
      t.state.2 = s.state.2 ++ deeds ∧ Clearing host s.temporary s.state.1 deeds t.state.1 := by
  obtain ⟨result, t, deeds, run, run', log, clearing⟩ :=
    removeEach_watched host settings s.temporary s
  have cleans := run_cleanUp ⟨host.watched, settings⟩ s
  have cleans' := run_cleanUp ⟨host, settings⟩ s.forget
  have run' : (Context.removeEach ⟨host, settings⟩ s.forget.temporary).run s.forget =
      (result, t.forget) := run'
  rw [run] at cleans
  rw [run'] at cleans'
  exact ⟨result.1, { t with temporary := result.2 }, deeds, cleans, cleans', log, clearing⟩

end OrchestrationGraph
