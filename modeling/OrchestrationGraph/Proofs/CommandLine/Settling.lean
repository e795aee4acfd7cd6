import OrchestrationGraph.Proofs.CommandLine.HandingOut

/-!
# Settling a run

A command owns the temporary folders of its traversal: whether the traversal succeeded or not, each
folder that it made is faced and removed, if it is there and the host lets it be removed, before
anything is handed out. With folders to be kept, none is removed (`Settled`). A report lists those
that are still there, and the exit code says whether it was handed out (`Settles`). Before all that,
complaints are told, and if the error channel does not take one, nothing is made at all (`Ends`). That
holds of every run with settings that are accepted, and is seen in the log of a host that is watched
(`run_settles`).
-/

namespace OrchestrationGraph.CommandLine

variable {σ : Type} {host : Host σ} {settings : Settings} {command : Command} {keep : Bool}
  {traversed settled : σ} {making clearing : List Deed}

/-- The report in which, of the folders that were made, those are listed that are still there. -/
def remaining (host : Host σ) (making : List Deed) (settled : σ) (r : Report) : Report :=
  { r with temporary := (madeIn making).filter fun path => host.hasEntry path settled }

/-- How the folders are dealt with that a traversal made. -/
structure Settled (host : Host σ) (keep : Bool) (traversed settled : σ)
    (making clearing : List Deed) : Prop where
  onlyMaking : ∀ d ∈ making, ∃ path made, d = .making path made
  onlyRemoving : ∀ d ∈ clearing, ∃ path removed, d = .removing path removed
  kept : keep = true → clearing = [] ∧ settled = traversed
  cleared : keep = false → Clearing host (triedIn making) traversed clearing settled
  attempted : keep = false → Temporary.Truthful host → ∀ path ∈ madeIn making,
    host.hasFolder path settled = true → ∃ e, .removing path (.error e) ∈ clearing

/-- How a command deals with the folders of its traversal, and then with the traversal's result. -/
structure Settles (host : Host σ) (command : Command) (result : Except Failure Report)
    (traversed settled : σ) (making clearing handing : List Deed) (exitCode : Nat) : Prop
    extends Settled host command.keeps traversed settled making clearing where
  hands : ∃ said, Says host.isText command (result.map (remaining host making settled)) said ∧
    Hands host command.output settled said handing exitCode
  succeeds : exitCode = 0 ↔ ∃ r text, result = .ok r ∧
    Says host.isText command (.ok (remaining host making settled r)) (.ok text) ∧
    handed host command.output text settled = .ok ()

/-- Complaints are told one after the other, until the error channel does not take one. -/
inductive Complaining (host : Host σ) :
    List String → σ → List Deed → Except FileError Unit → σ → Prop
  | nil (state : σ) : Complaining host [] state [] (.ok ()) state
  | told {complaint : String} {complaints : List String} {state state' : σ} {deeds : List Deed}
      {result : Except FileError Unit}
      (takes : (host.print .error (complaint ++ "\n") state).1 = .ok ())
      (rest : Complaining host complaints (host.print .error (complaint ++ "\n") state).2 deeds
        result state') :
      Complaining host (complaint :: complaints) state
        (.printing .error (complaint ++ "\n") (.ok ()) :: deeds) result state'
  | untold {complaint : String} {complaints : List String} {state : σ} {error : FileError}
      (refuses : (host.print .error (complaint ++ "\n") state).1 = .error error) :
      Complaining host (complaint :: complaints) state
        [.printing .error (complaint ++ "\n") (.error error)] (.error error)
        (host.print .error (complaint ++ "\n") state).2

def settingsOf (e : Environment) (a : Arguments) : Settings := settingsFor e (a.level?.map (·.1))

/-- The session in which the command is carried out. -/
def started (a : Arguments) (state : σ) : Session σ :=
  (({ state } : Session σ).noted .programStarted).noted (.argumentsRead a.shown)

/-- What a run does to folders, files and channels, and its exit code. -/
inductive Ends (host : Host σ) (e : Environment) (a : Arguments) (state : σ) :
    List Deed → Nat → Prop
  | silenced {complaining : List Deed} {error : FileError} {state' : σ}
      (complains : Complaining host (complaints e a) state complaining (.error error) state') :
      Ends host e a state complaining 101
  | settled {complaining making clearing handing : List Deed} {begun settled : σ}
      {traversed : Session σ} {result : Except Failure Report} {exitCode : Nat}
      (complains : Complaining host (complaints e a) state complaining (.ok ()) begun)
      (traverses : (Context.traverse ⟨host, settingsOf e a⟩ a.command.location).run
        ((started a begun).noted (.settingsLoaded (settingsOf e a).display)) = (result, traversed))
      (settles : Settles host a.command result traversed.state settled making clearing handing
        exitCode) :
      Ends host e a state (complaining ++ making ++ clearing ++ handing) exitCode

/-! ### Settling the folders -/

theorem noteEach_watched (paths : List String) (s : Session (σ × List Deed)) : ∃ t,
    (paths.forM fun path => note (.temporaryKept path) : Step _ Unit).run s = ((), t) ∧
    (paths.forM fun path => note (.temporaryKept path) : Step _ Unit).run s.forget =
      ((), t.forget) ∧ t.state = s.state := by
  induction paths generalizing s with
  | nil => exact ⟨s, rfl, rfl, rfl⟩
  | cons path paths ih =>
    obtain ⟨t, run, run', same⟩ := ih (s.noted (.temporaryKept path))
    exact ⟨t, run, run', same⟩

theorem settleTemporary_watched (host : Host σ) (settings : Settings) (keep : Bool)
    (s : Session (σ × List Deed)) : ∃ t deeds,
      (settleTemporary ⟨host.watched, settings⟩ keep).run s = ((), t) ∧
      (settleTemporary ⟨host, settings⟩ keep).run s.forget = ((), t.forget) ∧
      t.state.2 = s.state.2 ++ deeds ∧
      (keep = true → deeds = [] ∧ t.state.1 = s.state.1) ∧
      (keep = false → Clearing host s.temporary s.state.1 deeds t.state.1) := by
  cases keep with
  | true =>
    obtain ⟨t, run, run', same⟩ := noteEach_watched s.temporary s
    exact ⟨t, [], run, run', by rw [same, List.append_nil], fun _ => ⟨rfl, by rw [same]⟩, nofun⟩
  | false =>
    obtain ⟨n, t, deeds, run, run', log, clearing⟩ := cleanUp_watched host settings s
    have clears {υ : Type} (c : Context υ) (s : Session υ) : (settleTemporary c false).run s =
        ((), (c.cleanUp.run s).2.noted (.temporaryCleared (c.cleanUp.run s).1)) := rfl
    refine ⟨t.noted (.temporaryCleared n), deeds, ?_, ?_, log, nofun, fun _ => clearing⟩
    · rw [clears, run]
    · rw [clears, run']
      rfl

theorem settled_of_recorded {record : List String} (recorded : Recorded making record)
    (keeps : keep = true → clearing = [] ∧ settled = traversed)
    (clears : keep = false → Clearing host record traversed clearing settled) :
    Settled host keep traversed settled making clearing := by
  have cleared (removes : keep = false) :
      Clearing host (triedIn making) traversed clearing settled :=
    recorded.lists ▸ clears removes
  constructor
  case onlyMaking => exact recorded.onlyMaking
  case onlyRemoving =>
    cases keep with
    | true =>
      rw [(keeps rfl).1]
      nofun
    | false => exact (clears rfl).onlyRemoving
  case kept => exact keeps
  case cleared => exact cleared
  case attempted =>
    intro removes truthful path here there
    exact (cleared removes).attempted truthful (mem_triedIn here) there

section

variable (is : Settled host keep traversed settled making clearing)

include is

theorem Settled.printedIn_eq_empty (channel : Channel) :
    printedIn channel (making ++ clearing) = "" := by
  refine OrchestrationGraph.printedIn_eq_empty fun d here => ?_
  rcases List.mem_append.mp here with made | removed
  · obtain ⟨path, result, rfl⟩ := is.onlyMaking d made
    rfl
  · obtain ⟨path, result, rfl⟩ := is.onlyRemoving d removed
    rfl

theorem Settled.not_brokenIn : ¬BrokenIn (making ++ clearing) := by
  rintro ⟨channel, text, error, here⟩
  rcases List.mem_append.mp here with made | removed
  · obtain ⟨path, result, isMaking⟩ := is.onlyMaking _ made
    exact nomatch isMaking
  · obtain ⟨path, result, isRemoving⟩ := is.onlyRemoving _ removed
    exact nomatch isRemoving

end

/-! ### Carrying out a command -/

section

variable {c : Context σ} {s t u : Session σ}

theorem carryOut_failed {f : Failure}
    (traverses : (c.traverse command.location).run
      (s.noted (.settingsLoaded c.settings.display)) = (.error f, t))
    (settles : (settleTemporary c command.keeps).run t = ((), u)) :
    (carryOut c command).run s = (conclude c.host command.output
      (.error ("Failed to traverse " ++ command.location ++ ": " ++ f.chain))).run u := by
  have fails : (traverseAndSettle c command).run (s.noted (.settingsLoaded c.settings.display)) =
      (.error ("Failed to traverse " ++ command.location ++ ": " ++ f.chain), u) :=
    (Step.run_bind_of traverses).trans (Step.run_bind_of settles)
  exact (Step.run_bind_of (run_note s _)).trans (Step.run_bind_of fails)

theorem carryOut_succeeded {r : Report} {left : List String}
    (traverses : (c.traverse command.location).run
      (s.noted (.settingsLoaded c.settings.display)) = (.ok r, t))
    (settles : (settleTemporary c command.keeps).run t = ((), u))
    (still : (r.temporary.filter fun path => c.host.hasEntry path u.state) = left) :
    (carryOut c command).run s = (conclude c.host command.output
      (command.content c.host.isText { r with temporary := left })).run u := by
  have reports : (traverseAndSettle c command).run
      (s.noted (.settingsLoaded c.settings.display)) = (.ok { r with temporary := left }, u) := by
    rw [← still]
    exact (Step.run_bind_of traverses).trans (Step.run_bind_of settles)
  exact (Step.run_bind_of (run_note s _)).trans (Step.run_bind_of reports)

end

theorem succeeds_of_hands {result : Except Failure Report} {said : Except String String}
    {handing : List Deed} {exitCode : Nat}
    (spoken : Says host.isText command (result.map (remaining host making settled)) said)
    (hands : Hands host command.output settled said handing exitCode) :
    exitCode = 0 ↔ ∃ r text, result = .ok r ∧
      Says host.isText command (.ok (remaining host making settled r)) (.ok text) ∧
      handed host command.output text settled = .ok () := by
  rw [hands.succeeds]
  constructor
  · rintro ⟨text, rfl, takes⟩
    cases result with
    | error f => exact nomatch spoken
    | ok r => exact ⟨r, text, rfl, spoken, takes⟩
  · rintro ⟨r, text, rfl, spoken', takes⟩
    exact ⟨text, spoken.unique spoken', takes⟩

/-- A command makes folders, then clears them away, and then hands out or tells an error. -/
theorem closes_carryOut (host : Host σ) (settings : Settings) (command : Command)
    (s : Session (σ × List Deed)) (fresh : s.temporary = []) :
    Closes (carryOut ⟨host.watched, settings⟩ command) (carryOut ⟨host, settings⟩ command) s
      fun deeds exitCode => ∃ result traversed settled making clearing handing,
        (Context.traverse ⟨host, settings⟩ command.location).run
          (s.forget.noted (.settingsLoaded settings.display)) = (result, traversed) ∧
        deeds = making ++ clearing ++ handing ∧
        Settles host command result traversed.state settled making clearing handing exitCode := by
  obtain ⟨result, t, making, traverses, traverses', made, recorded, success⟩ :=
    traverse_watched host settings command.location (s.noted (.settingsLoaded settings.display))
      fresh
  obtain ⟨u, clearing, settles, settles', cleared, keeps, clears⟩ :=
    settleTemporary_watched host settings command.keeps t
  have traverses' : (Context.traverse ⟨host, settings⟩ command.location).run
      (s.forget.noted (.settingsLoaded settings.display)) = (result, t.forget) := traverses'
  have settled := settled_of_recorded recorded keeps clears
  -- What is said does not depend on the watching, so both runs end in the same way.
  suffices ends : ∃ said,
      (carryOut ⟨host.watched, settings⟩ command).run s =
        (conclude host.watched command.output said).run u ∧
      (carryOut ⟨host, settings⟩ command).run s.forget =
        (conclude host command.output said).run u.forget ∧
      Says host.isText command (result.map (remaining host making u.state.1)) said by
    obtain ⟨said, carries, carries', spoken⟩ := ends
    obtain ⟨close, v, handing, run, run', handed, hands, stdout⟩ :=
      closes_conclude host command.output said u
    refine ⟨close, v, making ++ clearing ++ handing, carries.trans run, carries'.trans run', ?_,
      ⟨result, t.forget, u.state.1, making, clearing, handing, traverses', rfl, ?_⟩, ?_⟩
    · rw [handed, cleared, made]
      simp only [List.append_assoc]
      rfl
    · exact { settled with
        hands := ⟨said, spoken, hands⟩, succeeds := succeeds_of_hands spoken hands }
    · rw [stdout, printedIn_append, settled.printedIn_eq_empty, String.empty_append]
  cases result with
  | error f =>
    exact ⟨_, carryOut_failed (c := ⟨host.watched, settings⟩) traverses settles,
      carryOut_failed (c := ⟨host, settings⟩) traverses' settles', .failed⟩
  | ok r =>
    obtain ⟨all, lists⟩ := success r rfl
    -- The report is as old as the end of the traversal, but its folders are looked for now.
    have still : (r.temporary.filter fun path => host.hasEntry path u.state.1) =
        (madeIn making).filter fun path => host.hasEntry path u.state.1 := by
      rw [lists, recorded.lists, all]
    exact ⟨_, carryOut_succeeded (c := ⟨host.watched, settings⟩) traverses settles still,
      carryOut_succeeded (c := ⟨host, settings⟩) traverses' settles' still,
      says_content host.isText command _⟩

/-! ### Runs of the program -/

/-- The ending without the log. -/
def Ending.forget (ending : Ending (σ × List Deed)) : Ending σ where
  exitCode := ending.exitCode
  stdout := ending.stdout
  complaints := ending.complaints
  records := ending.records
  lines := ending.lines
  error := ending.error
  session := ending.session.forget

variable {e : Environment} {words : List String} {a : Arguments} {state state' : σ}
  {lines : List String} {deeds : List Deed} {told : Except FileError Unit} {exitCode : Nat}

theorem complain_taken (host : Host σ) {complaint : String} {s : Session σ}
    (takes : (host.print .error (complaint ++ "\n") s.state).1 = .ok ()) :
    (complain host (complaint :: lines)).run s =
      (complain host lines).run (s.done (host.print .error (complaint ++ "\n"))) := by
  refine (Step.run_bind_of (run_perform s _)).trans ?_
  rw [takes]

theorem complain_refused (host : Host σ) {complaint : String} {s : Session σ} {error : FileError}
    (refuses : (host.print .error (complaint ++ "\n") s.state).1 = .error error) :
    (complain host (complaint :: lines)).run s =
      (.error error, s.done (host.print .error (complaint ++ "\n"))) := by
  refine (Step.run_bind_of (run_perform s _)).trans ?_
  rw [refuses]
  rfl

theorem complain_watched (host : Host σ) (lines : List String) (s : Session (σ × List Deed)) :
    ∃ told w deeds, (complain host.watched lines).run s = (told, { s with state := w }) ∧
      (complain host lines).run s.forget = (told, { s.forget with state := w.1 }) ∧
      w.2 = s.state.2 ++ deeds ∧ Complaining host lines s.state.1 deeds told w.1 := by
  induction lines generalizing s with
  | nil => exact ⟨.ok (), s.state, [], rfl, rfl, (List.append_nil _).symm, .nil _⟩
  | cons complaint lines ih =>
    cases prints : (host.print .error (complaint ++ "\n") s.state.1).1 with
    | error error => exact ⟨.error error, _, _, complain_refused host.watched prints,
        complain_refused host (s := s.forget) prints, log_printed prints, .untold prints⟩
    | ok u =>
      obtain ⟨told, w, deeds, run, run', log, rest⟩ :=
        ih (s.done (host.watched.print .error (complaint ++ "\n")))
      refine ⟨told, w, _, (complain_taken host.watched prints).trans run,
        (complain_taken host (s := s.forget) prints).trans run', ?_, .told prints rest⟩
      rw [log, log_printed prints, List.append_assoc]
      rfl

theorem Complaining.printedIn_eq_empty (complains : Complaining host lines state deeds told state') :
    printedIn .output deeds = "" := by
  refine OrchestrationGraph.printedIn_eq_empty ?_
  induction complains with
  | nil => exact List.forall_mem_nil _
  | told _ _ ih => exact List.forall_mem_cons.mpr ⟨rfl, ih⟩
  | untold _ => exact List.forall_mem_cons.mpr ⟨rfl, List.forall_mem_nil _⟩

theorem Complaining.brokenIn_iff (complains : Complaining host lines state deeds told state') :
    BrokenIn deeds ↔ told ≠ .ok () := by
  induction complains with
  | nil => exact iff_of_false not_brokenIn_nil (absurd rfl)
  | told _ _ ih => rw [brokenIn_cons, or_iff_right (not_brokenIn_taken _ _), ih]
  | untold _ => exact iff_of_true (brokenIn_singleton.mpr ⟨_, _, _, rfl⟩) nofun

theorem start_silenced {s t : Session σ} {error : FileError}
    (complains : (complain host (complaints e a)).run s = (.error error, t)) :
    (start host e a).run s = (.broken .error error, t) :=
  Step.run_bind_of complains

theorem start_heard {s t : Session σ}
    (complains : (complain host (complaints e a)).run s = (.ok (), t)) :
    (start host e a).run s = (perform host e a).run t :=
  Step.run_bind_of complains

theorem run_perform (host : Host σ) (state : σ)
    (accepted : (settingsOf e a).refusal? host state = none) :
    (perform host e a).run { state } =
      (carryOut ⟨host, settingsOf e a⟩ a.command).run (started a state) := by
  unfold settingsOf at accepted
  unfold perform
  refine (Step.run_bind_of (run_note _ _)).trans ((Step.run_bind_of (run_note _ _)).trans ?_)
  refine (Step.run_bind_of (run_get _)).trans ?_
  rw [Session.state_noted, Session.state_noted, accepted]
  rfl

theorem closes_start (accepted : ∀ complaining begun,
      Complaining host (complaints e a) state complaining (.ok ()) begun →
        (settingsOf e a).refusal? host begun = none) :
    Closes (start host.watched e a) (start host e a) { state := (state, []) }
      (Ends host e a state) := by
  obtain ⟨told, w, complaining, complain, complain', log, complains⟩ :=
    complain_watched host (complaints e a) { state := (state, []) }
  cases told with
  | error error =>
    exact ⟨_, _, complaining, start_silenced complain, start_silenced complain', log,
      .silenced complains, complains.printedIn_eq_empty.symm⟩
  | ok u =>
    have settings := accepted complaining w.1 complains
    obtain ⟨close, t, _, carries, carries', log',
        ⟨result, traversed, settled, making, clearing, handing, traverses, rfl, settles⟩, stdout⟩ :=
      closes_carryOut host (settingsOf e a) a.command (started a w) rfl
    have performs := (run_perform host.watched w settings).trans carries
    have performs' := (run_perform host w.1 settings).trans carries'
    refine ⟨close, t, complaining ++ (making ++ clearing ++ handing),
      (start_heard complain).trans performs, (start_heard complain').trans performs', ?_, ?_, ?_⟩
    · rw [← List.append_assoc, ← log]
      exact log'
    · rw [← List.append_assoc, ← List.append_assoc]
      exact .settled complains traverses settles
    · rw [printedIn_append, complains.printedIn_eq_empty, String.empty_append, stdout]

theorem Ends.breaks (ends : Ends host e a state deeds exitCode) :
    exitCode = 101 ↔ BrokenIn deeds := by
  cases ends with
  | silenced complains => exact iff_of_true rfl (complains.brokenIn_iff.mpr nofun)
  | settled complains traverses settles =>
    obtain ⟨said, -, hands⟩ := settles.hands
    have heard := complains.brokenIn_iff.not.mpr (not_not_intro rfl)
    have apart := settles.not_brokenIn
    rw [brokenIn_append, not_or] at apart
    simp only [hands.breaks, brokenIn_append, heard, apart.1, apart.2, false_or]

theorem Ends.otherwise (ends : Ends host e a state deeds exitCode) :
    exitCode = 0 ∨ exitCode = 1 ∨ exitCode = 101 := by
  cases ends with
  | silenced complains => exact .inr (.inr rfl)
  | settled complains traverses settles =>
    obtain ⟨said, -, hands⟩ := settles.hands
    exact hands.otherwise

section

variable {close : Close} {t : Session σ} (parsed : Arguments.ofWords words = .ok a)

include parsed

theorem run_closed (starts : (start host e a).run { state } = (close, t)) :
    (run host e words state).exitCode = close.exitCode ∧
      (run host e words state).stdout = close.stdout ∧ (run host e words state).session = t := by
  unfold run
  rw [parsed]
  dsimp only
  rw [starts]
  exact ⟨rfl, rfl, rfl⟩

theorem forget_run {t : Session (σ × List Deed)}
    (starts : (start host.watched e a).run { state := (state, []) } = (close, t))
    (starts' : (start host e a).run { state } = (close, t.forget)) :
    (run host.watched e words (state, [])).forget = run host e words state := by
  unfold run
  rw [parsed]
  dsimp only
  rw [starts, starts']
  rfl

end

/-- The watched host leads to the run that the host itself leads to, and its log shows how the run
settles: what it prints, and what its exit code says. -/
theorem run_settles (parsed : Arguments.ofWords words = .ok a)
    (accepted : ∀ complaining begun,
      Complaining host (complaints e a) state complaining (.ok ()) begun →
        (settingsOf e a).refusal? host begun = none) :
    ∃ log, (run host.watched e words (state, [])).session.state.2 = log ∧
      (run host.watched e words (state, [])).forget = run host e words state ∧
      Ends host e a state log (run host e words state).exitCode ∧
      (run host e words state).stdout = printedIn .output log ∧
      ((run host e words state).exitCode = 101 ↔ BrokenIn log) ∧
      ((run host e words state).exitCode = 0 ∨ (run host e words state).exitCode = 1 ∨
        (run host e words state).exitCode = 101) := by
  obtain ⟨close, t, log, starts, starts', logged, ends, stdout⟩ := closes_start accepted
  obtain ⟨exitCode, printed, -⟩ := run_closed parsed starts'
  obtain ⟨-, -, session⟩ := run_closed parsed starts
  rw [exitCode, printed, session]
  exact ⟨log, logged, forget_run parsed starts starts', ends, stdout, ends.breaks, ends.otherwise⟩

/-! The traversal of a repository on a shelf, where no tool can be started: the folder for the clone
is made and removed, and then the error is told. -/

def shelfWords : List String := ["traverse", "https://host/team/repository"]

def shelfArguments : Arguments where
  command := .traverse "https://host/team/repository" .human none false
  logLevel := none
  verbose := false
  quiet := false

def shelf : Temporary.Shelf := { folders := ["/tmp"] }

def shelfLog : List Deed := [
  .making "/tmp/funcgraph-clone-0" (.ok ()), .removing "/tmp/funcgraph-clone-0" (.ok ()),
  .printing .error ("Error: Failed to traverse https://host/team/repository: Failed to clone " ++
    "https://host/team/repository.git: No such file or directory (os error 2)\n") (.ok ())]

theorem run_settles_shelf :
    Arguments.ofWords shelfWords = .ok shelfArguments ∧
      (∀ complaining begun,
        Complaining Temporary.Shelf.host (complaints [] shelfArguments) shelf complaining (.ok ())
          begun → (settingsOf [] shelfArguments).refusal? Temporary.Shelf.host begun = none) ∧
      (run Temporary.Shelf.host.watched [] shelfWords (shelf, [])).session.state.2 = shelfLog ∧
      ∃ log, (run Temporary.Shelf.host.watched [] shelfWords (shelf, [])).session.state.2 = log ∧
        (run Temporary.Shelf.host.watched [] shelfWords (shelf, [])).forget =
          run Temporary.Shelf.host [] shelfWords shelf ∧
        Ends Temporary.Shelf.host [] shelfArguments shelf log
          (run Temporary.Shelf.host [] shelfWords shelf).exitCode ∧
        (run Temporary.Shelf.host [] shelfWords shelf).stdout = printedIn .output log ∧
        ((run Temporary.Shelf.host [] shelfWords shelf).exitCode = 101 ↔ BrokenIn log) ∧
        ((run Temporary.Shelf.host [] shelfWords shelf).exitCode = 0 ∨
          (run Temporary.Shelf.host [] shelfWords shelf).exitCode = 1 ∨
          (run Temporary.Shelf.host [] shelfWords shelf).exitCode = 101) := by
  have parsed : Arguments.ofWords shelfWords = .ok shelfArguments := rfl
  have accepted : ∀ complaining begun,
      Complaining Temporary.Shelf.host (complaints [] shelfArguments) shelf complaining (.ok ())
        begun → (settingsOf [] shelfArguments).refusal? Temporary.Shelf.host begun = none := by
    intro complaining begun complains
    have none : complaints [] shelfArguments = [] := rfl
    rw [none] at complains
    cases complains
    decide +kernel
  exact ⟨parsed, accepted, rfl, run_settles parsed accepted⟩

/-! A host with a compiled project that has no functions. When the traversal is over, a file has taken
the place of the folder for the compiled project. -/

def swapping (output : Except FileError Unit) : Host (Option EntryKind) where
  isText _ := true
  hasEntry path publication := path = "/tmp" || path = "/p" || publication.isSome
  hasFolder path publication := path = "/tmp" || path = "/p" || publication = some .folder
  readText _ _ := .error .missing
  list path _ := .ok (if path = "/p" then [("App.sln", .file), ("host.json", .file)] else [])
  tree _ _ := .ok (.folder [("App.sln", .file), ("host.json", .file)])
  writeText _ _ publication := (.ok (), publication)
  createFolder _ _ := (.ok (), some .folder)
  removeFolder _ publication :=
    if publication = some .folder then (.ok (), none) else (.error .notFolder, publication)
  freshName publication := ("0", publication)
  run _ publication :=
    (.ok { success := true, code := some 0, stdout := "", stderr := "" }, publication)
  hear e publication :=
    match e with
    | .completed _ => some .file
    | _ => publication
  isInterrupted publication := (false, publication)
  print channel _ publication := (if channel = .output then output else .ok (), publication)

def swappedWords : List String := ["traverse", "/p"]

/-- The path is listed although no folder is there any more, and with a standard output that takes
nothing the exit code is neither that of success nor that of an error. -/
theorem run_not_settled :
    (run (swapping (.ok ())) [] swappedWords none).exitCode = 0 ∧
      (run (swapping (.ok ())) [] swappedWords none).stdout = Report.front {} .human ++
        Report.listing ["/tmp/funcgraph-publish-0"] .human ++ "\n" ∧
      (swapping (.ok ())).hasFolder "/tmp/funcgraph-publish-0"
        (run (swapping (.ok ())) [] swappedWords none).session.state = false ∧
      (run (swapping (.error .noSpace)) [] swappedWords none).session.events.getLast? =
        some (.completed 0) ∧
      (run (swapping (.error .noSpace)) [] swappedWords none).exitCode = 101 := by
  decide +kernel

end OrchestrationGraph.CommandLine
