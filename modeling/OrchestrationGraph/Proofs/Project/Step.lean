import OrchestrationGraph.Project.Root
import OrchestrationGraph.Project.Runtime

/-!
# Runs of steps

An action is the sequence of its parts: it yields a value exactly if each of them does, each in the
session that the one before it left (`yields_bind`). If each part leads from a session to one that is
related to it, so does the whole (`Moves.bind`, `Moves.bindAction`). That is used for relations that
hold whatever the host does and whatever is noted on the way (`Lasting`): what a run tells (`Told`),
and that it leaves the record of temporary folders as it is (`SameRecord`).
-/

namespace OrchestrationGraph

variable {σ α β : Type}

namespace Session

/-- The session after the host has done something. -/
def done (s : Session σ) (deed : σ → α × σ) : Session σ := { s with state := (deed s.state).2 }

def noted (s : Session σ) (n : Note) : Session σ := { s with journal := s.journal ++ [.note n] }

@[simp] theorem state_noted (s : Session σ) (n : Note) : (s.noted n).state = s.state := rfl

theorem events_noted (s : Session σ) (n : Note) : (s.noted n).events = s.events := by
  simp [events, noted, Entry.event?]

end Session

namespace Context

/-- The session after an event is reported. -/
def reported (c : Context σ) (e : Event) (s : Session σ) : Session σ :=
  { s with state := c.host.hear e s.state, journal := s.journal ++ [.event e] }

theorem events_reported (c : Context σ) (e : Event) (s : Session σ) :
    (c.reported e s).events = s.events ++ [e] := by
  simp [Session.events, reported, Entry.event?]

end Context

/-! ### Runs -/

section

variable (s : Session σ)

theorem Step.run_bind (x : Step σ α) (k : α → Step σ β) :
    (x >>= k).run s = (k (x.run s).1).run (x.run s).2 := rfl

theorem run_ask (question : σ → α) : (ask question : Step σ α).run s = (question s.state, s) := rfl

theorem run_get : (get : Step σ (Session σ)).run s = (s, s) := rfl

theorem run_note (n : Note) : (note n : Step σ Unit).run s = ((), s.noted n) := rfl

theorem run_perform (deed : σ → α × σ) :
    (perform deed : Step σ α).run s = ((deed s.state).1, s.done deed) := rfl

theorem run_report (c : Context σ) (e : Event) :
    (c.report e : Step σ Unit).run s = ((), c.reported e s) := rfl

theorem run_perform_bind (deed : σ → α × σ) (k : α → Action σ β) :
    (perform deed >>= k).run.run s = (k (deed s.state).1).run.run (s.done deed) := rfl

theorem run_recordTemporary_bind (path : String) (k : Unit → Action σ β) :
    (recordTemporary path >>= k).run.run s =
      (k ()).run.run { s with temporary := recorded s.temporary path } := rfl

end

theorem Step.run_bind_of {x : Step σ α} {k : α → Step σ β} {s t : Session σ} {a : α}
    (run : x.run s = (a, t)) : (x >>= k).run s = (k a).run t := by
  rw [Step.run_bind, run]

/-! ### Values -/

/-- The action succeeds with a value and leaves a session. -/
def Yields (x : Action σ α) (s : Session σ) (a : α) (s' : Session σ) : Prop :=
  x.run.run s = (.ok a, s')

section

variable {s s' : Session σ} {a a' : α} {b : β}

theorem run_bind (x : Action σ α) (k : α → Action σ β) (s : Session σ) :
    (x >>= k).run.run s = match x.run.run s with
      | (.ok a, t) => (k a).run.run t
      | (.error f, t) => (.error f, t) := by
  rw [ExceptT.run_bind, StateT.run_bind]
  rcases x.run.run s with ⟨f | a, t⟩ <;> rfl

theorem yields_bind {x : Action σ α} {k : α → Action σ β} :
    Yields (x >>= k) s b s' ↔ ∃ a t, Yields x s a t ∧ Yields (k a) t b s' := by
  unfold Yields
  rw [run_bind]
  rcases x.run.run s with ⟨f | a, t⟩
  · constructor
    · intro failed
      cases failed
    · rintro ⟨_, _, failed, _⟩
      cases failed
  · constructor
    · exact fun yields => ⟨a, t, rfl, yields⟩
    · rintro ⟨_, _, same, yields⟩
      cases same
      exact yields

theorem yields_iff {x : Action σ α} {s t : Session σ} (ends : x.run.run s = (.ok a', t)) :
    Yields x s a s' ↔ a' = a ∧ t = s' := by
  unfold Yields
  rw [ends]
  constructor
  · intro same
    cases same
    exact ⟨rfl, rfl⟩
  · rintro ⟨rfl, rfl⟩
    rfl

theorem yields_of_result {x : Action σ α} (is : (x.run.run s).1 = .ok a) :
    Yields x s a (x.run.run s).2 :=
  Prod.ext is rfl

theorem yields_get {x : Action σ α} (ok : (x.run.run s).1.toOption.isSome = true) :
    Yields x s ((x.run.run s).1.toOption.get ok) (x.run.run s).2 := by
  refine yields_of_result ?_
  revert ok
  cases (x.run.run s).1 with
  | ok a => exact fun _ => rfl
  | error f => exact fun no => nomatch no

theorem yields_pure : Yields (pure a') s a s' ↔ a' = a ∧ s = s' := yields_iff rfl

theorem yields_throw {f : Failure} : ¬ Yields (throw f : Action σ α) s a s' := by
  intro yields
  cases yields

theorem yields_ask {question : σ → α} :
    Yields (ask question) s a s' ↔ question s.state = a ∧ s = s' := yields_iff rfl

theorem yields_perform {deed : σ → α × σ} :
    Yields (perform deed) s a s' ↔ (deed s.state).1 = a ∧ s.done deed = s' := yields_iff rfl

theorem yields_lift {x : Step σ α} :
    Yields (x : Action σ α) s a s' ↔ (x.run s).1 = a ∧ (x.run s).2 = s' := yields_iff rfl

theorem yields_report {c : Context σ} {e : Event} {u : Unit} :
    Yields (c.report e) s u s' ↔ c.reported e s = s' :=
  (yields_iff rfl).trans (and_iff_right rfl)

end

/-! ### Relations along a run -/

/-- The step leads from each session to one that is related to it. -/
def Moves (R : Session σ → Session σ → Prop) (x : Step σ α) : Prop := ∀ s, R s (x.run s).2

/-- A relation between sessions that holds whatever the host does and whatever is noted. -/
class Lasting (R : Session σ → Session σ → Prop) : Prop where
  refl : ∀ s, R s s
  trans : ∀ s t u, R s t → R t u → R s u
  state : ∀ (s : Session σ) (state : σ), R s { s with state }
  noted : ∀ (s : Session σ) (n : Note), R s (s.noted n)

variable {R : Session σ → Session σ → Prop}

namespace Moves

theorem bind [Lasting R] {x : Step σ α} {k : α → Step σ β} (first : Moves R x)
    (next : ∀ a, Moves R (k a)) : Moves R (x >>= k) :=
  fun s => Lasting.trans s _ _ (first s) (next (x.run s).1 (x.run s).2)

theorem pure [Lasting R] (a : α) : Moves R (Pure.pure a : Step σ α) := Lasting.refl

theorem ask [Lasting R] (question : σ → α) : Moves R (ask question : Step σ α) := Lasting.refl

theorem perform [Lasting R] (deed : σ → α × σ) : Moves R (perform deed : Step σ α) :=
  fun s => Lasting.state s _

theorem note [Lasting R] (n : Note) : Moves R (note n : Step σ Unit) := fun s => Lasting.noted s n

theorem report {c : Context σ} {e : Event} (allowed : ∀ s, R s (c.reported e s)) :
    Moves R (c.report e : Step σ Unit) := allowed

theorem bindAction [Lasting R] {x : Action σ α} {k : α → Action σ β} (first : Moves R x.run)
    (next : ∀ a, Moves R (k a).run) : Moves R (x >>= k).run := by
  rw [ExceptT.run_bind]
  refine bind first fun result => ?_
  cases result with
  | ok a => exact next a
  | error f => exact pure _

theorem yields {x : Action σ α} {s t : Session σ} {a : α} (moves : Moves R x.run)
    (yields : Yields x s a t) : R s t := by
  have moved := moves s
  rwa [show x.run.run s = (.ok a, t) from yields] at moved

/-- What the rest of an action does, whatever its first part was. -/
theorem after [Lasting R] {x : Action σ α} {k : α → Action σ β} (next : ∀ a, Moves R (k a).run)
    (s : Session σ) : R (x.run.run s).2 ((x >>= k).run.run s).2 := by
  rw [run_bind]
  rcases x.run.run s with ⟨f | a, t⟩
  · exact Lasting.refl t
  · exact next a t

theorem pureAction [Lasting R] (a : α) : Moves R (Pure.pure a : Action σ α).run := Lasting.refl

theorem throw [Lasting R] (f : Failure) : Moves R (throw f : Action σ α).run := Lasting.refl

theorem askAction [Lasting R] (question : σ → α) :
    Moves R (OrchestrationGraph.ask question : Action σ α).run := Lasting.refl

theorem performAction [Lasting R] (deed : σ → α × σ) :
    Moves R (OrchestrationGraph.perform deed : Action σ α).run :=
  fun s => Lasting.state s _

theorem noteAction [Lasting R] (n : Note) :
    Moves R (OrchestrationGraph.note n : Action σ Unit).run :=
  fun s => Lasting.noted s n

theorem reportAction {c : Context σ} {e : Event} (allowed : ∀ s, R s (c.reported e s)) :
    Moves R (c.report e : Action σ Unit).run := allowed

theorem lift {x : Step σ α} (moves : Moves R x) : Moves R (x : Action σ α).run := moves

end Moves

/-- Whatever is told between two sessions is allowed. -/
def Told (allowed : Event → Prop) (s t : Session σ) : Prop :=
  ∃ more, t.events = s.events ++ more ∧ ∀ e ∈ more, allowed e

variable {allowed : Event → Prop}

theorem told_of_events_eq {s t : Session σ} (same : t.events = s.events) : Told allowed s t :=
  ⟨[], by rw [same, List.append_nil], by simp⟩

instance : Lasting (Told (σ := σ) allowed) where
  refl s := told_of_events_eq rfl
  trans s t u := by
    rintro ⟨more, events, each⟩ ⟨more', events', each'⟩
    refine ⟨more ++ more', ?_, ?_⟩
    · rw [events', events, List.append_assoc]
    · intro e here
      exact (List.mem_append.mp here).elim (each e) (each' e)
  state s _ := told_of_events_eq rfl
  noted s n := told_of_events_eq (s.events_noted n)

theorem Told.trans {s t u : Session σ} (first : Told allowed s t) (next : Told allowed t u) :
    Told allowed s u :=
  Lasting.trans s t u first next

theorem told_reported (c : Context σ) {e : Event} (isAllowed : allowed e) (s : Session σ) :
    Told allowed s (c.reported e s) :=
  ⟨[e], c.events_reported e s, by simpa using isAllowed⟩

theorem Told.mono {more : Event → Prop} {s t : Session σ} (told : Told allowed s t)
    (wider : ∀ e, allowed e → more e) : Told more s t := by
  obtain ⟨events, same, each⟩ := told
  exact ⟨events, same, fun e here => wider e (each e here)⟩

theorem Told.events_eq {s t : Session σ} (told : Told (fun _ => False) s t) : t.events = s.events := by
  obtain ⟨more, events, none⟩ := told
  rw [events, List.eq_nil_iff_forall_not_mem.mpr none, List.append_nil]

def SameRecord (s t : Session σ) : Prop := t.temporary = s.temporary

instance : Lasting (SameRecord (σ := σ)) where
  refl _ := rfl
  trans _ _ _ same same' := same'.trans same
  state _ _ := rfl
  noted _ _ := rfl

/-! ### Steps that tell nothing -/

theorem moves_checkpoint [Lasting R] (c : Context σ) : Moves R c.checkpoint.run := by
  refine .bindAction (.performAction _) fun interrupted => ?_
  split
  · exact .throw _
  · exact .pureAction _

theorem moves_runTool [Lasting R] (c : Context σ) (command : Tool.Command) :
    Moves R (c.runTool command) := by
  refine .bind (.note _) fun _ => .bind (.perform _) fun result => ?_
  split
  · exact .bind (.note _) fun _ => .pure _
  · exact .pure _

theorem moves_createTemporary [Lasting R] (c : Context σ) (title : String)
    (records : ∀ path, Moves R (recordTemporary path : Action σ Unit).run) :
    Moves R (c.createTemporary title).run := by
  refine .bindAction (.performAction _) fun name => .bindAction (records _) fun _ =>
    .bindAction (.performAction _) fun made => ?_
  split
  · exact .throw _
  · exact .bindAction (.noteAction _) fun _ => .pureAction _

/-- What is done with the end of a tool, whatever the failures are. -/
theorem moves_outcome [Lasting R] {unstarted : FileError → Failure}
    {unsuccessful : Tool.Outcome → Failure} {n : Note} {a : α}
    (ended : Except FileError Tool.Outcome) :
    Moves R (do
      match ended with
      | .error e => throw (unstarted e)
      | .ok outcome =>
        if !outcome.success then throw (unsuccessful outcome)
        note n
        return a : Action σ α).run := by
  split
  · exact .throw _
  · split
    · exact .bindAction (.throw _) fun _ => .bindAction (.noteAction _) fun _ => .pureAction _
    · exact .bindAction (.noteAction _) fun _ => .pureAction _

/-- What a clone does after its folder was to be made. -/
theorem clone_after [Lasting R] (c : Context σ) (url : String)
    (reports : ∀ target s, R s (c.reported (.cloneStarted url target) s)) (s : Session σ) :
    R ((c.createTemporary "funcgraph-clone-").run.run s).2 ((c.clone url).run.run s).2 :=
  Moves.after (fun _ => .bindAction (.reportAction (reports _)) fun _ =>
    .bindAction (moves_runTool c _) fun ended => moves_outcome ended) s

/-- What publishing does after its folder was to be made. -/
theorem publish_after [Lasting R] (c : Context σ) (project : String)
    (reports : ∀ output s, R s (c.reported (.publishStarted project output) s)) (s : Session σ) :
    R ((c.createTemporary "funcgraph-publish-").run.run s).2 ((c.publish project).run.run s).2 :=
  Moves.after (fun _ => .bindAction (.reportAction (reports _)) fun _ =>
    .bindAction (moves_runTool c _) fun ended => moves_outcome ended) s

end OrchestrationGraph
