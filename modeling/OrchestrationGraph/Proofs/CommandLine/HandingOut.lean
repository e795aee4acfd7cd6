import OrchestrationGraph.CommandLine.Run
import OrchestrationGraph.Proofs.Project.Watched
import OrchestrationGraph.Proofs.Report.Listing

/-!
# Handing out

What a command says of the result of its traversal (`Says`), where that goes, and the exit code that
follows (`Hands`). Success means that there was a text and that it was taken where it was to go; a
channel that does not take what is printed on it has an exit code of its own.
-/

namespace OrchestrationGraph

/-- The text that was printed on a channel. -/
def Deed.printed? (channel : Channel) : Deed → Option String
  | printing other text (.ok _) => if other = channel then some text else none
  | _ => none

def printedIn (channel : Channel) (deeds : List Deed) : String :=
  String.join (deeds.filterMap (Deed.printed? channel))

/-- A channel did not take what was to be printed on it. -/
def BrokenIn (deeds : List Deed) : Prop :=
  ∃ channel text error, Deed.printing channel text (.error error) ∈ deeds

theorem printedIn_append (channel : Channel) (deeds later : List Deed) :
    printedIn channel (deeds ++ later) = printedIn channel deeds ++ printedIn channel later := by
  unfold printedIn
  rw [List.filterMap_append, String.join_append]

theorem printedIn_eq_empty {channel : Channel} {deeds : List Deed}
    (none : ∀ d ∈ deeds, d.printed? channel = none) : printedIn channel deeds = "" := by
  unfold printedIn
  rw [List.filterMap_eq_nil_iff.mpr none, String.join_nil]

theorem not_brokenIn_nil : ¬BrokenIn [] := fun ⟨_, _, _, here⟩ => List.not_mem_nil here

theorem brokenIn_append {deeds later : List Deed} :
    BrokenIn (deeds ++ later) ↔ BrokenIn deeds ∨ BrokenIn later := by
  simp only [BrokenIn, List.mem_append, exists_or]

theorem brokenIn_singleton {d : Deed} :
    BrokenIn [d] ↔ ∃ channel text error, d = .printing channel text (.error error) := by
  simp only [BrokenIn, List.mem_singleton, eq_comm]

theorem not_brokenIn_taken (channel : Channel) (text : String) :
    ¬BrokenIn [.printing channel text (.ok ())] :=
  brokenIn_singleton.not.mpr nofun

theorem brokenIn_cons {d : Deed} {deeds : List Deed} :
    BrokenIn (d :: deeds) ↔ BrokenIn [d] ∨ BrokenIn deeds :=
  @brokenIn_append [d] deeds

namespace CommandLine

variable {σ : Type} {host : Host σ} {settings : Settings} {command : Command}
  {isText : String → Bool} {r : Report} {text message : String}

/-! ### Texts for reports -/

/-- What a command says of a result: a text, or an error. -/
inductive Says (isText : String → Bool) :
    Command → Except Failure Report → Except String String → Prop
  | failed {command : Command} {f : Failure} : Says isText command (.error f)
      (.error ("Failed to traverse " ++ command.location ++ ": " ++ f.chain))
  | listed {location : String} {format : Report.Format} {output : Option String} {keep : Bool}
      {r : Report} (exact : format = .human ∨ ∀ path ∈ r.paths, isText path = true) :
      Says isText (.traverse location format output keep) (.ok r)
        (.ok (Report.front r.graph format ++ Report.listing r.temporary format))
  | drawn {location : String} {output : Option String} {keep : Bool} {r : Report} :
      Says isText (.diagram location output keep) (.ok r) (.ok (Diagram.render r.graph))
  | untold {location path name : String} {format : Report.Format} {output : Option String}
      {keep : Bool} {r : Report} (strict : format.strictName? = some name) (here : path ∈ r.paths)
      (noText : isText path = false) :
      Says isText (.traverse location format output keep) (.ok r)
        (.error ("Failed to serialize traversal result to " ++ name ++
          ": path contains invalid UTF-8 characters"))

theorem strictName?_eq_none_iff {f : Report.Format} : f.strictName? = none ↔ f = .human := by
  cases f <;> decide

theorem says_content (isText : String → Bool) (command : Command) (r : Report) :
    Says isText command (.ok r) (command.content isText r) := by
  cases command with
  | diagram location output keep => exact .drawn
  | traverse location format output keep =>
    show Says isText _ _ (r.tell isText format)
    unfold Report.tell
    cases strict : format.strictName? with
    | none =>
      dsimp only
      rw [Report.render_eq_front_listing]
      exact .listed (.inl (strictName?_eq_none_iff.mp strict))
    | some name =>
      dsimp only
      split
      next all =>
        rw [Report.render_eq_front_listing]
        exact .listed (.inr (List.all_eq_true.mp all))
      next some =>
        obtain ⟨path, here, noText⟩ := List.all_eq_false.mp (Bool.eq_false_iff.mpr some)
        exact .untold strict here (Bool.eq_false_iff.mpr noText)

theorem not_listed_untold {format : Report.Format} {path name : String}
    (exact : format = .human ∨ ∀ path ∈ r.paths, isText path = true)
    (strict : format.strictName? = some name) (here : path ∈ r.paths)
    (noText : isText path = false) : False := by
  rcases exact with rfl | all
  · exact nomatch strict
  · exact Bool.false_ne_true (noText.symm.trans (all path here))

theorem Says.unique {result : Except Failure Report} {said said' : Except String String}
    (spoken : Says isText command result said) (spoken' : Says isText command result said') :
    said = said' := by
  cases spoken with
  | failed => cases spoken'; rfl
  | drawn => cases spoken'; rfl
  | listed exact =>
    cases spoken' with
    | listed _ => rfl
    | untold strict here noText => exact (not_listed_untold exact strict here noText).elim
  | untold strict here noText =>
    cases spoken' with
    | listed exact => exact (not_listed_untold exact strict here noText).elim
    | untold strict' _ _ =>
      cases strict.symm.trans strict'
      rfl

/-! ### Where texts and errors go -/

/-- What comes of a text where it is to go. -/
def handed (host : Host σ) (output : Option String) (text : String) (state : σ) :
    Except FileError Unit :=
  output.elim (host.print .output (text ++ "\n") state).1 fun path =>
    (host.writeText path text state).1

/-- An error is told on the error channel. -/
inductive Tells (host : Host σ) (message : String) (state : σ) : Deed → Nat → Prop
  | taken (takes : (host.print .error ("Error: " ++ message ++ "\n") state).1 = .ok ()) :
      Tells host message state (.printing .error ("Error: " ++ message ++ "\n") (.ok ())) 1
  | refused {error : FileError}
      (refuses : (host.print .error ("Error: " ++ message ++ "\n") state).1 = .error error) :
      Tells host message state (.printing .error ("Error: " ++ message ++ "\n") (.error error)) 101

/-- What is done with a text or an error, and the exit code. -/
inductive Hands (host : Host σ) (output : Option String) (state : σ) :
    Except String String → List Deed → Nat → Prop
  | printed {text : String} (asked : output = none)
      (takes : (host.print .output (text ++ "\n") state).1 = .ok ()) :
      Hands host output state (.ok text) [.printing .output (text ++ "\n") (.ok ())] 0
  | unprinted {text : String} {error : FileError} (asked : output = none)
      (refuses : (host.print .output (text ++ "\n") state).1 = .error error) :
      Hands host output state (.ok text) [.printing .output (text ++ "\n") (.error error)] 101
  | written {text path : String} (asked : output = some path)
      (takes : (host.writeText path text state).1 = .ok ()) :
      Hands host output state (.ok text) [.writing path text (.ok ())] 0
  | unwritten {text path : String} {error : FileError} {deed : Deed} {exitCode : Nat}
      (asked : output = some path) (refuses : (host.writeText path text state).1 = .error error)
      (tells : Tells host ("Failed to write output to " ++ path ++ ": " ++ error.message)
        (host.writeText path text state).2 deed exitCode) :
      Hands host output state (.ok text) [.writing path text (.error error), deed] exitCode
  | failed {message : String} {deed : Deed} {exitCode : Nat}
      (tells : Tells host message state deed exitCode) :
      Hands host output state (.error message) [deed] exitCode

variable {output : Option String} {state : σ} {said : Except String String} {deed : Deed}
  {deeds : List Deed} {exitCode : Nat}

theorem Tells.exitCode_cases (tells : Tells host message state deed exitCode) :
    exitCode = 1 ∨ exitCode = 101 := by
  cases tells with
  | taken _ => exact .inl rfl
  | refused _ => exact .inr rfl

theorem Tells.breaks (tells : Tells host message state deed exitCode) :
    exitCode = 101 ↔ BrokenIn [deed] := by
  cases tells with
  | taken _ => exact iff_of_false nofun (not_brokenIn_taken _ _)
  | refused _ => exact iff_of_true rfl (brokenIn_singleton.mpr ⟨_, _, _, rfl⟩)

theorem Hands.succeeds (hands : Hands host output state said deeds exitCode) :
    exitCode = 0 ↔ ∃ text, said = .ok text ∧ handed host output text state = .ok () := by
  have fails {n : Nat} (code : n = 1 ∨ n = 101) : n ≠ 0 := by omega
  cases hands with
  | printed asked takes =>
    subst asked
    exact iff_of_true rfl ⟨_, rfl, takes⟩
  | unprinted asked refuses =>
    subst asked
    refine iff_of_false nofun ?_
    rintro ⟨_, ⟨⟩, takes⟩
    exact nomatch refuses.symm.trans takes
  | written asked takes =>
    subst asked
    exact iff_of_true rfl ⟨_, rfl, takes⟩
  | unwritten asked refuses tells =>
    subst asked
    refine iff_of_false (fails tells.exitCode_cases) ?_
    rintro ⟨_, ⟨⟩, takes⟩
    exact nomatch refuses.symm.trans takes
  | failed tells => exact iff_of_false (fails tells.exitCode_cases) nofun

theorem Hands.breaks (hands : Hands host output state said deeds exitCode) :
    exitCode = 101 ↔ BrokenIn deeds := by
  cases hands with
  | printed _ _ => exact iff_of_false nofun (not_brokenIn_taken _ _)
  | written _ _ => exact iff_of_false nofun (brokenIn_singleton.not.mpr nofun)
  | unprinted _ _ => exact iff_of_true rfl (brokenIn_singleton.mpr ⟨_, _, _, rfl⟩)
  | @unwritten text path error _ _ _ _ tells =>
    have noPrinting : ¬BrokenIn [.writing path text (.error error)] :=
      brokenIn_singleton.not.mpr nofun
    rw [brokenIn_cons, or_iff_right noPrinting]
    exact tells.breaks
  | failed tells => exact tells.breaks

theorem Hands.otherwise (hands : Hands host output state said deeds exitCode) :
    exitCode = 0 ∨ exitCode = 1 ∨ exitCode = 101 := by
  cases hands with
  | printed _ _ | written _ _ => exact .inl rfl
  | unprinted _ _ => exact .inr (.inr rfl)
  | unwritten _ _ tells | failed tells => exact .inr tells.exitCode_cases

/-! ### Steps that end a run -/

section

variable (host : Host σ) {s : Session σ} {path content : String} {error : FileError}

theorem fail_taken (takes : (host.print .error ("Error: " ++ message ++ "\n") s.state).1 = .ok ()) :
    (fail host message).run s =
      (.failed message, s.done (host.print .error ("Error: " ++ message ++ "\n"))) := by
  refine (Step.run_bind_of (run_perform s _)).trans ?_
  rw [Close.errorText, takes]
  rfl

theorem fail_refused
    (refuses : (host.print .error ("Error: " ++ message ++ "\n") s.state).1 = .error error) :
    (fail host message).run s =
      (.broken .error error, s.done (host.print .error ("Error: " ++ message ++ "\n"))) := by
  refine (Step.run_bind_of (run_perform s _)).trans ?_
  rw [Close.errorText, refuses]
  rfl

theorem handOut_printed (takes : (host.print .output (text ++ "\n") s.state).1 = .ok ()) :
    (handOut host none text).run s =
      (.done (text ++ "\n"), s.done (host.print .output (text ++ "\n"))) := by
  refine (Step.run_bind_of (run_perform s _)).trans ?_
  rw [takes]
  rfl

theorem handOut_unprinted
    (refuses : (host.print .output (text ++ "\n") s.state).1 = .error error) :
    (handOut host none text).run s =
      (.broken .output error, s.done (host.print .output (text ++ "\n"))) := by
  refine (Step.run_bind_of (run_perform s _)).trans ?_
  rw [refuses]
  rfl

theorem handOut_written (takes : (host.writeText path text s.state).1 = .ok ()) :
    (handOut host (some path) text).run s =
      (.done "", (s.done (host.writeText path text)).noted (.outputWritten path)) := by
  refine (Step.run_bind_of (run_perform s _)).trans ?_
  rw [takes]
  rfl

theorem handOut_unwritten (refuses : (host.writeText path text s.state).1 = .error error) :
    (handOut host (some path) text).run s =
      (fail host ("Failed to write output to " ++ path ++ ": " ++ error.message)).run
        (s.done (host.writeText path text)) := by
  refine (Step.run_bind_of (run_perform s _)).trans ?_
  rw [refuses]

end

/-- A step on the watched host is the step on the host itself. The log shows what it does, and what
it printed is what stands on the standard output. -/
def Closes (x : Step (σ × List Deed) Close) (y : Step σ Close) (s : Session (σ × List Deed))
    (P : List Deed → Nat → Prop) : Prop :=
  ∃ close t deeds, x.run s = (close, t) ∧ y.run s.forget = (close, t.forget) ∧
    t.state.2 = s.state.2 ++ deeds ∧ P deeds close.exitCode ∧
    close.stdout = printedIn .output deeds

theorem log_printed {host : Host σ} {s : Session (σ × List Deed)} {channel : Channel}
    {text : String} {result : Except FileError Unit}
    (prints : (host.print channel text s.state.1).1 = result) :
    (s.done (host.watched.print channel text)).state.2 =
      s.state.2 ++ [.printing channel text result] :=
  congrArg (fun result => s.state.2 ++ [.printing channel text result]) prints

theorem log_written {host : Host σ} {s : Session (σ × List Deed)} {path content : String}
    {result : Except FileError Unit} (writes : (host.writeText path content s.state.1).1 = result) :
    (s.done (host.watched.writeText path content)).state.2 =
      s.state.2 ++ [.writing path content result] :=
  congrArg (fun result => s.state.2 ++ [.writing path content result]) writes

theorem closes_fail (host : Host σ) (message : String) (s : Session (σ × List Deed)) :
    Closes (fail host.watched message) (fail host message) s fun deeds exitCode =>
      ∃ deed, deeds = [deed] ∧ Tells host message s.state.1 deed exitCode := by
  cases prints : (host.print .error ("Error: " ++ message ++ "\n") s.state.1).1 with
  | ok u => exact ⟨_, _, _, fail_taken host.watched prints,
      fail_taken host (s := s.forget) prints, log_printed prints, ⟨_, rfl, .taken prints⟩, rfl⟩
  | error e => exact ⟨_, _, _, fail_refused host.watched prints,
      fail_refused host (s := s.forget) prints, log_printed prints, ⟨_, rfl, .refused prints⟩, rfl⟩

theorem closes_handOut (host : Host σ) (output : Option String) (text : String)
    (s : Session (σ × List Deed)) :
    Closes (handOut host.watched output text) (handOut host output text) s
      (Hands host output s.state.1 (.ok text)) := by
  cases output with
  | none =>
    cases prints : (host.print .output (text ++ "\n") s.state.1).1 with
    | ok u => exact ⟨_, _, _, handOut_printed host.watched prints,
        handOut_printed host (s := s.forget) prints, log_printed prints, .printed rfl prints, rfl⟩
    | error e => exact ⟨_, _, _, handOut_unprinted host.watched prints,
        handOut_unprinted host (s := s.forget) prints, log_printed prints, .unprinted rfl prints, rfl⟩
  | some path =>
    cases writes : (host.writeText path text s.state.1).1 with
    | ok u => exact ⟨_, _, _, handOut_written host.watched writes,
        handOut_written host (s := s.forget) writes, log_written writes, .written rfl writes, rfl⟩
    | error e =>
      obtain ⟨close, t, _, fails, fails', log, ⟨deed, rfl, tells⟩, stdout⟩ := closes_fail host
        ("Failed to write output to " ++ path ++ ": " ++ e.message)
        (s.done (host.watched.writeText path text))
      have unwritten := handOut_unwritten host.watched writes
      have unwritten' := handOut_unwritten host (s := s.forget) writes
      refine ⟨close, t, [.writing path text (.error e), deed], unwritten.trans fails,
        unwritten'.trans fails', ?_, .unwritten rfl writes tells, stdout⟩
      rw [log, log_written writes, List.append_assoc]
      rfl

theorem closes_conclude (host : Host σ) (output : Option String) (said : Except String String)
    (s : Session (σ × List Deed)) :
    Closes (conclude host.watched output said) (conclude host output said) s
      (Hands host output s.state.1 said) := by
  cases said with
  | ok text => exact closes_handOut host output text s
  | error message =>
    obtain ⟨close, t, _, fails, fails', log, ⟨deed, rfl, tells⟩, stdout⟩ :=
      closes_fail host message s
    exact ⟨close, t, [deed], fails, fails', log, .failed tells, stdout⟩

end CommandLine

end OrchestrationGraph
