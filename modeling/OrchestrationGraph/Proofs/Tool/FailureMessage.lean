import OrchestrationGraph.Proofs.Text.Pieces
import OrchestrationGraph.Proofs.Text.Run
import OrchestrationGraph.Tool.Basic

/-!
# Why a command failed

The last line of a text is said here by its place (`LastLine`): it holds the last character that is
no white space, and is taken from its first such character to that one. What a failure is told by
(`Outcome.Explains`) is the last line of the error channel, of the other channel only where the first
has nothing but white space, and the exit code only where both have nothing else
(`failureMessage_eq_iff`). It is one line with more than white space in any case.
-/

namespace OrchestrationGraph.Tool

open Text (Run EndsRun isBlank)

/-- A part of one line that begins and ends with something else than white space. -/
structure Phrase (l : List Char) : Prop where
  nonempty : l ≠ []
  front : EndsRun isBlank l
  back : EndsRun isBlank l.reverse
  oneLine : '\n' ∉ l

/-- `phrase` is the line of `text` with the last character that is no white space, without the white
space around it. -/
inductive LastLine : (text phrase : List Char) → Prop where
  | mk {before lead phrase trail after : List Char} (isPhrase : Phrase phrase)
      (starts : ∀ c ∈ before.getLast?, c = '\n') (ends : ∀ c ∈ after.head?, c = '\n')
      (isLead : Run isBlank lead) (isTrail : Run isBlank trail) (oneLine : '\n' ∉ lead ++ trail)
      (rest : Run isBlank after) : LastLine (before ++ (lead ++ phrase ++ trail) ++ after) phrase

/-- What tells of a command that failed. -/
inductive Outcome.Explains (o : Outcome) : String → Prop where
  | error {m : String} (last : LastLine o.stderr.toList m.toList) : o.Explains m
  | output {m : String} (noError : Run isBlank o.stderr.toList)
      (last : LastLine o.stdout.toList m.toList) : o.Explains m
  | code {code : Int} (noError : Run isBlank o.stderr.toList)
      (noOutput : Run isBlank o.stdout.toList) (ended : o.code = some code) :
      o.Explains ("exited with status " ++ toString code)
  | signal (noError : Run isBlank o.stderr.toList) (noOutput : Run isBlank o.stdout.toList)
      (killed : o.code = none) : o.Explains "terminated by signal"

/-! ### The phrases of a text -/

/-- The lines with more than white space, without the white space around them. -/
def phrases (text : List Char) : List (List Char) :=
  ((Text.piecesBy (· = '\n') text).map (Text.trimBy isBlank)).filter (!·.isEmpty)

theorem lastLine?_eq (text : String) :
    lastLine? text = (phrases text.toList).getLast?.map String.ofList := rfl

variable {text lead phrase trail after : List Char}

theorem phrases_append (x y : List Char) : phrases (x ++ '\n' :: y) = phrases x ++ phrases y := by
  unfold phrases
  rw [Text.piecesBy_append (by decide), List.map_append, List.filter_append]

theorem phrases_blank (blank : Run isBlank text) : phrases text = [] := by
  unfold phrases
  rw [List.filter_eq_nil_iff]
  intro l here
  obtain ⟨piece, isPiece, rfl⟩ := List.mem_map.mp here
  have isRun : Run isBlank piece := fun c hc => blank c (Text.mem_of_mem_piecesBy isPiece hc)
  simp [Text.trimBy_of_run isRun]

theorem phrases_line (isPhrase : Phrase phrase) (isLead : Run isBlank lead)
    (isTrail : Run isBlank trail) (oneLine : '\n' ∉ lead ++ trail) :
    phrases (lead ++ phrase ++ trail) = [phrase] := by
  have whole : '\n' ∉ lead ++ phrase ++ trail := by
    simpa [isPhrase.oneLine] using oneLine
  have none : ∀ c ∈ lead ++ phrase ++ trail, decide (c = '\n') = false := by
    intro c hc
    exact decide_eq_false fun same => whole (same ▸ hc)
  unfold phrases
  rw [Text.piecesBy_of_none none, List.map_singleton,
    Text.trimBy_surrounded isLead isTrail isPhrase.nonempty isPhrase.front isPhrase.back]
  exact List.filter_cons_of_pos (by simpa using isPhrase.nonempty)

/-- A text that goes on at the end of a line, if at all. -/
theorem phrases_append_ends (ends : ∀ c ∈ after.head?, c = '\n') (blank : Run isBlank after) :
    phrases (text ++ after) = phrases text := by
  cases after with
  | nil => rw [List.append_nil]
  | cons c after =>
    obtain rfl : c = '\n' := ends c rfl
    rw [phrases_append, phrases_blank (Text.run_cons.mp blank).2, List.append_nil]

theorem LastLine.getLast?_phrases (last : LastLine text phrase) :
    (phrases text).getLast? = some phrase := by
  cases last with
  | @mk before lead _ trail after isPhrase starts ends isLead isTrail oneLine rest =>
    have line := phrases_line isPhrase isLead isTrail oneLine
    rw [phrases_append_ends ends rest]
    cases last : before.getLast? with
    | none =>
      rw [List.getLast?_eq_none_iff.mp last, List.nil_append, line, List.getLast?_singleton]
    | some c =>
      obtain rfl : c = '\n' := starts c last
      obtain ⟨before, rfl⟩ := List.getLast?_eq_some_iff.mp last
      rw [List.append_assoc, List.singleton_append, phrases_append, line, List.getLast?_concat]

/-! ### The last line -/

/-- Not the end of a line. -/
def withinLine (c : Char) : Bool := c ≠ '\n'

theorem eq_of_endsRun_withinLine {l : List Char} (stops : EndsRun withinLine l) :
    ∀ c ∈ l.head?, c = '\n' := by
  intro c first
  simpa [withinLine] using stops c first

theorem not_mem_of_withinLine {l : List Char} (isRun : Run withinLine l) : '\n' ∉ l :=
  isRun.not_mem (by decide)

theorem exists_lastLine (notBlank : ¬ Run isBlank text) : ∃ phrase, LastLine text phrase := by
  obtain ⟨rest, split, isRest, last⟩ := Text.exists_trimEndBy isBlank text
  generalize Text.trimEndBy isBlank text = front at *
  obtain ⟨line, split', isLine, starts⟩ := Text.exists_trimEndBy withinLine front
  generalize Text.trimEndBy withinLine front = before at *
  have starts : ∀ c ∈ before.getLast?, c = '\n' := by
    simpa using eq_of_endsRun_withinLine starts
  subst split split'
  rw [List.reverse_append] at last
  have ended : line ≠ [] := by
    rintro rfl
    cases ends : before.getLast? with
    | none => exact notBlank (by simpa [List.getLast?_eq_none_iff.mp ends] using isRest)
    | some c =>
      -- The last character would be the end of a line, which is white space.
      obtain rfl : c = '\n' := starts c ends
      obtain ⟨before, rfl⟩ := List.getLast?_eq_some_iff.mp ends
      exact absurd (Text.endsRun_cons.mp (by simpa using last)) (by decide)
  obtain ⟨lead, phrase, rfl, isLead, front⟩ := Text.exists_run isBlank line
  obtain ⟨trail, after, rfl, isTrail, ends⟩ := Text.exists_run withinLine rest
  rw [Text.run_append] at isLine isRest
  have back : EndsRun isBlank (phrase.reverse ++ lead.reverse) := by
    rw [← List.reverse_append]
    exact last.left
  have nonempty : phrase ≠ [] := by
    rintro rfl
    exact (Text.run_reverse.mpr isLead).not_endsRun (by simpa using ended) back
  have isPhrase : Phrase phrase :=
    ⟨nonempty, front, back.left, not_mem_of_withinLine isLine.2⟩
  refine ⟨phrase, ?_⟩
  have last_line := LastLine.mk isPhrase starts (eq_of_endsRun_withinLine ends) isLead isRest.1
    (not_mem_of_withinLine (Text.run_append.mpr ⟨isLine.1, isTrail⟩)) isRest.2
  simpa using last_line

theorem lastLine?_eq_none_iff {text : String} :
    lastLine? text = none ↔ Run isBlank text.toList := by
  rw [lastLine?_eq, Option.map_eq_none_iff]
  constructor
  · intro none
    refine Classical.byContradiction fun notBlank => ?_
    obtain ⟨phrase, last⟩ := exists_lastLine notBlank
    exact absurd (last.getLast?_phrases.symm.trans none) nofun
  · intro blank
    rw [phrases_blank blank]
    rfl

theorem lastLine?_eq_some_iff {text line : String} :
    lastLine? text = some line ↔ LastLine text.toList line.toList := by
  have found {phrase : List Char} (last : LastLine text.toList phrase) :
      lastLine? text = some (String.ofList phrase) := by
    rw [lastLine?_eq, last.getLast?_phrases, Option.map_some]
  constructor
  · intro is
    have notBlank : ¬ Run isBlank text.toList := fun blank =>
      absurd (is.symm.trans (lastLine?_eq_none_iff.mpr blank)) nofun
    obtain ⟨phrase, last⟩ := exists_lastLine notBlank
    obtain rfl : line = String.ofList phrase := Option.some.inj (is.symm.trans (found last))
    simpa using last
  · intro last
    simpa using found last

/-! ### Messages -/

theorem LastLine.isPhrase (last : LastLine text phrase) : Phrase phrase := by
  obtain ⟨isPhrase⟩ := last
  exact isPhrase

/-- A number ends no line and has no white space. -/
theorem Phrase.append_digits {l digits : List Char} (nonempty : l ≠ []) (front : EndsRun isBlank l)
    (oneLine : '\n' ∉ l) (isNumber : digits ≠ []) (all : Run Char.isDigit digits) :
    Phrase (l ++ digits) where
  nonempty := by simp [nonempty]
  front := by
    obtain ⟨c, l, rfl⟩ := List.exists_cons_of_ne_nil nonempty
    exact Text.endsRun_cons.mpr (Text.endsRun_cons.mp front)
  back := by
    rw [List.reverse_append]
    exact Text.endsRun_of_run (fun _ => Text.isBlank_of_isDigit) (Text.run_reverse.mpr all)
      (by simpa using isNumber)
  oneLine := by simp [oneLine, all.not_mem (c := '\n') (by decide)]

theorem phrase_exitCode (code : Int) : Phrase ("exited with status " ++ toString code).toList := by
  have number (n : Nat) : Nat.toDigits 10 n ≠ [] ∧ Run Char.isDigit (Nat.toDigits 10 n) :=
    ⟨Nat.toDigits_ne_nil, fun _ => Nat.isDigit_of_mem_toDigits (by decide) (by decide)⟩
  have words (l : List Char) : EndsRun isBlank ("exited with status ".toList ++ l) :=
    Text.endsRun_cons.mpr (by decide)
  rw [String.toList_append]
  cases code with
  | ofNat n =>
    obtain ⟨isNumber, all⟩ := number n
    have written : (toString (Int.ofNat n)).toList = Nat.toDigits 10 n := String.toList_ofList
    rw [written]
    exact .append_digits (by decide) (by simpa using words []) (by decide) isNumber all
  | negSucc n =>
    obtain ⟨isNumber, all⟩ := number (n + 1)
    have written : (toString (Int.negSucc n)).toList = ['-'] ++ Nat.toDigits 10 (n + 1) := by
      show ("-" ++ String.ofList (Nat.toDigits 10 (n + 1))).toList = _
      simp
    rw [written, ← List.append_assoc]
    exact .append_digits (by decide) (words ['-']) (by decide) isNumber all

namespace Outcome

variable {o : Outcome} {m : String}

theorem Explains.isPhrase (explains : o.Explains m) : Phrase m.toList := by
  cases explains with
  | error last => exact last.isPhrase
  | output _ last => exact last.isPhrase
  | @code code => exact phrase_exitCode code
  | signal =>
    exact ⟨by decide, Text.endsRun_cons.mpr (by decide), Text.endsRun_cons.mpr (by decide),
      by decide⟩

theorem explains_failureMessage (o : Outcome) : o.Explains o.failureMessage := by
  unfold failureMessage
  cases error : lastLine? o.stderr with
  | some m => exact .error (lastLine?_eq_some_iff.mp error)
  | none =>
    have noError := lastLine?_eq_none_iff.mp error
    rw [Option.none_or]
    cases output : lastLine? o.stdout with
    | some m => exact .output noError (lastLine?_eq_some_iff.mp output)
    | none =>
      have noOutput := lastLine?_eq_none_iff.mp output
      rw [Option.getD_none]
      cases ended : o.code with
      | some code => exact .code noError noOutput ended
      | none => exact .signal noError noOutput ended

theorem failureMessage_of_explains (explains : o.Explains m) : o.failureMessage = m := by
  unfold failureMessage
  cases explains with
  | error last => rw [lastLine?_eq_some_iff.mpr last, Option.some_or, Option.getD_some]
  | output noError last =>
    rw [lastLine?_eq_none_iff.mpr noError, lastLine?_eq_some_iff.mpr last, Option.none_or,
      Option.getD_some]
  | code noError noOutput ended =>
    rw [lastLine?_eq_none_iff.mpr noError, lastLine?_eq_none_iff.mpr noOutput, ended]
    rfl
  | signal noError noOutput killed =>
    rw [lastLine?_eq_none_iff.mpr noError, lastLine?_eq_none_iff.mpr noOutput, killed]
    rfl

/-- The message on a failure is what explains it and nothing else, and it is one line that begins
and ends with something else than white space. -/
theorem failureMessage_eq_iff (o : Outcome) :
    (∀ m, o.failureMessage = m ↔ o.Explains m) ∧ Phrase o.failureMessage.toList := by
  refine ⟨fun m => ⟨?_, failureMessage_of_explains⟩, o.explains_failureMessage.isPhrase⟩
  rintro rfl
  exact o.explains_failureMessage

/-- A form feed is white space and ends no line; neither does a lone carriage return. -/
example : failureMessage ⟨false, some 1, "", "remote: no\nfatal:\x0c gone\x0d again\x0d\n\x0c\n"⟩ =
    "fatal:\x0c gone\x0d again" := by
  decide +kernel

end Outcome

end OrchestrationGraph.Tool
