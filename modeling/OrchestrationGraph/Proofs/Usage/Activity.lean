import OrchestrationGraph.Proofs.Usage.Naming

/-!
# Calls of an activity

What the search for calls of an activity finds, said without patterns. Two runs stand between the
verb and the name, with a parenthesis between them: the first can hold parentheses and whole
arguments, the second a beginning of the name, and all ways to cut the code count
(`activityCalls_iff`).
-/

namespace OrchestrationGraph.Usage

open Pattern

/-- The verbs by which an orchestration calls an activity. -/
def activityVerbs : List String := ["CallActivity", "call_activity"]

/-- The parts of a call of the activity `target`, up to a character that `ends` the name. -/
structure ActivityCall (ends : Char → Prop) (target : String) where
  verb : List Char
  /-- The rest of the verb, type arguments, and arguments before the name. -/
  between : List Char
  /-- A qualifier, or whatever else stands between the parenthesis and the name. -/
  lead : List Char
  quote : List Char
  blank : List Char
  closing : Char
  isVerb : ∃ v ∈ activityVerbs, Spells v verb
  isBetween : ∀ c ∈ between, WordBlankOr [',', '.', '<', '>', '[', ']', '(', ')', '?', '-'] c
  isLead : ∀ c ∈ lead, WordBlankOr ['.', '-'] c
  isQuote : quote = [] ∨ ∃ c, quote = [c] ∧ Quote c
  isBlank : Blank blank
  isClosing : ends closing

def ActivityCall.text {ends : Char → Prop} {target : String} (c : ActivityCall ends target) :
    List Char :=
  c.verb ++ c.between ++ ['('] ++ c.lead ++ c.quote ++ target.toList ++ c.blank ++ [c.closing]

/-- Somewhere in the code the activity `target` is called. -/
def HasActivityCall (ends : Char → Prop) (target : String) (code : List Char) : Prop :=
  ∃ (before : List Char) (call : ActivityCall ends target) (after : List Char),
    code = before ++ call.text ++ after

variable {before taken after : List Char}

theorem accepts_optionalQuote :
    (optional (oneOf isQuote)).Accepts before taken after ↔
      taken = [] ∨ ∃ c, taken = [c] ∧ Quote c := by
  rw [accepts_optional]
  simp only [Accepts, isQuote_iff]

theorem accepts_callsActivity {target : String} :
    (callsActivity target).Accepts before taken after ↔
      ∃ call : ActivityCall EndsName target, taken = call.text := by
  unfold callsActivity
  constructor
  · rintro ⟨_, _, rfl, ⟨_, _, rfl, ⟨_, quote, rfl, ⟨_, lead, rfl, ⟨_, _, rfl,
      ⟨verb, between, rfl, isVerb, isBetween⟩, rfl⟩, isLead⟩, isQuote⟩, rfl⟩, isClosing⟩
    obtain ⟨blank, closing, rfl, isBlank, closes⟩ := accepts_nameClosing.mp isClosing
    refine ⟨⟨verb, between, lead, quote, blank, closing, accepts_verbs.mp isVerb,
      fun c hc => wordBlankOr_iff.mp (isBetween c hc), fun c hc => wordBlankOr_iff.mp (isLead c hc),
      accepts_optionalQuote.mp isQuote, isBlank, closes⟩, ?_⟩
    simp [ActivityCall.text]
  · rintro ⟨call, rfl⟩
    have isClosing : ∀ b a, nameClosing.Accepts b (call.blank ++ [call.closing]) a :=
      fun _ _ => accepts_nameClosing.mpr ⟨_, _, rfl, call.isBlank, call.isClosing⟩
    refine ⟨_, _, ?_, ⟨_, _, rfl, ⟨_, _, rfl, ⟨_, _, rfl, ⟨_, _, rfl,
      ⟨_, _, rfl, accepts_verbs.mpr call.isVerb, fun c hc => wordBlankOr_iff.mpr (call.isBetween c hc)⟩,
      rfl⟩, fun c hc => wordBlankOr_iff.mpr (call.isLead c hc)⟩,
      accepts_optionalQuote.mpr call.isQuote⟩, rfl⟩, isClosing _ _⟩
    simp [ActivityCall.text]

/-- The search for calls of an activity finds exactly the calls that name it, whatever characters
its name has and however much of the code the two runs before it could take. -/
theorem activityCalls_iff (target : String) (code : List Char) :
    (callsActivity target).occursIn code = true ↔ HasActivityCall EndsName target code := by
  rw [occursIn_iff]
  constructor
  · rintro ⟨before, _, after, rfl, accepts⟩
    obtain ⟨call, rfl⟩ := accepts_callsActivity.mp accepts
    exact ⟨before, call, after, rfl⟩
  · rintro ⟨before, call, after, rfl⟩
    exact ⟨before, call.text, after, rfl, accepts_callsActivity.mpr ⟨call, rfl⟩⟩

/-- The parenthesis that counts is neither the first nor the last. -/
example : (callsActivity "Act1").occursIn "callActivity(retry(Act1), pause(1))".toList = true := by
  decide +kernel

/-- An activity that stands before a closing bracket. -/
def bracketedActivity : List Char := "CallActivity(A]".toList

theorem hasActivityCall_bracketed :
    HasActivityCall (fun c => EndsName c ∨ c = ']') "A" bracketedActivity := by
  have isVerb : ∃ v ∈ activityVerbs, Spells v "CallActivity".toList :=
    ⟨"CallActivity", by decide, rfl⟩
  exact ⟨[], ⟨"CallActivity".toList, [], [], [], [], ']', isVerb, List.forall_mem_nil _,
    List.forall_mem_nil _, .inl rfl, List.forall_mem_nil _, .inr rfl⟩, [], rfl⟩

/-- A closing bracket does not end the name of an activity. -/
theorem activityCalls_not_bracket :
    ¬ ((callsActivity "A").occursIn bracketedActivity = true ↔
      HasActivityCall (fun c => EndsName c ∨ c = ']') "A" bracketedActivity) := by
  intro same
  have hit := same.mpr hasActivityCall_bracketed
  have missed : (callsActivity "A").occursIn bracketedActivity = false := by decide +kernel
  exact absurd hit (by simp [missed])

end OrchestrationGraph.Usage
