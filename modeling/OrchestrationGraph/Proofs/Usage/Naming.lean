import OrchestrationGraph.Proofs.Pattern.Occurrence
import OrchestrationGraph.Usage

/-!
# Calls that name an orchestration

What the patterns for starting and for calling an orchestration find, said without patterns: a verb,
an optional `Async`, optional generic arguments, a parenthesis, and the name between an opening and
a closing. All ways to cut the code count, however much of it a greedy part could take
(`namingCalls_iff`).
-/

namespace OrchestrationGraph.Usage

open Pattern

/-- White space, or nothing. -/
def Blank (l : List Char) : Prop := ∀ c ∈ l, Text.isBlank c = true

/-- A word character, white space or one of `extra`. -/
def WordBlankOr (extra : List Char) (c : Char) : Prop :=
  Text.isWord c = true ∨ Text.isBlank c = true ∨ c ∈ extra

/-- The double quote, the single quote or the backtick. -/
def Quote (c : Char) : Prop := c ∈ ['"', '\x27', '\x60']

/-- Generic arguments between angle brackets, or nothing. -/
inductive GenericArguments : List Char → Prop where
  | none : GenericArguments []
  | between {arguments : List Char} (nonempty : arguments ≠ [])
      (all : ∀ c ∈ arguments, WordBlankOr ['.', '[', ']', '<', '>', ',', '-'] c) :
      GenericArguments ('<' :: (arguments ++ ['>']))

/-- What may stand between the parenthesis and the name of a target. -/
inductive Opening : List Char → Prop where
  | quote {c : Char} (isQuote : Quote c) : Opening [c]
  | nameOf {word blank blank' qualifier : List Char} (spells : Spells "nameof" word)
      (isBlank : Blank blank) (isBlank' : Blank blank')
      (all : ∀ c ∈ qualifier, Text.isWord c = true ∨ c ∈ ['.', '-']) :
      Opening (word ++ blank ++ '(' :: (blank' ++ qualifier))
  | member {owner blank : List Char} (nonempty : owner ≠ [])
      (all : ∀ c ∈ owner, WordBlankOr ['.'] c) (isBlank : Blank blank) :
      Opening (owner ++ '.' :: blank)

/-- What may stand between the parenthesis and a name that is declared or awaited. -/
inductive PlainOpening : List Char → Prop where
  | nameOf {word blank blank' : List Char} (spells : Spells "nameof" word) (isBlank : Blank blank)
      (isBlank' : Blank blank') : PlainOpening (word ++ blank ++ '(' :: blank')
  | quote {c : Char} (isQuote : Quote c) : PlainOpening [c]
  | member {owner blank : List Char} (nonempty : owner ≠ [])
      (all : ∀ c ∈ owner, WordBlankOr ['.'] c) (isBlank : Blank blank) :
      PlainOpening (owner ++ '.' :: blank)

/-- A quote, the closing parenthesis or a comma. -/
def EndsName (c : Char) : Prop := Quote c ∨ c = ')' ∨ c = ','

instance (c : Char) : Decidable (EndsName c) :=
  inferInstanceAs (Decidable (c ∈ _ ∨ _))

/-- The parts of a call by one of `verbs` that names `target` as its first argument, up to a
character that `ends` the name. -/
structure Call (ends : Char → Prop) (verbs : List String) (target : String) where
  verb : List Char
  async : List Char
  generic : List Char
  beforeParen : List Char
  afterParen : List Char
  opening : List Char
  blank : List Char
  closing : Char
  isVerb : ∃ v ∈ verbs, Spells v verb
  isAsync : async = [] ∨ Spells "Async" async
  isGeneric : GenericArguments generic
  isBlankBefore : Blank beforeParen
  isBlankAfter : Blank afterParen
  isOpening : Opening opening
  isBlank : Blank blank
  isClosing : ends closing

def Call.text {ends : Char → Prop} {verbs : List String} {target : String}
    (c : Call ends verbs target) : List Char :=
  c.verb ++ c.async ++ c.generic ++ c.beforeParen ++ ['('] ++ c.afterParen ++ c.opening ++
    target.toList ++ c.blank ++ [c.closing]

/-- Somewhere in the code one of `verbs` is called with `target`. -/
def HasCall (ends : Char → Prop) (verbs : List String) (target : String) (code : List Char) : Prop :=
  ∃ (before : List Char) (call : Call ends verbs target) (after : List Char),
    code = before ++ call.text ++ after

/-- The verbs that start an orchestration from outside. -/
def startVerbs : List String :=
  ["StartNew", "start_new", "scheduleNewOrchestrationInstance", "schedule_new_orchestration"]

/-- The verbs by which an orchestration calls another. -/
def subOrchestrationVerbs : List String :=
  ["CallSubOrchestrator", "CallSubOrchestratorWithRetry", "call_sub_orchestrator",
    "call_sub_orchestrator_with_retry"]

/-! ### Classes of characters -/

theorem isQuote_iff {c : Char} : isQuote c = true ↔ Quote c := by
  simp [isQuote, Quote, or_assoc]

theorem wordBlankOr_iff {extra : String} {c : Char} :
    wordBlankOr extra c = true ↔ WordBlankOr extra.toList c := by
  simp [wordBlankOr, WordBlankOr, or_assoc]

theorem isNamePart_iff {c : Char} :
    isNamePart c = true ↔ Text.isWord c = true ∨ c ∈ ['.', '-'] := by
  simp [isNamePart, wordOr]

/-! ### Parts of a call -/

section

variable {before taken after : List Char}

theorem accepts_verbs {first : String} {others : List String} :
    (verbs first others).Accepts before taken after ↔ ∃ v ∈ first :: others, Spells v taken := by
  unfold verbs
  rw [accepts_choice, ← List.map_cons]
  constructor
  · rintro ⟨_, isVerb, spells⟩
    obtain ⟨v, hv, rfl⟩ := List.mem_map.mp isVerb
    exact ⟨v, hv, spells⟩
  · rintro ⟨v, hv, spells⟩
    exact ⟨anyCase v, List.mem_map_of_mem hv, spells⟩

theorem accepts_openingParen :
    openingParen.Accepts before taken after ↔
      ∃ blank blank', taken = blank ++ '(' :: blank' ∧ Blank blank ∧ Blank blank' := by
  unfold openingParen
  constructor
  · rintro ⟨_, blank', rfl, ⟨blank, _, rfl, isBlank, rfl⟩, isBlank'⟩
    exact ⟨blank, blank', by simp, isBlank, isBlank'⟩
  · rintro ⟨blank, blank', rfl, isBlank, isBlank'⟩
    exact ⟨blank ++ ['('], blank', by simp, ⟨blank, ['('], rfl, isBlank, rfl⟩, isBlank'⟩

theorem accepts_typeArguments :
    typeArguments.Accepts before taken after ↔ GenericArguments taken := by
  unfold typeArguments
  rw [accepts_optional]
  constructor
  · rintro (rfl | ⟨_, _, rfl, ⟨_, arguments, rfl, rfl, accepts⟩, rfl⟩)
    · exact .none
    · obtain ⟨nonempty, all⟩ := accepts_oneOrMore.mp accepts
      have listed := GenericArguments.between nonempty fun c hc => wordBlankOr_iff.mp (all c hc)
      simpa using listed
  · rintro (_ | ⟨nonempty, all⟩)
    · exact .inl rfl
    · rename_i arguments
      have accepts : (oneOrMore (wordBlankOr ".[]<>,-")).Accepts (before ++ ['<']) arguments
          ('>' :: after) :=
        accepts_oneOrMore.mpr ⟨nonempty, fun c hc => wordBlankOr_iff.mpr (all c hc)⟩
      exact .inr ⟨'<' :: arguments, ['>'], rfl, ⟨['<'], arguments, rfl, rfl, accepts⟩, rfl⟩

theorem accepts_nameOf :
    nameOf.Accepts before taken after ↔ ∃ word blank blank', taken = word ++ blank ++ '(' :: blank' ∧
      Spells "nameof" word ∧ Blank blank ∧ Blank blank' := by
  unfold nameOf
  constructor
  · rintro ⟨word, _, rfl, spells, accepts⟩
    obtain ⟨blank, blank', rfl, isBlank, isBlank'⟩ := accepts_openingParen.mp accepts
    exact ⟨word, blank, blank', by simp, spells, isBlank, isBlank'⟩
  · rintro ⟨word, blank, blank', rfl, spells, isBlank, isBlank'⟩
    exact ⟨word, blank ++ '(' :: blank', by simp, spells,
      accepts_openingParen.mpr ⟨blank, blank', rfl, isBlank, isBlank'⟩⟩

theorem accepts_memberAccess :
    memberAccess.Accepts before taken after ↔ ∃ owner blank, taken = owner ++ '.' :: blank ∧
      owner ≠ [] ∧ (∀ c ∈ owner, WordBlankOr ['.'] c) ∧ Blank blank := by
  unfold memberAccess
  constructor
  · rintro ⟨_, blank, rfl, ⟨owner, _, rfl, accepts, rfl⟩, isBlank⟩
    obtain ⟨nonempty, all⟩ := accepts_oneOrMore.mp accepts
    exact ⟨owner, blank, by simp, nonempty, fun c hc => wordBlankOr_iff.mp (all c hc), isBlank⟩
  · rintro ⟨owner, blank, rfl, nonempty, all, isBlank⟩
    have accepts : (oneOrMore (wordBlankOr ".")).Accepts before owner ('.' :: (blank ++ after)) :=
      accepts_oneOrMore.mpr ⟨nonempty, fun c hc => wordBlankOr_iff.mpr (all c hc)⟩
    exact ⟨owner ++ ['.'], blank, by simp, ⟨owner, ['.'], rfl, accepts, rfl⟩, isBlank⟩

theorem accepts_nameOpening : nameOpening.Accepts before taken after ↔ Opening taken := by
  unfold nameOpening
  simp only [accepts_choice, List.mem_cons, List.not_mem_nil, or_false, exists_eq_or_imp,
    exists_eq_left]
  constructor
  · rintro (⟨c, rfl, hc⟩ | ⟨_, qualifier, rfl, accepts, all⟩ | accepts)
    · exact .quote (isQuote_iff.mp hc)
    · obtain ⟨word, blank, blank', rfl, spells, isBlank, isBlank'⟩ := accepts_nameOf.mp accepts
      have opening := Opening.nameOf spells isBlank isBlank' fun c hc =>
        isNamePart_iff.mp (all c hc)
      simpa using opening
    · obtain ⟨owner, blank, rfl, nonempty, all, isBlank⟩ := accepts_memberAccess.mp accepts
      exact .member nonempty all isBlank
  · rintro (hc | ⟨spells, isBlank, isBlank', all⟩ | ⟨nonempty, all, isBlank⟩)
    · exact .inl ⟨_, rfl, isQuote_iff.mpr hc⟩
    · rename_i word blank blank' qualifier
      exact .inr (.inl ⟨word ++ blank ++ '(' :: blank', qualifier, by simp,
        accepts_nameOf.mpr ⟨word, blank, blank', rfl, spells, isBlank, isBlank'⟩,
        fun c hc => isNamePart_iff.mpr (all c hc)⟩)
    · exact .inr (.inr (accepts_memberAccess.mpr ⟨_, _, rfl, nonempty, all, isBlank⟩))

theorem accepts_plainOpening : plainOpening.Accepts before taken after ↔ PlainOpening taken := by
  unfold plainOpening
  simp only [accepts_choice, List.mem_cons, List.not_mem_nil, or_false, exists_eq_or_imp,
    exists_eq_left, accepts_nameOf, accepts_memberAccess]
  constructor
  · rintro (⟨word, blank, blank', rfl, spells, isBlank, isBlank'⟩ | ⟨c, rfl, isQuote⟩ |
      ⟨owner, blank, rfl, nonempty, all, isBlank⟩)
    · exact .nameOf spells isBlank isBlank'
    · exact .quote (isQuote_iff.mp isQuote)
    · exact .member nonempty all isBlank
  · rintro (⟨spells, isBlank, isBlank'⟩ | isQuote | ⟨nonempty, all, isBlank⟩)
    · exact .inl ⟨_, _, _, rfl, spells, isBlank, isBlank'⟩
    · exact .inr (.inl ⟨_, rfl, isQuote_iff.mpr isQuote⟩)
    · exact .inr (.inr ⟨_, _, rfl, nonempty, all, isBlank⟩)

theorem accepts_nameClosing :
    nameClosing.Accepts before taken after ↔
      ∃ blank c, taken = blank ++ [c] ∧ Blank blank ∧ EndsName c := by
  unfold nameClosing EndsName
  constructor
  · rintro ⟨blank, _, rfl, isBlank, c, rfl, closes⟩
    simp only [Bool.or_eq_true, isQuote_iff, decide_eq_true_eq, or_assoc] at closes
    exact ⟨blank, c, rfl, isBlank, closes⟩
  · rintro ⟨blank, c, rfl, isBlank, closes⟩
    refine ⟨blank, [c], rfl, isBlank, c, rfl, ?_⟩
    simpa only [Bool.or_eq_true, isQuote_iff, decide_eq_true_eq, or_assoc] using closes

theorem accepts_callNaming {first : String} {others : List String} {target : String} :
    (callNaming (verbs first others) target).Accepts before taken after ↔
      ∃ call : Call EndsName (first :: others) target, taken = call.text := by
  unfold callNaming
  constructor
  · rintro ⟨_, _, rfl, ⟨_, _, rfl, ⟨_, opening, rfl, ⟨_, _, rfl, ⟨_, generic, rfl,
      ⟨verb, async, rfl, isVerb, isAsync⟩, isGeneric⟩, isParen⟩, isOpening⟩, rfl⟩, isClosing⟩
    obtain ⟨beforeParen, afterParen, rfl, isBlankBefore, isBlankAfter⟩ :=
      accepts_openingParen.mp isParen
    obtain ⟨blank, closing, rfl, isBlank, closes⟩ := accepts_nameClosing.mp isClosing
    refine ⟨⟨verb, async, generic, beforeParen, afterParen, opening, blank, closing,
      accepts_verbs.mp isVerb, accepts_optional.mp isAsync, accepts_typeArguments.mp isGeneric,
      isBlankBefore, isBlankAfter, accepts_nameOpening.mp isOpening, isBlank, closes⟩, ?_⟩
    simp [Call.text]
  · rintro ⟨call, rfl⟩
    have isParen : ∀ b a, openingParen.Accepts b (call.beforeParen ++ '(' :: call.afterParen) a :=
      fun _ _ => accepts_openingParen.mpr ⟨_, _, rfl, call.isBlankBefore, call.isBlankAfter⟩
    have isClosing : ∀ b a, nameClosing.Accepts b (call.blank ++ [call.closing]) a :=
      fun _ _ => accepts_nameClosing.mpr ⟨_, _, rfl, call.isBlank, call.isClosing⟩
    refine ⟨_, _, ?_, ⟨_, _, rfl, ⟨_, _, rfl, ⟨_, _, rfl, ⟨_, _, rfl, ⟨_, _, rfl,
      accepts_verbs.mpr call.isVerb, accepts_optional.mpr call.isAsync⟩,
      accepts_typeArguments.mpr call.isGeneric⟩, isParen _ _⟩,
      accepts_nameOpening.mpr call.isOpening⟩, rfl⟩, isClosing _ _⟩
    simp [Call.text]

end

theorem occursIn_callNaming {first : String} {others : List String} {target : String}
    {code : List Char} :
    (callNaming (verbs first others) target).occursIn code = true ↔
      HasCall EndsName (first :: others) target code := by
  rw [occursIn_iff]
  constructor
  · rintro ⟨before, _, after, rfl, accepts⟩
    obtain ⟨call, rfl⟩ := accepts_callNaming.mp accepts
    exact ⟨before, call, after, rfl⟩
  · rintro ⟨before, call, after, rfl⟩
    exact ⟨before, call.text, after, rfl, accepts_callNaming.mpr ⟨call, rfl⟩⟩

/-- The searches for started and for called orchestrations find exactly the calls that name the
target, whatever characters its name has. -/
theorem namingCalls_iff (target : String) (code : List Char) :
    ((startsOrchestration target).occursIn code = true ↔
      HasCall EndsName startVerbs target code) ∧
    ((callsOrchestration target).occursIn code = true ↔
      HasCall EndsName subOrchestrationVerbs target code) :=
  ⟨occursIn_callNaming, occursIn_callNaming⟩

/-- A name that stands before a closing bracket. -/
def bracketedName : List Char := "startNew(Names.x]".toList

theorem isWord_names : "Names".toList.all Text.isWord = true := by
  decide +kernel

def bracketedCall : Call (fun c => EndsName c ∨ c = ']') startVerbs "x" where
  verb := "startNew".toList
  async := []
  generic := []
  beforeParen := []
  afterParen := []
  opening := "Names".toList ++ '.' :: []
  blank := []
  closing := ']'
  isVerb := ⟨"StartNew", by decide, by decide +kernel⟩
  isAsync := .inl rfl
  isGeneric := .none
  isBlankBefore := nofun
  isBlankAfter := nofun
  isOpening := .member (by decide) (fun c here => .inl (List.all_eq_true.mp isWord_names c here)) nofun
  isBlank := nofun
  isClosing := .inr rfl

/-- A closing bracket does not end a name. -/
theorem namingCalls_not_bracket :
    ¬ ((startsOrchestration "x").occursIn bracketedName = true ↔
      HasCall (fun c => EndsName c ∨ c = ']') startVerbs "x" bracketedName) := by
  intro same
  have cut : bracketedName = [] ++ bracketedCall.text ++ [] := by decide +kernel
  have hit := same.mpr ⟨[], bracketedCall, [], cut⟩
  obtain ⟨before, call, after, named⟩ := occursIn_callNaming.mp hit
  have here : call.closing ∈ bracketedName := by
    rw [named, Call.text]
    simp
  have noEnd : bracketedName.all (fun c => !decide (EndsName c)) = true := by decide +kernel
  have unended : ¬ EndsName call.closing := by simpa using List.all_eq_true.mp noEnd _ here
  exact unended call.isClosing

end OrchestrationGraph.Usage
