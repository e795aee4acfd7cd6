import OrchestrationGraph.Binding.Attribute
import OrchestrationGraph.Proofs.Pattern.Occurrence
import OrchestrationGraph.Proofs.Pattern.Run
import OrchestrationGraph.Proofs.Text.Pieces

/-!
# How an attribute begins

What stands between the bracket of an attribute and the parenthesis of its arguments, said without
patterns (`Heading`). The pattern matches at a bracket exactly if a heading follows it, and goes
through the heading in one way, which takes the name to be the whole word up to an ending
`Attribute` (`attempt_heading`, `exists_heading`).
-/

namespace OrchestrationGraph.Binding

open Pattern
open Text (Run EndsRun)

def nameEnding : List Char := "Attribute".toList

/-- The word without the ending `Attribute`, unless nothing would remain. -/
def stem (word : List Char) : List Char :=
  ((Text.dropTail? nameEnding word).filter (· ≠ [])).getD word

/-- What stands before the word: white space, and in its midst `return` with a colon where the
attribute is about the value returned. -/
inductive Lead : Bool → List Char → Prop where
  | parameter {blank : List Char} (isBlank : Run Text.isBlank blank) : Lead false blank
  | returned {blank gap blank' : List Char} (isBlank : Run Text.isBlank blank)
      (isGap : Run Text.isBlank gap) (isBlank' : Run Text.isBlank blank') :
      Lead true (blank ++ "return".toList ++ gap ++ ':' :: blank')

/-- The parts of an attribute from behind its bracket up to the parenthesis of its arguments. The
word is a longest one, for neither before nor behind it stands a word character. -/
structure Heading where
  angle : List Char
  ofReturnValue : Bool
  lead : List Char
  word : List Char
  blank : List Char
  isAngle : angle = [] ∨ angle = ['<']
  isLead : Lead ofReturnValue lead
  nonempty : word ≠ []
  isWord : Run Text.isWord word
  isBlank : Run Text.isBlank blank

def Heading.text (h : Heading) : List Char := h.angle ++ h.lead ++ h.word ++ h.blank ++ ['(']

variable {before after lead word blank rest : List Char} {ofReturnValue : Bool}

/-! ### The word and its stem -/

theorem stem_of_ending {name : List Char} (nonempty : name ≠ []) :
    stem (name ++ nameEnding) = name := by
  unfold stem
  rw [Text.dropTail?_eq_some_iff.mpr rfl, Option.filter_some]
  simp [nonempty]

theorem stem_of_no_ending (none : ∀ name, name ≠ [] → word ≠ name ++ nameEnding) :
    stem word = word := by
  unfold stem
  cases cut : Text.dropTail? nameEnding word with
  | none => rfl
  | some name =>
    by_cases empty : name = []
    · rw [Option.filter_some]
      simp [empty]
    · exact absurd (Text.dropTail?_eq_some_iff.mp cut) (none name empty)

/-- The word is its stem, with or without the ending. Behind a shorter beginning of the word there
remains neither the ending alone nor nothing. -/
theorem stem_split (nonempty : word ≠ []) :
    ∃ ending, word = stem word ++ ending ∧ stem word ≠ [] ∧
      (ending = [] ∨ ending = nameEnding) ∧
      ∀ n m, stem word = n ++ m → n ≠ [] → m ≠ [] →
        m ++ ending ≠ [] ∧ m ++ ending ≠ nameEnding := by
  by_cases ends : ∃ name, name ≠ [] ∧ word = name ++ nameEnding
  · obtain ⟨name, isName, rfl⟩ := ends
    rw [stem_of_ending isName]
    refine ⟨nameEnding, rfl, isName, .inr rfl, fun n m _ _ more => ⟨by simp [more], ?_⟩⟩
    simpa using more
  · have whole : stem word = word := stem_of_no_ending fun name isName split =>
      ends ⟨name, isName, split⟩
    rw [whole]
    refine ⟨[], by simp, nonempty, .inl rfl, fun n m split isName more => ⟨by simp [more], ?_⟩⟩
    rw [List.append_nil]
    rintro rfl
    exact ends ⟨n, isName, split⟩

/-! ### The pattern, part by part -/

/-- The marks for a name behind `before`. -/
def nameMarks (before name : List Char) : List (Mark × Nat) :=
  [(.opens "name", before.length), (.closes "name", (before ++ name).length)]

/-- The marks for the target of an attribute between two places, where it is the value returned. -/
def targetMarks (ofReturnValue : Bool) (i j : Nat) : List (Mark × Nat) :=
  if ofReturnValue then [(.opens "return", i), (.closes "return", j)] else []

/-- What follows the name. -/
def nameEnd : Pattern := optional (text "Attribute") ++ (blanks ++ text "(")

def nameOn : Pattern := group "name" (oneOrFew Text.isWord) ++ nameEnd

def returnTarget : Pattern := text "return" ++ blanks ++ text ":"

def leadOn : Pattern := optional (group "return" returnTarget) ++ (blanks ++ nameOn)

theorem attempt_attributeStart (next : Next) :
    attributeStart.attempt next =
      (text "[").attempt ((optional (text "<")).attempt ((blanks ++ leadOn).attempt next)) :=
  rfl

theorem isWord_nameEnding : Run Text.isWord nameEnding := Text.run_of_all (by decide +kernel)

theorem isWord_return : Run Text.isWord "return".toList := Text.run_of_all (by decide +kernel)

theorem isWord_openParen : Text.isWord '(' = false := by decide +kernel

theorem isWord_openBracket : Text.isWord '[' = false := by decide +kernel

/-- No word goes on with white space and then a character that is of no word. -/
theorem endsRun_isWord {c : Char} (noWord : Text.isWord c = false) (isBlank : Run Text.isBlank blank) :
    EndsRun Text.isWord (blank ++ c :: rest) :=
  Text.endsRun_append (fun _ => Text.isWord_of_isBlank) isBlank (Text.endsRun_cons.mpr noWord)

/-- No character of a class is one outside it. -/
theorem beq_of_class {cls : Char → Bool} {d : Char} (isNone : cls d = false) (c : Char)
    (isCls : cls c = true) : (c == d) = false := by
  refine beq_false_of_ne ?_
  rintro rfl
  exact absurd isCls (by simp [isNone])

theorem accepts_nameEnd {taken : List Char} :
    nameEnd.Accepts before taken after ↔ ∃ ending blank, taken = ending ++ (blank ++ ['(']) ∧
      (ending = [] ∨ ending = nameEnding) ∧ Run Text.isBlank blank := by
  unfold nameEnd
  constructor
  · rintro ⟨ending, _, rfl, isEnding, blank, _, rfl, isBlank, rfl⟩
    exact ⟨ending, blank, rfl, accepts_optional.mp isEnding, isBlank⟩
  · rintro ⟨ending, blank, rfl, isEnding, isBlank⟩
    exact ⟨ending, _, rfl, accepts_optional.mpr isEnding, blank, _, rfl, isBlank, rfl⟩

theorem attempt_nameEnd {ending : List Char} (isEnding : ending = [] ∨ ending = nameEnding)
    (isBlank : Run Text.isBlank blank) :
    nameEnd.attempt finish before (ending ++ (blank ++ '(' :: rest)) =
      some { stop := (before ++ ending ++ blank ++ ['(']).length } := by
  have stops : EndsRun Text.isBlank ('(' :: rest) := Text.endsRun_cons.mpr (by decide)
  have paren : ∀ l, (text "(").attempt finish l ('(' :: rest) =
      some { stop := (l ++ ['(']).length } := fun _ => attempt_text "("
  have blanks_on : ∀ l, (blanks ++ text "(").attempt finish l (blank ++ '(' :: rest) =
      some { stop := (l ++ blank ++ ['(']).length } :=
    fun l => attempt_blanks isBlank stops (paren (l ++ blank))
  rcases isEnding with rfl | rfl
  · have stuck : (text "Attribute").attempt ((blanks ++ text "(").attempt finish) before
        (blank ++ '(' :: rest) = none :=
      attempt_text_endsRun ⟨'A', rfl, by decide +kernel⟩ (endsRun_isWord isWord_openParen isBlank)
    rw [List.append_nil]
    exact (attempt_optional_none stuck).trans (blanks_on before)
  · refine attempt_optional_some ?_
    exact (attempt_text "Attribute").trans (blanks_on _)

theorem attempt_nameEnd_none {left : List Char} (isLeft : Run Text.isWord left)
    (some_left : left ≠ []) (other : left ≠ nameEnding) (isBlank : Run Text.isBlank blank) :
    nameEnd.attempt finish before (left ++ (blank ++ '(' :: rest)) = none := by
  refine Option.not_isSome_iff_eq_none.mp fun leads => ?_
  obtain ⟨_, after, cut, accepts⟩ := isSome_attempt_finish.mp leads
  obtain ⟨ending, blank', rfl, isEnding, isBlank'⟩ := accepts_nameEnd.mp accepts
  have isWord : Run Text.isWord ending := by
    rcases isEnding with rfl | rfl
    · exact Text.run_nil
    · exact isWord_nameEnding
  have cut : left ++ (blank ++ '(' :: rest) = ending ++ (blank' ++ '(' :: after) := by
    simpa using cut
  obtain ⟨rfl, -⟩ := Text.run_unique cut isLeft isWord (endsRun_isWord isWord_openParen isBlank)
    (endsRun_isWord isWord_openParen isBlank')
  rcases isEnding with rfl | rfl
  · exact some_left rfl
  · exact other rfl

/-- The name is the stem of the word: nothing shorter leads on, and the stem does. -/
theorem attempt_nameOn (nonempty : word ≠ []) (isWord : Run Text.isWord word)
    (isBlank : Run Text.isBlank blank) :
    nameOn.attempt finish before (word ++ (blank ++ '(' :: rest)) =
      some ⟨(before ++ word ++ blank ++ ['(']).length,
        nameMarks before (stem word)⟩ := by
  obtain ⟨ending, split, isName, isEnding, least⟩ := stem_split nonempty
  generalize stem word = name at *
  subst split
  obtain ⟨name_word, ending_word⟩ := Text.run_append.mp isWord
  have closed : (mark (.closes "name")).attempt (nameEnd.attempt finish) (before ++ name)
      (ending ++ (blank ++ '(' :: rest)) =
        some ⟨(before ++ name ++ ending ++ blank ++ ['(']).length,
          [(.closes "name", (before ++ name).length)]⟩ :=
    attempt_mark _ (attempt_nameEnd isEnding isBlank)
  have shorter : ∀ n m, name = n ++ m → n ≠ [] → m ≠ [] →
      (mark (.closes "name")).attempt (nameEnd.attempt finish) (before ++ n)
        (m ++ (ending ++ (blank ++ '(' :: rest))) = none := by
    rintro n m rfl some_taken more
    obtain ⟨some_left, other⟩ := least n m rfl some_taken more
    have isLeft : Run Text.isWord (m ++ ending) :=
      Text.run_append.mpr ⟨(Text.run_append.mp name_word).2, ending_word⟩
    rw [← List.append_assoc]
    exact Option.map_eq_none_iff.mpr (attempt_nameEnd_none isLeft some_left other isBlank)
  have found := attempt_oneOrFew isName name_word shorter closed
  rw [List.append_assoc name, ← List.append_assoc before]
  exact attempt_group found

theorem accepts_returnTarget {taken : List Char} :
    returnTarget.Accepts before taken after ↔
      ∃ gap, taken = "return".toList ++ gap ++ [':'] ∧ Run Text.isBlank gap := by
  unfold returnTarget
  constructor
  · rintro ⟨_, _, rfl, ⟨_, gap, rfl, rfl, isGap⟩, rfl⟩
    exact ⟨gap, rfl, isGap⟩
  · rintro ⟨gap, rfl, isGap⟩
    exact ⟨_, _, rfl, ⟨_, _, rfl, rfl, isGap⟩, rfl⟩

theorem attempt_returnTarget {next : Next} {gap : List Char} {h : Hit} (isGap : Run Text.isBlank gap)
    (leads : next (before ++ "return".toList ++ gap ++ ":".toList) rest = some h) :
    (group "return" returnTarget).attempt next before
        ("return".toList ++ (gap ++ (":".toList ++ rest))) =
      some ⟨h.stop, targetMarks true before.length
        (before ++ "return".toList ++ gap ++ ":".toList).length ++ h.marks⟩ := by
  have stops : EndsRun Text.isBlank (':' :: rest) := Text.endsRun_cons.mpr (by decide)
  have closed := attempt_mark (.closes "return") leads
  have colon := (attempt_text ":").trans closed
  have target : returnTarget.attempt ((mark (.closes "return")).attempt next) before
      ("return".toList ++ (gap ++ (":".toList ++ rest))) = some _ :=
    (attempt_text "return").trans (attempt_blanks isGap stops colon)
  exact attempt_group target

/-- The word of a heading is no return target: no colon follows it. -/
theorem attempt_returnTarget_none {next : Next} (isWord : Run Text.isWord word)
    (isBlank : Run Text.isBlank blank) :
    (group "return" returnTarget).attempt next before (word ++ (blank ++ '(' :: rest)) = none := by
  refine Option.not_isSome_iff_eq_none.mp fun leads => ?_
  obtain ⟨_, after, cut, accepts, -⟩ := isSome_attempt.mp leads
  obtain ⟨gap, rfl, isGap⟩ := accepts_returnTarget.mp (accepts_group.mp accepts)
  have cut : word ++ (blank ++ '(' :: rest) = "return".toList ++ (gap ++ ':' :: after) := by
    simpa using cut
  obtain ⟨-, cut⟩ := Text.run_unique cut isWord isWord_return
    (endsRun_isWord isWord_openParen isBlank) (endsRun_isWord (by decide +kernel) isGap)
  obtain ⟨-, cut⟩ := Text.run_unique cut isBlank isGap (Text.endsRun_cons.mpr (by decide))
    (Text.endsRun_cons.mpr (by decide))
  exact absurd (List.cons.inj cut).1 (by decide)

theorem attempt_lead (isLead : Lead ofReturnValue lead) (nonempty : word ≠ [])
    (isWord : Run Text.isWord word) (isBlank : Run Text.isBlank blank) :
    ∃ i j, (blanks ++ leadOn).attempt finish before (lead ++ (word ++ (blank ++ '(' :: rest))) =
      some ⟨(before ++ lead ++ word ++ blank ++ ['(']).length,
        targetMarks ofReturnValue i j ++ nameMarks (before ++ lead) (stem word)⟩ := by
  have named : ∀ l, nameOn.attempt finish l (word ++ (blank ++ '(' :: rest)) =
      some ⟨(l ++ word ++ blank ++ ['(']).length, nameMarks l (stem word)⟩ :=
    fun l => attempt_nameOn nonempty isWord isBlank
  have stops : EndsRun Text.isBlank (word ++ (blank ++ '(' :: rest)) :=
    Text.endsRun_of_run (fun _ => Text.isBlank_of_isWord) isWord nonempty
  rcases isLead with isBlank₁ | ⟨isBlank₁, isGap, isBlank₂⟩
  · have through : (blanks ++ nameOn).attempt finish (before ++ lead)
        (word ++ (blank ++ '(' :: rest)) =
          some ⟨(before ++ lead ++ word ++ blank ++ ['(']).length,
            nameMarks (before ++ lead) (stem word)⟩ :=
      (longest_endsRun stops).trans (named _)
    refine ⟨0, 0, attempt_blanks isBlank₁ stops ?_⟩
    exact (attempt_optional_none (attempt_returnTarget_none isWord isBlank)).trans through
  · rename_i blank₁ gap blank₂
    have through := attempt_blanks isBlank₂ stops
      (named (before ++ blank₁ ++ "return".toList ++ gap ++ ":".toList ++ blank₂))
    have target := attempt_optional_some (attempt_returnTarget isGap through)
    have begins : EndsRun Text.isBlank ("return".toList ++
        (gap ++ (":".toList ++ (blank₂ ++ (word ++ (blank ++ '(' :: rest)))))) :=
      Text.endsRun_of_run (fun _ => Text.isBlank_of_isWord) isWord_return (by decide)
    have whole : before ++ (blank₁ ++ "return".toList ++ gap ++ ':' :: blank₂) =
        before ++ blank₁ ++ "return".toList ++ gap ++ ":".toList ++ blank₂ := by
      simp
    have cut : blank₁ ++ "return".toList ++ gap ++ ':' :: blank₂ ++
        (word ++ (blank ++ '(' :: rest)) = blank₁ ++ ("return".toList ++
          (gap ++ (":".toList ++ (blank₂ ++ (word ++ (blank ++ '(' :: rest)))))) := by
      simp
    rw [whole, cut]
    exact ⟨_, _, attempt_blanks isBlank₁ begins target⟩

/-! ### The whole heading -/

/-- Nothing that may stand before the word, nor the word itself, begins with an angle. -/
theorem Lead.endsRun_angle (isLead : Lead ofReturnValue lead) (nonempty : word ≠ [])
    (isWord : Run Text.isWord word) : EndsRun (· == '<') (lead ++ (word ++ after)) := by
  have noBlank : Text.isBlank '<' = false := by decide
  have noWord : Text.isWord '<' = false := by decide +kernel
  rcases isLead with isBlank | ⟨isBlank, _, _⟩
  · exact Text.endsRun_append (beq_of_class noBlank) isBlank
      (Text.endsRun_of_run (beq_of_class noWord) isWord nonempty)
  · simp only [List.append_assoc]
    exact Text.endsRun_append (beq_of_class noBlank) isBlank
      (Text.endsRun_of_run (beq_of_class noWord) isWord_return (by decide))

theorem Lead.no_bracket (isLead : Lead ofReturnValue lead) : '[' ∉ lead := by
  have noBlank : Text.isBlank '[' = false := by decide
  rcases isLead with isBlank | ⟨isBlank, isGap, isBlank'⟩
  · exact isBlank.not_mem noBlank
  · have parts := And.intro (isBlank.not_mem noBlank) (isGap.not_mem noBlank)
    simpa [isBlank'.not_mem noBlank] using parts

theorem Heading.no_bracket (h : Heading) : '[' ∉ h.text := by
  have angle : '[' ∉ h.angle := by
    rcases h.isAngle with none | one
    · simp [none]
    · simp [one]
  simp [Heading.text, angle, h.isLead.no_bracket, h.isWord.not_mem isWord_openBracket,
    h.isBlank.not_mem (c := '[') (by decide)]

theorem attempt_angle {next : Next} {angle : List Char} {h : Hit}
    (isAngle : angle = [] ∨ angle = ['<']) (stops : EndsRun (· == '<') rest)
    (leads : next (before ++ angle) rest = some h) :
    (optional (text "<")).attempt next before (angle ++ rest) = some h := by
  rcases isAngle with rfl | rfl
  · rw [List.append_nil] at leads
    exact (attempt_optional_none (attempt_text_endsRun ⟨'<', rfl, rfl⟩ stops)).trans leads
  · exact attempt_optional_some ((attempt_text "<").trans leads)

/-- From a bracket with a heading behind it, the preferred way goes through the whole heading and
notes the stem of its word as the name. -/
theorem attempt_heading (h : Heading) (before rest : List Char) :
    ∃ i j, attributeStart.attempt finish before ('[' :: (h.text ++ rest)) =
      some ⟨(before ++ '[' :: h.text).length, targetMarks h.ofReturnValue i j ++
        nameMarks (before ++ '[' :: (h.angle ++ h.lead)) (stem h.word)⟩ := by
  obtain ⟨i, j, led⟩ : ∃ i j, (blanks ++ leadOn).attempt finish (before ++ "[".toList ++ h.angle)
      (h.lead ++ (h.word ++ (h.blank ++ '(' :: rest))) =
        some ⟨(before ++ "[".toList ++ h.angle ++ h.lead ++ h.word ++ h.blank ++ ['(']).length,
          targetMarks h.ofReturnValue i j ++
            nameMarks (before ++ "[".toList ++ h.angle ++ h.lead) (stem h.word)⟩ :=
    attempt_lead h.isLead h.nonempty h.isWord h.isBlank
  have angled := attempt_angle h.isAngle (h.isLead.endsRun_angle h.nonempty h.isWord) led
  have opened := (attempt_text "[").trans angled
  refine ⟨i, j, ?_⟩
  rw [attempt_attributeStart]
  simpa [Heading.text] using opened

/-- What the pattern accepts is a bracket with a heading behind it. -/
theorem exists_heading (leads : (attributeStart.attempt finish before after).isSome = true) :
    ∃ (h : Heading) (rest : List Char), after = '[' :: (h.text ++ rest) := by
  obtain ⟨_, rest, rfl, accepts⟩ := isSome_attempt_finish.mp leads
  obtain ⟨_, _, rfl, ⟨_, blank, rfl, ⟨_, ending, rfl, ⟨_, name, rfl, ⟨_, blank₂, rfl,
    ⟨_, target, rfl, ⟨_, blank₁, rfl, ⟨_, angle, rfl, rfl, isAngle⟩, isBlank₁⟩, isTarget⟩,
    isBlank₂⟩, isName⟩, isEnding⟩, isBlank⟩, rfl⟩ := accepts
  obtain ⟨nonempty, isName⟩ := accepts_oneOrFew.mp (accepts_group.mp isName)
  have isEnding : Run Text.isWord ending := by
    rcases accepts_optional.mp isEnding with rfl | rfl
    · exact Text.run_nil
    · exact isWord_nameEnding
  have isWord : Run Text.isWord (name ++ ending) := Text.run_append.mpr ⟨isName, isEnding⟩
  have lead : ∃ ofReturnValue, Lead ofReturnValue (blank₁ ++ target ++ blank₂) := by
    rcases accepts_optional.mp isTarget with rfl | isTarget
    · have isBlank : Run Text.isBlank (blank₁ ++ [] ++ blank₂) := by
        rw [List.append_nil]
        exact Text.run_append.mpr ⟨isBlank₁, isBlank₂⟩
      exact ⟨false, .parameter isBlank⟩
    · obtain ⟨gap, rfl, isGap⟩ := accepts_returnTarget.mp (accepts_group.mp isTarget)
      have isLead := Lead.returned isBlank₁ isGap isBlank₂
      exact ⟨true, by simpa using isLead⟩
  obtain ⟨ofReturnValue, isLead⟩ := lead
  refine ⟨⟨angle, ofReturnValue, blank₁ ++ target ++ blank₂, name ++ ending, blank,
    accepts_optional.mp isAngle, isLead, by simp [nonempty], isWord, isBlank⟩, rest, ?_⟩
  simp [Heading.text]

end OrchestrationGraph.Binding
