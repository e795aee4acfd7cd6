import OrchestrationGraph.Proofs.Usage.Stop

/-!
# Declarations of a function

What the search for the declaration of a function finds, said without patterns (`Site`). From one
place on a declaration can be read in one way only, whatever characters the name has, so where it
ends is settled by where it begins (`Declaration.unique`).
-/

namespace OrchestrationGraph.Usage

open Pattern
open Text (Run EndsRun)

/-- A quote or the closing parenthesis. -/
def EndsDeclared (c : Char) : Prop := Quote c ∨ c = ')'

/-- The parts of an attribute that declares the function `name`. -/
structure Declaration (name : String) where
  keyword : List Char
  ending : List Char
  beforeParen : List Char
  afterParen : List Char
  opening : List Char
  blank : List Char
  closing : Char
  isKeyword : keyword = "FunctionName".toList ∨ keyword = "Function".toList
  isEnding : ending = [] ∨ ending = "Attribute".toList
  isBlankBefore : Blank beforeParen
  isBlankAfter : Blank afterParen
  isOpening : PlainOpening opening
  isBlank : Blank blank
  isClosing : EndsDeclared closing

def Declaration.text {name : String} (d : Declaration name) : List Char :=
  d.keyword ++ d.ending ++ d.beforeParen ++ ['('] ++ d.afterParen ++ d.opening ++ name.toList ++
    d.blank ++ [d.closing]

/-- A place of a text where the function `name` is declared: a declaration stands there, and no word
goes on into it. -/
structure Site (name : String) (text : List Char) where
  before : List Char
  declaration : Declaration name
  after : List Char
  split : text = before ++ declaration.text ++ after
  isEdge : ∀ c ∈ before.getLast?, Text.isWord c = false

variable {name : String} {code before taken after after' : List Char}

theorem Site.isPrefix (site : Site name code) : site.before <+: code := by
  have split := site.split.symm
  rw [List.append_assoc] at split
  exact ⟨_, split⟩

/-! ### The pattern -/

theorem accepts_declaredClosing {c : Char} :
    (isQuote c || decide (c = ')')) = true ↔ EndsDeclared c := by
  simp [EndsDeclared, isQuote_iff]

/-- A keyword begins a word where no word stands before it. -/
theorem isEdge_keyword {keyword rest : List Char}
    (isKeyword : keyword = "FunctionName".toList ∨ keyword = "Function".toList) :
    isEdge Text.isWord before.getLast? (keyword ++ rest).head? = true ↔
      ∀ c ∈ before.getLast?, Text.isWord c = false := by
  have first : (keyword ++ rest).head? = some 'F' := by
    rcases isKeyword with rfl | rfl <;> rfl
  have word : Text.isWord 'F' = true := by decide +kernel
  cases last : before.getLast? <;> simp [isEdge, first, word]

theorem accepts_declaresFunction :
    (declaresFunction name).Accepts before taken after ↔
      (∃ d : Declaration name, taken = d.text) ∧ ∀ c ∈ before.getLast?, Text.isWord c = false := by
  unfold declaresFunction
  constructor
  · rintro ⟨_, _, rfl, ⟨_, blank, rfl, ⟨_, _, rfl, ⟨_, opening, rfl, ⟨_, _, rfl,
      ⟨_, ending, rfl, ⟨_, keyword, rfl, ⟨rfl, isEdge⟩, accepts⟩, isEnding⟩, isParen⟩, isOpening⟩,
      rfl⟩, isBlank⟩, closing, rfl, isClosing⟩
    obtain ⟨beforeParen, afterParen, rfl, isBlankBefore, isBlankAfter⟩ :=
      accepts_openingParen.mp isParen
    have isKeyword : keyword = "FunctionName".toList ∨ keyword = "Function".toList := by
      obtain ⟨_, here, accepts⟩ := accepts_choice.mp accepts
      simp only [List.mem_cons, List.not_mem_nil, or_false] at here
      rcases here with rfl | rfl
      · exact .inl accepts
      · exact .inr accepts
    simp only [List.append_assoc] at isEdge
    refine ⟨⟨⟨keyword, ending, beforeParen, afterParen, opening, blank, closing, isKeyword,
      accepts_optional.mp isEnding, isBlankBefore, isBlankAfter, accepts_plainOpening.mp isOpening,
      isBlank, accepts_declaredClosing.mp isClosing⟩, ?_⟩, (isEdge_keyword isKeyword).mp isEdge⟩
    simp [Declaration.text]
  · rintro ⟨⟨d, rfl⟩, isEdge⟩
    have isParen : ∀ b a, openingParen.Accepts b (d.beforeParen ++ '(' :: d.afterParen) a :=
      fun _ _ => accepts_openingParen.mpr ⟨_, _, rfl, d.isBlankBefore, d.isBlankAfter⟩
    have accepts : ∀ b a,
        (choice (text "FunctionName") [text "Function"]).Accepts b d.keyword a := by
      intro _ _
      rcases d.isKeyword with same | same
      · exact accepts_choice.mpr ⟨text "FunctionName", by simp, same⟩
      · exact accepts_choice.mpr ⟨text "Function", by simp, same⟩
    refine ⟨_, _, ?_, ⟨_, _, rfl, ⟨_, _, rfl, ⟨_, _, rfl, ⟨_, _, rfl, ⟨_, _, rfl,
      ⟨[], d.keyword, rfl, ⟨rfl, ?_⟩, accepts _ _⟩, accepts_optional.mpr d.isEnding⟩, isParen _ _⟩,
      accepts_plainOpening.mpr d.isOpening⟩, rfl⟩, d.isBlank⟩, _, rfl,
      accepts_declaredClosing.mpr d.isClosing⟩
    · simp [Declaration.text]
    · simp only [List.append_assoc]
      exact (isEdge_keyword d.isKeyword).mpr isEdge

/-! ### One way to read a declaration -/

theorem isStop_of_endsDeclared {c : Char} (ends : EndsDeclared c) : isStop c = true :=
  isStop_of_endsName (ends.imp_right .inl)

/-- Two runs lead to the same text, and behind it to a stop each. The stops are the same one: either
no stop is in the text, or the first one in it makes the runs equal. -/
theorem stop_unique {run run' l blank blank' : List Char} {c c' : Char}
    (split : run ++ (l ++ (blank ++ c :: after)) = run' ++ (l ++ (blank' ++ c' :: after')))
    (isRun : Run noStop run) (isRun' : Run noStop run') (isBlank : Blank blank)
    (isBlank' : Blank blank') (stops : isStop c = true) (stops' : isStop c' = true) :
    after = after' := by
  have closes : ∀ {u v : List Char}, Run noStop u → Run noStop v →
      u ++ c :: after = v ++ c' :: after' → after = after' := by
    intro u v hu hv same
    obtain ⟨-, tails⟩ := Text.run_unique same hu hv (endsRun_noStop stops) (endsRun_noStop stops')
    exact (List.cons.inj tails).2
  have blank_plain := run_noStop_of_blank isBlank
  have blank_plain' := run_noStop_of_blank isBlank'
  have cut : l = l.takeWhile noStop ++ l.dropWhile noStop := List.takeWhile_append_dropWhile.symm
  have front : Run noStop (l.takeWhile noStop) := Text.run_of_all List.all_takeWhile
  have rest := Text.endsRun_dropWhile noStop l
  generalize l.takeWhile noStop = l₁ at *
  generalize l.dropWhile noStop = l₂ at *
  subst cut
  cases l₂ with
  | nil =>
    refine closes (u := run ++ (l₁ ++ blank)) (v := run' ++ (l₁ ++ blank')) ?_ ?_ ?_
    · exact Text.run_append.mpr ⟨isRun, Text.run_append.mpr ⟨front, blank_plain⟩⟩
    · exact Text.run_append.mpr ⟨isRun', Text.run_append.mpr ⟨front, blank_plain'⟩⟩
    · simpa using split
  | cons d l₂ =>
    have split : (run ++ l₁) ++ d :: (l₂ ++ (blank ++ c :: after)) =
        (run' ++ l₁) ++ d :: (l₂ ++ (blank' ++ c' :: after')) := by
      simpa using split
    have ends : ∀ {more}, EndsRun noStop (d :: more) :=
      Text.endsRun_cons.mpr (Text.endsRun_cons.mp rest)
    obtain ⟨-, tails⟩ := Text.run_unique split (Text.run_append.mpr ⟨isRun, front⟩)
      (Text.run_append.mpr ⟨isRun', front⟩) ends ends
    exact closes blank_plain blank_plain' (List.append_cancel_left (List.cons.inj tails).2)

/-- Between the parenthesis and the name there is a stop with no dot before it, or a dot and no
stop. -/
theorem PlainOpening.stop_or_dot {lead opening : List Char} (isOpening : PlainOpening opening)
    (isLead : Blank lead) :
    (∃ front stop run, lead ++ opening = front ++ stop :: run ∧ Run noStop front ∧ '.' ∉ front ∧
      isStop stop = true ∧ Run noStop run) ∨
    (Run noStop (lead ++ opening) ∧ '.' ∈ lead ++ opening) := by
  have noDot : ∀ {l}, Blank l → '.' ∉ l := fun isBlank => Run.not_mem isBlank (by decide)
  have lead_plain := run_noStop_of_blank isLead
  rcases isOpening with ⟨spells, isBlank, isBlank'⟩ | isQuote | ⟨nonempty, all, isBlank⟩
  · rename_i word blank blank'
    have word_plain : Run noStop word := run_noStop_of_spells spells (by decide)
    have word_dot : '.' ∉ word := by
      intro here
      have folded : foldCase '.' ∈ "nameof".toList.map foldCase := spells ▸ List.mem_map_of_mem here
      exact absurd folded (by decide)
    refine .inl ⟨lead ++ word ++ blank, '(', blank', by simp, ?_, ?_, by decide,
      run_noStop_of_blank isBlank'⟩
    · exact Text.run_append.mpr ⟨Text.run_append.mpr ⟨lead_plain, word_plain⟩,
        run_noStop_of_blank isBlank⟩
    · simp [noDot isLead, noDot isBlank, word_dot]
  · exact .inl ⟨lead, _, [], rfl, lead_plain, noDot isLead, isStop_of_quote isQuote, Text.run_nil⟩
  · rename_i owner blank
    have owner_plain : Run noStop owner := run_noStop_of_class all (by decide)
    refine .inr ⟨Text.run_append.mpr ⟨lead_plain, Text.run_append.mpr ⟨owner_plain, ?_⟩⟩, by simp⟩
    exact Text.run_cons.mpr ⟨by decide, run_noStop_of_blank isBlank⟩

/-- A run with a dot in it does not stand where a stop comes before any dot. -/
theorem no_dot_before_stop {front run rest rest' : List Char} {stop : Char}
    (split : front ++ stop :: rest = run ++ rest') (noDot : '.' ∉ front) (stops : isStop stop = true)
    (isRun : Run noStop run) : '.' ∉ run := by
  intro dot
  rcases List.append_eq_append_iff.mp split with ⟨more, rfl, cut⟩ | ⟨more, rfl, -⟩
  · cases more with
    | nil => exact noDot (by simpa using dot)
    | cons c more =>
      obtain ⟨rfl, -⟩ := List.cons.inj cut
      have plain := isRun stop (by simp)
      simp [noStop, stops] at plain
  · exact noDot (List.mem_append_left _ dot)

theorem opening_unique {lead lead' opening opening' l blank blank' : List Char} {c c' : Char}
    (split : (lead ++ opening) ++ (l ++ (blank ++ c :: after)) =
      (lead' ++ opening') ++ (l ++ (blank' ++ c' :: after')))
    (isLead : Blank lead) (isLead' : Blank lead') (isOpening : PlainOpening opening)
    (isOpening' : PlainOpening opening') (isBlank : Blank blank) (isBlank' : Blank blank')
    (stops : isStop c = true) (stops' : isStop c' = true) : after = after' := by
  rcases isOpening.stop_or_dot isLead with
    ⟨front, stop, run, whole, isFront, noDot, isStop, isRun⟩ | ⟨isRun, dot⟩
  · rcases isOpening'.stop_or_dot isLead' with
      ⟨front', stop', run', whole', isFront', noDot', isStop', isRun'⟩ | ⟨isRun', dot'⟩
    · rw [whole, whole', List.append_assoc, List.append_assoc] at split
      obtain ⟨-, tails⟩ := Text.run_unique split isFront isFront' (endsRun_noStop isStop)
        (endsRun_noStop isStop')
      exact stop_unique (List.cons.inj tails).2 isRun isRun' isBlank isBlank' stops stops'
    · rw [whole, List.append_assoc] at split
      exact absurd dot' (no_dot_before_stop split noDot isStop isRun')
  · rcases isOpening'.stop_or_dot isLead' with
      ⟨front', stop', run', whole', isFront', noDot', isStop', isRun'⟩ | ⟨isRun', dot'⟩
    · rw [whole', List.append_assoc front'] at split
      exact absurd dot (no_dot_before_stop split.symm noDot' isStop' isRun)
    · exact stop_unique split isRun isRun' isBlank isBlank' stops stops'

theorem Declaration.isWord (d : Declaration name) : Run Text.isWord (d.keyword ++ d.ending) := by
  refine Text.run_append.mpr ⟨?_, ?_⟩
  · rcases d.isKeyword with same | same
    · exact same ▸ Text.run_of_all (by decide +kernel)
    · exact same ▸ Text.run_of_all (by decide +kernel)
  · rcases d.isEnding with same | same
    · exact same ▸ Text.run_nil
    · exact same ▸ Text.run_of_all (by decide +kernel)

theorem Declaration.begins (d : Declaration name) (after : List Char) :
    "Function".toList <+: d.text ++ after := by
  have starts : ∀ keyword : List Char,
      keyword = "FunctionName".toList ∨ keyword = "Function".toList →
        "Function".toList <+: keyword := by
    rintro _ (rfl | rfl)
    · exact ⟨"Name".toList, rfl⟩
    · exact List.prefix_rfl
  refine (starts d.keyword d.isKeyword).trans ?_
  simp only [Declaration.text, List.append_assoc]
  exact List.prefix_append _ _

/-- Where a declaration ends is settled by where it begins. -/
theorem Declaration.unique (d d' : Declaration name) (split : d.text ++ after = d'.text ++ after') :
    after = after' := by
  -- The keyword with its ending is a word, white space follows, and then a parenthesis.
  have parts : ∀ (d : Declaration name) after, d.text ++ after = (d.keyword ++ d.ending) ++
      (d.beforeParen ++ '(' :: ((d.afterParen ++ d.opening) ++
        (name.toList ++ (d.blank ++ d.closing :: after)))) := by
    simp [Declaration.text]
  have endsWord : ∀ {blank rest}, Blank blank → EndsRun Text.isWord (blank ++ '(' :: rest) :=
    fun isBlank => Text.endsRun_append (fun _ => Text.isWord_of_isBlank) isBlank
      (Text.endsRun_cons.mpr (by decide +kernel))
  have endsBlank : ∀ {rest}, EndsRun Text.isBlank ('(' :: rest) :=
    Text.endsRun_cons.mpr (by decide)
  rw [parts, parts] at split
  obtain ⟨-, behind_word⟩ := Text.run_unique split d.isWord d'.isWord (endsWord d.isBlankBefore)
    (endsWord d'.isBlankBefore)
  obtain ⟨-, behind_blank⟩ := Text.run_unique behind_word d.isBlankBefore d'.isBlankBefore
    endsBlank endsBlank
  exact opening_unique (List.cons.inj behind_blank).2 d.isBlankAfter d'.isBlankAfter d.isOpening
    d'.isOpening d.isBlank d'.isBlank (isStop_of_endsDeclared d.isClosing)
    (isStop_of_endsDeclared d'.isClosing)

end OrchestrationGraph.Usage
