import OrchestrationGraph.Proofs.Usage.Activity
import OrchestrationGraph.Proofs.Usage.Stop

/-!
# Names found as a whole

A call that gives its target between quotes is found for that name alone. A call that gives it by
`nameof` is found for every name that the given one ends with, since what may stand before the name
there may end within a word (`targetFound_iff`).
-/

namespace OrchestrationGraph.Usage

open Pattern
open Text (Run EndsRun)

/-- Letters, digits and underscores within ASCII, at least one. -/
def IsIdentifier (name : String) : Prop :=
  name ≠ "" ∧ ∀ c ∈ name.toList, Text.isAsciiWord c = true

instance (name : String) : Decidable (IsIdentifier name) :=
  decidable_of_decidable_of_iff (p := name ≠ "" ∧ name.toList.all Text.isAsciiWord = true)
    (by rw [IsIdentifier, List.all_eq_true])

inductive Target where
  | started
  | orchestration
  | activity

namespace Target

def pattern : Target → String → Pattern
  | started => startsOrchestration
  | orchestration => callsOrchestration
  | activity => callsActivity

def verbs : Target → List String
  | started => startVerbs
  | orchestration => subOrchestrationVerbs
  | activity => activityVerbs

/-- What may follow a verb in the same word. -/
def Suffix : Target → List Char → Prop
  | started, l | orchestration, l => l = [] ∨ Spells "Async" l
  | activity, l => Run Text.isWord l

/-- A verb in any letter case, and what follows it in the same word. -/
def Verb (t : Target) (l : List Char) : Prop :=
  ∃ v ∈ t.verbs, ∃ word suffix, l = word ++ suffix ∧ Spells v word ∧ t.Suffix suffix

end Target

def callText (verb argument : List Char) : List Char := verb ++ '(' :: (argument ++ [')'])

def quotedName (quote : Char) (name : String) : List Char := quote :: (name.toList ++ [quote])

def nameofWord : List Char := "nameof".toList

def nameofName (name : String) : List Char := nameofWord ++ '(' :: (name.toList ++ [')'])

/-! ### What stands behind a parenthesis where a name is found -/

/-- The text leads to `name`, perhaps with one quote before it, and the name ends there. -/
def LeadsTo (name : String) (l : List Char) : Prop :=
  ∃ lead quote blank closing after,
    l = lead ++ quote ++ name.toList ++ blank ++ closing :: after ∧ Run noStop lead ∧
      (quote = [] ∨ ∃ c, quote = [c] ∧ Quote c) ∧ Blank blank ∧ EndsName closing

variable {name : String} {code run rest : List Char} {c : Char}

/-- Whatever opens the argument, some parenthesis stands before a run and perhaps a quote. -/
theorem Opening.leadsTo {opening lead blank : List Char} {closing : Char} (name : String)
    (after : List Char) (isOpening : Opening opening) (isLead : Blank lead) (isBlank : Blank blank)
    (ends : EndsName closing) :
    ∃ front tail, '(' :: (lead ++ opening ++ name.toList ++ blank ++ closing :: after) =
      front ++ '(' :: tail ∧ LeadsTo name tail := by
  rcases isOpening with quote | ⟨-, -, isBlank', all⟩ | ⟨-, all, isBlank'⟩
  · rename_i c
    exact ⟨[], _, rfl, lead, [c], blank, closing, after, rfl, run_noStop_of_blank isLead,
      .inr ⟨c, rfl, quote⟩, isBlank, ends⟩
  · rename_i word gap blank' qualifier
    have isQualifier : Run noStop qualifier :=
      run_noStop_of_class (fun c hc => (all c hc).imp_right .inr) (by decide)
    refine ⟨'(' :: (lead ++ word ++ gap), blank' ++ qualifier ++ [] ++ name.toList ++ blank ++
      closing :: after, by simp, blank' ++ qualifier, [], blank, closing, after, rfl, ?_, .inl rfl,
      isBlank, ends⟩
    exact Text.run_append.mpr ⟨run_noStop_of_blank isBlank', isQualifier⟩
  · rename_i owner blank'
    have isOwner : Run noStop owner := run_noStop_of_class all (by decide)
    have isDot : Run noStop ['.'] := Text.run_cons.mpr ⟨by decide, Text.run_nil⟩
    refine ⟨[], _, rfl, lead ++ (owner ++ ['.'] ++ blank'), [], blank, closing, after, by simp, ?_,
      .inl rfl, isBlank, ends⟩
    simp only [Text.run_append]
    exact ⟨run_noStop_of_blank isLead, ⟨isOwner, isDot⟩, run_noStop_of_blank isBlank'⟩

theorem leadsTo_of_found {t : Target} (found : (t.pattern name).occursIn code = true) :
    ∃ front tail, code = front ++ '(' :: tail ∧ LeadsTo name tail := by
  have named : ∀ verbs, HasCall EndsName verbs name code →
      ∃ front tail, code = front ++ '(' :: tail ∧ LeadsTo name tail := by
    rintro verbs ⟨before, call, after, rfl⟩
    obtain ⟨front, tail, split, leads⟩ := call.isOpening.leadsTo name after
      call.isBlankAfter call.isBlank call.isClosing
    refine ⟨before ++ call.verb ++ call.async ++ call.generic ++ call.beforeParen ++ front, tail,
      ?_, leads⟩
    rw [List.append_assoc _ front, ← split]
    simp [Call.text]
  cases t with
  | started => exact named _ (occursIn_callNaming.mp found)
  | orchestration => exact named _ (occursIn_callNaming.mp found)
  | activity =>
    obtain ⟨before, _, after, rfl, accepts⟩ := occursIn_iff.mp found
    obtain ⟨call, rfl⟩ := accepts_callsActivity.mp accepts
    exact ⟨before ++ call.verb ++ call.between,
      call.lead ++ call.quote ++ name.toList ++ call.blank ++ call.closing :: after,
      by simp [ActivityCall.text], call.lead, call.quote, call.blank, call.closing, after, rfl,
      run_noStop_of_class call.isLead (by decide), call.isQuote, call.isBlank, call.isClosing⟩

/-! ### Which names are found -/

theorem IsIdentifier.noStop (isName : IsIdentifier name) : Run noStop name.toList := fun c hc =>
  noStop_of_isWord (Text.isWord_of_isAsciiWord (isName.2 c hc))

theorem IsIdentifier.toList_ne_nil (isName : IsIdentifier name) : name.toList ≠ [] := by
  simpa using isName.1

/-- No white space ends an identifier. -/
theorem IsIdentifier.blank_eq_nil (isName : IsIdentifier name) {l blank : List Char}
    (split : name.toList = l ++ blank) (isBlank : Blank blank) : blank = [] := by
  refine List.eq_nil_iff_forall_not_mem.mpr fun c hc => ?_
  have here : c ∈ name.toList := split ▸ List.mem_append_right l hc
  have noWord := Text.isWord_of_isBlank (isBlank c hc)
  exact absurd (Text.isWord_of_isAsciiWord (isName.2 c here)) (by simp [noWord])

/-- The first stop either ends the name or is the quote before it. -/
theorem LeadsTo.cases (leads : LeadsTo name (run ++ c :: rest)) (isName : IsIdentifier name)
    (isRun : Run noStop run) (stops : isStop c = true) :
    (EndsName c ∧ ∃ lead blank, run = lead ++ name.toList ++ blank ∧ Blank blank) ∨
      (Quote c ∧ ∃ blank closing after, rest = name.toList ++ blank ++ closing :: after ∧
        Blank blank ∧ EndsName closing) := by
  obtain ⟨lead, quote, blank, closing, after, split, isLead, isQuote, isBlank, ends⟩ := leads
  have isNamed : Run noStop (lead ++ name.toList ++ blank) := Text.run_append.mpr
    ⟨Text.run_append.mpr ⟨isLead, isName.noStop⟩, run_noStop_of_blank isBlank⟩
  rcases isQuote with rfl | ⟨q, rfl, isQuote⟩
  · rw [List.append_nil] at split
    obtain ⟨same, tails⟩ := Text.run_unique split isRun isNamed (endsRun_noStop stops)
      (endsRun_noStop (isStop_of_endsName ends))
    obtain ⟨rfl, -⟩ := List.cons.inj tails
    exact .inl ⟨ends, lead, blank, same, isBlank⟩
  · have split : run ++ c :: rest = lead ++ q :: (name.toList ++ blank ++ closing :: after) := by
      simpa using split
    obtain ⟨-, tails⟩ := Text.run_unique split isRun isLead (endsRun_noStop stops)
      (endsRun_noStop (isStop_of_quote isQuote))
    obtain ⟨rfl, rest_eq⟩ := List.cons.inj tails
    exact .inr ⟨isQuote, blank, closing, after, rest_eq, isBlank, ends⟩

variable {X Y : String}

theorem LeadsTo.eq_of_quoted (leads : LeadsTo X (c :: (Y.toList ++ c :: rest)))
    (isX : IsIdentifier X) (isY : IsIdentifier Y) (quote : Quote c) : X = Y := by
  have stops := isStop_of_quote quote
  rcases (show LeadsTo X ([] ++ c :: _) from leads).cases isX Text.run_nil stops with
    ⟨-, lead, blank, none, -⟩ | ⟨-, blank, closing, after, split, isBlank, ends⟩
  · simp [isX.toList_ne_nil] at none
  · have isNamed : Run noStop (X.toList ++ blank) :=
      Text.run_append.mpr ⟨isX.noStop, run_noStop_of_blank isBlank⟩
    obtain ⟨same, -⟩ := Text.run_unique split isY.noStop isNamed (endsRun_noStop stops)
      (endsRun_noStop (isStop_of_endsName ends))
    obtain rfl := isY.blank_eq_nil same isBlank
    rw [List.append_nil] at same
    exact String.toList_inj.mp same.symm

theorem LeadsTo.isSuffix (leads : LeadsTo X (Y.toList ++ ')' :: rest)) (isX : IsIdentifier X)
    (isY : IsIdentifier Y) : X.toList <:+ Y.toList := by
  rcases leads.cases isX isY.noStop (by decide) with
    ⟨-, lead, blank, split, isBlank⟩ | ⟨quote, -⟩
  · obtain rfl := isY.blank_eq_nil split isBlank
    exact ⟨lead, by simpa using split.symm⟩
  · exact absurd (isQuote_iff.mpr quote) (by decide)

/-- Behind a parenthesis in the text stands the rest from the first one on, or from a later one. -/
theorem behind_paren {front tail : List Char} (absent : '(' ∉ run)
    (split : run ++ '(' :: rest = front ++ '(' :: tail) :
    tail = rest ∨ ∃ m, rest = m ++ '(' :: tail := by
  rcases List.append_eq_append_iff.mp split with ⟨a, rfl, cut⟩ | ⟨a, rfl, cut⟩
  · cases a with
    | nil => exact .inl (List.cons.inj cut).2.symm
    | cons d a => exact .inr ⟨a, (List.cons.inj cut).2⟩
  · cases a with
    | nil => exact .inl (List.cons.inj cut).2
    | cons d a =>
      obtain ⟨rfl, -⟩ := List.cons.inj cut
      exact absurd (by simp) absent

theorem Target.Verb.no_paren {t : Target} {verb : List Char} (isVerb : t.Verb verb) :
    '(' ∉ verb := by
  obtain ⟨v, here, word, suffix, rfl, spells, isSuffix⟩ := isVerb
  have plain : ∀ t : Target, ∀ v ∈ t.verbs, (v.toList.map foldCase).all noStop = true := by
    intro t
    cases t <;> decide
  have isWord : Run noStop word := run_noStop_of_spells spells (plain t v here)
  have ending : Run noStop suffix := by
    have isAsync : suffix = [] ∨ Spells "Async" suffix → Run noStop suffix := by
      rintro (rfl | spells)
      · exact Text.run_nil
      · exact run_noStop_of_spells spells (by decide)
    cases t with
    | started => exact isAsync isSuffix
    | orchestration => exact isAsync isSuffix
    | activity => exact fun c hc => noStop_of_isWord (isSuffix c hc)
  exact (Text.run_append.mpr ⟨isWord, ending⟩).not_mem (by decide)

/-! ### Where a name is found -/

theorem found_call {first : String} {others : List String} {word suffix opening after : List Char}
    {closing : Char} (isVerb : ∃ v ∈ first :: others, Spells v word)
    (isSuffix : suffix = [] ∨ Spells "Async" suffix) (isOpening : Opening opening)
    (ends : EndsName closing) :
    (callNaming (verbs first others) name).occursIn
      (word ++ suffix ++ '(' :: (opening ++ name.toList ++ closing :: after)) = true := by
  refine occursIn_callNaming.mpr ⟨[], ⟨word, suffix, [], [], [], opening, [], closing, isVerb,
    isSuffix, .none, Text.run_nil, Text.run_nil, isOpening, Text.run_nil, ends⟩, after, ?_⟩
  simp [Call.text]

theorem found_activity {word between lead quote after : List Char} {closing : Char}
    (isVerb : ∃ v ∈ activityVerbs, Spells v word)
    (isBetween : ∀ c ∈ between, WordBlankOr [',', '.', '<', '>', '[', ']', '(', ')', '?', '-'] c)
    (isLead : ∀ c ∈ lead, WordBlankOr ['.', '-'] c)
    (isQuote : quote = [] ∨ ∃ c, quote = [c] ∧ Quote c) (ends : EndsName closing) :
    (callsActivity name).occursIn
      (word ++ between ++ '(' :: (lead ++ quote ++ name.toList ++ closing :: after)) = true := by
  refine occursIn_iff.mpr ⟨[], _, after, ?_, accepts_callsActivity.mpr ⟨⟨word, between, lead, quote,
    [], closing, isVerb, isBetween, isLead, isQuote, Text.run_nil, ends⟩, rfl⟩⟩
  simp [ActivityCall.text]

theorem found_quoted {t : Target} {verb : List Char} (isVerb : t.Verb verb) (quote : Quote c) :
    (t.pattern name).occursIn (callText verb (quotedName c name)) = true := by
  obtain ⟨v, here, word, suffix, rfl, spells, isSuffix⟩ := isVerb
  have text : callText (word ++ suffix) (quotedName c name) =
      word ++ suffix ++ '(' :: ([c] ++ name.toList ++ c :: [')']) := by
    simp [callText, quotedName]
  rw [text]
  cases t with
  | started => exact found_call ⟨v, here, spells⟩ isSuffix (.quote quote) (.inl quote)
  | orchestration => exact found_call ⟨v, here, spells⟩ isSuffix (.quote quote) (.inl quote)
  | activity =>
    change (callsActivity name).occursIn
      (word ++ suffix ++ '(' :: ([] ++ [c] ++ name.toList ++ c :: [')'])) = true
    exact found_activity ⟨v, here, spells⟩ (fun d hd => .inl (isSuffix d hd))
      (List.forall_mem_nil _) (.inr ⟨c, rfl, quote⟩) (.inl quote)

theorem isWord_nameof : Run Text.isWord nameofWord := Text.run_of_all (by decide +kernel)

theorem found_nameof {t : Target} {verb : List Char} (isVerb : t.Verb verb) (isY : IsIdentifier Y)
    (isSuffix : X.toList <:+ Y.toList) :
    (t.pattern X).occursIn (callText verb (nameofName Y)) = true := by
  obtain ⟨v, here, word, ending, rfl, spells, isEnding⟩ := isVerb
  obtain ⟨qualifier, whole⟩ := isSuffix
  have isWord : ∀ c ∈ qualifier, Text.isWord c = true := fun c hc =>
    Text.isWord_of_isAsciiWord (isY.2 c (whole ▸ List.mem_append_left _ hc))
  have opening : Opening (nameofWord ++ [] ++ '(' :: ([] ++ qualifier)) :=
    .nameOf rfl Text.run_nil Text.run_nil fun c hc => .inl (isWord c hc)
  have text : callText (word ++ ending) (nameofName Y) = word ++ ending ++ '(' ::
      (nameofWord ++ [] ++ '(' :: ([] ++ qualifier) ++ X.toList ++ ')' :: [')']) := by
    simp [callText, nameofName, ← whole]
  have text' : callText (word ++ ending) (nameofName Y) =
      word ++ (ending ++ '(' :: nameofWord) ++
        '(' :: (qualifier ++ [] ++ X.toList ++ ')' :: [')']) := by
    simp [callText, nameofName, ← whole]
  cases t with
  | started => exact text ▸ found_call ⟨v, here, spells⟩ isEnding opening (by decide)
  | orchestration => exact text ▸ found_call ⟨v, here, spells⟩ isEnding opening (by decide)
  | activity =>
    refine text' ▸ found_activity ⟨v, here, spells⟩ (fun c hc => ?_) (fun c hc => .inl (isWord c hc))
      (.inl rfl) (by decide)
    simp only [List.mem_append, List.mem_cons] at hc
    rcases hc with hc | rfl | hc
    · exact .inl (isEnding c hc)
    · exact .inr (.inr (by simp))
    · exact .inl (isWord_nameof c hc)

/-- A call that gives an identifier between quotes is found for this one alone. A call that gives it
by `nameof` is found for the identifiers that it ends with. -/
theorem targetFound_iff (t : Target) {verb : List Char} (isVerb : t.Verb verb) {X Y : String}
    (isX : IsIdentifier X) (isY : IsIdentifier Y) :
    (∀ quote, Quote quote →
      ((t.pattern X).occursIn (callText verb (quotedName quote Y)) = true ↔ X = Y)) ∧
    ((t.pattern X).occursIn (callText verb (nameofName Y)) = true ↔ X.toList <:+ Y.toList) := by
  have noParen : ∀ {l}, Run noStop l → '(' ∉ l := fun isRun => isRun.not_mem (by decide)
  refine ⟨fun quote isQuote => ⟨fun found => ?_, ?_⟩, fun found => ?_, found_nameof isVerb isY⟩
  · obtain ⟨front, tail, split, leads⟩ := leadsTo_of_found found
    rcases behind_paren isVerb.no_paren split with rfl | ⟨m, inner⟩
    · exact LeadsTo.eq_of_quoted (by simpa [quotedName] using leads) isX isY isQuote
    · -- There is no second parenthesis.
      have here : '(' ∈ quotedName quote Y ++ [')'] := by simp [inner]
      simp [quotedName, noParen isY.noStop] at here
      subst here
      exact absurd (isQuote_iff.mpr isQuote) (by decide)
  · rintro rfl
    exact found_quoted isVerb isQuote
  · obtain ⟨front, tail, split, leads⟩ := leadsTo_of_found found
    have isWord : Run noStop nameofWord := fun c hc => noStop_of_isWord (isWord_nameof c hc)
    have inner : nameofName Y ++ [')'] = nameofWord ++ '(' :: (Y.toList ++ ')' :: [')']) := by
      simp [nameofName]
    rw [callText, inner] at split
    rcases behind_paren isVerb.no_paren split with rfl | ⟨m, split⟩
    · -- The first stop is the other parenthesis, which neither ends a name nor is a quote.
      rcases leads.cases isX isWord (by decide) with ⟨ends, -⟩ | ⟨quote, -⟩
      · exact absurd ends (by decide)
      · exact absurd (isQuote_iff.mpr quote) (by decide)
    · rcases behind_paren (noParen isWord) split with rfl | ⟨m, split⟩
      · exact leads.isSuffix isX isY
      · have here : '(' ∈ Y.toList ++ ')' :: [')'] := by simp [split]
        simp [noParen isY.noStop] at here

/-- One name that ends with the other. -/
theorem targetFound_iff_ending :
    Target.started.Verb "StartNewAsync".toList ∧ IsIdentifier "Orch" ∧ IsIdentifier "MyOrch" ∧
      (startsOrchestration "Orch").occursIn
        (callText "StartNewAsync".toList (quotedName '"' "MyOrch")) = false ∧
      (startsOrchestration "Orch").occursIn
        (callText "StartNewAsync".toList (nameofName "MyOrch")) = true := by
  have isVerb : Target.started.Verb "StartNewAsync".toList :=
    ⟨"StartNew", by decide, "StartNew".toList, "Async".toList, rfl, rfl, .inr rfl⟩
  have isX : IsIdentifier "Orch" := by decide
  have isY : IsIdentifier "MyOrch" := by decide
  obtain ⟨quoted, byNameof⟩ := targetFound_iff .started isVerb isX isY
  have unlike : ¬ "Orch" = "MyOrch" := by decide
  refine ⟨isVerb, isX, isY, ?_, byNameof.mpr ⟨"My".toList, by decide⟩⟩
  exact Bool.eq_false_iff.mpr (mt (quoted '"' (by simp [Quote])).mp unlike)

/-- By `nameof`, a name is found as the ending of another. -/
theorem nameof_not_whole :
    IsIdentifier "Orch" ∧ IsIdentifier "MyOrch" ∧
      ¬ ((startsOrchestration "Orch").occursIn
        (callText "StartNew".toList (nameofName "MyOrch")) = true ↔ "Orch" = "MyOrch") ∧
      ¬ ((callsOrchestration "Orch").occursIn
        (callText "CallSubOrchestrator".toList (nameofName "MyOrch")) = true ↔ "Orch" = "MyOrch") ∧
      ¬ ((callsActivity "Orch").occursIn
        (callText "CallActivity".toList (nameofName "MyOrch")) = true ↔ "Orch" = "MyOrch") := by
  have unlike : ¬ "Orch" = "MyOrch" := by decide
  refine ⟨by decide, by decide, fun same => unlike (same.mp ?_), fun same => unlike (same.mp ?_),
    fun same => unlike (same.mp ?_)⟩
  all_goals decide +kernel

end OrchestrationGraph.Usage
