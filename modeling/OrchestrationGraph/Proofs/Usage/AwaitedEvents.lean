import OrchestrationGraph.Proofs.Pattern.Way
import OrchestrationGraph.Proofs.Usage.Stop

/-!
# No awaited event is lost

The search for awaited events leaves out waits that start within one found before. Such a wait shares
the parenthesis of the one before, and what is captured depends on the text behind the parenthesis
alone; behind the parenthesis none can start before the first wait has ended (`shared_marks`). So the
events are those that waits capture anywhere in the code, in the order in which they are first seen
(`awaitedEvents_complete`).
-/

namespace OrchestrationGraph.Usage

open Pattern
open Text (Run EndsRun)

variable {before rest taken after : List Char} {h h' : Hit}

/-! ### Before and behind the parenthesis -/

def awaitVerbs : List String := ["WaitForExternalEvent", "wait_for_external_event"]

/-- A wait up to its parenthesis. -/
def awaitHead : Pattern :=
  verbs "WaitForExternalEvent" ["wait_for_external_event"] ++ async ++ typeArguments ++ blanks

/-- A wait from behind its parenthesis on. -/
def awaitTail : Pattern :=
  blanks ++ optional plainOpening ++ group "event" (oneOrMore (wordBlankOr ".-")) ++ nameClosing

theorem attempt_awaitsEvent (next : Next) :
    awaitsEvent.attempt next = awaitHead.attempt ((text "(").attempt (awaitTail.attempt next)) :=
  rfl

/-- What was found is found behind the parenthesis as well, whatever stands before that. -/
theorem wait_of_attempt (found : awaitsEvent.attempt finish before rest = some h) :
    ∃ head tail, rest = head ++ '(' :: tail ∧ awaitHead.Accepts before head ('(' :: tail) ∧
      awaitTail.attempt finish (before ++ head ++ ['(']) tail = some h := by
  rw [attempt_awaitsEvent] at found
  obtain ⟨head, _, rfl, isHead, found⟩ := way_of_unmarked rfl found
  obtain ⟨_, tail, rfl, rfl, found⟩ := way_of_unmarked rfl found
  exact ⟨head, tail, rfl, isHead, found⟩

/-! ### How a wait begins -/

/-- The text begins with the first letter of a verb, in any case. -/
def BeginsVerb (l : List Char) : Prop := ∃ c ∈ l.head?, foldCase c = 'w'

/-- A wait begins with a verb, and the first stop from there on is a bracket that opens. -/
theorem awaitHead_begins (accepts : awaitHead.Accepts before taken ('(' :: after)) :
    '(' ∉ taken ∧ BeginsVerb taken ∧ ∃ front bracket back,
      taken ++ '(' :: after = front ++ bracket :: back ∧ Run noStop front ∧
        (bracket = '<' ∨ bracket = '(') := by
  obtain ⟨_, blank, rfl, ⟨_, generic, rfl, ⟨verb, async, rfl, isVerb, isAsync⟩, isGeneric⟩,
    isBlank⟩ := accepts
  have verbs_plain : ∀ v ∈ awaitVerbs, (v.toList.map foldCase).all noStop = true := by decide
  have verbs_begin : ∀ v ∈ awaitVerbs, (v.toList.map foldCase).head? = some 'w' := by decide
  obtain ⟨v, isVerb, spells⟩ := accepts_verbs.mp isVerb
  have verb_plain : Run noStop verb := run_noStop_of_spells spells (verbs_plain v isVerb)
  have async_plain : Run noStop async := by
    rcases accepts_optional.mp isAsync with rfl | spells
    · exact Text.run_nil
    · exact run_noStop_of_spells spells (by decide)
  have plain : Run noStop (verb ++ async) := Text.run_append.mpr ⟨verb_plain, async_plain⟩
  have blank_plain : Run noStop blank := run_noStop_of_blank isBlank
  have begins : BeginsVerb (verb ++ async ++ generic ++ blank) := by
    have first := verbs_begin v isVerb
    rw [← spells, List.head?_map, Option.map_eq_some_iff] at first
    obtain ⟨c, isFirst, folds⟩ := first
    exact ⟨c, by simp [List.head?_append, isFirst], folds⟩
  have noParen : ∀ {l}, Run noStop l → '(' ∉ l := fun isRun => isRun.not_mem (by decide)
  rcases accepts_typeArguments.mp isGeneric with _ | ⟨_, all⟩
  · rw [List.append_nil] at begins ⊢
    have front := Text.run_append.mpr ⟨plain, blank_plain⟩
    exact ⟨noParen front, begins, _, '(', after, rfl, front, .inr rfl⟩
  · rename_i arguments _
    refine ⟨?_, begins, verb ++ async, '<', arguments ++ ['>'] ++ blank ++ '(' :: after, by simp,
      plain, .inl rfl⟩
    have inner : '(' ∉ arguments := fun here => by
      rcases all '(' here with word | blank | extra
      · exact absurd word (by decide +kernel)
      · exact absurd blank (by decide)
      · exact absurd extra (by decide)
    simp [noParen verb_plain, noParen async_plain, noParen blank_plain, inner]

/-! ### How a wait goes on -/

/-- No wait begins in the text and goes on up to its end: in the first part no verb begins, and in
the second there is no stop. -/
def NoWaitIn (l : List Char) : Prop :=
  ∃ first second, l = first ++ second ∧ (∀ c ∈ first, foldCase c ≠ 'w') ∧ Run noStop second

/-- White space has no letter case. -/
theorem foldCase_of_isBlank {c : Char} (blank : Text.isBlank c = true) : foldCase c = c := by
  have fixed : Text.blankPoints.all (fun n => foldCase (Char.ofNat n) == Char.ofNat n) = true := by
    decide +kernel
  simpa using List.all_eq_true.mp fixed _ (Text.mem_blankPoints blank)

theorem foldCase_ne_of_isBlank {c : Char} (blank : Text.isBlank c = true) : foldCase c ≠ 'w' := by
  rw [foldCase_of_isBlank blank]
  rintro rfl
  exact absurd blank (by decide)

theorem foldCase_ne_of_quote {c : Char} (quote : Quote c) : foldCase c ≠ 'w' := by
  have none : ['"', '\x27', '\x60'].all (fun c => foldCase c != 'w') = true := by decide
  simpa using List.all_eq_true.mp none c quote

theorem foldCase_ne_of_nameof {l : List Char} (spells : Spells "nameof" l) :
    ∀ c ∈ l, foldCase c ≠ 'w' := by
  intro c hc same
  have folded : foldCase c ∈ "nameof".toList.map foldCase := spells ▸ List.mem_map_of_mem hc
  rw [same] at folded
  exact absurd folded (by decide)

/-- A wait ends with the character that closes the name, and no other wait begins between the
parenthesis and there. -/
theorem awaitTail_goes (accepts : awaitTail.Accepts before taken after) :
    ∃ inner closing, taken = inner ++ [closing] ∧ EndsName closing ∧ NoWaitIn inner := by
  obtain ⟨_, _, rfl, ⟨_, event, rfl, ⟨lead, opening, rfl, isLead, isOpening⟩, isEvent⟩,
    isClosing⟩ := accepts
  obtain ⟨blank, closing, rfl, isBlank, ends⟩ := accepts_nameClosing.mp isClosing
  refine ⟨lead ++ opening ++ event ++ blank, closing, by simp, ends, ?_⟩
  have lead_plain : Run noStop lead := run_noStop_of_blank isLead
  have lead_before : ∀ c ∈ lead, foldCase c ≠ 'w' := fun c hc => foldCase_ne_of_isBlank (isLead c hc)
  have event_plain : Run noStop (event ++ blank) := Text.run_append.mpr
    ⟨run_noStop_of_wordBlankOr (accepts_oneOrMore.mp (accepts_group.mp isEvent)).2 (by decide),
      run_noStop_of_blank isBlank⟩
  rcases accepts_optional.mp isOpening with rfl | isOpening
  · refine ⟨[], lead ++ (event ++ blank), by simp, by simp, ?_⟩
    exact Text.run_append.mpr ⟨lead_plain, event_plain⟩
  · cases accepts_plainOpening.mp isOpening with
    | @nameOf word blank₁ blank₂ spells isBlank₁ isBlank₂ =>
      refine ⟨lead ++ (word ++ blank₁ ++ '(' :: blank₂), event ++ blank, by simp, ?_, event_plain⟩
      intro c hc
      simp only [List.mem_append, List.mem_cons, or_assoc] at hc
      rcases hc with hc | hc | hc | rfl | hc
      · exact lead_before c hc
      · exact foldCase_ne_of_nameof spells c hc
      · exact foldCase_ne_of_isBlank (isBlank₁ c hc)
      · decide
      · exact foldCase_ne_of_isBlank (isBlank₂ c hc)
    | @quote quote isQuote =>
      refine ⟨lead ++ [quote], event ++ blank, by simp, ?_, event_plain⟩
      intro c hc
      rcases List.mem_append.mp hc with hc | hc
      · exact lead_before c hc
      · obtain rfl := List.mem_singleton.mp hc
        exact foldCase_ne_of_quote isQuote
    | @member owner blank₂ _ all isBlank₂ =>
      refine ⟨[], lead ++ (owner ++ '.' :: blank₂) ++ (event ++ blank), by simp, by simp, ?_⟩
      have owner_plain : Run noStop owner := run_noStop_of_class all (by decide)
      have dot_plain : Run noStop ('.' :: blank₂) :=
        Text.run_cons.mpr ⟨by decide, run_noStop_of_blank isBlank₂⟩
      simp only [Text.run_append]
      exact ⟨⟨lead_plain, owner_plain, dot_plain⟩, Text.run_append.mp event_plain⟩

/-! ### Waits within waits -/

theorem beginsVerb_append {l l' : List Char} (begins : BeginsVerb l) : BeginsVerb (l ++ l') := by
  obtain ⟨c, first, folds⟩ := begins
  exact ⟨c, by simp [List.head?_append, Option.mem_def.mp first], folds⟩

/-- What stands before the first parenthesis, and what behind it. -/
theorem paren_unique {l l' r r' : List Char} (split : l ++ '(' :: r = l' ++ '(' :: r')
    (first : '(' ∉ l) (first' : '(' ∉ l') : l = l' ∧ r = r' := by
  have noParen : ∀ {l : List Char}, '(' ∉ l → Run (· != '(') l := fun absent c here =>
    bne_iff_ne.mpr fun same => absent (same ▸ here)
  have stops : ∀ l, EndsRun (· != '(') ('(' :: l) := fun _ => Text.endsRun_cons.mpr (by decide)
  obtain ⟨same, tails⟩ := Text.run_unique split (noParen first) (noParen first') (stops r) (stops r')
  exact ⟨same, (List.cons.inj tails).2⟩

/-- A text that is cut in two ways is cut in three. -/
theorem exists_cut {l r gap : List Char} (split : l ++ r = gap ++ rest)
    (inside : gap.length ≤ l.length) : ∃ u, l = gap ++ u ∧ rest = u ++ r := by
  obtain ⟨u, rfl⟩ : gap <+: l :=
    List.prefix_of_prefix_length_le ⟨rest, split.symm⟩ (List.prefix_append l r) inside
  rw [List.append_assoc] at split
  exact ⟨u, rfl, (List.append_cancel_left split).symm⟩

/-- No wait is found from a place in a text that has none and is closed. -/
theorem no_wait_within {l gap : List Char} {closing : Char} (noWait : NoWaitIn l)
    (ends : EndsName closing) (split : l ++ closing :: after = gap ++ rest)
    (inside : gap.length ≤ l.length) : awaitsEvent.attempt finish before rest = none := by
  cases found : awaitsEvent.attempt finish before rest with
  | none => rfl
  | some h =>
    exfalso
    obtain ⟨u, cut, behind⟩ := exists_cut split inside
    obtain ⟨head, tail, whole, isHead, _⟩ := wait_of_attempt found
    obtain ⟨_, begins, front, bracket, back, brackets, plain, opens⟩ := awaitHead_begins isHead
    obtain ⟨first, second, rfl, noVerb, noStops⟩ := noWait
    have isRun : Run noStop u := by
      rcases List.append_eq_append_iff.mp cut with ⟨a, _, rfl⟩ | ⟨a, rfl, rfl⟩
      · exact (Text.run_append.mp noStops).2
      · cases a with
        | nil => exact noStops
        | cons c a =>
          -- The wait would begin with a character of the first part.
          have begins : BeginsVerb (head ++ '(' :: tail) := beginsVerb_append begins
          obtain ⟨d, isFirst, folds⟩ := begins
          rw [← whole, behind] at isFirst
          obtain rfl : c = d := by simpa using isFirst
          exact absurd folds (noVerb c (by simp))
    have same : u ++ closing :: after = front ++ bracket :: back :=
      behind.symm.trans (whole.trans brackets)
    have stops : ∀ {c l}, isStop c = true → EndsRun noStop (c :: l) := fun isStop =>
      Text.endsRun_cons.mpr (by simp [noStop, isStop])
    have opening : isStop bracket = true := by
      rcases opens with rfl | rfl <;> decide
    obtain ⟨_, same⟩ := Text.run_unique same isRun plain (stops (isStop_of_endsName ends))
      (stops opening)
    obtain ⟨rfl, _⟩ := List.cons.inj same
    rcases opens with rfl | rfl <;> exact absurd ends (by decide)

/-- A wait found within another notes the same places and stops where the other stops. -/
theorem hit_of_overlap {gap : List Char}
    (found : awaitsEvent.attempt finish before (gap ++ rest) = some h)
    (found' : awaitsEvent.attempt finish (before ++ gap) rest = some h')
    (overlaps : (before ++ gap).length < h.stop) : h' = h := by
  obtain ⟨head, tail, split, isHead, goes⟩ := wait_of_attempt found
  obtain ⟨head', tail', whole, isHead', goes'⟩ := wait_of_attempt found'
  by_cases early : gap.length ≤ head.length
  · -- Both have the same parenthesis, the first from either start.
    obtain ⟨u, rfl, behind⟩ := exists_cut split.symm early
    have first : '(' ∉ gap ++ u := (awaitHead_begins isHead).1
    obtain ⟨rfl, rfl⟩ := paren_unique (behind.symm.trans whole)
      (fun here => first (List.mem_append_right gap here)) (awaitHead_begins isHead').1
    rw [← List.append_assoc before, goes'] at goes
    exact Option.some.inj goes
  · -- The second would begin behind the parenthesis of the first.
    exfalso
    have late : (head ++ ['(']).length ≤ gap.length := by
      rw [List.length_append, List.length_singleton]
      omega
    have split : gap ++ rest = head ++ ['('] ++ tail := by simpa using split
    obtain ⟨y, rfl, behind⟩ := exists_cut split late
    obtain ⟨_, after, rfl, accepts, stop⟩ := stop_of_attempt goes
    obtain ⟨inner, closing, rfl, ends, noWait⟩ := awaitTail_goes accepts
    have inside : y.length ≤ inner.length := by
      simp only [stop, List.length_append, List.length_cons, List.length_nil] at overlaps
      omega
    have closed : inner ++ closing :: after = y ++ rest := by simpa using behind
    exact absurd (found'.symm.trans (no_wait_within noWait ends closed inside)) nofun

theorem shared_marks (code : List Char) :
    (awaitsEvent.allMatches code).Pairwise fun m m' => m'.start < m.stop → m'.marks = m.marks := by
  refine pairwise_allMatches ?_ code
  intro before gap rest m m' _ found found' overlaps
  rw [start_of_matchAt? found'] at overlaps
  obtain ⟨h, tried, rfl⟩ := Option.map_eq_some_iff.mp found
  obtain ⟨h', tried', rfl⟩ := Option.map_eq_some_iff.mp found'
  exact congrArg Hit.marks (hit_of_overlap tried tried' overlaps)

/-! ### The events -/

variable {code : List Char} {e : String}

theorem eventName?_of_marks {m m' : Match} (same : m.marks = m'.marks) :
    eventName? code m = eventName? code m' := by
  unfold eventName? Match.group?
  rw [same]

theorem mem_awaitedEvents :
    e ∈ awaitedEvents code ↔ ∃ m ∈ awaitsEvent.findAll code, eventName? code m = some e := by
  rw [awaitedEvents, List.mem_eraseDups, List.mem_filterMap]

theorem mem_awaitedEvents_iff :
    e ∈ awaitedEvents code ↔ ∃ before rest m, code = before ++ rest ∧
      awaitsEvent.matchAt? before rest = some m ∧ eventName? code m = some e := by
  rw [mem_awaitedEvents]
  constructor
  · rintro ⟨m, visited, captures⟩
    obtain ⟨before, rest, split, found⟩ := mem_allMatches.mp (mem_allMatches_of_findAll visited)
    exact ⟨before, rest, m, split, found, captures⟩
  · rintro ⟨before, rest, m, split, found, captures⟩
    obtain ⟨m', visited, same⟩ :=
      exists_findAll (shared_marks code) (mem_allMatches.mpr ⟨before, rest, split, found⟩)
    exact ⟨m', visited, (eventName?_of_marks same).trans captures⟩

theorem trimmed_of_eventName? {m : Match} (captures : eventName? code m = some e) :
    e ≠ "" ∧ Text.trim e = e := by
  unfold eventName? at captures
  dsimp only at captures
  split at captures
  · exact absurd captures nofun
  · rename_i more
    obtain rfl := Option.some.inj captures
    refine ⟨fun empty => more ?_, ?_⟩
    · have same := congrArg String.toList empty
      rw [String.toList_ofList] at same
      exact List.isEmpty_iff.mpr same
    · rw [Text.trim, String.toList_ofList, Text.trimBy_trimBy]

/-! ### Order of first appearance -/

/-- In the list `a` appears before any `b`. -/
def AppearsBefore (l : List String) (a b : String) : Prop :=
  ∃ earlier later, l = earlier ++ a :: later ∧ a ∉ earlier ∧ b ∉ earlier ++ [a]

theorem AppearsBefore.of_filter {l : List String} {a b x : String} (ha : a ≠ x) (hb : b ≠ x)
    (appears : AppearsBefore (l.filter fun y => !y == x) a b) : AppearsBefore (x :: l) a b := by
  obtain ⟨_, _, cut, fresh, fresh'⟩ := appears
  obtain ⟨front, _, rfl, rfl, goes⟩ := List.filter_eq_append_iff.mp cut
  obtain ⟨middle, back, rfl, dropped, _, rfl⟩ := List.filter_eq_cons_iff.mp goes
  have absent : ∀ c, c ≠ x → c ∉ front.filter (fun y => !y == x) → c ∉ x :: (front ++ middle) := by
    intro c other isNew here
    simp only [List.mem_cons, List.mem_append] at here
    rcases here with rfl | here | here
    · exact other rfl
    · exact isNew (List.mem_filter.mpr ⟨here, by simpa using other⟩)
    · exact other (by simpa using dropped c here)
  rw [List.mem_append, not_or] at fresh'
  refine ⟨x :: (front ++ middle), back, by simp, absent a ha fresh, ?_⟩
  rw [List.mem_append, not_or]
  exact ⟨absent b hb fresh'.1, fresh'.2⟩

/-- What is left without repetitions stands in the order of first appearance. -/
theorem appearsBefore_eraseDups (l : List String) : l.eraseDups.Pairwise (AppearsBefore l) := by
  generalize len : l.length = n
  induction n using Nat.strongRecOn generalizing l with
  | ind n ih =>
    cases l with
    | nil => simp
    | cons x l =>
      have shorter : (l.filter fun b => !b == x).length < n := by
        have := List.length_filter_le (fun b => !b == x) l
        simp only [List.length_cons] at len
        omega
      have other : ∀ c ∈ (l.filter fun b => !b == x).eraseDups, c ≠ x := fun c here => by
        simpa using (List.mem_filter.mp (List.mem_eraseDups.mp here)).2
      rw [List.eraseDups_cons, List.pairwise_cons]
      refine ⟨fun b here => ⟨[], l, rfl, by simp, by simpa using other b here⟩, ?_⟩
      exact (ih _ shorter _ rfl).imp_of_mem fun ha hb appears =>
        appears.of_filter (other _ ha) (other _ hb)

theorem nodup_eraseDups (l : List String) : l.eraseDups.Nodup := by
  rw [List.nodup_iff_pairwise_ne]
  refine (appearsBefore_eraseDups l).imp ?_
  rintro a _ ⟨earlier, _, _, _, fresh⟩ rfl
  exact fresh (by simp)

theorem nodup_awaitedEvents (code : List Char) : (awaitedEvents code).Nodup :=
  nodup_eraseDups _

/-- Of the waits that the search visits, one captures `a` before any captures `b`. -/
def SeenBefore (code : List Char) (a b : String) : Prop :=
  ∃ earlier m later, awaitsEvent.findAll code = earlier ++ m :: later ∧
    eventName? code m = some a ∧
    ∀ m' ∈ earlier, eventName? code m' ≠ some a ∧ eventName? code m' ≠ some b

theorem AppearsBefore.seenBefore {a b : String}
    (appears : AppearsBefore ((awaitsEvent.findAll code).filterMap (eventName? code)) a b) :
    SeenBefore code a b := by
  obtain ⟨_, _, cut, fresh, fresh'⟩ := appears
  obtain ⟨front, _, visited, rfl, goes⟩ := List.filterMap_eq_append_iff.mp cut
  obtain ⟨middle, m, back, rfl, silent, captures, rfl⟩ := List.filterMap_eq_cons_iff.mp goes
  rw [List.mem_append, not_or] at fresh'
  refine ⟨front ++ middle, m, back, by simpa using visited, captures, fun m' here => ?_⟩
  rcases List.mem_append.mp here with here | here
  · exact ⟨fun same => fresh (List.mem_filterMap.mpr ⟨m', here, same⟩),
      fun same => fresh'.1 (List.mem_filterMap.mpr ⟨m', here, same⟩)⟩
  · rw [silent m' here]
    exact ⟨nofun, nofun⟩

/-- The awaited events are different names, trimmed and not empty; they are what waits capture at
all places of the code, each tried by itself; and they stand in the order in which the waits that are
visited capture them first. -/
theorem awaitedEvents_complete (code : List Char) :
    (awaitedEvents code).Nodup ∧
      (∀ e ∈ awaitedEvents code, e ≠ "" ∧ Text.trim e = e) ∧
      (∀ e, e ∈ awaitedEvents code ↔ ∃ before rest m, code = before ++ rest ∧
        awaitsEvent.matchAt? before rest = some m ∧ eventName? code m = some e) ∧
      (∀ e, e ∈ awaitedEvents code ↔
        ∃ m ∈ awaitsEvent.findAll code, eventName? code m = some e) ∧
      (awaitedEvents code).Pairwise (SeenBefore code) := by
  refine ⟨nodup_awaitedEvents code, fun e here => ?_, fun _ => mem_awaitedEvents_iff,
    fun _ => mem_awaitedEvents, (appearsBefore_eraseDups _).imp AppearsBefore.seenBefore⟩
  obtain ⟨m, _, captures⟩ := mem_awaitedEvents.mp here
  exact trimmed_of_eventName? captures

/-- A wait within the type arguments of another shares its event. -/
example : awaitedEvents "waitForExternalEvent<WaitForExternalEvent<bool>>(Names.Go)".toList =
    ["Go"] := by
  decide +kernel

end OrchestrationGraph.Usage
