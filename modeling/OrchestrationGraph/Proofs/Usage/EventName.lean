import OrchestrationGraph.Proofs.Usage.AwaitedEvents
import OrchestrationGraph.Proofs.Usage.WholeName

/-!
# Spellings of an awaited event

An event may be awaited by its name between quotes, by `nameof`, or as a member of something else, and
white space may stand after each parenthesis. Of a member only the last name is captured, since the
part before the dot takes as much as it can. Of `nameof` all is captured that stands in its
parentheses, a qualifier included (`awaitedEvents_spellings`).
-/

namespace OrchestrationGraph.Usage

open Pattern
open Text (Run EndsRun)

variable {before front tail event after lead : List Char} {h : Hit}

/-! ### Ways to name an event -/

/-- Identifiers with dots between them. -/
inductive IsQualifier : String → Prop
  | single {q : String} (isIdentifier : IsIdentifier q) : IsQualifier q
  | dotted {q Q : String} (isIdentifier : IsIdentifier q) (rest : IsQualifier Q) :
    IsQualifier (q ++ "." ++ Q)

/-- A wait around its argument. -/
structure Wait where
  verb : List Char
  async : List Char
  generic : List Char
  beforeParen : List Char
  afterParen : List Char
  beforeEnd : List Char
  isVerb : ∃ v ∈ awaitVerbs, Spells v verb
  isAsync : async = [] ∨ Spells "Async" async
  isGeneric : GenericArguments generic
  isBlankBefore : Blank beforeParen
  isBlankAfter : Blank afterParen
  isBlankEnd : Blank beforeEnd

namespace Wait

def head (w : Wait) : List Char := w.verb ++ w.async ++ w.generic ++ w.beforeParen

def text (w : Wait) (argument : List Char) : List Char :=
  w.head ++ '(' :: (w.afterParen ++ argument ++ w.beforeEnd ++ [')'])

theorem accepts_head (w : Wait) (after : List Char) : awaitHead.Accepts [] w.head after :=
  ⟨_, w.beforeParen, rfl, ⟨_, w.generic, rfl, ⟨w.verb, w.async, rfl, accepts_verbs.mpr w.isVerb,
    accepts_optional.mpr w.isAsync⟩, accepts_typeArguments.mpr w.isGeneric⟩, w.isBlankBefore⟩

end Wait

/-- The operator `nameof` around a name, in any letter case. -/
structure Nameof where
  word : List Char
  gap : List Char
  lead : List Char
  trail : List Char
  spells : Spells "nameof" word
  isGap : Blank gap
  isLead : Blank lead
  isTrail : Blank trail

def Nameof.text (n : Nameof) (name : String) : List Char :=
  n.word ++ (n.gap ++ '(' :: (n.lead ++ name.toList ++ n.trail ++ [')']))

/-- Word characters and dots, at least one. -/
def IsPath (name : String) : Prop :=
  name ≠ "" ∧ ∀ c ∈ name.toList, Text.isWord c = true ∨ c = '.'

/-! ### What is captured -/

/-- A wait from behind what opens the name on. -/
def capture : Next :=
  (group "event" (oneOrMore (wordBlankOr ".-"))).attempt (nameClosing.attempt finish)

/-- The hit of a wait that captures `event` behind `before`. -/
def captured (before event : List Char) : Hit where
  stop := (before ++ event).length + 1
  marks := [(.opens "event", before.length), (.closes "event", (before ++ event).length)]

theorem not_event_of_endsName {c : Char} (ends : EndsName c) : wordBlankOr ".-" c = false := by
  have none : stopList.all (fun c => !wordBlankOr ".-" c) = true := by decide +kernel
  have refused := List.all_eq_true.mp none c (isStop_iff.mp (isStop_of_endsName ends))
  simpa using refused

theorem isBlank_of_endsName {c : Char} (ends : EndsName c) : Text.isBlank c = false := by
  have refused := not_event_of_endsName ends
  simp only [wordBlankOr, Bool.or_eq_false_iff] at refused
  exact refused.1.2

theorem capture_event {closing : Char} (nonempty : event ≠ [])
    (isEvent : Run (wordBlankOr ".-") event) (ends : EndsName closing) :
    capture before (event ++ closing :: after) = some (captured before event) := by
  have stops : EndsRun (wordBlankOr ".-") (closing :: after) :=
    Text.endsRun_cons.mpr (not_event_of_endsName ends)
  have noBlank : EndsRun Text.isBlank (closing :: after) :=
    Text.endsRun_cons.mpr (isBlank_of_endsName ends)
  have closes : nameClosing.attempt finish (before ++ event) (closing :: after) =
      some { stop := (before ++ event).length + 1 } := by
    have last : (oneOf fun c => isQuote c || c = ')' || c = ',').attempt finish (before ++ event)
        (closing :: after) = some { stop := (before ++ event).length + 1 } := by
      have closes : (isQuote closing || closing = ')' || closing = ',') = true := by
        simpa [isQuote_iff, or_assoc, EndsName] using ends
      simp only [attempt, closes, if_true, finish, List.length_append, List.length_singleton]
    exact (attempt_blanks_none noBlank).trans last
  exact attempt_group (attempt_oneOrMore nonempty isEvent stops (attempt_mark _ closes))

/-! ### What stands before it -/

theorem nameOf_stuck {next : Next} {rest : List Char} (noParen : '(' ∉ rest) :
    nameOf.attempt next before rest = none := by
  cases found : nameOf.attempt next before rest with
  | none => rfl
  | some h =>
    obtain ⟨taken, after, _, rfl, accepts, -⟩ := way_of_attempt found
    obtain ⟨word, blank, blank', rfl, -⟩ := accepts_nameOf.mp accepts
    exact absurd noParen (by simp)

theorem plainOpening_quote {next : Next} {quote : Char} {rest : List Char} (isQuote : Quote quote)
    (noParen : '(' ∉ quote :: rest) (leads : next (before ++ [quote]) rest = some h) :
    (optional plainOpening).attempt next before (quote :: rest) = some h := by
  have opens : (oneOf Pattern.isQuote).attempt next before (quote :: rest) = some h := by
    simp [attempt, isQuote_iff.mpr isQuote, leads]
  exact attempt_optional_some (attempt_either_right (nameOf_stuck noParen) (attempt_either_left opens))

theorem plainOpening_nameOf {next : Next} {word gap lead rest : List Char}
    (spells : Spells "nameof" word) (isGap : Blank gap) (isLead : Blank lead)
    (noBlank : EndsRun Text.isBlank rest)
    (leads : next (before ++ word ++ gap ++ ['('] ++ lead) rest = some h) :
    (optional plainOpening).attempt next before (word ++ (gap ++ '(' :: (lead ++ rest))) = some h := by
  have paren : (text "(").attempt (blanks.attempt next) (before ++ word ++ gap)
      ('(' :: (lead ++ rest)) = some h :=
    (attempt_text "(").trans (attempt_blanks isLead noBlank leads)
  have opening : openingParen.attempt next (before ++ word) (gap ++ '(' :: (lead ++ rest)) = some h :=
    attempt_blanks isGap (Text.endsRun_cons.mpr (by decide)) paren
  exact attempt_optional_some (attempt_either_left ((attempt_anyCase spells).trans opening))

theorem plainOpening_member {next : Next} {owner rest : List Char} {c closing : Char}
    (isOwner : Run (wordBlankOr ".") (c :: owner)) (noQuote : isQuote c = false) (isMember : '.' ∉ rest)
    (ends : EndsName closing) (noParen : '(' ∉ rest ++ closing :: after)
    (noBlank : EndsRun Text.isBlank (rest ++ closing :: after))
    (leads : next (before ++ (c :: owner) ++ ['.']) (rest ++ closing :: after) = some h) :
    (optional plainOpening).attempt next before
      ((c :: owner) ++ ('.' :: rest ++ closing :: after)) = some h := by
  have stops : EndsRun (wordBlankOr ".") (closing :: after) := by
    have none : stopList.all (fun c => !wordBlankOr "." c) = true := by decide +kernel
    have refused := List.all_eq_true.mp none closing (isStop_iff.mp (isStop_of_endsName ends))
    exact Text.endsRun_cons.mpr (by simpa using refused)
  have dot : (text ".").attempt (blanks.attempt next) (before ++ (c :: owner))
      ('.' :: rest ++ closing :: after) = some h := by
    exact (attempt_text ".").trans ((attempt_blanks_none noBlank).trans leads)
  -- Behind the dot there is no other to which the owner could reach.
  have stuck : ∀ n m, '.' :: rest = n ++ m → n ≠ [] →
      (text ".").attempt (blanks.attempt next) (before ++ (c :: owner) ++ n)
        (m ++ closing :: after) = none := by
    intro n m split nonempty
    obtain ⟨d, n, rfl⟩ := List.exists_cons_of_ne_nil nonempty
    obtain ⟨-, rfl⟩ := List.cons.inj split
    refine attempt_text_none ?_
    rintro ⟨further, begins⟩
    have begins : '.' :: further = m ++ closing :: after := begins
    cases m with
    | nil =>
      obtain ⟨rfl, -⟩ := List.cons.inj begins
      exact absurd ends (by decide)
    | cons d m =>
      obtain ⟨rfl, -⟩ := List.cons.inj begins
      exact isMember (List.mem_append_right n List.mem_cons_self)
  have member : memberAccess.attempt next before
      ((c :: owner) ++ ('.' :: rest ++ closing :: after)) = some h :=
    attempt_oneOrMore_back (List.cons_ne_nil c owner) isOwner stops stuck dot
  have noName : nameOf.attempt next before
      ((c :: owner) ++ ('.' :: rest ++ closing :: after)) = none := by
    have owner_plain : '(' ∉ c :: owner := isOwner.not_mem (by decide +kernel)
    refine nameOf_stuck fun here => ?_
    rcases List.mem_append.mp here with here | here
    · exact owner_plain here
    · rcases List.mem_cons.mp here with same | here
      · exact absurd same (by decide)
      · exact noParen here
  have noQuote : (oneOf isQuote).attempt next before
      ((c :: owner) ++ ('.' :: rest ++ closing :: after)) = none :=
    if_neg (by simp [noQuote])
  exact attempt_optional_some (attempt_either_right noName (attempt_either_right noQuote member))

/-! ### A single wait -/

theorem awaitTail_of_opening (isLead : Blank lead) (noBlank : EndsRun Text.isBlank tail)
    (opens : (optional plainOpening).attempt capture (before ++ lead) tail = some h) :
    awaitTail.attempt finish before (lead ++ tail) = some h :=
  attempt_blanks isLead noBlank opens

/-- The match of a wait that begins the text. -/
def single (head front event : List Char) : Match where
  start := 0
  stop := (captured (head ++ ['('] ++ front) event).stop
  marks := (captured (head ++ ['('] ++ front) event).marks

section Single

variable {head code : List Char} {closing : Char} {e : String}
  (whole : code = head ++ '(' :: (front ++ event ++ closing :: after))
  (isHead : awaitHead.Accepts [] head ('(' :: (front ++ event ++ closing :: after)))
  (goes : awaitTail.attempt finish (head ++ ['(']) (front ++ event ++ closing :: after) =
    some (captured (head ++ ['('] ++ front) event))

include whole

theorem eventName?_single (trimmed : Text.trimBy Text.isBlank event = e.toList) (nonempty : e ≠ "") :
    eventName? code (single head front event) = some e := by
  have group : (single head front event).group? "event" code = some event := by
    have text : code = head ++ ['('] ++ front ++ event ++ closing :: after := by simp [whole]
    show some (Match.slice code (head ++ ['('] ++ front).length
      (head ++ ['('] ++ front ++ event).length) = _
    rw [text, slice_middle]
  have more : e.toList.isEmpty = false := by
    rw [Bool.eq_false_iff, Ne, List.isEmpty_iff]
    exact fun empty => nonempty (String.toList_inj.mp empty)
  rw [eventName?, group, Option.getD_some, trimmed, more, String.ofList_toList]
  rfl

include isHead goes

theorem matchAt?_single : awaitsEvent.matchAt? [] code = some (single head front event) := by
  have found : (awaitsEvent.attempt finish [] code).isSome = true := by
    have behind : (text "(").attempt (awaitTail.attempt finish) head
        ('(' :: (front ++ event ++ closing :: after)) = some _ := (attempt_text "(").trans goes
    rw [attempt_awaitsEvent, isSome_attempt]
    exact ⟨head, _, whole, isHead, Option.isSome_of_eq_some behind⟩
  obtain ⟨h, found⟩ := Option.isSome_iff_exists.mp found
  -- No parenthesis stands before the one behind the head.
  obtain ⟨head', tail, split, isHead', goes'⟩ := wait_of_attempt found
  obtain ⟨rfl, same⟩ := paren_unique (whole.symm.trans split) (awaitHead_begins isHead).1
    (awaitHead_begins isHead').1
  rw [List.nil_append, ← same, goes] at goes'
  obtain rfl := Option.some.inj goes'
  exact congrArg (Option.map _) found

theorem findAll_wait (noParen : '(' ∉ after) :
    awaitsEvent.findAll code = [single head front event] := by
  refine findAll_single (matchAt?_single whole isHead goes) fun before rest split behind => ?_
  rw [matchAt?, Option.map_eq_none_iff]
  cases found : awaitsEvent.attempt finish before rest with
  | none => rfl
  | some h =>
    have long : (head ++ ['('] ++ front ++ event ++ [closing]).length ≤ before.length := by
      rw [List.length_append, List.length_singleton]
      exact behind
    have cut : before ++ rest = (head ++ ['('] ++ front ++ event ++ [closing]) ++ after := by
      rw [← split, whole]
      simp
    obtain ⟨u, -, rfl⟩ := exists_cut cut long
    obtain ⟨_, _, rfl, -⟩ := wait_of_attempt found
    exact absurd noParen (by simp)

theorem awaitedEvents_single (noParen : '(' ∉ after)
    (trimmed : Text.trimBy Text.isBlank event = e.toList) (nonempty : e ≠ "") :
    awaitedEvents code = [e] := by
  have named := eventName?_single whole trimmed nonempty
  rw [awaitedEvents, findAll_wait whole isHead goes noParen, List.filterMap_cons, named]
  rfl

end Single

/-! ### The characters of names -/

section Names

variable {name Q E : String}

theorem IsIdentifier.isPath (isE : IsIdentifier E) : IsPath E :=
  ⟨isE.1, fun c here => .inl (Text.isWord_of_isAsciiWord (isE.2 c here))⟩

theorem IsPath.append_dot (isPath : IsPath Q) (isPath' : IsPath E) : IsPath (Q ++ "." ++ E) := by
  refine ⟨fun empty => ?_, fun c here => ?_⟩
  · have empty := congrArg String.toList empty
    simp at empty
  · have dot : ".".toList = ['.'] := rfl
    simp only [String.toList_append, dot, List.mem_append, List.mem_singleton] at here
    rcases here with (here | rfl) | here
    · exact isPath.2 c here
    · exact .inr rfl
    · exact isPath'.2 c here

theorem IsQualifier.isPath (isQ : IsQualifier Q) : IsPath Q := by
  induction isQ with
  | single isIdentifier => exact isIdentifier.isPath
  | dotted isIdentifier _ ih => exact isIdentifier.isPath.append_dot ih

theorem IsQualifier.begins (isQ : IsQualifier Q) :
    ∃ c l, Q.toList = c :: l ∧ Text.isAsciiWord c = true := by
  have first {q : String} (isIdentifier : IsIdentifier q) :
      ∃ c l, q.toList = c :: l ∧ Text.isAsciiWord c = true := by
    obtain ⟨c, l, front⟩ := List.exists_cons_of_ne_nil fun empty =>
      isIdentifier.1 (String.toList_inj.mp (empty.trans String.toList_empty.symm))
    exact ⟨c, l, front, isIdentifier.2 c (front ▸ List.mem_cons_self)⟩
  cases isQ with
  | single isIdentifier => exact first isIdentifier
  | dotted isIdentifier rest =>
    obtain ⟨c, l, front, isWord⟩ := first isIdentifier
    exact ⟨c, _, by rw [String.toList_append, String.toList_append, front]; rfl, isWord⟩

theorem IsPath.not_blank (isPath : IsPath name) : ∀ c ∈ name.toList, Text.isBlank c = false := by
  intro c here
  rcases isPath.2 c here with word | rfl
  · exact Text.isBlank_of_isWord word
  · decide

theorem IsPath.toList_ne_nil (isPath : IsPath name) : name.toList ≠ [] := fun empty =>
  isPath.1 (String.toList_inj.mp (empty.trans String.toList_empty.symm))

theorem IsPath.endsRun (isPath : IsPath name) (rest : List Char) :
    EndsRun Text.isBlank (name.toList ++ rest) := by
  obtain ⟨c, l, front⟩ := List.exists_cons_of_ne_nil isPath.toList_ne_nil
  rw [front]
  exact Text.endsRun_cons.mpr (isPath.not_blank c (front ▸ List.mem_cons_self))

theorem IsPath.not_paren (isPath : IsPath name) : '(' ∉ name.toList := by
  intro here
  rcases isPath.2 _ here with word | dot
  · exact absurd word (by decide +kernel)
  · exact absurd dot (by decide)

theorem endsRun_of_none {cls : Char → Bool} {l : List Char} (none : ∀ c ∈ l, cls c = false) :
    EndsRun cls l :=
  fun c first => none c (List.mem_of_head? first)

theorem IsPath.trimBy (isPath : IsPath name) {trail : List Char} (isTrail : Blank trail) :
    Text.trimBy Text.isBlank (name.toList ++ trail) = name.toList := by
  have front := endsRun_of_none isPath.not_blank
  have back : EndsRun Text.isBlank name.toList.reverse :=
    endsRun_of_none fun c here => isPath.not_blank c (List.mem_reverse.mp here)
  exact Text.trimBy_surrounded Text.run_nil isTrail isPath.toList_ne_nil front back

theorem IsPath.isEvent (isPath : IsPath name) {trail : List Char} (isTrail : Blank trail) :
    Run (wordBlankOr ".-") (name.toList ++ trail) := by
  refine Text.run_append.mpr ⟨fun c here => ?_, fun c here => ?_⟩
  · rcases isPath.2 c here with word | rfl
    · simp [wordBlankOr, word]
    · decide +kernel
  · simp [wordBlankOr, isTrail c here]

end Names

/-- No white space begins a word, in any letter case. -/
theorem endsRun_of_spells {word : String} {l rest : List Char} (spells : Spells word l)
    (begins : ∃ c ∈ word.toList.head?, Text.isBlank (foldCase c) = false) :
    EndsRun Text.isBlank (l ++ rest) := by
  obtain ⟨c, first, noBlank⟩ := begins
  have same : l.head?.map foldCase = word.toList.head?.map foldCase := by
    rw [← List.head?_map, spells, List.head?_map]
  rw [Option.mem_def.mp first, Option.map_some, Option.map_eq_some_iff] at same
  obtain ⟨d, begins, folds⟩ := same
  obtain ⟨l, rfl⟩ := List.head?_eq_some_iff.mp begins
  refine Text.endsRun_cons.mpr (Bool.eq_false_iff.mpr fun blank => ?_)
  rw [← folds, foldCase_of_isBlank blank, blank] at noBlank
  exact absurd noBlank nofun

/-! ### The events -/

section Events

variable (w : Wait) {name Q E : String}

theorem not_paren_of_blank {l : List Char} (blank : Blank l) : '(' ∉ l :=
  Run.not_mem blank (by decide)

theorem Wait.not_paren_end : '(' ∉ w.beforeEnd ++ [')'] := by
  simp [not_paren_of_blank w.isBlankEnd]

theorem awaitedEvents_quoted {quote : Char} (isQuote : Quote quote) (isPath : IsPath name) :
    awaitedEvents (w.text (quotedName quote name)) = [name] := by
  have whole : w.text (quotedName quote name) = w.head ++ '(' :: (w.afterParen ++ [quote] ++
      name.toList ++ quote :: (w.beforeEnd ++ [')'])) := by
    simp [Wait.text, quotedName]
  have isEvent : Run (wordBlankOr ".-") name.toList := by
    simpa using isPath.isEvent Text.run_nil
  have trimmed : Text.trimBy Text.isBlank name.toList = name.toList := by
    simpa using isPath.trimBy Text.run_nil
  refine awaitedEvents_single whole (w.accepts_head _) ?_ w.not_paren_end trimmed isPath.1
  have named : capture (w.head ++ ['('] ++ w.afterParen ++ [quote])
      (name.toList ++ quote :: (w.beforeEnd ++ [')'])) = some _ :=
    capture_event isPath.toList_ne_nil isEvent (.inl isQuote)
  have noParen : '(' ∉ quote :: (name.toList ++ quote :: (w.beforeEnd ++ [')'])) := by
    have other : '(' ≠ quote := by
      rintro rfl
      simp [Quote] at isQuote
    simp [other, isPath.not_paren, not_paren_of_blank w.isBlankEnd]
  have opens := plainOpening_quote isQuote noParen named
  have noBlank : EndsRun Text.isBlank (quote :: (name.toList ++ quote :: (w.beforeEnd ++ [')']))) :=
    Text.endsRun_cons.mpr (isBlank_of_endsName (.inl isQuote))
  simpa using awaitTail_of_opening w.isBlankAfter noBlank opens

theorem awaitedEvents_nameof (n : Nameof) (isPath : IsPath name) :
    awaitedEvents (w.text (n.text name)) = [name] := by
  have whole : w.text (n.text name) = w.head ++ '(' :: (w.afterParen ++ n.word ++ n.gap ++
      '(' :: n.lead ++ (name.toList ++ n.trail) ++ ')' :: (w.beforeEnd ++ [')'])) := by
    simp [Wait.text, Nameof.text]
  refine awaitedEvents_single whole (w.accepts_head _) ?_ w.not_paren_end (isPath.trimBy n.isTrail)
    isPath.1
  have named : capture (w.head ++ ['('] ++ w.afterParen ++ n.word ++ n.gap ++ ['('] ++ n.lead)
      (name.toList ++ n.trail ++ ')' :: (w.beforeEnd ++ [')'])) = some _ :=
    capture_event (by simp [isPath.toList_ne_nil]) (isPath.isEvent n.isTrail) (by decide)
  have noBlank : EndsRun Text.isBlank
      (name.toList ++ n.trail ++ ')' :: (w.beforeEnd ++ [')'])) := by
    rw [List.append_assoc]
    exact isPath.endsRun _
  have opens := plainOpening_nameOf n.spells n.isGap n.isLead noBlank named
  have noBlank' : EndsRun Text.isBlank (n.word ++ (n.gap ++
      '(' :: (n.lead ++ (name.toList ++ n.trail ++ ')' :: (w.beforeEnd ++ [')']))))) :=
    endsRun_of_spells n.spells ⟨'n', rfl, by decide⟩
  simpa using awaitTail_of_opening w.isBlankAfter noBlank' opens

theorem awaitedEvents_member (isQ : IsQualifier Q) (isPath : IsPath E) (noDot : '.' ∉ E.toList) :
    awaitedEvents (w.text (Q ++ "." ++ E).toList) = [E] := by
  obtain ⟨c, owner, front, isFirst⟩ := isQ.begins
  have dot : ".".toList = ['.'] := rfl
  have whole : w.text (Q ++ "." ++ E).toList = w.head ++ '(' :: (w.afterParen ++ (c :: owner) ++
      ['.'] ++ (E.toList ++ w.beforeEnd) ++ ')' :: []) := by
    simp [Wait.text, front, dot]
  refine awaitedEvents_single whole (w.accepts_head _) ?_ List.not_mem_nil
    (isPath.trimBy w.isBlankEnd) isPath.1
  have named : capture (w.head ++ ['('] ++ w.afterParen ++ (c :: owner) ++ ['.'])
      (E.toList ++ w.beforeEnd ++ [')']) = some _ :=
    capture_event (by simp [isPath.toList_ne_nil]) (isPath.isEvent w.isBlankEnd) (by decide)
  have isOwner : Run (wordBlankOr ".") (c :: owner) := by
    intro d here
    rcases isQ.isPath.2 d (front ▸ here) with word | rfl
    · simp [wordBlankOr, word]
    · decide +kernel
  have noQuote : isQuote c = false := by
    have plain := noStop_of_isWord (Text.isWord_of_isAsciiWord isFirst)
    simp only [noStop, isStop, Bool.not_eq_true', Bool.or_eq_false_iff] at plain
    exact plain.1.1.1.1
  have isMember : '.' ∉ E.toList ++ w.beforeEnd := by
    have noBlank : '.' ∉ w.beforeEnd := Run.not_mem w.isBlankEnd (by decide)
    simp [noDot, noBlank]
  have noParen : '(' ∉ E.toList ++ w.beforeEnd ++ [')'] := by
    simp [isPath.not_paren, not_paren_of_blank w.isBlankEnd]
  have noBlank : EndsRun Text.isBlank (E.toList ++ w.beforeEnd ++ [')']) := by
    rw [List.append_assoc]
    exact isPath.endsRun _
  have opens := plainOpening_member isOwner noQuote isMember (.inr (.inl rfl)) noParen noBlank named
  have noBlank' : EndsRun Text.isBlank
      ((c :: owner) ++ ('.' :: (E.toList ++ w.beforeEnd) ++ [')'])) :=
    Text.endsRun_cons.mpr (Text.isBlank_of_isWord (Text.isWord_of_isAsciiWord isFirst))
  simpa using awaitTail_of_opening w.isBlankAfter noBlank' opens

theorem IsIdentifier.not_dot (isE : IsIdentifier E) : '.' ∉ E.toList := fun here =>
  absurd (isE.2 '.' here) (by decide)

/-- Between quotes, by `nameof` and as a member, an awaited event is captured by its identifier. A
qualifier stays within `nameof`. -/
theorem awaitedEvents_spellings (n : Nameof) (isE : IsIdentifier E) (isQ : IsQualifier Q) :
    (∀ quote, Quote quote → awaitedEvents (w.text (quotedName quote E)) = [E]) ∧
      awaitedEvents (w.text (n.text E)) = [E] ∧
      awaitedEvents (w.text (Q ++ "." ++ E).toList) = [E] ∧
      awaitedEvents (w.text (n.text (Q ++ "." ++ E))) = [Q ++ "." ++ E] :=
  ⟨fun _ isQuote => awaitedEvents_quoted w isQuote isE.isPath, awaitedEvents_nameof w n isE.isPath,
    awaitedEvents_member w isQ isE.isPath isE.not_dot,
    awaitedEvents_nameof w n (isQ.isPath.append_dot isE.isPath)⟩

end Events

theorem genericArguments_list : GenericArguments "<List<int>>".toList := by
  have all : "List<int>".toList.all (wordBlankOr ".[]<>,-") = true := by decide +kernel
  exact .between (by decide) fun c here => wordBlankOr_iff.mp (List.all_eq_true.mp all c here)

/-- A wait with type arguments and white space. -/
def genericWait : Wait where
  verb := "WAITFORExternalEvent".toList
  async := "async".toList
  generic := "<List<int>>".toList
  beforeParen := []
  afterParen := ['\n', ' ']
  beforeEnd := []
  isVerb := ⟨"WaitForExternalEvent", by decide, by decide⟩
  isAsync := .inr (by decide)
  isGeneric := genericArguments_list
  isBlankBefore := Text.run_nil
  isBlankAfter := Text.run_of_all (by decide)
  isBlankEnd := Text.run_nil

def spacedNameof : Nameof where
  word := nameofWord
  gap := []
  lead := [' ']
  trail := []
  spells := rfl
  isGap := Text.run_nil
  isLead := Text.run_of_all (by decide)
  isTrail := Text.run_nil

theorem awaitedEvents_spellings_generic :
    IsIdentifier "Go" ∧ IsQualifier "nameof" ∧
      genericWait.text "nameof.Go".toList =
        "WAITFORExternalEventasync<List<int>>(\n nameof.Go)".toList ∧
      awaitedEvents (genericWait.text "nameof.Go".toList) = ["Go"] ∧
      awaitedEvents (genericWait.text (spacedNameof.text "Go")) = ["Go"] := by
  have isE : IsIdentifier "Go" := by decide
  have isQ : IsQualifier "nameof" := .single (by decide)
  obtain ⟨-, byNameof, member, -⟩ := awaitedEvents_spellings genericWait spacedNameof isE isQ
  exact ⟨isE, isQ, by decide, member, byNameof⟩

/-- By `nameof` a qualified event is not captured by its identifier. -/
theorem nameof_keeps_qualifier :
    IsIdentifier "Go" ∧ IsQualifier "Events" ∧
      awaitedEvents "waitForExternalEvent(nameof(Events.Go))".toList ≠ ["Go"] :=
  ⟨by decide, .single (by decide), by decide +kernel⟩

end OrchestrationGraph.Usage
