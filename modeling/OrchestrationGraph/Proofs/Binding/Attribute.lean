import OrchestrationGraph.Proofs.Binding.Heading
import OrchestrationGraph.Proofs.Source.Balanced

/-!
# Attributes do not depend on each other

Every opening bracket declares by itself: what the code declares is, bracket by bracket, what the
text behind the bracket declares, wherever else brackets stand (`declaredIn_eq`). A bracket declares
a binding exactly if a heading with a known name follows it, and the properties of the binding come
from the argument list alone (`Declaration`).
-/

namespace OrchestrationGraph

namespace Attribute

theorem known_names_distinct : known.Pairwise fun a b => a.name ≠ b.name := by
  decide +kernel

theorem find?_name {as : List Attribute} {a : Attribute}
    (distinct : as.Pairwise fun a b => a.name ≠ b.name) (here : a ∈ as) :
    as.find? (fun x => x.name = a.name) = some a := by
  induction as with
  | nil => exact absurd here List.not_mem_nil
  | cons first as ih =>
    obtain ⟨others, distinct⟩ := List.pairwise_cons.mp distinct
    rcases List.mem_cons.mp here with rfl | here
    · simp
    · rw [List.find?_cons_of_neg (by simpa using others a here)]
      exact ih distinct here

/-- No two known attributes share a name. -/
theorem named?_eq_some_iff {name : String} {a : Attribute} :
    named? name = some a ↔ a ∈ known ∧ a.name = name := by
  constructor
  · intro found
    exact ⟨List.mem_of_find?_eq_some found, by simpa using List.find?_some found⟩
  · rintro ⟨here, rfl⟩
    exact find?_name known_names_distinct here

end Attribute

namespace Binding

open Pattern

/-- The texts behind the opening brackets of the code, in its order. -/
def afterBrackets : List Char → List (List Char)
  | [] => []
  | c :: rest => if c = '[' then rest :: afterBrackets rest else afterBrackets rest

def insertField (properties : Dictionary Json.Value) (f : String × String) :
    Dictionary Json.Value :=
  properties.insert f.1 (.text f.2)

/-- The properties that an argument list gives, or none if there is no list. -/
def propertiesFrom (a : Attribute) (args? : Option (List Char)) : Dictionary Json.Value :=
  (args?.elim [] fun args => a.arguments.fields args).foldl insertField ∅

/-- What the text behind an opening bracket declares: a heading whose word has the name of a known
attribute for its stem, and the shortest balanced text from the parenthesis on, if there is one, for
its arguments. -/
structure Declaration (after : List Char) where
  heading : Heading
  rest : List Char
  kind : Attribute
  arguments? : Option (List Char)
  split : after = heading.text ++ rest
  isKnown : kind ∈ Attribute.known
  isNamed : kind.name = String.ofList (stem heading.word)
  isArguments : ∀ p, arguments? = some p ↔
    Source.Brackets.IsShortest parentheses.Balances ('(' :: rest) p

def Declaration.binding {after : List Char} (d : Declaration after) : Binding where
  type := d.kind.type
  direction := if d.heading.ofReturnValue then .output else d.kind.direction
  properties := propertiesFrom d.kind d.arguments?

/-- What the text behind an opening bracket declares, read as if nothing stood before it. -/
def declaredAfter (after : List Char) : Option Binding :=
  (attributeStart.matchAt? [] ('[' :: after)).bind (ofMatch? ('[' :: after))

variable {before after rest : List Char}

/-! ### One attribute -/

theorem foldl_withField (fields : List (String × String)) (b : Binding) :
    fields.foldl (fun (b : Binding) f => b.withField f.1 f.2) b =
      { b with properties := fields.foldl insertField b.properties } := by
  induction fields generalizing b with
  | nil => rfl
  | cons f fields ih => exact ih (b.withField f.1 f.2)

theorem ofAttribute_eq (a : Attribute) (ofReturnValue : Bool) (args? : Option (List Char)) :
    ofAttribute a ofReturnValue args? =
      ⟨a.type, if ofReturnValue then .output else a.direction, propertiesFrom a args?⟩ :=
  foldl_withField _ _

section

variable (start stop i j : Nat) (ofReturnValue : Bool) (l name text : List Char)

theorem group?_name :
    (⟨start, stop, targetMarks ofReturnValue i j ++ nameMarks l name⟩ : Match).group? "name" text =
      some (Match.slice text l.length (l ++ name).length) := by
  cases ofReturnValue <;> rfl

theorem isSome_group?_return :
    ((⟨start, stop, targetMarks ofReturnValue i j ++ nameMarks l name⟩ : Match).group? "return"
      text).isSome = ofReturnValue := by
  cases ofReturnValue <;> rfl

end

/-- The binding found at a bracket with a heading behind it. -/
theorem matched_heading (h : Heading) (before rest : List Char) :
    (attributeStart.matchAt? before ('[' :: (h.text ++ rest))).bind
        (ofMatch? (before ++ '[' :: (h.text ++ rest))) =
      (Attribute.named? (String.ofList (stem h.word))).map fun a =>
        ofAttribute a h.ofReturnValue (parentheses.span? ('(' :: rest)) := by
  obtain ⟨i, j, found⟩ := attempt_heading h before rest
  obtain ⟨ending, whole, -⟩ := stem_split h.nonempty
  have name : before ++ '[' :: (h.text ++ rest) = before ++ '[' :: (h.angle ++ h.lead) ++
      stem h.word ++ (ending ++ h.blank ++ '(' :: rest) := by
    rw [Heading.text]
    conv => lhs; rw [whole]
    simp
  have arguments : (before ++ '[' :: (h.text ++ rest)).drop
      ((before ++ '[' :: h.text).length - 1) = '(' :: rest := by
    have upTo : before ++ '[' :: h.text =
        before ++ '[' :: (h.angle ++ h.lead ++ h.word ++ h.blank) ++ ['('] := by
      simp [Heading.text]
    have all : before ++ '[' :: (h.text ++ rest) =
        before ++ '[' :: (h.angle ++ h.lead ++ h.word ++ h.blank) ++ '(' :: rest := by
      simp [Heading.text]
    rw [upTo, List.length_append, List.length_singleton, Nat.add_sub_cancel, all, List.drop_left]
  rw [matchAt?, found, Option.map_some, Option.bind_some, ofMatch?, group?_name,
    isSome_group?_return, arguments]
  conv => lhs; rw [name, slice_middle]
  rw [Option.map_eq_bind]
  rfl

theorem matched_none (headless : ¬ ∃ (h : Heading) (rest : List Char), after = h.text ++ rest) :
    attributeStart.matchAt? before ('[' :: after) = none := by
  refine Option.map_eq_none_iff.mpr (Option.not_isSome_iff_eq_none.mp fun leads => ?_)
  obtain ⟨h, rest, split⟩ := exists_heading leads
  exact headless ⟨h, rest, (List.cons.inj split).2⟩

/-- Text before a bracket has no part in what is found there. -/
theorem matched_eq (before after : List Char) :
    (attributeStart.matchAt? before ('[' :: after)).bind (ofMatch? (before ++ '[' :: after)) =
      declaredAfter after := by
  unfold declaredAfter
  by_cases heading : ∃ (h : Heading) (rest : List Char), after = h.text ++ rest
  · obtain ⟨h, rest, rfl⟩ := heading
    exact (matched_heading h before rest).trans (matched_heading h [] rest).symm
  · rw [matched_none heading, matched_none heading]
    rfl

theorem declaredAfter_heading (h : Heading) (rest : List Char) :
    declaredAfter (h.text ++ rest) = (Attribute.named? (String.ofList (stem h.word))).map fun a =>
      ofAttribute a h.ofReturnValue (parentheses.span? ('(' :: rest)) :=
  matched_heading h [] rest

theorem span?_parentheses {p : List Char} : parentheses.span? ('(' :: rest) = some p ↔
    Source.Brackets.IsShortest parentheses.Balances ('(' :: rest) p :=
  Source.Brackets.span?_opening (by decide) rfl

theorem isSome_declaredAfter :
    (declaredAfter after).isSome = true ↔
      ∃ (h : Heading) (rest : List Char), after = h.text ++ rest ∧
        ∃ a ∈ Attribute.known, a.name = String.ofList (stem h.word) := by
  constructor
  · intro declared
    by_cases heading : ∃ (h : Heading) (rest : List Char), after = h.text ++ rest
    · obtain ⟨h, rest, rfl⟩ := heading
      rw [declaredAfter_heading, Option.isSome_map] at declared
      obtain ⟨a, named⟩ := Option.isSome_iff_exists.mp declared
      exact ⟨h, rest, rfl, a, Attribute.named?_eq_some_iff.mp named⟩
    · rw [declaredAfter, matched_none heading] at declared
      exact absurd declared nofun
  · rintro ⟨h, rest, rfl, a, isKnown, isNamed⟩
    rw [declaredAfter_heading, Attribute.named?_eq_some_iff.mpr ⟨isKnown, isNamed⟩]
    rfl

theorem declaredAfter_iff {b : Binding} :
    declaredAfter after = some b ↔ ∃ d : Declaration after, d.binding = b := by
  constructor
  · intro declared
    obtain ⟨h, rest, rfl, a, known⟩ :=
      isSome_declaredAfter.mp (Option.isSome_of_eq_some declared)
    rw [declaredAfter_heading, Attribute.named?_eq_some_iff.mpr known] at declared
    obtain rfl := Option.some.inj declared
    exact ⟨⟨h, rest, a, _, rfl, known.1, known.2, fun _ => span?_parentheses⟩,
      (ofAttribute_eq _ _ _).symm⟩
  · rintro ⟨⟨h, rest, a, args?, rfl, isKnown, isNamed, isArguments⟩, rfl⟩
    have named : Attribute.named? (String.ofList (stem h.word)) = some a :=
      Attribute.named?_eq_some_iff.mpr ⟨isKnown, isNamed⟩
    have span : parentheses.span? ('(' :: rest) = args? :=
      Option.ext fun p => span?_parentheses.trans (isArguments p).symm
    rw [declaredAfter_heading, named, span, Option.map_some, ofAttribute_eq]
    rfl

/-- Text behind the arguments has no part either. -/
theorem declaredAfter_closed (h : Heading) {inner : List Char}
    (closed : Source.Brackets.IsShortest parentheses.Balances ('(' :: inner) ('(' :: inner))
    (later : List Char) :
    declaredAfter (h.text ++ inner ++ later) = declaredAfter (h.text ++ inner) := by
  have alone := span?_parentheses.mpr closed
  have followed : parentheses.span? ('(' :: (inner ++ later)) = some ('(' :: inner) :=
    span?_parentheses.mpr (closed.append later)
  rw [List.append_assoc, declaredAfter_heading, declaredAfter_heading, alone, followed]

/-! ### All attributes -/

/-- A match begins with a bracket, and there is no other in it. -/
theorem opensWith_attributeStart : attributeStart.OpensWith '[' := by
  intro before after m found
  unfold matchAt? at found
  obtain ⟨hit, tried, rfl⟩ := Option.map_eq_some_iff.mp found
  obtain ⟨h, rest, rfl⟩ := exists_heading (Option.isSome_of_eq_some tried)
  obtain ⟨i, j, known⟩ := attempt_heading h before rest
  obtain rfl := Option.some.inj (tried.symm.trans known)
  refine ⟨h.text, rest, rfl, h.no_bracket, ?_⟩
  simp only [List.length_append, List.length_cons]
  omega

theorem filterMap_toList {α β : Type} (f : α → Option β) (o : Option α) :
    o.toList.filterMap f = (o.bind f).toList := by
  cases o with
  | none => rfl
  | some a => cases found : f a <;> simp [found]

theorem declared_along (before rest : List Char) :
    (attributeStart.matchesAlong before rest).filterMap (ofMatch? (before ++ rest)) =
      (afterBrackets rest).filterMap declaredAfter := by
  induction rest generalizing before with
  | nil =>
    rw [matchesAlong, opensWith_attributeStart.matchAt?_none (by simp)]
    rfl
  | cons c rest ih =>
    have ih := ih (before ++ [c])
    rw [List.append_assoc, List.singleton_append] at ih
    rw [matchesAlong, List.filterMap_append, ih, afterBrackets, filterMap_toList]
    split
    · rename_i opens
      subst opens
      rw [matched_eq, List.filterMap_cons]
      cases declaredAfter rest <;> rfl
    · rename_i other
      rw [opensWith_attributeStart.matchAt?_none (by simpa using other)]
      rfl

/-- What code declares is what the text behind each of its opening brackets declares, one after the
other. A bracket declares where a heading with a known name follows it, and text behind its
arguments has no part in what it declares. -/
theorem declaredIn_eq :
    (∀ code, declaredIn code = (afterBrackets code).filterMap declaredAfter) ∧
      (∀ after, (declaredAfter after).isSome = true ↔
        ∃ (h : Heading) (rest : List Char), after = h.text ++ rest ∧
          ∃ a ∈ Attribute.known, a.name = String.ofList (stem h.word)) ∧
      (∀ after b, declaredAfter after = some b ↔ ∃ d : Declaration after, d.binding = b) ∧
      ∀ (h : Heading) (inner later : List Char),
        Source.Brackets.IsShortest parentheses.Balances ('(' :: inner) ('(' :: inner) →
          declaredAfter (h.text ++ inner ++ later) = declaredAfter (h.text ++ inner) := by
  refine ⟨fun code => ?_, fun _ => isSome_declaredAfter, fun _ _ => declaredAfter_iff,
    fun h inner later closed => declaredAfter_closed h closed later⟩
  unfold declaredIn
  rw [findAll_eq opensWith_attributeStart]
  exact declared_along [] code

/-- An attribute within the arguments of another counts as well, and neither hides the other. -/
example : (declaredIn "[Blob([return: QueueAttribute(Jobs)])]".toList).map
    (fun b => (b.type, b.direction)) = [("blob", .both), ("queue", .output)] := by
  decide +kernel

end Binding

end OrchestrationGraph
