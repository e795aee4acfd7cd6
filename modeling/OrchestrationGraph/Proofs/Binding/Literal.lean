import OrchestrationGraph.Proofs.Binding.Attribute
import OrchestrationGraph.Proofs.Pattern.First

/-!
# Literal arguments

What the property of an attribute is whose only argument is a literal (`first_declared`). The
argument list is cut out by its parentheses, those within the literal included, so a quoted text is
read as it stands if its parentheses are nested, and not at all else. A name is read as it stands.
-/

namespace OrchestrationGraph.Binding

open Pattern Arguments
open Text (Run EndsRun)

def literalArguments (literal : List Char) : List Char := '(' :: ('"' :: literal ++ ['"'] ++ [')'])

/-- An attribute with nothing but a literal for its arguments. -/
def withLiteral (a : Attribute) (literal : List Char) : List Char :=
  '[' :: (a.name.toList ++ (literalArguments literal ++ [']']))

/-- The text says that the entity is a topic. -/
def TellsTopic (text : List Char) : Prop :=
  ∃ before blank blank' after, text = before ++ "EntityType".toList ++ blank ++ '.' :: blank' ++
    "Topic".toList ++ after ∧ Run Text.isBlank blank ∧ Run Text.isBlank blank' ∧
      EndsRun Text.isWord after

variable {a : Attribute} {literal text p : List Char}

/-! ### The argument list -/

theorem nested_quoted : parentheses.Nested ('"' :: literal ++ ['"']) ↔
    parentheses.Nested literal := by
  have quote : parentheses.depth ['"'] = 0 := by decide
  have opened : ∀ l, parentheses.depth ('"' :: l) = parentheses.depth l := by
    intro l
    rw [← List.singleton_append, Source.Brackets.depth_append, quote, Int.zero_add]
  have closed : ∀ l, parentheses.depth (l ++ ['"']) = parentheses.depth l := by
    intro l
    rw [Source.Brackets.depth_append, quote, Int.add_zero]
  constructor
  · rintro ⟨floor, level⟩
    rw [closed, opened] at level
    refine ⟨fun p isPrefix => ?_, level⟩
    rw [← opened]
    exact floor _ ((List.cons_prefix_cons.mpr ⟨rfl, isPrefix⟩).trans (List.prefix_append _ _))
  · rintro ⟨floor, level⟩
    have zero : parentheses.depth ('"' :: literal ++ ['"']) = 0 := by
      rw [closed, opened, level]
    refine ⟨fun p isPrefix => ?_, zero⟩
    rcases List.prefix_concat_iff.mp isPrefix with rfl | within
    · exact Int.le_of_eq zero.symm
    · obtain rfl | ⟨inner, rfl, inside⟩ := List.prefix_cons_iff.mp within
      · decide
      · rw [opened]
        exact floor inner inside

/-- The literal is cut out whole exactly if its parentheses are nested. -/
theorem span?_literal : parentheses.span? (literalArguments literal ++ [']']) =
    some (literalArguments literal) ↔ parentheses.Nested literal := by
  have different : parentheses.opening ≠ parentheses.closing := by decide
  rw [Source.Brackets.span?_eq_some_iff different, ← nested_quoted,
    ← Source.Brackets.isShortest_wrapped different rfl]
  constructor
  · rintro ⟨-, closes, least⟩
    exact ⟨List.prefix_rfl, closes, fun q isPrefix => least q (isPrefix.trans (List.prefix_append _ _))⟩
  · exact fun shortest => shortest.append [']']

/-- What is cut out has both quotes of the literal in it only if it is the whole list. -/
theorem eq_literalArguments (plain : '"' ∉ literal)
    (cut : parentheses.span? (literalArguments literal ++ [']']) = some p)
    (quotes : 2 ≤ p.count '"') : p = literalArguments literal := by
  obtain ⟨isPrefix, ⟨ends, -⟩, -⟩ := (Source.Brackets.span?_eq_some_iff (by decide)).mp cut
  have ends : p.getLast? = some ')' := ends
  have one : ('(' :: '"' :: literal).count '"' = 1 := by
    simp [List.count_eq_zero.mpr plain]
  -- A shorter beginning than the list does not end with a parenthesis or lacks the second quote.
  rcases List.prefix_concat_iff.mp isPrefix with rfl | isPrefix
  · rw [List.getLast?_concat] at ends
    exact absurd ends (by decide)
  · have isPrefix : p <+: '(' :: '"' :: literal ++ ['"'] ++ [')'] := isPrefix
    rcases List.prefix_concat_iff.mp isPrefix with rfl | isPrefix
    · rfl
    · rcases List.prefix_concat_iff.mp isPrefix with rfl | isPrefix
      · rw [List.getLast?_concat] at ends
        exact absurd ends (by decide)
      · have := isPrefix.sublist.count_le '"'
        omega

/-! ### The literal in its list -/

def literalMarks (literal : List Char) : List (Mark × Nat) :=
  [(.opens "first", ['(', '"'].length), (.closes "first", (['(', '"'] ++ literal).length)]

/-- A pattern that is stuck at the parenthesis and goes through the literal from its quote on reads
the literal. -/
theorem readGroups_literal {pattern : Pattern} {stop : Nat}
    (stuck : pattern.attempt finish [] (literalArguments literal) = none)
    (led : pattern.attempt finish ['('] ('"' :: literal ++ ['"'] ++ [')']) =
      some ⟨stop, literalMarks literal⟩) :
    readGroups pattern ["first"] (literalArguments literal) = [String.ofList literal] := by
  have found : pattern.find? (literalArguments literal) = some ⟨1, stop, literalMarks literal⟩ := by
    refine find?_eq_some_iff.mpr ⟨['('], '"' :: literal ++ ['"'] ++ [')'], rfl,
      by rw [matchAt?, led]; rfl, ?_⟩
    intro earlier more split nonempty
    obtain ⟨rfl, rfl⟩ : earlier = [] ∧ more = ['('] := by
      rcases List.append_eq_singleton_iff.mp split.symm with here | ⟨_, none⟩
      · exact here
      · exact absurd none nonempty
    rw [matchAt?]
    exact Option.map_eq_none_iff.mpr stuck
  have group : (⟨1, stop, literalMarks literal⟩ : Match).group? "first" (literalArguments literal) =
      some (Match.slice (literalArguments literal) ['(', '"'].length
        (['(', '"'] ++ literal).length) := rfl
  have split : literalArguments literal = ['(', '"'] ++ literal ++ ['"', ')'] := by
    simp [literalArguments]
  rw [readGroups, found]
  simp only [List.map_cons, List.map_nil, group]
  conv => lhs; rw [split, slice_middle]
  rfl

/-- A group of characters that the quote is none of takes the whole literal. -/
theorem attempt_literal {cls : Char → Bool} {next : Next} {stop : Nat} (nonempty : literal ≠ [])
    (isRun : Run cls literal) (noQuote : cls '"' = false)
    (leads : next (['(', '"'] ++ literal) ['"', ')'] = some { stop }) :
    (group "first" (oneOrMore cls)).attempt next ['(', '"'] (literal ++ ['"', ')']) =
      some ⟨stop, literalMarks literal⟩ :=
  attempt_group (attempt_oneOrMore nonempty isRun (Text.endsRun_cons.mpr noQuote)
    (attempt_mark (.closes "first") leads))

theorem attempt_quotedText (name : String) (next : Next) :
    (quotedText name).attempt next = (Pattern.text "\"").attempt
      ((group name (oneOrMore (· ≠ '"'))).attempt ((Pattern.text "\"").attempt next)) :=
  rfl

theorem readGroups_quotedText (nonempty : literal ≠ []) (plain : '"' ∉ literal) :
    readGroups (quotedText "first") ["first"] (literalArguments literal) =
      [String.ofList literal] := by
  have isRun : Run (fun c => decide (c ≠ '"')) literal := by
    intro c here
    refine decide_eq_true ?_
    rintro rfl
    exact plain here
  have closing : (Pattern.text "\"").attempt finish (['(', '"'] ++ literal) ['"', ')'] =
      some { stop := (['(', '"'] ++ literal ++ ['"']).length } := attempt_text "\""
  have off : EndsRun (· == '"') (literalArguments literal) := Text.endsRun_cons.mpr (by decide)
  have stuck : (quotedText "first").attempt finish [] (literalArguments literal) = none := by
    rw [attempt_quotedText]
    exact attempt_text_endsRun ⟨'"', rfl, rfl⟩ off
  have led : (quotedText "first").attempt finish ['('] ('"' :: literal ++ ['"'] ++ [')']) =
      some ⟨(['(', '"'] ++ literal ++ ['"']).length, literalMarks literal⟩ := by
    rw [attempt_quotedText, List.append_assoc]
    exact (attempt_text "\"").trans (attempt_literal nonempty isRun (by decide) closing)
  exact readGroups_literal stuck led

/-- A quoted text is read only where two quotes are. -/
theorem count_of_readGroups (found : readGroups (quotedText "first") ["first"] text ≠ []) :
    2 ≤ text.count '"' := by
  rw [readGroups] at found
  cases first : (quotedText "first").find? text with
  | none => exact absurd (by rw [first]) found
  | some m =>
    obtain ⟨before, taken, after, rfl, ⟨_, _, rfl, ⟨_, _, rfl, rfl, -⟩, rfl⟩, -⟩ :=
      exists_of_find? first
    have quote : "\"".toList.count '"' = 1 := by decide
    simp only [List.count_append, quote]
    omega

theorem attempt_leadingName (next : Next) :
    leadingName.attempt next = (optional (choice (Pattern.text "\"")
      [anyCase "nameof" ++ blanks ++ Pattern.text "("])).attempt
        ((group "first" (oneOrMore isNamePart)).attempt next) :=
  rfl

theorem readGroups_leadingName (nonempty : literal ≠ []) (isName : Run isNamePart literal) :
    readGroups leadingName ["first"] (literalArguments literal) = [String.ofList literal] := by
  have off : EndsRun (· == '"') (literalArguments literal) := Text.endsRun_cons.mpr (by decide)
  have noName : EndsRun isNamePart (literalArguments literal) :=
    Text.endsRun_cons.mpr (by decide +kernel)
  -- A parenthesis is neither a quote nor the first letter of `nameof`, and no name begins with it.
  have unopened : ∀ next : Next, (choice (Pattern.text "\"")
      [anyCase "nameof" ++ blanks ++ Pattern.text "("]).attempt next []
        (literalArguments literal) = none := by
    intro next
    have noWord : (anyCase "nameof").attempt (blanks.attempt ((Pattern.text "(").attempt next)) []
        (literalArguments literal) = none := attempt_anyCase_none rfl
    exact Option.or_eq_none_iff.mpr ⟨attempt_text_endsRun ⟨'"', rfl, rfl⟩ off, noWord⟩
  have stuck : leadingName.attempt finish [] (literalArguments literal) = none := by
    rw [attempt_leadingName, attempt_optional_none (unopened _)]
    exact attempt_group_none (attempt_oneOrMore_none noName)
  have led : leadingName.attempt finish ['('] ('"' :: literal ++ ['"'] ++ [')']) =
      some ⟨(['(', '"'] ++ literal).length, literalMarks literal⟩ := by
    rw [attempt_leadingName, List.append_assoc]
    refine attempt_optional_some (attempt_either_left ?_)
    exact (attempt_text "\"").trans (attempt_literal nonempty isName (by decide +kernel) rfl)
  exact readGroups_literal stuck led

/-! ### Topics -/

theorem isEdge_topic {before after : List Char} :
    isEdge Text.isWord (before ++ "Topic".toList).getLast? after.head? = true ↔
      EndsRun Text.isWord after := by
  have last : (before ++ "Topic".toList).getLast? = some 'c' := by
    rw [List.getLast?_append]
    rfl
  have word : Text.isWord 'c' = true := by decide +kernel
  rw [last]
  cases after with
  | nil => simp [isEdge, word, EndsRun]
  | cons c after => simp [isEdge, word, EndsRun]

theorem occurs_topicEntity : topicEntity.Occurs text ↔ TellsTopic text := by
  constructor
  · rintro ⟨before, _, after, rfl, ⟨_, _, rfl, ⟨_, _, rfl, ⟨_, blank', rfl, ⟨_, _, rfl,
      ⟨_, blank, rfl, rfl, isBlank⟩, rfl⟩, isBlank'⟩, rfl⟩, rfl, isEdge⟩⟩
    refine ⟨before, blank, blank', after, by simp, isBlank, isBlank', ?_⟩
    rw [← List.append_assoc] at isEdge
    exact isEdge_topic.mp isEdge
  · rintro ⟨before, blank, blank', after, rfl, isBlank, isBlank', stops⟩
    refine ⟨before, _, after, ?_, ⟨_, _, rfl, ⟨_, _, rfl, ⟨_, blank', rfl, ⟨_, _, rfl,
      ⟨_, blank, rfl, rfl, isBlank⟩, rfl⟩, isBlank'⟩, rfl⟩, rfl, ?_⟩⟩
    · simp
    · rw [← List.append_assoc]
      exact isEdge_topic.mpr stops

/-! ### The binding -/

theorem field?_ofAttribute {args : List Char} {field : String} {texts : List String}
    (ofReturnValue : Bool) (fields : a.arguments.fields args = [field].zip texts) :
    (ofAttribute a ofReturnValue (some args)).field? field = texts.head? := by
  rw [ofAttribute_eq, field?, propertiesFrom, Option.elim_some, fields]
  cases texts with
  | nil => rfl
  | cons first texts =>
    have only : [field].zip (first :: texts) = [(field, first)] := rfl
    rw [only, List.foldl_cons, List.foldl_nil, insertField, Dictionary.get?_insert, if_pos rfl]
    rfl

theorem first_withLiteral (isKnown : a ∈ Attribute.known) (literal : List Char) :
    (declaredIn (withLiteral a literal)).head? =
      some (ofAttribute a false (parentheses.span? (literalArguments literal ++ [']']))) := by
  have words : Attribute.known.all (fun a => a.name.toList ≠ [] && a.name.toList.all Text.isWord &&
      decide (stem a.name.toList = a.name.toList)) = true := by decide +kernel
  have word := List.all_eq_true.mp words a isKnown
  simp only [Bool.and_eq_true, decide_eq_true_eq, List.all_eq_true] at word
  obtain ⟨⟨nonempty, isWord⟩, whole⟩ := word
  let heading : Heading :=
    ⟨[], false, [], a.name.toList, [], .inl rfl, .parameter Text.run_nil, nonempty, isWord,
      Text.run_nil⟩
  have named : Attribute.named? (String.ofList (stem heading.word)) = some a := by
    refine Attribute.named?_eq_some_iff.mpr ⟨isKnown, ?_⟩
    rw [whole, String.ofList_toList]
  have split : withLiteral a literal =
      '[' :: (heading.text ++ ('"' :: literal ++ ['"'] ++ [')'] ++ [']'])) := by
    simp [withLiteral, literalArguments, Heading.text, heading]
  have declared := declaredAfter_heading heading ('"' :: literal ++ ['"'] ++ [')'] ++ [']'])
  rw [named, Option.map_some] at declared
  rw [declaredIn, findAll_eq opensWith_attributeStart]
  have along := declared_along [] (withLiteral a literal)
  rw [List.nil_append] at along
  rw [along, split, afterBrackets, if_pos rfl, List.filterMap_cons, declared]
  rfl

theorem field?_unclosed (a : Attribute) (ofReturnValue : Bool) (field : String) :
    (ofAttribute a ofReturnValue none).field? field = none := by
  rw [ofAttribute_eq]
  rfl

theorem field?_quoted {field : String} (isQuoted : a.arguments = .quoted field)
    (nonempty : literal ≠ []) (plain : '"' ∉ literal) (nested : parentheses.Nested literal) :
    (ofAttribute a false (parentheses.span? (literalArguments literal ++ [']']))).field? field =
      some (String.ofList literal) := by
  have fields : a.arguments.fields (literalArguments literal) =
      [field].zip [String.ofList literal] := by
    rw [isQuoted, Arguments.fields, readGroups_quotedText nonempty plain]
  rw [span?_literal.mpr nested, field?_ofAttribute false fields]
  rfl

theorem field?_quoted_none {field : String} (isQuoted : a.arguments = .quoted field)
    (plain : '"' ∉ literal) (unnested : ¬ parentheses.Nested literal) :
    (ofAttribute a false (parentheses.span? (literalArguments literal ++ [']']))).field? field =
      none := by
  cases cut : parentheses.span? (literalArguments literal ++ [']']) with
  | none => exact field?_unclosed a false field
  | some p =>
    have fields : a.arguments.fields p =
        [field].zip (readGroups (quotedText "first") ["first"] p) := by
      rw [isQuoted, Arguments.fields]
    rw [field?_ofAttribute false fields, List.head?_eq_none_iff]
    refine Classical.byContradiction fun found => unnested ?_
    obtain rfl := eq_literalArguments plain cut (count_of_readGroups found)
    exact span?_literal.mp cut

theorem nested_of_name (isName : Run isNamePart literal) : parentheses.Nested literal := by
  have level : ∀ l, Run isNamePart l → parentheses.depth l = 0 := by
    intro l isName
    have opening : parentheses.opening ∉ l := isName.not_mem (by decide +kernel)
    have closing : parentheses.closing ∉ l := isName.not_mem (by decide +kernel)
    rw [Source.Brackets.depth, List.count_eq_zero.mpr opening, List.count_eq_zero.mpr closing]
    rfl
  refine ⟨fun p isPrefix => Int.le_of_eq ?_, level literal isName⟩
  exact (level p fun c here => isName c (isPrefix.subset here)).symm

theorem field?_leading {field ofTopic : String} (isLeading : a.arguments = .leading field ofTopic)
    (nonempty : literal ≠ []) (isName : Run isNamePart literal)
    (noTopic : field = ofTopic ∨ ¬ TellsTopic (literalArguments literal)) :
    (ofAttribute a false (parentheses.span? (literalArguments literal ++ [']']))).field? field =
      some (String.ofList literal) := by
  have kept : (if topicEntity.occursIn (literalArguments literal) then ofTopic else field) =
      field := by
    rcases noTopic with rfl | noTopic
    · exact ite_self _
    · exact if_neg (mt (fun here => occurs_topicEntity.mp (occursIn_iff.mp here)) noTopic)
  have fields : a.arguments.fields (literalArguments literal) =
      [field].zip [String.ofList literal] := by
    rw [isLeading, Arguments.fields, kept, readGroups_leadingName nonempty isName]
  rw [span?_literal.mpr (nested_of_name isName), field?_ofAttribute false fields]
  rfl

/-- The first binding that an attribute with one literal declares is its own. A literal that is read
as a quoted text is its property as it stands if the parentheses in it are nested; else the argument
list cannot be read, and the property is missing. A literal that is read as a name is its property
as it stands if it is one. -/
theorem first_declared (isKnown : a ∈ Attribute.known) (nonempty : literal ≠ [])
    (plain : '"' ∉ literal) :
    ∃ b, (declaredIn (withLiteral a literal)).head? = some b ∧
      b.type = a.type ∧ b.direction = a.direction ∧
      (∀ field, a.arguments = .quoted field →
        (parentheses.Nested literal → b.field? field = some (String.ofList literal)) ∧
          (¬ parentheses.Nested literal → b.field? field = none)) ∧
      ∀ field ofTopic, a.arguments = .leading field ofTopic → Run isNamePart literal →
        (field = ofTopic ∨ ¬ TellsTopic (literalArguments literal)) →
          b.field? field = some (String.ofList literal) := by
  refine ⟨_, first_withLiteral isKnown literal, ?_, ?_, ?_, ?_⟩
  · rw [ofAttribute_eq]
  · rw [ofAttribute_eq]
    rfl
  · intro field isQuoted
    exact ⟨field?_quoted isQuoted nonempty plain, field?_quoted_none isQuoted plain⟩
  · intro field ofTopic isLeading isName noTopic
    exact field?_leading isLeading nonempty isName noTopic

theorem first_declared_nested :
    (∃ b, (declaredIn "[Blob(\"%in% (1)\")]".toList).head? = some b ∧
      b.field? "path" = some "%in% (1)") ∧
    ∃ b, (declaredIn "[ServiceBus(\"orders.new\")]".toList).head? = some b ∧
      b.field? "queueName" = some "orders.new" := by
  constructor
  · have isKnown : ⟨"Blob", "blob", .both, .quoted "path"⟩ ∈ Attribute.known := by
      simp [Attribute.known]
    have nested : parentheses.Nested "%in% (1)".toList := span?_literal.mp (by decide +kernel)
    obtain ⟨b, first, -, -, quoted, -⟩ :=
      @first_declared _ "%in% (1)".toList isKnown (by decide) (by decide)
    exact ⟨b, first, (quoted "path" rfl).1 nested⟩
  · have isKnown : ⟨"ServiceBus", "serviceBus", .output, .leading "queueName" "topicName"⟩ ∈
        Attribute.known := by
      simp [Attribute.known]
    have isName : Run isNamePart "orders.new".toList := Text.run_of_all (by decide +kernel)
    have noTopic : ¬ TellsTopic (literalArguments "orders.new".toList) := by
      have none : topicEntity.occursIn (literalArguments "orders.new".toList) = false := by
        decide +kernel
      rw [← occurs_topicEntity, ← occursIn_iff, none]
      decide
    obtain ⟨b, first, -, -, -, named⟩ :=
      @first_declared _ "orders.new".toList isKnown (by decide) (by decide)
    exact ⟨b, first, named "queueName" "topicName" rfl isName (.inr noTopic)⟩

/-- A parenthesis that is not nested costs the path, and a queue gets its name from the first run of
characters that a name may have: `%in%` gives `in`. -/
theorem literal_not_verbatim :
    (declaredIn "[Blob(\"a)b\")]".toList).head?.bind (·.field? "path") ≠ some "a)b" ∧
      (declaredIn "[Queue(\"%in%\")]".toList).head?.bind (·.field? "queueName") ≠
        some "%in%" := by
  decide +kernel

end OrchestrationGraph.Binding
