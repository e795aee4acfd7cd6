import OrchestrationGraph.Binding.Label

/-!
# Labels on one line

Where no text of a binding breaks a line, its label does not either (`OneLine.label`): labels are put
together from properties, methods and types with separators in between.
-/

namespace OrchestrationGraph.Binding

/-- No text of the binding breaks a line. -/
structure OneLine (b : Binding) : Prop where
  type : '\n' ∉ b.type.toList
  fields : ∀ name text, b.field? name = some text → '\n' ∉ text.toList
  methods : ∀ m ∈ b.methods, '\n' ∉ m.toList

theorem toUpper_ne_break {c : Char} (other : c ≠ '\n') : c.toUpper ≠ '\n' := by
  unfold Char.toUpper
  split
  · rename_i lower
    intro same
    have value := congrArg (fun c : Char => c.val.toNat) same
    have shift : ('A'.val - 'a'.val).toNat = 4294967264 := by decide
    have break_ : '\n'.val.toNat = 10 := by decide
    simp only [UInt32.toNat_add, shift, break_] at value
    have least : 97 ≤ c.val.toNat := lower.1
    have most : c.val.toNat ≤ 122 := lower.2
    omega
  · exact other

theorem not_mem_intercalate {c : Char} {between : List Char} {texts : List (List Char)}
    (other : c ∉ between) (each : ∀ text ∈ texts, c ∉ text) : c ∉ between.intercalate texts := by
  induction texts with
  | nil => simp
  | cons text texts ih =>
    have first := each text List.mem_cons_self
    cases texts with
    | nil => simpa using first
    | cons next texts =>
      have rest := ih fun text here => each text (List.mem_cons_of_mem _ here)
      rw [List.intercalate_cons_cons]
      simp [first, other, rest]

variable {b : Binding} {text : String}

theorem oneLine_of_type {direction : Direction} {type : String} (one : '\n' ∉ type.toList) :
    OneLine { type, direction } where
  type := one
  fields _ _ is := nomatch is
  methods _ here := nomatch here

theorem OneLine.withField (one : b.OneLine) {name value : String} (one' : '\n' ∉ value.toList) :
    (b.withField name value).OneLine where
  type := one.type
  fields key text is := by
    rw [field?, Binding.withField, Dictionary.get?_insert] at is
    split at is
    · obtain rfl : value = text := by simpa [Json.Value.text?] using is
      exact one'
    · exact one.fields key text is
  methods m here := by
    by_cases same : name = "methods"
    · simp [Binding.methods, Binding.withField, Dictionary.get?_insert, same,
        Json.Value.items?] at here
    · have kept : (b.withField name value).methods = b.methods := by
        simp [Binding.methods, Binding.withField, Dictionary.get?_insert, same]
      exact one.methods m (kept ▸ here)

theorem OneLine.methodsText (one : b.OneLine) :
    '\n' ∉ (",".intercalate (b.methods.map Text.asciiUpper)).toList := by
  rw [String.toList_intercalate]
  refine not_mem_intercalate (by decide) ?_
  simp only [List.mem_map]
  rintro _ ⟨_, ⟨m, here, rfl⟩, rfl⟩ broken
  rw [Text.asciiUpper, String.toList_map] at broken
  obtain ⟨c, inside, upper⟩ := List.mem_map.mp broken
  exact toUpper_ne_break (fun same => one.methods m here (same ▸ inside)) upper

theorem OneLine.route (one : b.OneLine) {route : String} (is : b.field? "route" = some route) :
    '\n' ∉ '/' :: route.toList.dropWhile (· = '/') := by
  intro broken
  obtain slash | inside := List.mem_cons.mp broken
  · exact absurd slash (by decide)
  · exact one.fields _ _ is ((List.dropWhile_sublist _).mem inside)

theorem OneLine.httpLabel (one : b.OneLine) (labelled : b.httpLabel? = some text) :
    '\n' ∉ text.toList := by
  have methods := one.methodsText
  unfold httpLabel? at labelled
  cases is : b.field? "route" with
  | none =>
    simp only [is, Option.map_none] at labelled
    split at labelled
    · exact absurd labelled (by simp)
    · exact Option.some.inj labelled ▸ methods
  | some route =>
    have routes := one.route is
    simp only [is, Option.map_some, Option.some.injEq] at labelled
    subst labelled
    split
    · simpa using routes
    · have blank : '\n' ∉ " ".toList := by decide
      simp only [String.toList_append, List.mem_append, not_or]
      exact ⟨⟨methods, blank⟩, by rwa [String.toList_ofList]⟩

theorem OneLine.pairLabel (one : b.OneLine) {first second : String}
    (labelled : b.pairLabel? first second = some text) : '\n' ∉ text.toList := by
  obtain ⟨x, is, rfl⟩ := Option.map_eq_some_iff.mp labelled
  have front := one.fields _ _ is
  cases is' : b.field? second with
  | none => exact front
  | some y =>
    have back := one.fields _ _ is'
    simp [front, back]

theorem OneLine.description (one : b.OneLine) (described : b.description? = some text) :
    '\n' ∉ text.toList := by
  unfold description? at described
  split at described
  · exact one.httpLabel described
  · exact one.fields _ _ described
  · exact one.pairLabel described
  · exact one.fields _ _ described
  · cases is : b.field? "queueName" with
    | none => exact one.pairLabel (by simpa [is] using described)
    | some queue => exact one.fields _ _ (is.trans (by simpa [is] using described))
  · exact one.fields _ _ described
  · exact one.fields _ _ described
  · exact one.fields _ _ described
  · exact one.fields _ _ described
  · exact one.fields _ _ described
  · exact one.fields _ _ described
  · exact one.fields _ _ described
  · exact absurd described (by simp)

theorem OneLine.label (one : b.OneLine) : '\n' ∉ b.label.toList := by
  unfold Binding.label
  cases described : b.description? with
  | none => exact one.type
  | some label => exact one.description described

end OrchestrationGraph.Binding
