import OrchestrationGraph.Proofs.Json.Meaning
import OrchestrationGraph.Proofs.Node.Json

/-!
# What a binding keeps of its text

A binding that was read from an object is written as an object that says the same, but for the letter
case of the direction, and that reads as the same binding again (`read_preserves`).
-/

namespace OrchestrationGraph

open Json (Fault Outline Reader Value foldTold lastNamed)

variable {told : List (Except Fault String × Outline)} {room : Nat} {name : String} {o : Outline}
  {v : Value}

/-! ### Directions -/

/-- Whether the word is given as direction, in any letter case. -/
def directed (word : String) (told : List (Except Fault String × Outline)) : Bool :=
  match lastNamed "direction" told with
  | some (.text (.ok s)) => Text.sameIgnoringCase s word
  | _ => false

/-- The name of the direction that is given; nothing, null and unknown words mean input. -/
def directionName (told : List (Except Fault String × Outline)) : String :=
  if directed "out" told then "out" else if directed "inout" told then "inout" else "in"

theorem Direction.name_ofWord (s : String) :
    (ofWord s).name =
      if Text.sameIgnoringCase s "out" then "out"
      else if Text.sameIgnoringCase s "inout" then "inout" else "in" := by
  have out : Text.asciiLower "out" = "out" := by decide +kernel
  have both : Text.asciiLower "inout" = "inout" := by decide +kernel
  unfold ofWord Text.sameIgnoringCase
  simp only [out, both, beq_iff_eq]
  show name (if Text.asciiLower s = "out" then _ else if Text.asciiLower s = "inout" then _ else _) = _
  split_ifs <;> rfl

theorem text_of_read {s : String} (read : Reader.text room o = .ok s) : o = .text (.ok s) := by
  cases o with
  | text given =>
    obtain rfl : given = .ok s := read
    rfl
  | number n => cases n <;> exact absurd read nofun
  | _ => exact absurd read nofun

theorem Direction.of_read {d : Direction} (read : reader room o = .ok d) :
    o = .null ∧ d = .input ∨ ∃ s, o = .text (.ok s) ∧ d = ofWord s := by
  obtain ⟨word?, optional, read⟩ := Json.of_bind_ok (x := Reader.optional Reader.text room o) read
  obtain rfl := Except.ok.inj read
  unfold Reader.optional at optional
  split at optional
  · obtain rfl := Except.ok.inj optional
    exact .inl ⟨rfl, rfl⟩
  · cases text : Reader.text room o with
    | error fault =>
      rw [text] at optional
      exact absurd optional nofun
    | ok s =>
      rw [text] at optional
      obtain rfl := Except.ok.inj optional
      exact .inr ⟨s, text_of_read text, rfl⟩

namespace Binding

/-- What the binding that was read from these members has kept of them once it is written: the type,
the name of its direction, and of each other name what is said last of it. No other name is there, and
none twice. -/
structure Preserves (b : Binding) (told : List (Except Fault String × Outline)) : Prop where
  distinct : ∃ written, b.toJson = .object written ∧ (written.map (·.1)).Nodup
  type : ∃ s, lastNamed "type" told = some (.text (.ok s)) ∧ b.toJson.member? "type" = some (.text s)
  direction : b.toJson.member? "direction" = some (.text (directionName told))
  others : ∀ name, name ≠ "type" → name ≠ "direction" →
    Option.Rel (fun o v => v.SaidBy o) (lastNamed name told) (b.toJson.member? name)

variable {b : Binding} {p p' : Partial}

/-! ### One member -/

/-- What a member that is read makes of a binding. -/
inductive Took (room : Nat) (p : Partial) (name : String) : Outline → Partial → Prop
  | type (s : String) (named : name = "type") (unset : p.type = none) :
    Took room p name (.text (.ok s)) { p with type := some s }
  | direction {o : Outline} {d : Direction} (named : name = "direction")
    (unset : p.direction = none) (read : Direction.reader room o = .ok d) :
    Took room p name o { p with direction := some d }
  | property {o : Outline} {v : Value} (noType : name ≠ "type") (noDirection : name ≠ "direction")
    (read : Reader.value room o = .ok v) :
    Took room p name o { p with properties := p.properties.insert name v }

theorem took_of_readMember (read : Partial.readMember room p name o = .ok p') :
    Took room p name o p' := by
  unfold Partial.readMember at read
  split_ifs at read with type set direction set
  · exact absurd read nofun
  · obtain ⟨s, text, read⟩ := Json.of_bind_ok (x := Reader.text room o) read
    obtain rfl := text_of_read text
    obtain rfl := Except.ok.inj read
    exact .type s type (Option.not_isSome_iff_eq_none.mp set)
  · exact absurd read nofun
  · obtain ⟨d, given, read⟩ := Json.of_bind_ok (x := Direction.reader room o) read
    obtain rfl := Except.ok.inj read
    exact .direction direction (Option.not_isSome_iff_eq_none.mp set) given
  · obtain ⟨v, value, read⟩ := Json.of_bind_ok (x := Reader.value room o) read
    obtain rfl := Except.ok.inj read
    exact .property type direction value

/-! ### All members -/

section Members

variable (folded : foldTold (Partial.readMember room) {} told = .ok p)

include folded

theorem type_of_members : (lastNamed "type" told = none ∧ p.type = none) ∨
    ∃ o, lastNamed "type" told = some o ∧ ∃ s, o = .text (.ok s) ∧ p.type = some s := by
  show (_ ∧ p.type = ({} : Partial).type) ∨ _
  refine Json.shows_last Partial.type (fun o x => ∃ s, o = .text (.ok s) ∧ x = some s) ?_ ?_ folded
  · intro p o p' read
    cases took_of_readMember read with
    | type s => exact ⟨s, rfl, rfl⟩
    | direction named => exact absurd named (by decide)
    | property noType => exact absurd rfl noType
  · intro p name o p' different read
    cases took_of_readMember read with
    | type _ named => exact absurd named different
    | direction | property => rfl

theorem direction_of_members : (lastNamed "direction" told = none ∧ p.direction = none) ∨
    ∃ o, lastNamed "direction" told = some o ∧
      ∃ d, Direction.reader room o = .ok d ∧ p.direction = some d := by
  show (_ ∧ p.direction = ({} : Partial).direction) ∨ _
  refine Json.shows_last Partial.direction
    (fun o x => ∃ d, Direction.reader room o = .ok d ∧ x = some d) ?_ ?_ folded
  · intro p o p' read
    cases took_of_readMember read with
    | type _ named => exact absurd named (by decide)
    | direction _ _ given => exact ⟨_, given, rfl⟩
    | property _ noDirection => exact absurd rfl noDirection
  · intro p name o p' different read
    cases took_of_readMember read with
    | direction named => exact absurd named different
    | type | property => rfl

theorem property_of_members (noType : name ≠ "type") (noDirection : name ≠ "direction") :
    (lastNamed name told = none ∧ p.properties.get? name = none) ∨
      ∃ o, lastNamed name told = some o ∧ Json.Shows room o (p.properties.get? name) := by
  show (_ ∧ p.properties.get? name = ({} : Partial).properties.get? name) ∨ _
  refine Json.shows_last (fun p => p.properties.get? name) (Json.Shows room) ?_ ?_ folded
  · intro p o p' read
    cases took_of_readMember read with
    | type _ named => exact absurd named noType
    | direction named => exact absurd named noDirection
    | property _ _ value => exact ⟨_, value, by rw [Dictionary.get?_insert, if_pos rfl]⟩
  · intro p other o p' different read
    cases took_of_readMember read with
    | type | direction => rfl
    | property => rw [Dictionary.get?_insert, if_neg different]

theorem reserved_of_members :
    p.properties.get? "type" = none ∧ p.properties.get? "direction" = none := by
  refine Json.fold_invariant (s := ({} : Partial))
    (P := fun p : Partial => p.properties.get? "type" = none ∧ p.properties.get? "direction" = none)
    ⟨rfl, rfl⟩ ?_ folded
  intro p name o p' free read
  cases took_of_readMember read with
  | type | direction => exact free
  | property noType noDirection =>
    rw [Dictionary.get?_insert, if_neg noType, Dictionary.get?_insert, if_neg noDirection]
    exact free

theorem value_of_property (there : p.properties.get? name = some v) :
    ∃ o, lastNamed name told = some o ∧ Reader.value room o = .ok v := by
  obtain ⟨noType, noDirection⟩ := reserved_of_members folded
  have noType : name ≠ "type" := by
    rintro rfl
    simp [noType] at there
  have noDirection : name ≠ "direction" := by
    rintro rfl
    simp [noDirection] at there
  obtain ⟨-, absent⟩ | ⟨o, last, v', value, same⟩ := property_of_members folded noType noDirection
  · rw [there] at absent
    exact absurd absent nofun
  · obtain rfl : v = v' := Option.some.inj (there.symm.trans same)
    exact ⟨o, last, value⟩

end Members

/-! ### The whole binding -/

theorem of_finish (finished : p.finish = .ok b) :
    p.type = some b.type ∧ b.direction = p.direction.getD .input ∧ b.properties = p.properties := by
  unfold Partial.finish at finished
  split at finished
  · exact absurd finished nofun
  · rename_i given
    obtain rfl := Except.ok.inj finished
    exact ⟨given, rfl, rfl⟩

theorem lookup_eq_find? {α : Type} (name : String) (l : List (String × α)) :
    Dictionary.lookup name l = (l.find? fun e => e.1 = name).map (·.2) := by
  induction l with
  | nil => rfl
  | cons e l ih =>
    obtain ⟨key, v⟩ := e
    by_cases same : key = name <;> simp [Dictionary.lookup, same, ih]

theorem member?_toJson (b : Binding) (noType : name ≠ "type") (noDirection : name ≠ "direction") :
    b.toJson.member? name = b.properties.get? name := by
  rw [Dictionary.get?, lookup_eq_find?]
  simp [toJson, Value.member?, Value.members?, noType.symm, noDirection.symm]

section Whole

variable (folded : foldTold (Partial.readMember room) {} told = .ok p) (finished : p.finish = .ok b)

include folded finished

theorem recoverable_of_read : b.Recoverable := by
  obtain ⟨-, -, properties⟩ := of_finish finished
  obtain ⟨noType, noDirection⟩ := reserved_of_members folded
  have absent : ∀ name, p.properties.get? name = none → name ∉ b.properties.keys := by
    intro name none here
    rw [← Dictionary.contains_iff, Dictionary.contains, properties, none] at here
    exact absurd here nofun
  refine ⟨absent "type" noType, absent "direction" noDirection, fun v here => ?_⟩
  obtain ⟨e, there, rfl⟩ := List.mem_map.mp here
  rw [properties] at there
  obtain ⟨o, -, value⟩ := value_of_property folded (Dictionary.get?_eq_some_iff.mpr there)
  exact Json.ordered_of_read value

theorem depth_of_read (positive : 0 < room) : b.toJson.depth < room + 1 := by
  obtain ⟨-, -, properties⟩ := of_finish finished
  refine Nat.succ_lt_succ (Value.membersDepth_lt positive ?_)
  simp only [List.forall_mem_cons]
  refine ⟨positive, positive, fun e here => ?_⟩
  rw [properties] at here
  obtain ⟨o, -, value⟩ := value_of_property folded (Dictionary.get?_eq_some_iff.mpr here)
  exact Json.depth_lt_of_read positive value

theorem numbers_of_read {n : Json.Number} (here : n ∈ b.toJson.numbers) :
    .ok n ∈ Json.objectNumbers told := by
  obtain ⟨-, -, properties⟩ := of_finish finished
  have here : n ∈ Value.memberNumbers b.properties.entries := here
  obtain ⟨e, inside, here⟩ := Value.mem_memberNumbers.mp here
  rw [properties] at inside
  obtain ⟨o, last, value⟩ := value_of_property folded (Dictionary.get?_eq_some_iff.mpr inside)
  obtain ⟨m, there, rfl⟩ := Json.mem_of_lastNamed last
  exact Json.numbers_subset_objectNumbers there (Json.numbers_of_read value here)

theorem preserves_of_read : b.Preserves told := by
  obtain ⟨type, direction, properties⟩ := of_finish finished
  have recoverable := recoverable_of_read folded finished
  constructor
  case distinct =>
    refine ⟨_, rfl, ?_⟩
    have ascending : b.properties.keys.Nodup := by
      refine (Dictionary.keys_sorted b.properties).imp ?_
      rintro name _ less rfl
      exact String.lt_irrefl name less
    simp only [List.map_cons, List.nodup_cons, List.mem_cons]
    exact ⟨fun there => there.elim (by decide) recoverable.noType, recoverable.noDirection, ascending⟩
  case type =>
    obtain ⟨-, unset⟩ | ⟨o, last, s, rfl, given⟩ := type_of_members folded
    · rw [type] at unset
      exact absurd unset nofun
    · obtain rfl : b.type = s := Option.some.inj (type.symm.trans given)
      exact ⟨b.type, last, rfl⟩
  case direction =>
    have written : b.toJson.member? "direction" = some (.text b.direction.name) := rfl
    rw [written, direction, directionName, directed, directed]
    obtain ⟨last, unset⟩ | ⟨o, last, d, read, given⟩ := direction_of_members folded
    · rw [last, unset]
      rfl
    · rw [last, given]
      obtain ⟨rfl, rfl⟩ | ⟨s, rfl, rfl⟩ := Direction.of_read read
      · rfl
      · exact congrArg (fun s => some (Value.text s)) (Direction.name_ofWord s)
  case others =>
    intro name noType noDirection
    rw [member?_toJson b noType noDirection, properties]
    obtain ⟨last, absent⟩ | ⟨o, last, v, value, there⟩ :=
      property_of_members folded noType noDirection
    · rw [last, absent]
      exact .none
    · rw [last, there]
      exact .some (Json.saidBy_of_read value)

end Whole

theorem of_read {text : List Char} (accepted : Json.read reader text = .ok b) :
    ∃ told ending inner p, Outline.ofTokens (Json.tokens text) = (.object told ending, []) ∧
      Json.enter Json.fullRoom = .ok inner ∧
        foldTold (Partial.readMember inner) {} told = .ok p ∧ p.finish = .ok b := by
  obtain ⟨o, outline, read⟩ := Json.outline_of_read accepted
  obtain ⟨p, members, finished⟩ := Json.of_bind_ok
    (x := Reader.foldMembers "struct BindingDescriptor" Partial.readMember {} Json.fullRoom o) read
  obtain ⟨told, ending, inner, rfl, entered, folded⟩ := Json.of_foldMembers members
  exact ⟨told, ending, inner, p, outline, entered, folded, finished⟩

/-- Nothing is lost of the members from which a binding is read, and if their numbers are integers,
the binding is read again from its own text. -/
theorem read_preserves {text : List Char} (accepted : Json.read reader text = .ok b)
    (integers : ∀ n, .number n ∈ Json.tokens text → ∃ k : Json.Number, n = .ok k ∧ k.Integral) :
    (∃ told ending, Outline.ofTokens (Json.tokens text) = (.object told ending, []) ∧
      b.Preserves told) ∧
    ∀ layout, Json.read reader (b.toJson.render layout) = .ok b := by
  obtain ⟨told, ending, inner, p, outline, entered, folded, finished⟩ := of_read accepted
  refine ⟨⟨told, ending, outline, preserves_of_read folded finished⟩, fun layout => ?_⟩
  obtain ⟨full, left⟩ := Json.enter_ok entered
  have spelled : ∀ n ∈ b.toJson.numbers, n.Spelled := by
    intro n here
    have told : .ok n ∈ (Outline.ofTokens (Json.tokens text)).1.numbers := by
      rw [outline]
      exact numbers_of_read folded finished here
    obtain ⟨k, same, integral⟩ := integers _ (Json.numbers_ofTokens told)
    obtain rfl := Except.ok.inj same
    exact integral.spelled
  rw [Json.read_written spelled]
  have recovers := recovers_binding (recoverable_of_read folded finished)
  exact recovers Json.fullRoom (full ▸ depth_of_read folded finished left)

/-- A text in which a name is given twice, and another twice inside. -/
def repeatedText : String :=
  "\x7b\"a\": 1, \"direction\": \"InOut\"," ++
    " \"a\": \x7b\"type\": 0, \"b\": [-0], \"type\": -5\x7d, \"type\": \"queue\"\x7d"

/-- What is left of it. -/
def keptText : String :=
  "\x7b\"type\":\"queue\",\"direction\":\"inout\"," ++
    "\"a\":\x7b\"b\":[-0.0],\"type\":-5\x7d\x7d"

theorem integers_repeatedText (n : Except Fault Json.Number)
    (here : .number n ∈ Json.tokens repeatedText.toList) :
    ∃ k : Json.Number, n = .ok k ∧ k.Integral := by
  have all : (Json.tokens repeatedText.toList).filterMap (fun
      | .number n => some n.toOption
      | _ => none) =
        [some (.integer 1), some (.integer 0), some .minusZero, some (.integer (-5))] := by
    decide +kernel
  have listed : n.toOption ∈
      [some (Json.Number.integer 1), some (.integer 0), some .minusZero, some (.integer (-5))] := by
    rw [← all]
    exact List.mem_filterMap.mpr ⟨_, here, rfl⟩
  cases n with
  | error fault => simp [Except.toOption] at listed
  | ok k =>
    refine ⟨k, rfl, ?_⟩
    simp only [Except.toOption, List.mem_cons, Option.some.injEq, List.not_mem_nil, or_false] at listed
    obtain rfl | rfl | rfl | rfl := listed
    · exact .inl ⟨1, rfl, by decide⟩
    · exact .inl ⟨0, rfl, by decide⟩
    · exact .inr rfl
    · exact .inl ⟨-5, rfl, by decide⟩

theorem read_preserves_repeated : ∃ b, Json.read reader repeatedText.toList = .ok b ∧
    b.toJson.compact = keptText ∧ ∀ layout, Json.read reader (b.toJson.render layout) = .ok b := by
  have written : (Json.read reader repeatedText.toList).toOption.map (fun b => b.toJson.compact) =
      some keptText := by
    decide +kernel
  cases read : Json.read reader repeatedText.toList with
  | error fault =>
    rw [read] at written
    exact absurd written nofun
  | ok b =>
    rw [read] at written
    exact ⟨b, rfl, Option.some.inj written, (read_preserves read integers_repeatedText).2⟩

end Binding

end OrchestrationGraph
