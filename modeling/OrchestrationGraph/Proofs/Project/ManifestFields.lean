import OrchestrationGraph.Project.Manifest
import OrchestrationGraph.Proofs.Json.Meaning

/-!
# What a manifest says

Two fields of a manifest are read, by name in an object or by place in a list, and each of them may be
missing. Marks before the text do not count (`readFrom_of_ofText`).
-/

namespace OrchestrationGraph.Manifest

open Json (Fault Outline Reader foldTold lastNamed)

/-- The manifest holds what the two fields say, as far as they are given. -/
structure ReadFrom (room : Nat) (bindings? script? : Option Outline) (m : Manifest) : Prop where
  bindings : (bindings? = none ∧ m.bindings = []) ∨
    ∃ o, bindings? = some o ∧ Reader.list Binding.reader room o = .ok m.bindings
  script : (script? = none ∧ m.script = none) ∨
    ∃ o, script? = some o ∧ Reader.optional Reader.text room o = .ok m.script

variable {room : Nat} {p p' : Partial} {m : Manifest} {name : String} {o : Outline}

/-! ### Fields by name -/

/-- What a member makes of a manifest. -/
inductive Took (room : Nat) (p : Partial) (name : String) : Outline → Partial → Prop
  | bindings {o : Outline} {l : List Binding} (named : name = "bindings") (unset : p.bindings = none)
    (read : Reader.list Binding.reader room o = .ok l) :
    Took room p name o { p with bindings := some l }
  | script {o : Outline} {s : Option String} (named : name = "scriptFile") (unset : p.script = none)
    (read : Reader.optional Reader.text room o = .ok s) :
    Took room p name o { p with script := some s }
  | skipped {o : Outline} (noBindings : name ≠ "bindings") (noScript : name ≠ "scriptFile") :
    Took room p name o p

section

variable {α : Type} {r : Except Fault α} {set : α → Partial}

theorem of_set_ok (read : (do return set (← r)) = .ok p') : ∃ a, r = .ok a ∧ p' = set a := by
  obtain ⟨a, given, made⟩ := Json.of_bind_ok (x := r) read
  exact ⟨a, given, (Except.ok.inj made).symm⟩

theorem of_first_ok {given? : Option α} {fault : Fault}
    (read : (if given?.isSome then .error fault else do return set (← r)) = .ok p') :
    given? = none ∧ ∃ a, r = .ok a ∧ p' = set a := by
  split at read
  · exact nomatch read
  next unset => exact ⟨Option.not_isSome_iff_eq_none.mp unset, of_set_ok read⟩

end

theorem took_of_readMember (read : shape.readMember room p name o = .ok p') :
    Took room p name o p' := by
  by_cases bindings : name = "bindings"
  · subst bindings
    obtain ⟨unset, l, given, rfl⟩ := of_first_ok read
    exact .bindings rfl unset given
  by_cases script : name = "scriptFile"
  · subst script
    obtain ⟨unset, s, given, rfl⟩ := of_first_ok read
    exact .script rfl unset given
  · have unknown : shape.fields.find? (fun f => f.name = name) = none := by
      simp [shape, Ne.symm bindings, Ne.symm script]
    rw [Json.Shape.readMember, unknown] at read
    cases clean : Json.unlessFault o.skippingFault? with
    | error fault =>
      rw [clean] at read
      exact nomatch read
    | ok u =>
      rw [clean] at read
      obtain rfl := Except.ok.inj read
      exact .skipped bindings script

section Members

variable {told : List (Except Fault String × Outline)}
  (folded : foldTold (shape.readMember room) {} told = .ok p)

include folded

theorem bindings_of_members : (lastNamed "bindings" told = none ∧ p.bindings = none) ∨
    ∃ o, lastNamed "bindings" told = some o ∧
      ∃ l, Reader.list Binding.reader room o = .ok l ∧ p.bindings = some l := by
  show (_ ∧ p.bindings = ({} : Partial).bindings) ∨ _
  refine Json.shows_last Partial.bindings
    (fun o x => ∃ l, Reader.list Binding.reader room o = .ok l ∧ x = some l) ?_ ?_ folded
  · intro p o p' read
    cases took_of_readMember read with
    | bindings _ _ given => exact ⟨_, given, rfl⟩
    | script named => exact absurd named (by decide)
    | skipped noBindings => exact absurd rfl noBindings
  · intro p name o p' different read
    cases took_of_readMember read with
    | bindings named => exact absurd named different
    | script | skipped => rfl

theorem script_of_members : (lastNamed "scriptFile" told = none ∧ p.script = none) ∨
    ∃ o, lastNamed "scriptFile" told = some o ∧
      ∃ s, Reader.optional Reader.text room o = .ok s ∧ p.script = some s := by
  show (_ ∧ p.script = ({} : Partial).script) ∨ _
  refine Json.shows_last Partial.script
    (fun o x => ∃ s, Reader.optional Reader.text room o = .ok s ∧ x = some s) ?_ ?_ folded
  · intro p o p' read
    cases took_of_readMember read with
    | bindings named => exact absurd named (by decide)
    | script _ _ given => exact ⟨_, given, rfl⟩
    | skipped _ noScript => exact absurd rfl noScript
  · intro p name o p' different read
    cases took_of_readMember read with
    | script named => exact absurd named different
    | bindings | skipped => rfl

theorem readFrom_of_members (finished : shape.finish p = .ok m) :
    m.ReadFrom room (lastNamed "bindings" told) (lastNamed "scriptFile" told) := by
  obtain rfl := Except.ok.inj finished
  constructor
  case bindings =>
    refine (bindings_of_members folded).imp ?_ ?_
    · rintro ⟨none, unset⟩
      exact ⟨none, by rw [unset]; rfl⟩
    · rintro ⟨o, last, l, given, set⟩
      exact ⟨o, last, by rw [set]; exact given⟩
  case script =>
    refine (script_of_members folded).imp ?_ ?_
    · rintro ⟨none, unset⟩
      exact ⟨none, by rw [unset]; rfl⟩
    · rintro ⟨o, last, s, given, set⟩
      exact ⟨o, last, by rw [set]; exact given⟩

end Members

/-! ### Fields by place -/

section Items

variable {fields : List (Json.Field Partial)} {items : List Outline} {ending : Json.Ending}
  {index : Nat}

theorem readFields_done (read : shape.readFields room ending index p [] items = .ok p') :
    items = [] ∧ p' = p := by
  rw [Json.Shape.readFields] at read
  cases items with
  | cons item items =>
    have surplus : (Json.Shape.surplusFault? index (item :: items) ending).isSome := by
      unfold Json.Shape.surplusFault?
      rw [List.isEmpty_cons, if_neg Bool.false_ne_true]
      split <;> rfl
    obtain ⟨fault, isFault⟩ := Option.isSome_iff_exists.mp surplus
    rw [isFault] at read
    exact nomatch read
  | nil =>
    cases clean : Json.unlessFault (Json.Shape.surplusFault? index [] ending) with
    | error fault =>
      rw [clean] at read
      exact nomatch read
    | ok u =>
      rw [clean] at read
      exact ⟨rfl, (Except.ok.inj read).symm⟩

theorem readFields_nil (read : shape.readFields room ending index p fields [] = .ok p') :
    p' = p := by
  induction fields generalizing index with
  | nil => exact (readFields_done read).2
  | cons f fields ih =>
    rw [Json.Shape.readFields] at read
    obtain ⟨_, -, read⟩ := Json.of_bind_ok (x := Json.unlessFault ending.listFault?) read
    cases required : f.required with
    | true =>
      rw [required] at read
      exact nomatch read
    | false =>
      rw [required] at read
      exact ih read

theorem readFields_bindings
    (read : shape.readFields room ending 0 {} shape.fields (o :: items) = .ok p) :
    ∃ l, Reader.list Binding.reader room o = .ok l ∧
      shape.readFields room ending 1 { bindings := some l } shape.fields.tail items = .ok p := by
  let field : Except Fault Partial := do
    return { bindings := some (← Reader.list Binding.reader room o) }
  obtain ⟨p', made, rest⟩ := Json.of_bind_ok (x := field) read
  obtain ⟨l, given, rfl⟩ := of_set_ok made
  exact ⟨l, given, rest⟩

theorem readFields_script
    (read : shape.readFields room ending 1 p shape.fields.tail (o :: items) = .ok p') :
    ∃ s, Reader.optional Reader.text room o = .ok s ∧ items = [] ∧
      p' = { p with script := some s } := by
  let field : Except Fault Partial := do
    return { p with script := some (← Reader.optional Reader.text room o) }
  obtain ⟨next, made, rest⟩ := Json.of_bind_ok (x := field) read
  obtain ⟨s, given, rfl⟩ := of_set_ok made
  exact ⟨s, given, readFields_done rest⟩

theorem readFrom_of_items (read : shape.readFields room ending 0 {} shape.fields items = .ok p)
    (finished : shape.finish p = .ok m) :
    items.length ≤ 2 ∧ m.ReadFrom room items[0]? items[1]? := by
  obtain rfl := Except.ok.inj finished
  match items with
  | [] =>
    obtain rfl := readFields_nil read
    exact ⟨Nat.zero_le 2, .inl ⟨rfl, rfl⟩, .inl ⟨rfl, rfl⟩⟩
  | [first] =>
    obtain ⟨l, given, rest⟩ := readFields_bindings read
    obtain rfl := readFields_nil rest
    exact ⟨Nat.le_succ 1, .inr ⟨first, rfl, given⟩, .inl ⟨rfl, rfl⟩⟩
  | first :: second :: further =>
    obtain ⟨l, given, rest⟩ := readFields_bindings read
    obtain ⟨s, given', rfl, rfl⟩ := readFields_script rest
    exact ⟨Nat.le_refl 2, .inr ⟨first, rfl, given⟩, .inr ⟨second, rfl, given'⟩⟩

end Items

/-! ### The whole manifest -/

/-- A manifest holds what its text says of the two fields, and nothing else. -/
theorem readFrom_of_ofText {content : List Char} (accepted : ofText content = .ok m) :
    ∃ o, Outline.ofTokens (Json.tokens (content.dropWhile (· = byteOrderMark))) = (o, []) ∧
      ((∃ told ending, o = .object told ending ∧ m.ReadFrom (Json.fullRoom - 1)
          (lastNamed "bindings" told) (lastNamed "scriptFile" told)) ∨
        ∃ items ending, o = .list items ending ∧ items.length ≤ 2 ∧
          m.ReadFrom (Json.fullRoom - 1) items[0]? items[1]?) := by
  obtain ⟨o, outline, read⟩ := Json.outline_of_read accepted
  refine ⟨o, outline, ?_⟩
  by_cases listed : ∃ items ending, o = .list items ending
  · obtain ⟨items, ending, rfl⟩ := listed
    obtain ⟨inner, entered, read⟩ := Json.of_bind_ok (x := Json.enter Json.fullRoom) read
    obtain rfl := Except.ok.inj entered
    obtain ⟨p, fields, finished⟩ := Json.of_bind_ok
      (x := shape.readFields (Json.fullRoom - 1) ending 0 {} shape.fields items) read
    exact .inr ⟨items, ending, rfl, readFrom_of_items fields finished⟩
  · have read : (Reader.foldMembers shape.wanted shape.readMember {} Json.fullRoom o >>=
        shape.finish) = .ok m := by
      cases o with
      | list items ending => exact absurd ⟨items, ending, rfl⟩ listed
      | _ => exact read
    obtain ⟨p, members, finished⟩ := Json.of_bind_ok read
    obtain ⟨told, ending, inner, rfl, entered, folded⟩ := Json.of_foldMembers members
    obtain rfl := Except.ok.inj entered
    exact .inl ⟨told, ending, rfl, readFrom_of_members folded finished⟩

end OrchestrationGraph.Manifest
