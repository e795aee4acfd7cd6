import OrchestrationGraph.Graph.Declared
import OrchestrationGraph.Proofs.Binding.Attribute
import OrchestrationGraph.Proofs.Graph.Keyed

/-!
# What declared bindings change

A function named several times gets its bindings as often (`get?_declareEach`). Where each node
stands under its own name, adding declared bindings touches the bindings of the nodes of kind other
and nothing else (`get?_declareBindings`). As no attribute declares a trigger, no kind and no trigger
changes (`kind_declared`, `triggers_extended`).
-/

namespace OrchestrationGraph

namespace Binding

/-! ### Declared bindings are no triggers -/

theorem known_not_durable :
    ∀ a ∈ Attribute.known, isDurable { type := a.type } = false := by
  decide +kernel

theorem known_not_trigger :
    ∀ a ∈ Attribute.known, isTrigger { type := a.type } = false := by
  decide +kernel

theorem type_ofAttribute (a : Attribute) (ofReturnValue : Bool) (args? : Option (List Char)) :
    (ofAttribute a ofReturnValue args?).type = a.type := by
  rw [ofAttribute_eq]

/-- A declared binding has the type of a known attribute. -/
theorem type_of_mem_declaredIn {code : List Char} {b : Binding} (here : b ∈ declaredIn code) :
    ∃ a ∈ Attribute.known, b.type = a.type := by
  unfold declaredIn at here
  obtain ⟨m, _, made⟩ := List.mem_filterMap.mp here
  unfold ofMatch? at made
  obtain ⟨name, _, made⟩ := Option.bind_eq_some_iff.mp made
  obtain ⟨a, known, made⟩ := Option.bind_eq_some_iff.mp made
  obtain rfl := Option.some.inj made
  exact ⟨a, List.mem_of_find?_eq_some known, type_ofAttribute a _ _⟩

theorem not_durable_of_mem_declaredIn {code : List Char} {b : Binding}
    (here : b ∈ declaredIn code) : b.isDurable = false := by
  obtain ⟨a, known, same⟩ := type_of_mem_declaredIn here
  have byType : b.isDurable = isDurable { type := b.type } := rfl
  rw [byType, same]
  exact known_not_durable a known

theorem not_trigger_of_mem_declaredIn {code : List Char} {b : Binding}
    (here : b ∈ declaredIn code) : b.isTrigger = false := by
  obtain ⟨a, known, same⟩ := type_of_mem_declaredIn here
  have byType : b.isTrigger = isTrigger { type := b.type } := rfl
  rw [byType, same]
  exact known_not_trigger a known

end Binding

namespace Graph

variable {g : Graph} {sources : Dictionary Source}

theorem mem_declaredFor {name : String} {b : Binding} :
    b ∈ declaredFor sources name ↔
      ∃ s, sources.get? name = some s ∧ b ∈ Binding.declaredIn s.code.toList := by
  unfold declaredFor
  cases sources.get? name <;> simp

theorem not_durable_of_mem_declaredFor {name : String} {b : Binding}
    (here : b ∈ declaredFor sources name) : b.isDurable = false := by
  obtain ⟨s, _, declared⟩ := mem_declaredFor.mp here
  exact Binding.not_durable_of_mem_declaredIn declared

theorem not_trigger_of_mem_declaredFor {name : String} {b : Binding}
    (here : b ∈ declaredFor sources name) : b.isTrigger = false := by
  obtain ⟨s, _, declared⟩ := mem_declaredFor.mp here
  exact Binding.not_trigger_of_mem_declaredIn declared

/-- The node with further bindings. -/
def extended (bs : List Binding) (n : Node) : Node := { n with bindings := n.bindings ++ bs }

theorem extended_nil : extended [] = id := by
  funext n
  simp [extended]

theorem kind_extended {bs : List Binding} (n : Node) (none : ∀ b ∈ bs, b.isDurable = false) :
    (extended bs n).kind = n.kind := by
  have absent : bs.find? Binding.isDurable = Option.none := by
    rw [List.find?_eq_none]
    intro b here
    simp [none b here]
  unfold Node.kind extended
  rw [List.find?_append, absent, Option.or_none]

theorem triggers_extended {bs : List Binding} (n : Node) (none : ∀ b ∈ bs, b.isTrigger = false) :
    (extended bs n).trigger? = n.trigger? ∧ (extended bs n).externalTrigger? = n.externalTrigger? := by
  have absent : bs.find? Binding.isTrigger = Option.none := by
    rw [List.find?_eq_none]
    intro b here
    simp [none b here]
  have absent' : bs.find? Binding.isExternal = Option.none := by
    rw [List.find?_eq_none]
    intro b here
    simp [Binding.isExternal, none b here]
  unfold Node.trigger? Node.externalTrigger? extended
  rw [List.find?_append, List.find?_append, absent, absent', Option.or_none, Option.or_none]
  exact ⟨rfl, rfl⟩

theorem kind_declared (name : String) (n : Node) :
    (extended (declaredFor sources name) n).kind = n.kind :=
  kind_extended n fun _ here => not_durable_of_mem_declaredFor here

/-! ### The walk over the functions -/

theorem declareEach_cons (sources : Dictionary Source) (g : Graph) (name : String)
    (names : List String) :
    (declareEach sources g (name :: names)).1 =
      (declareEach sources (g.modify name (extended (declaredFor sources name))) names).1 := rfl

/-- What the function gains where `names` are walked over: its declared bindings, as often as it is
named. -/
def gained (sources : Dictionary Source) (name : String) (names : List String) : List Binding :=
  (names.filter (· = name)).flatMap (declaredFor sources)

theorem mem_gained {name : String} {names : List String} {b : Binding}
    (here : b ∈ gained sources name names) : b ∈ declaredFor sources name := by
  obtain ⟨name', named, here⟩ := List.mem_flatMap.mp here
  have same : name' = name := by simpa using (List.mem_filter.mp named).2
  exact same ▸ here

/-- The name is found once among names without repetition. -/
theorem gained_of_nodup {names : List String} (distinct : names.Nodup) (name : String) :
    gained sources name names = if name ∈ names then declaredFor sources name else [] := by
  induction names with
  | nil => rfl
  | cons first names ih =>
    obtain ⟨fresh, distinct⟩ := List.nodup_cons.mp distinct
    have ih := ih distinct
    unfold gained at ih ⊢
    by_cases same : first = name
    · subst same
      rw [if_neg fresh] at ih
      simp [ih]
    · simpa [same, Ne.symm same] using ih

theorem get?_declareEach (g : Graph) (names : List String) (name : String) :
    (declareEach sources g names).1.get? name =
      (g.get? name).map (extended (gained sources name names)) := by
  induction names generalizing g with
  | nil => simp [declareEach, gained, extended_nil]
  | cons first names ih =>
    rw [declareEach_cons, ih, get?_modify, Option.map_map]
    congr 1
    funext n
    by_cases same : name = first
    · subst same
      simp [gained, extended]
    · simp [gained, same, Ne.symm same]

theorem mem_names_ofKind (keyed : g.Keyed) {kind : Node.Kind} {name : String} :
    name ∈ (g.ofKind kind).map (·.name) ↔ ∃ n, g.get? name = some n ∧ n.kind = kind := by
  rw [List.mem_map]
  constructor
  · rintro ⟨n, here, rfl⟩
    obtain ⟨⟨name, found⟩, isKind⟩ := mem_ofKind.mp here
    have own := keyed name n found
    exact ⟨n, own ▸ found, isKind⟩
  · rintro ⟨n, found, isKind⟩
    exact ⟨n, mem_ofKind.mpr ⟨⟨name, found⟩, isKind⟩, keyed name n found⟩

theorem nodup_names_ofKind (keyed : g.Keyed) (kind : Node.Kind) :
    ((g.ofKind kind).map (·.name)).Nodup := by
  rw [List.nodup_iff_pairwise_ne, List.pairwise_map]
  exact keyed.names_ne.sublist List.filter_sublist

/-- Nodes of kind other get the bindings that their code declares; every other node stays. -/
theorem get?_declareBindings (keyed : g.Keyed) (sources : Dictionary Source) (name : String) :
    (g.declareBindings sources).1.get? name = (g.get? name).map fun n =>
      if n.kind = .other then extended (declaredFor sources name) n else n := by
  unfold declareBindings
  rw [get?_declareEach, gained_of_nodup (nodup_names_ofKind keyed _)]
  cases found : g.get? name with
  | none => rfl
  | some n =>
    have chosen : name ∈ (g.ofKind .other).map (·.name) ↔ n.kind = .other := by
      rw [mem_names_ofKind keyed]
      constructor
      · rintro ⟨n', found', isOther⟩
        obtain rfl := Option.some.inj (found.symm.trans found')
        exact isOther
      · intro isOther
        exact ⟨n, found, isOther⟩
    simp only [Option.map_some, chosen]
    split
    · rfl
    · rw [extended_nil, id]

end Graph

end OrchestrationGraph
