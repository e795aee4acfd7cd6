import OrchestrationGraph.Proofs.Graph.Relationship
import OrchestrationGraph.Proofs.Pattern.First

/-!
# Who signals whom

The search for a raised event may begin at any verb and take `Async` or leave it. All that comes to
the same: the first verb ends no later than any other, so the event is raised in a code exactly if its
name stands somewhere behind the first verb (`occursIn_raisesEvent`). The signals that an orchestration
gets are those of the clients in whose code this is so (`signal_iff_raised`).
-/

namespace OrchestrationGraph

namespace Usage

open Pattern

/-- The verbs by which a client raises an event. -/
def raiseVerbs : List String := ["RaiseEvent", "raise_event"]

def IsRaiseVerb (l : List Char) : Prop := ∃ v ∈ raiseVerbs, Spells v l

/-- In `code` the verb stands behind `before`, and no verb begins further in front. -/
structure FirstVerb (code before verb : List Char) : Prop where
  isVerb : IsRaiseVerb verb
  here : before ++ verb <+: code
  first : ∀ {before' verb'}, IsRaiseVerb verb' → before' ++ verb' <+: code →
    before.length ≤ before'.length

/-- The name of the event stands, as it is written, somewhere behind the first verb. -/
def RaisedIn (event : String) (code : List Char) : Prop :=
  ∃ before verb between after, FirstVerb code before verb ∧
    code = before ++ verb ++ (between ++ event.toList ++ after)

variable {code before verb before' verb' taken after : List Char} {event : String}

/-! ### Verbs -/

theorem IsRaiseVerb.length (isVerb : IsRaiseVerb verb) : 10 ≤ verb.length ∧ verb.length ≤ 11 := by
  obtain ⟨v, here, spells⟩ := isVerb
  have bounds : ∀ v ∈ raiseVerbs, 10 ≤ v.toList.length ∧ v.toList.length ≤ 11 := by decide
  rw [length_eq_of_folds spells]
  exact bounds v here

/-- No verb begins with another. -/
theorem IsRaiseVerb.eq_of_prefix (isVerb : IsRaiseVerb verb) (isVerb' : IsRaiseVerb verb')
    (begins : verb <+: verb') : verb = verb' := by
  obtain ⟨v, here, spells⟩ := isVerb
  obtain ⟨v', here', spells'⟩ := isVerb'
  have apart : ∀ v ∈ raiseVerbs, ∀ v' ∈ raiseVerbs,
      v.toList.map foldCase <+: v'.toList.map foldCase → v = v' := by decide
  have folded : v.toList.map foldCase <+: v'.toList.map foldCase := by
    rw [← spells, ← spells']
    exact begins.map foldCase
  obtain rfl := apart v here v' here' folded
  refine begins.eq_of_length ?_
  rw [length_eq_of_folds spells, length_eq_of_folds spells']

/-- Of two verbs, the one that begins first ends first. -/
theorem FirstVerb.isPrefix (firstVerb : FirstVerb code before verb) (isVerb' : IsRaiseVerb verb')
    (here' : before' ++ verb' <+: code) : before ++ verb <+: before' ++ verb' := by
  obtain ⟨isVerb, here, first⟩ := firstVerb
  have starts := first isVerb' here'
  refine List.prefix_of_prefix_length_le here here' ?_
  rcases Nat.lt_or_eq_of_le starts with earlier | level
  · have := isVerb.length
    have := isVerb'.length
    simp only [List.length_append]
    omega
  · obtain ⟨rest, whole⟩ := here
    obtain ⟨rest', whole'⟩ := here'
    rw [← whole, List.append_assoc, List.append_assoc] at whole'
    obtain ⟨-, tails⟩ := List.append_inj whole' level.symm
    have same : verb = verb' := by
      rcases List.prefix_or_prefix_of_prefix (List.prefix_append verb rest)
        (tails ▸ List.prefix_append verb' rest') with begins | begins
      · exact isVerb.eq_of_prefix isVerb' begins
      · exact (isVerb'.eq_of_prefix isVerb begins).symm
    exact Nat.le_of_eq (by rw [List.length_append, List.length_append, level, same])

theorem exists_firstVerb (isVerb : IsRaiseVerb verb) (here : before ++ verb <+: code) :
    ∃ before verb, FirstVerb code before verb := by
  let p := verbs "RaiseEvent" ["raise_event"]
  have accepts {before verb after : List Char} : p.Accepts before verb after ↔ IsRaiseVerb verb :=
    accepts_verbs
  cases found : p.find? code with
  | none =>
    obtain ⟨rest, whole⟩ := here
    exact absurd ⟨before, verb, rest, whole.symm, accepts.mpr isVerb⟩ (find?_eq_none_iff.mp found)
  | some m =>
    obtain ⟨before, verb, rest, whole, isFirst, -, -, least⟩ := exists_of_find? found
    refine ⟨before, verb, accepts.mp isFirst, ⟨rest, whole.symm⟩, ?_⟩
    rintro before' verb' isVerb' ⟨rest', whole'⟩
    exact least before' verb' rest' whole'.symm (accepts.mpr isVerb')

/-! ### Where an event is raised -/

theorem accepts_raisesEvent :
    (raisesEvent event).Accepts before taken after ↔
      ∃ verb between, taken = verb ++ (between ++ event.toList) ∧ IsRaiseVerb verb := by
  unfold raisesEvent
  constructor
  · rintro ⟨_, _, rfl, ⟨_, between, rfl, ⟨verb, async, rfl, isVerb, -⟩, -⟩, rfl⟩
    exact ⟨verb, async ++ between, by simp, accepts_verbs.mp isVerb⟩
  · rintro ⟨verb, between, rfl, isVerb⟩
    exact ⟨verb ++ between, event.toList, by simp, ⟨verb, between, rfl,
      ⟨verb, [], by simp, accepts_verbs.mpr isVerb, accepts_optional.mpr (.inl rfl)⟩,
      fun _ _ => rfl⟩, rfl⟩

theorem occursIn_raisesEvent : (raisesEvent event).occursIn code = true ↔ RaisedIn event code := by
  rw [occursIn_iff]
  constructor
  · rintro ⟨before', _, after, rfl, accepts⟩
    obtain ⟨verb', between, rfl, isVerb'⟩ := accepts_raisesEvent.mp accepts
    have whole : before' ++ (verb' ++ (between ++ event.toList)) ++ after =
        before' ++ verb' ++ (between ++ event.toList ++ after) := by simp
    rw [whole]
    have here' := List.prefix_append (before' ++ verb') (between ++ event.toList ++ after)
    obtain ⟨before, verb, firstVerb⟩ := exists_firstVerb isVerb' here'
    obtain ⟨further, sooner⟩ := firstVerb.isPrefix isVerb' here'
    exact ⟨before, verb, further ++ between, after, firstVerb, by simp [← sooner]⟩
  · rintro ⟨before, verb, between, after, firstVerb, rfl⟩
    exact ⟨before, verb ++ (between ++ event.toList), after, by simp,
      accepts_raisesEvent.mpr ⟨verb, between, rfl, firstVerb.isVerb⟩⟩

/-- The name can be the ending of the verb. -/
example : (raisesEvent "Async").occursIn "client.raiseEventAsync(id, 'Go')".toList = true := by
  decide +kernel

end Usage

namespace Graph

variable {g : Graph} {sources : Dictionary Source}

/-- Signals are found for orchestrations only, and there among the other edges. -/
theorem signal_mem_findEdges {sender target event : String} :
    .signal sender target event ∈ g.findEdges sources ↔
      ∃ o ∈ g.located sources .orchestrator,
        .signal sender target event ∈ signalEdges (g.located sources .other) o := by
  rw [findEdges_eq, List.mem_append, List.mem_flatMap, List.mem_flatMap]
  simp [edgesOf, mem_startEdges, mem_subOrchestrationEdges, mem_activityEdges,
    mem_continuationEdges, mem_entityEdges]

/-- An event is found to be raised in a code exactly if its name stands behind the first verb there.
So an orchestration is signalled, for an event that it awaits, by the located clients in whose code
that is so, and by no others. -/
theorem signal_iff_raised (g : Graph) (sources : Dictionary Source) (event : String) :
    (∀ code, (Usage.raisesEvent event).occursIn code = true ↔ Usage.RaisedIn event code) ∧
    ∀ sender target, .signal sender target event ∈ g.findEdges sources ↔
      ∃ f ∈ g.located sources .other, ∃ o ∈ g.located sources .orchestrator,
        f.name = sender ∧ o.name = target ∧ event ∈ Usage.awaitedEvents o.code ∧
          Usage.RaisedIn event f.code := by
  refine ⟨fun _ => Usage.occursIn_raisesEvent, fun sender target => ?_⟩
  simp only [signal_mem_findEdges, mem_signalEdges, ← Pattern.occursIn_iff,
    Usage.occursIn_raisesEvent]
  constructor
  · rintro ⟨o, orchestration, _, awaited, f, client, raised, same⟩
    obtain ⟨rfl, rfl, rfl⟩ := Edge.signal.inj same
    exact ⟨f, client, o, orchestration, rfl, rfl, awaited, raised⟩
  · rintro ⟨f, client, o, orchestration, rfl, rfl, awaited, raised⟩
    exact ⟨o, orchestration, event, awaited, f, client, raised, rfl⟩

end Graph

end OrchestrationGraph
