import OrchestrationGraph.Graph.Edge

/-!
# Graphs whose nodes stand under their own names

Every graph that is built by adding nodes is keyed (`keyed_ofList`), and changes that keep the names
of nodes keep it so. In a keyed graph the nodes have pairwise different names.
-/

namespace OrchestrationGraph.Graph

/-- Each node stands under its own name. -/
def Keyed (g : Graph) : Prop := ∀ name n, g.get? name = some n → n.name = name

variable {g : Graph} {name : String} {n : Node}

theorem get?_empty (name : String) : ({} : Graph).get? name = none := rfl

theorem get?_modify (g : Graph) (key name : String) (f : Node → Node) :
    (g.modify key f).get? name = (g.get? name).map fun n => if name = key then f n else n :=
  Dictionary.get?_modify g.nodes key name f

theorem get?_insert (g : Graph) (n : Node) (name : String) :
    (g.insert n).1.get? name =
      if g.contains n.name = false ∧ n.name = name then some n else g.get? name := by
  unfold insert
  split
  · rename_i taken
    simp [taken]
  · rename_i free
    have absent : g.contains n.name = false := by simpa using free
    simp only [absent, true_and]
    exact Dictionary.get?_insert g.nodes n.name name n

theorem contains_iff : g.contains name = true ↔ ∃ n, g.get? name = some n :=
  Option.isSome_iff_exists

/-- A change of the node under a name neither brings nor takes it. -/
theorem contains_of_get?_map {g' : Graph} {f : Node → Node}
    (changed : g'.get? name = (g.get? name).map f) : g'.contains name = g.contains name :=
  (congrArg Option.isSome changed).trans (Option.isSome_map ..)

theorem contains_modify (g : Graph) (key name : String) (f : Node → Node) :
    (g.modify key f).contains name = g.contains name :=
  contains_of_get?_map (get?_modify g key name f)

theorem contains_insert (g : Graph) (n : Node) (name : String) :
    (g.insert n).1.contains name = true ↔ g.contains name = true ∨ n.name = name := by
  by_cases taken : g.contains n.name = true
  · have same : (g.insert n).1 = g := by simp [insert, taken]
    rw [same, or_iff_left_of_imp]
    rintro rfl
    exact taken
  · rw [contains_iff, get?_insert, contains_iff]
    by_cases own : n.name = name
    · simp [own, own ▸ taken]
    · simp [own]

/-- Graphs with the same nodes under the same names are equal. -/
theorem ext_get? {g' : Graph} (same : ∀ name, g.get? name = g'.get? name) : g = g' := by
  cases g
  cases g'
  exact congrArg Graph.mk (Dictionary.ext_get? same)

theorem modify_absent {name : String} (absent : g.contains name = false) (f : Node → Node) :
    g.modify name f = g := by
  refine ext_get? fun key => ?_
  rw [get?_modify]
  by_cases same : key = name
  · subst same
    have none : g.get? key = none :=
      Option.isNone_iff_eq_none.mp (Option.isSome_eq_false_iff.mp absent)
    rw [none, Option.map_none]
  · simp [same]

theorem mem_toList : n ∈ g.toList ↔ ∃ name, g.get? name = some n := by
  unfold toList Dictionary.values
  rw [List.mem_map]
  constructor
  · rintro ⟨⟨name, _⟩, here, rfl⟩
    exact ⟨name, Dictionary.get?_eq_some_iff.mpr here⟩
  · rintro ⟨name, found⟩
    exact ⟨(name, n), Dictionary.get?_eq_some_iff.mp found, rfl⟩

theorem mem_ofKind {kind : Node.Kind} :
    n ∈ g.ofKind kind ↔ (∃ name, g.get? name = some n) ∧ n.kind = kind := by
  unfold ofKind
  rw [List.mem_filter, mem_toList, decide_eq_true_iff]

theorem nodup_names (g : Graph) : g.names.Nodup := by
  refine (Dictionary.keys_sorted g.nodes).imp ?_
  intro a b less same
  rw [same] at less
  exact String.lt_irrefl _ less

/-! ### Keyed graphs -/

theorem keyed_empty : Keyed {} := by
  intro name n found
  rw [get?_empty] at found
  exact absurd found (by simp)

theorem Keyed.insert (keyed : g.Keyed) (n : Node) : (g.insert n).1.Keyed := by
  intro name m found
  rw [get?_insert] at found
  split at found
  · rename_i fresh
    rw [← Option.some.inj found]
    exact fresh.2
  · exact keyed name m found

theorem Keyed.modify (keyed : g.Keyed) {key : String} {f : Node → Node}
    (same : ∀ n, (f n).name = n.name) : (g.modify key f).Keyed := by
  intro name m found
  rw [get?_modify] at found
  obtain ⟨n, before, rfl⟩ := Option.map_eq_some_iff.mp found
  have own := keyed name n before
  split
  · exact (same n).trans own
  · exact own

/-- What holds of the empty graph and survives each insertion holds of a graph made of a list. -/
theorem ofList_induction {P : Graph → Prop} {l : List Node} (start : P {})
    (step : ∀ g, P g → ∀ n ∈ l, P (g.insert n).1) : P (ofList l) := by
  have folded : ∀ (rest : List Node) (g : Graph), (∀ n ∈ rest, n ∈ l) → P g →
      P (rest.foldl (fun (g : Graph) n => (g.insert n).1) g) := by
    intro rest
    induction rest with
    | nil => intro g _ holds; exact holds
    | cons n rest ih =>
      intro g sub holds
      exact ih _ (fun m hm => sub m (List.mem_cons_of_mem n hm))
        (step g holds n (sub n List.mem_cons_self))
  exact folded l {} (fun _ h => h) start

theorem keyed_ofList (l : List Node) : (ofList l).Keyed :=
  ofList_induction keyed_empty fun _ keyed n _ => keyed.insert n

/-- The nodes of a graph made of a list are nodes of the list. -/
theorem mem_of_ofList {l : List Node} (found : (ofList l).get? name = some n) : n ∈ l := by
  refine ofList_induction (P := fun g => ∀ name n, g.get? name = some n → n ∈ l) ?_ ?_ name n found
  · intro name n absent
    rw [get?_empty] at absent
    exact absurd absent (by simp)
  · intro g sub m hm name n found
    rw [get?_insert] at found
    split at found
    · exact Option.some.inj found ▸ hm
    · exact sub name n found

theorem Keyed.entry (keyed : g.Keyed) {e : String × Node} (here : e ∈ g.nodes.entries) :
    e.2.name = e.1 :=
  keyed e.1 e.2 (Dictionary.get?_eq_some_iff.mpr here)

theorem Keyed.map_name (keyed : g.Keyed) : g.toList.map (·.name) = g.names := by
  unfold toList names Dictionary.values Dictionary.keys
  rw [List.map_map]
  exact List.map_congr_left fun e here => keyed.entry here

theorem Keyed.names_ne (keyed : g.Keyed) : g.toList.Pairwise fun a b => a.name ≠ b.name := by
  have distinct := nodup_names g
  rwa [← keyed.map_name, List.nodup_iff_pairwise_ne, List.pairwise_map] at distinct

/-- Parts that are told apart by the owner of each element make no element appear twice. -/
theorem nodup_flatMap_of_owner {α β κ : Type} {f : α → List β} {l : List α} (name : α → κ)
    (owner : β → κ) (each : ∀ a ∈ l, (f a).Nodup) (owned : ∀ a ∈ l, ∀ b ∈ f a, owner b = name a)
    (distinct : l.Pairwise fun a b => name a ≠ name b) : (l.flatMap f).Nodup := by
  rw [List.nodup_iff_pairwise_ne, List.pairwise_flatMap]
  refine ⟨each, ?_⟩
  refine distinct.imp_of_mem ?_
  rintro a b ha hb different x hx y hy rfl
  exact different ((owned a ha x hx).symm.trans (owned b hb x hy))

end OrchestrationGraph.Graph
