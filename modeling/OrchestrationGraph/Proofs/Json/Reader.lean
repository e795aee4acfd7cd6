import OrchestrationGraph.Json.Reader
import OrchestrationGraph.Proofs.Json.Outline

/-!
# Readers that recover what was written

A reader recovers something from a value if it hands it out again whenever there is room for the
containers of the value. Each reader recovers what its parts recover.
-/

namespace OrchestrationGraph

/-! ### Dictionaries in order -/

namespace Dictionary

variable {α : Type} {key : String} {v : α}

theorem put_last {l : List (String × α)} (above : ∀ e ∈ l, e.1 < key) :
    put key v l = l ++ [(key, v)] := by
  induction l with
  | nil => rfl
  | cons e l ih =>
    obtain ⟨k, w⟩ := e
    have below : k < key := above (k, w) List.mem_cons_self
    have other : key ≠ k := by
      rintro rfl
      exact String.lt_irrefl key below
    have ih := ih fun e here => above e (List.mem_cons_of_mem _ here)
    rw [put, if_neg (String.lt_asymm below), if_neg other, ih, List.cons_append]

/-- Names in order are above those before them. -/
theorem above_of_sorted {before rest : List (String × α)}
    (sorted : (before ++ (key, v) :: rest).Pairwise fun a b => a.1 < b.1) :
    ∀ e ∈ before, e.1 < key := by
  intro e here
  exact (List.pairwise_append.mp sorted).2.2 e here (key, v) List.mem_cons_self

end Dictionary

namespace Json

variable {α : Type} {room : Nat}

/-- A value is read from its text as from its outline, if each of its numbers is spelled so that it
reads as itself. -/
theorem read_written {v : Value} (spelled : ∀ n ∈ v.numbers, n.Spelled) (r : Reader α)
    (layout : Layout) : read r (v.render layout) = r fullRoom v.outline := by
  unfold read
  rw [tokens_render spelled, ofTokens_tokens]
  show (r fullRoom v.outline >>= pure) = r fullRoom v.outline
  exact bind_pure _

theorem read_render {v : Value} (whole : v.Whole) (r : Reader α) (layout : Layout) :
    read r (v.render layout) = r fullRoom v.outline :=
  read_written whole.spelled r layout

/-- The reader hands out `a` wherever there is room for the containers of `v`. -/
def Recovers (r : Reader α) (v : Value) (a : α) : Prop :=
  ∀ room, v.depth < room → r room v.outline = .ok a

theorem bind_recovers {β : Type} {r : Reader α} {v : Value} {a : α} (recovers : Recovers r v a)
    (space : v.depth < room) (f : α → β) :
    (do return f (← r room v.outline) : Except Fault β) = .ok (f a) := by
  rw [recovers room space]
  rfl

theorem enter_of_lt {n : Nat} (space : n + 1 < room) : enter room = .ok (room - 1) := by
  rw [enter, if_neg (by omega)]

/-! ### Any value -/

theorem values_outlines (room : Nat) {items : List Value}
    (recovers : ∀ v ∈ items, Recovers Reader.value v v)
    (space : Value.itemsDepth items < room) :
    Reader.values room (itemOutlines items) = .ok items := by
  induction items with
  | nil => rfl
  | cons v items ih =>
    rw [Value.itemsDepth, Nat.max_lt] at space
    have first := recovers v List.mem_cons_self room space.1
    have later := ih (fun w here => recovers w (List.mem_cons_of_mem _ here)) space.2
    rw [itemOutlines, Reader.values, first, later]
    rfl

theorem namedValues_outlines (room : Nat) {before members : List (String × Value)}
    (sorted : (before ++ members).Pairwise fun a b => a.1 < b.1)
    (recovers : ∀ m ∈ members, Recovers Reader.value m.2 m.2)
    (space : Value.membersDepth members < room) :
    Reader.namedValues room before (memberOutlines members) = .ok (before ++ members) := by
  induction members generalizing before with
  | nil => rw [List.append_nil]; rfl
  | cons m members ih =>
    obtain ⟨name, v⟩ := m
    rw [Value.membersDepth, Nat.max_lt] at space
    have value : Recovers Reader.value v v := recovers (name, v) List.mem_cons_self
    have last := Dictionary.put_last (v := v) (Dictionary.above_of_sorted sorted)
    have next : ((before ++ [(name, v)]) ++ members).Pairwise fun a b => a.1 < b.1 := by
      simpa using sorted
    have later := ih next (fun m here => recovers m (List.mem_cons_of_mem _ here)) space.2
    rw [memberOutlines, Reader.namedValues, value room space.1]
    show Reader.namedValues room (Dictionary.put name v before) (memberOutlines members) = _
    rw [last, later, List.append_assoc]
    rfl

theorem recovers_value {v : Value} (ordered : v.Ordered) : Recovers Reader.value v v := by
  induction ordered with
  | null => exact fun _ _ => rfl
  | bool b => exact fun _ _ => rfl
  | number n => exact fun _ _ => rfl
  | text s => exact fun _ _ => rfl
  | @list items _ ih =>
    intro room space
    rw [Value.depth] at space
    have read := values_outlines (room - 1) ih (by omega)
    rw [Value.outline, Reader.value, enter_of_lt space]
    show (Reader.values (room - 1) (itemOutlines items) >>= _) = _
    rw [read]
    rfl
  | @object members sorted _ ih =>
    intro room space
    rw [Value.depth] at space
    have read := namedValues_outlines (room - 1) (List.nil_append members ▸ sorted) ih (by omega)
    rw [Value.outline, Reader.value, enter_of_lt space]
    show (Reader.namedValues (room - 1) [] (memberOutlines members) >>= _) = _
    rw [read]
    rfl

/-! ### Scalars -/

theorem recovers_textAs (wanted s : String) : Recovers (Reader.textAs wanted) (.text s) s :=
  fun _ _ => rfl

theorem recovers_text (s : String) : Recovers Reader.text (.text s) s :=
  recovers_textAs "a string" s

/-! ### Containers -/

theorem mapM_outlines (room : Nat) {β : Type} {r : Reader β} {toJson : β → Value} {l : List β}
    (recovers : ∀ a ∈ l, Recovers r (toJson a) a)
    (space : Value.itemsDepth (l.map toJson) < room) :
    (itemOutlines (l.map toJson)).mapM (r room) = .ok l := by
  induction l with
  | nil => rfl
  | cons a l ih =>
    rw [List.map_cons, Value.itemsDepth, Nat.max_lt] at space
    have first := recovers a List.mem_cons_self room space.1
    have later := ih (fun b here => recovers b (List.mem_cons_of_mem _ here)) space.2
    rw [List.map_cons, itemOutlines, List.mapM_cons, first, later]
    rfl

theorem recovers_list {r : Reader α} {toJson : α → Value} {l : List α}
    (recovers : ∀ a ∈ l, Recovers r (toJson a) a) :
    Recovers (Reader.list r) (.list (l.map toJson)) l := by
  intro room space
  rw [Value.depth] at space
  have read := mapM_outlines (room - 1) recovers (by omega)
  rw [Value.outline, Reader.list, enter_of_lt space]
  show ((itemOutlines (l.map toJson)).mapM (r (room - 1)) >>= _) = _
  rw [read]
  rfl

/-- What one after the other of the members makes of a state. -/
def foldWritten {σ : Type} (step : σ → String → Outline → Except Fault σ) (s : σ)
    (members : List (String × Value)) : Except Fault σ :=
  members.foldlM (fun s m => step s m.1 m.2.outline) s

theorem foldWritten_cons {σ : Type} {step : σ → String → Outline → Except Fault σ} {s next : σ}
    {name : String} {v : Value} (stepped : step s name v.outline = .ok next)
    (members : List (String × Value)) :
    foldWritten step s ((name, v) :: members) = foldWritten step next members := by
  rw [foldWritten, List.foldlM_cons, stepped]
  rfl

theorem foldWritten_append {σ : Type} {step : σ → String → Outline → Except Fault σ} {s next : σ}
    {members : List (String × Value)} (folded : foldWritten step s members = .ok next)
    (further : List (String × Value)) :
    foldWritten step s (members ++ further) = foldWritten step next further := by
  unfold foldWritten at folded
  rw [foldWritten, List.foldlM_append, folded]
  rfl

/-- A state of which one part changes as the members are read goes the way of this part. -/
theorem foldWritten_part {σ τ : Type} {step : σ → String → Outline → Except Fault σ}
    {inner : τ → String → Outline → Except Fault τ} (put : τ → σ) {members : List (String × Value)}
    (each : ∀ m ∈ members, ∀ t, step (put t) m.1 m.2.outline = (inner t m.1 m.2.outline).map put)
    {t u : τ} (folded : foldWritten inner t members = .ok u) :
    foldWritten step (put t) members = .ok (put u) := by
  induction members generalizing t with
  | nil =>
    cases folded
    rfl
  | cons m members ih =>
    obtain ⟨name, v⟩ := m
    have first := each (name, v) List.mem_cons_self t
    cases stepped : inner t name v.outline with
    | error fault =>
      rw [foldWritten, List.foldlM_cons, stepped] at folded
      cases folded
    | ok next =>
      rw [foldWritten_cons stepped] at folded
      rw [stepped] at first
      rw [foldWritten_cons first]
      exact ih (fun m here => each m (List.mem_cons_of_mem _ here)) folded

theorem foldlM_outlines {σ : Type} (step : σ → String → Outline → Except Fault σ) (s : σ)
    (members : List (String × Value)) :
    (memberOutlines members).foldlM (fun s (name, v) => do step s (← name) v) s =
      foldWritten step s members := by
  induction members generalizing s with
  | nil => rfl
  | cons m members ih =>
    show (step s m.1 m.2.outline >>= fun s => _) = (step s m.1 m.2.outline >>= fun s => _)
    congr 1
    funext s
    exact ih s

theorem recovers_foldMembers {σ : Type} (wanted : String)
    {step : Nat → σ → String → Outline → Except Fault σ} {start s : σ}
    {members : List (String × Value)}
    (fold : ∀ room, Value.membersDepth members < room →
      foldWritten (step room) start members = .ok s) :
    Recovers (Reader.foldMembers wanted step start) (.object members) s := by
  intro room space
  rw [Value.depth] at space
  have folded := fold (room - 1) (by omega)
  rw [← foldlM_outlines] at folded
  rw [Value.outline, Reader.foldMembers, enter_of_lt space]
  show (List.foldlM (m := Except Fault) _ start (memberOutlines members) >>= _) = _
  rw [folded]
  rfl

theorem foldWritten_entries {r : Reader α} {toJson : α → Value} {d : Dictionary α}
    {rest : List (String × α)} (sorted : (d.entries ++ rest).Pairwise fun a b => a.1 < b.1)
    (recovers : ∀ e ∈ rest, Recovers r (toJson e.2) e.2)
    (space : Value.membersDepth (rest.map fun e => (e.1, toJson e.2)) < room) :
    foldWritten (fun d name v => do return d.insert name (← r room v)) d
      (rest.map fun e => (e.1, toJson e.2)) = .ok ⟨d.entries ++ rest, sorted⟩ := by
  induction rest generalizing d with
  | nil =>
    simp only [List.append_nil]
    rfl
  | cons e rest ih =>
    obtain ⟨name, a⟩ := e
    rw [List.map_cons, Value.membersDepth, Nat.max_lt] at space
    have value : Recovers r (toJson a) a := recovers (name, a) List.mem_cons_self
    have last : (d.insert name a).entries = d.entries ++ [(name, a)] :=
      Dictionary.put_last (Dictionary.above_of_sorted sorted)
    have later := ih (d := d.insert name a) (by simpa [last] using sorted)
      (fun e here => recovers e (List.mem_cons_of_mem _ here)) space.2
    have stepped := bind_recovers value space.1 (d.insert name)
    rw [List.map_cons, foldWritten_cons stepped, later]
    simp [last]

/-- A dictionary is written in order of names, so that each member goes to the end. -/
theorem recovers_dictionary {r : Reader α} {toJson : α → Value} {d : Dictionary α}
    (recovers : ∀ e ∈ d.entries, Recovers r (toJson e.2) e.2) :
    Recovers (Reader.dictionary r) (.object (d.entries.map fun e => (e.1, toJson e.2))) d :=
  recovers_foldMembers "a map" fun _ space =>
    foldWritten_entries (d := .empty) d.sorted recovers space

/-! ### Structures -/

section Shape

variable {σ : Type} {shape : Shape σ α} {s : σ}

theorem recovers_shape {members : List (String × Value)} {a : α}
    (fold : ∀ room, Value.membersDepth members < room →
      foldWritten (shape.readMember room) shape.start members = .ok s)
    (finish : shape.finish s = .ok a) : Recovers shape.reader (.object members) a := by
  intro room space
  have read := recovers_foldMembers shape.wanted fold room space
  rw [Value.outline] at read ⊢
  show (Reader.foldMembers shape.wanted shape.readMember shape.start room _ >>= shape.finish) = _
  rw [read]
  exact finish

end Shape

end Json

end OrchestrationGraph
