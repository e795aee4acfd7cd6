import Mathlib.Data.List.Forall2
import OrchestrationGraph.Proofs.Json.Reader

/-!
# What a read value keeps of its text

Of the members of an object the last of each name stays (`shows_last`), and so do all items of a
list. So a value that was read is what its outline says (`saidBy_of_read`): nothing is lost below the
names that are given twice, and nothing is there that the text does not say.
-/

namespace OrchestrationGraph.Json

open Dictionary (lookup put)

/-- The outline that stands last under the name. -/
def lastNamed (name : String) (told : List (Except Fault String × Outline)) : Option Outline :=
  (told.filter fun m => m.1.toOption = some name).getLast?.map (·.2)

mutual

/-- Whether the value is what the outline says: of each name in an object it has what is said last,
and no further name. -/
def Value.SaidBy : Value → Outline → Prop
  | .null, .null => True
  | .bool b, .bool b' => b' = b
  | .number n, .number n' => n' = .ok n
  | .text s, .text s' => s' = .ok s
  | .list items, .list told _ => ItemsSaidBy items told
  | .object members, .object told _ =>
    (members.Pairwise fun a b => a.1 < b.1) ∧
      (∀ name, (lastNamed name told).isSome → name ∈ members.map (·.1)) ∧ MembersSaidBy members told
  | _, _ => False

def ItemsSaidBy : List Value → List Outline → Prop
  | [], [] => True
  | v :: items, o :: told => v.SaidBy o ∧ ItemsSaidBy items told
  | _, _ => False

def MembersSaidBy : List (String × Value) → List (Except Fault String × Outline) → Prop
  | [], _ => True
  | (name, v) :: members, told =>
    (∃ o, lastNamed name told = some o ∧ v.SaidBy o) ∧ MembersSaidBy members told

end

variable {room : Nat} {name : String} {v : Value} {o : Outline} {items : List Value}
  {members : List (String × Value)} {told : List (Except Fault String × Outline)}

theorem itemsSaidBy_iff {told : List Outline} :
    ItemsSaidBy items told ↔ List.Forall₂ Value.SaidBy items told := by
  induction items generalizing told with
  | nil => cases told <;> simp [ItemsSaidBy]
  | cons v items ih => cases told <;> simp [ItemsSaidBy, ih]

theorem membersSaidBy_iff :
    MembersSaidBy members told ↔ ∀ m ∈ members, ∃ o, lastNamed m.1 told = some o ∧ m.2.SaidBy o := by
  induction members with
  | nil => simp [MembersSaidBy]
  | cons m members ih => rw [MembersSaidBy, ih, List.forall_mem_cons]

theorem exists_of_forall₂ {α β : Type} {R : α → β → Prop} {l : List α} {u : List β}
    (related : List.Forall₂ R l u) {a : α} (here : a ∈ l) : ∃ b ∈ u, R a b := by
  induction related with
  | nil => exact absurd here List.not_mem_nil
  | cons first _ ih =>
    obtain rfl | later := List.mem_cons.mp here
    · exact ⟨_, List.mem_cons_self, first⟩
    · obtain ⟨b, there, rel⟩ := ih later
      exact ⟨b, List.mem_cons_of_mem _ there, rel⟩

/-- A run that ends well passes through each of its parts. -/
theorem of_bind_ok {α β : Type} {x : Except Fault α} {f : α → Except Fault β} {b : β}
    (bound : (x >>= f) = .ok b) : ∃ a, x = .ok a ∧ f a = .ok b := by
  cases x with
  | error fault => exact absurd bound nofun
  | ok a => exact ⟨a, rfl, bound⟩

/-! ### One member after the other -/

theorem lastNamed_cons (name : String) (m : Except Fault String × Outline)
    (told : List (Except Fault String × Outline)) :
    lastNamed name (m :: told) =
      (lastNamed name told).or (if m.1.toOption = some name then some m.2 else none) := by
  unfold lastNamed
  by_cases own : m.1.toOption = some name
  · rw [List.filter_cons_of_pos (by simpa using own), List.getLast?_cons, if_pos own]
    cases (told.filter fun m => m.1.toOption = some name).getLast? <;> rfl
  · rw [List.filter_cons_of_neg (by simpa using own), if_neg own, Option.or_none]

theorem mem_of_lastNamed (last : lastNamed name told = some o) : ∃ m ∈ told, m.2 = o := by
  obtain ⟨m, here, rfl⟩ := Option.map_eq_some_iff.mp last
  exact ⟨m, (List.mem_filter.mp (List.mem_of_getLast? here)).1, rfl⟩

section Fold

variable {σ β : Type} {step : σ → String → Outline → Except Fault σ} {s s' : σ}

/-- What one after the other of the members makes of a state. -/
def foldTold (step : σ → String → Outline → Except Fault σ) (s : σ)
    (told : List (Except Fault String × Outline)) : Except Fault σ :=
  told.foldlM (fun s (name, o) => do step s (← name) o) s

theorem foldTold_cons {m : Except Fault String × Outline}
    (folded : foldTold step s (m :: told) = .ok s') :
    ∃ name next, m.1 = .ok name ∧ step s name m.2 = .ok next ∧ foldTold step next told = .ok s' := by
  obtain ⟨given, o⟩ := m
  cases given with
  | error fault => exact absurd folded nofun
  | ok name =>
    obtain ⟨next, stepped, rest⟩ := of_bind_ok (x := step s name o) folded
    exact ⟨name, next, rfl, stepped, rest⟩

theorem fold_invariant {P : σ → Prop} (start : P s)
    (kept : ∀ s name o s', P s → step s name o = .ok s' → P s')
    (folded : foldTold step s told = .ok s') : P s' := by
  induction told generalizing s with
  | nil =>
    obtain rfl : s = s' := Except.ok.inj folded
    exact start
  | cons m told ih =>
    obtain ⟨name, next, -, stepped, rest⟩ := foldTold_cons folded
    exact ih (kept s name m.2 next start stepped) rest

/-- A view of the state that only members of one name change shows the last of them, and stays as it
was if there is none. -/
theorem shows_last (view : σ → β) (Shows : Outline → β → Prop) {key : String}
    (own : ∀ s o s', step s key o = .ok s' → Shows o (view s'))
    (other : ∀ s name o s', name ≠ key → step s name o = .ok s' → view s' = view s)
    (folded : foldTold step s told = .ok s') :
    (lastNamed key told = none ∧ view s' = view s) ∨
      ∃ o, lastNamed key told = some o ∧ Shows o (view s') := by
  induction told generalizing s with
  | nil =>
    obtain rfl : s = s' := Except.ok.inj folded
    exact .inl ⟨rfl, rfl⟩
  | cons m told ih =>
    obtain ⟨name, next, given, stepped, rest⟩ := foldTold_cons folded
    rw [lastNamed_cons, given]
    obtain ⟨last, stays⟩ | ⟨o, last, shown⟩ := ih rest
    · rw [last, Option.none_or]
      by_cases same : name = key
      · subst same
        have shown := own s m.2 next stepped
        rw [← stays] at shown
        exact .inr ⟨m.2, if_pos rfl, shown⟩
      · have unchanged : view s' = view s := stays.trans (other s name m.2 next same stepped)
        exact .inl ⟨if_neg fun named => same (Option.some.inj named), unchanged⟩
    · rw [last]
      exact .inr ⟨o, rfl, shown⟩

end Fold

/-! ### Containers -/

theorem enter_ok {inner : Nat} (entered : enter room = .ok inner) : inner + 1 = room ∧ 0 < inner := by
  unfold enter at entered
  split at entered
  · exact absurd entered nofun
  · obtain rfl := Except.ok.inj entered
    omega

/-- How a value comes of an outline. -/
inductive Comes (room : Nat) : Outline → Value → Prop
  | null : Comes room .null .null
  | bool (b : Bool) : Comes room (.bool b) (.bool b)
  | number (n : Number) : Comes room (.number (.ok n)) (.number n)
  | text (s : String) : Comes room (.text (.ok s)) (.text s)
  | list {told : List Outline} {items : List Value} {inner : Nat} (ending : Ending)
    (entered : enter room = .ok inner) (values : Reader.values inner told = .ok items) :
    Comes room (.list told ending) (.list items)
  | object {told : List (Except Fault String × Outline)} {members : List (String × Value)}
    {inner : Nat} (ending : Ending) (entered : enter room = .ok inner)
    (values : Reader.namedValues inner [] told = .ok members) :
    Comes room (.object told ending) (.object members)

theorem comes_of_read (read : Reader.value room o = .ok v) : Comes room o v := by
  cases o with
  | null =>
    obtain rfl := Except.ok.inj read
    exact .null
  | bool b =>
    obtain rfl := Except.ok.inj read
    exact .bool b
  | number n =>
    cases n with
    | error => exact absurd read nofun
    | ok n =>
      obtain rfl := Except.ok.inj read
      exact .number n
  | text s =>
    cases s with
    | error => exact absurd read nofun
    | ok s =>
      obtain rfl := Except.ok.inj read
      exact .text s
  | broken => exact absurd read nofun
  | list told ending =>
    obtain ⟨inner, entered, read⟩ := of_bind_ok (x := enter room) read
    obtain ⟨items, values, read⟩ := of_bind_ok (x := Reader.values inner told) read
    obtain ⟨_, -, read⟩ := of_bind_ok (x := unlessFault ending.listFault?) read
    obtain rfl := Except.ok.inj read
    exact .list ending entered values
  | object told ending =>
    obtain ⟨inner, entered, read⟩ := of_bind_ok (x := enter room) read
    obtain ⟨members, values, read⟩ := of_bind_ok (x := Reader.namedValues inner [] told) read
    obtain ⟨_, -, read⟩ := of_bind_ok (x := unlessFault ending.objectFault?) read
    obtain rfl := Except.ok.inj read
    exact .object ending entered values

theorem forall₂_values {told : List Outline} (read : Reader.values room told = .ok items) :
    List.Forall₂ (fun v o => Reader.value room o = .ok v) items told := by
  induction told generalizing items with
  | nil =>
    obtain rfl := Except.ok.inj read
    exact List.Forall₂.nil
  | cons o told ih =>
    obtain ⟨v, value, read⟩ := of_bind_ok (x := Reader.value room o) read
    obtain ⟨rest, values, read⟩ := of_bind_ok (x := Reader.values room told) read
    obtain rfl := Except.ok.inj read
    exact List.Forall₂.cons value (ih values)

/-- The members with one more of them read. -/
def putRead (room : Nat) (l : List (String × Value)) (name : String) (o : Outline) :
    Except Fault (List (String × Value)) := do
  return put name (← Reader.value room o) l

theorem of_putRead {l l' : List (String × Value)} (read : putRead room l name o = .ok l') :
    ∃ v, Reader.value room o = .ok v ∧ l' = put name v l := by
  obtain ⟨v, value, read⟩ := of_bind_ok (x := Reader.value room o) read
  exact ⟨v, value, (Except.ok.inj read).symm⟩

theorem namedValues_eq_foldTold (room : Nat) (before : List (String × Value))
    (told : List (Except Fault String × Outline)) :
    Reader.namedValues room before told = foldTold (putRead room) before told := by
  induction told generalizing before with
  | nil => rfl
  | cons m told ih =>
    obtain ⟨given, o⟩ := m
    cases given with
    | error fault => rfl
    | ok name =>
      show (Reader.value room o >>= fun v => Reader.namedValues room (put name v before) told) =
        (putRead room before name o >>= fun l => foldTold (putRead room) l told)
      rw [putRead, bind_assoc]
      congr 1
      funext v
      exact ih _

theorem sorted_namedValues (read : Reader.namedValues room [] told = .ok members) :
    members.Pairwise fun a b => a.1 < b.1 := by
  rw [namedValues_eq_foldTold] at read
  refine fold_invariant (P := fun l => l.Pairwise fun a b => a.1 < b.1) List.Pairwise.nil ?_ read
  intro l name o l' sorted stepped
  obtain ⟨v, -, rfl⟩ := of_putRead stepped
  exact Dictionary.put_sorted sorted

/-- The value of the outline stands there. -/
def Shows (room : Nat) (o : Outline) (x : Option Value) : Prop :=
  ∃ v, Reader.value room o = .ok v ∧ x = some v

theorem shows_namedValues (read : Reader.namedValues room [] told = .ok members) (name : String) :
    (lastNamed name told = none ∧ lookup name members = none) ∨
      ∃ o, lastNamed name told = some o ∧ Shows room o (lookup name members) := by
  rw [namedValues_eq_foldTold] at read
  refine shows_last (lookup name) (Shows room) ?_ ?_ read
  · intro l o l' stepped
    obtain ⟨v, value, rfl⟩ := of_putRead stepped
    exact ⟨v, value, by rw [Dictionary.lookup_put, if_pos rfl]⟩
  · intro l other o l' different stepped
    obtain ⟨v, -, rfl⟩ := of_putRead stepped
    rw [Dictionary.lookup_put, if_neg different]

/-- Each member of an object that was read has the value of the last outline under its name. -/
theorem of_mem_namedValues (read : Reader.namedValues room [] told = .ok members)
    {m : String × Value} (here : m ∈ members) :
    ∃ o, lastNamed m.1 told = some o ∧ Reader.value room o = .ok m.2 := by
  have there : lookup m.1 members = some m.2 := Dictionary.lookup_of_mem (sorted_namedValues read) here
  obtain ⟨-, absent⟩ | ⟨o, last, v, value, same⟩ := shows_namedValues read m.1
  · rw [there] at absent
    exact absurd absent nofun
  · obtain rfl : m.2 = v := Option.some.inj (there.symm.trans same)
    exact ⟨o, last, value⟩

theorem mem_of_lastNamed_namedValues (read : Reader.namedValues room [] told = .ok members)
    (last : (lastNamed name told).isSome) : name ∈ members.map (·.1) := by
  obtain ⟨none, -⟩ | ⟨o, -, v, -, there⟩ := shows_namedValues read name
  · rw [none] at last
    exact absurd last nofun
  · exact List.mem_map_of_mem (f := (·.1)) (Dictionary.mem_entries_of_lookup there)

theorem of_foldMembers {σ : Type} {wanted : String}
    {step : Nat → σ → String → Outline → Except Fault σ} {start s : σ}
    (read : Reader.foldMembers wanted step start room o = .ok s) :
    ∃ told ending inner, o = .object told ending ∧ enter room = .ok inner ∧
      foldTold (step inner) start told = .ok s := by
  cases o with
  | object told ending =>
    obtain ⟨inner, entered, read⟩ := of_bind_ok (x := enter room) read
    obtain ⟨s', folded, read⟩ := of_bind_ok (x := foldTold (step inner) start told) read
    obtain ⟨_, -, read⟩ := of_bind_ok (x := unlessFault ending.objectFault?) read
    obtain rfl := Except.ok.inj read
    exact ⟨told, ending, inner, rfl, entered, folded⟩
  | number n | text n => cases n <;> exact absurd read nofun
  | _ => exact absurd read nofun

theorem outline_of_read {α : Type} {r : Reader α} {text : List Char} {a : α}
    (accepted : read r text = .ok a) :
    ∃ o, Outline.ofTokens (tokens text) = (o, []) ∧ r fullRoom o = .ok a := by
  unfold read at accepted
  generalize Outline.ofTokens (tokens text) = outline at *
  obtain ⟨o, rest⟩ := outline
  obtain ⟨a', value, accepted⟩ := of_bind_ok (x := r fullRoom o) accepted
  split at accepted
  · rename_i finished
    obtain rfl := Except.ok.inj accepted
    obtain rfl := List.isEmpty_iff.mp finished
    exact ⟨o, rfl, value⟩
  · exact absurd accepted nofun

/-! ### Values that were read -/

theorem saidBy_of_read (read : Reader.value room o = .ok v) : v.SaidBy o := by
  induction v generalizing room o with
  | null | bool | number | text =>
    cases comes_of_read read
    simp [Value.SaidBy]
  | list items ih =>
    cases comes_of_read read with
    | list _ _ values =>
      rw [Value.SaidBy, itemsSaidBy_iff]
      exact ((List.forall₂_and_left _ _).mpr ⟨ih, forall₂_values values⟩).imp
        fun v o ⟨said, value⟩ => said value
  | object members ih =>
    cases comes_of_read read with
    | object _ _ values =>
      rw [Value.SaidBy, membersSaidBy_iff]
      refine ⟨sorted_namedValues values, fun name => mem_of_lastNamed_namedValues values, ?_⟩
      intro m here
      obtain ⟨o, last, value⟩ := of_mem_namedValues values here
      exact ⟨o, last, ih m here value⟩

theorem depth_lt_of_read (positive : 0 < room) (read : Reader.value room o = .ok v) :
    v.depth < room := by
  induction v generalizing room o with
  | null | bool | number | text => exact positive
  | list items ih =>
    cases comes_of_read read with
    | list _ entered values =>
      obtain ⟨rfl, left⟩ := enter_ok entered
      refine Nat.succ_lt_succ (Value.itemsDepth_lt left fun v here => ?_)
      obtain ⟨o, -, value⟩ := exists_of_forall₂ (forall₂_values values) here
      exact ih v here left value
  | object members ih =>
    cases comes_of_read read with
    | object _ entered values =>
      obtain ⟨rfl, left⟩ := enter_ok entered
      refine Nat.succ_lt_succ (Value.membersDepth_lt left fun m here => ?_)
      obtain ⟨o, -, value⟩ := of_mem_namedValues values here
      exact ih m here left value

theorem ordered_of_read (read : Reader.value room o = .ok v) : v.Ordered := by
  induction v generalizing room o with
  | null | bool | number | text => simp
  | list items ih =>
    cases comes_of_read read with
    | list _ _ values =>
      refine Value.ordered_list.mpr fun v here => ?_
      obtain ⟨o, -, value⟩ := exists_of_forall₂ (forall₂_values values) here
      exact ih v here value
  | object members ih =>
    cases comes_of_read read with
    | object _ _ values =>
      refine Value.ordered_object.mpr ⟨sorted_namedValues values, fun m here => ?_⟩
      obtain ⟨o, -, value⟩ := of_mem_namedValues values here
      exact ih m here value

theorem numbers_of_read (read : Reader.value room o = .ok v) {n : Number} (here : n ∈ v.numbers) :
    .ok n ∈ o.numbers := by
  induction v generalizing room o with
  | null | bool | text => exact absurd here List.not_mem_nil
  | number k =>
    obtain rfl := List.mem_singleton.mp here
    cases comes_of_read read
    exact List.mem_singleton.mpr rfl
  | list items ih =>
    obtain ⟨v, inside, here⟩ := Value.mem_itemNumbers.mp here
    cases comes_of_read read with
    | list _ _ values =>
      obtain ⟨o, there, value⟩ := exists_of_forall₂ (forall₂_values values) inside
      exact numbers_subset_listNumbers there (ih v inside value here)
  | object members ih =>
    obtain ⟨m, inside, here⟩ := Value.mem_memberNumbers.mp here
    cases comes_of_read read with
    | object _ _ values =>
      obtain ⟨o, last, value⟩ := of_mem_namedValues values inside
      obtain ⟨told, there, rfl⟩ := mem_of_lastNamed last
      exact numbers_subset_objectNumbers there (ih m inside value here)

end OrchestrationGraph.Json
