import OrchestrationGraph.Proofs.Json.Token.Number

/-!
# JSON values

What a value must satisfy to be the same after it has been written and read: its numbers are
integers that are kept exactly (`Whole`), the members of its objects are in order (`Ordered`), and it
does not nest too many containers (`depth`).
-/

namespace OrchestrationGraph.Json.Value

/-- Every number is an integer within the bounds. -/
inductive Whole : Value → Prop
  | null : Whole .null
  | bool (b : Bool) : Whole (.bool b)
  | integer {n : Int} (within : Number.InBounds n) : Whole (.number (.integer n))
  | text (s : String) : Whole (.text s)
  | list {items : List Value} (all : ∀ v ∈ items, Whole v) : Whole (.list items)
  | object {members : List (String × Value)} (all : ∀ m ∈ members, Whole m.2) :
    Whole (.object members)

/-- The members of every object stand in strictly ascending order of names. -/
inductive Ordered : Value → Prop
  | null : Ordered .null
  | bool (b : Bool) : Ordered (.bool b)
  | number (n : Number) : Ordered (.number n)
  | text (s : String) : Ordered (.text s)
  | list {items : List Value} (all : ∀ v ∈ items, Ordered v) : Ordered (.list items)
  | object {members : List (String × Value)} (sorted : members.Pairwise fun a b => a.1 < b.1)
    (all : ∀ m ∈ members, Ordered m.2) : Ordered (.object members)

/-- Induction on a value whose items and members have the property already. -/
@[elab_as_elim, induction_eliminator]
theorem induction {motive : Value → Prop} (null : motive .null) (bool : ∀ b, motive (.bool b))
    (number : ∀ n, motive (.number n)) (text : ∀ s, motive (.text s))
    (list : ∀ items, (∀ v ∈ items, motive v) → motive (.list items))
    (object : ∀ members, (∀ m ∈ members, motive m.2) → motive (.object members)) :
    ∀ v, motive v
  | .null => null
  | .bool b => bool b
  | .number n => number n
  | .text s => text s
  | .list items => list items fun v here =>
    have := List.sizeOf_lt_of_mem here
    induction null bool number text list object v
  | .object members => object members fun m here =>
    have := List.sizeOf_lt_of_mem here
    induction null bool number text list object m.2
termination_by v => sizeOf v
decreasing_by
  · rw [Value.list.sizeOf_spec]
    omega
  · obtain ⟨name, v⟩ := m
    rw [Prod.mk.sizeOf_spec] at this
    rw [Value.object.sizeOf_spec]
    show sizeOf v < _
    omega

variable {items : List Value} {members : List (String × Value)}

@[simp]
theorem whole_null : Whole .null := Whole.null

@[simp]
theorem whole_bool (b : Bool) : Whole (.bool b) := Whole.bool b

@[simp]
theorem whole_text (s : String) : Whole (.text s) := Whole.text s

@[simp]
theorem whole_integer {n : Int} : Whole (.number (.integer n)) ↔ Number.InBounds n := by
  constructor
  · rintro ⟨⟩
    assumption
  · exact Whole.integer

@[simp]
theorem whole_list : Whole (.list items) ↔ ∀ v ∈ items, v.Whole := by
  constructor
  · rintro ⟨⟩
    assumption
  · exact Whole.list

@[simp]
theorem whole_object : Whole (.object members) ↔ ∀ m ∈ members, m.2.Whole := by
  constructor
  · rintro ⟨⟩
    assumption
  · exact Whole.object

@[simp]
theorem ordered_null : Ordered .null := Ordered.null

@[simp]
theorem ordered_bool (b : Bool) : Ordered (.bool b) := Ordered.bool b

@[simp]
theorem ordered_number (n : Number) : Ordered (.number n) := Ordered.number n

@[simp]
theorem ordered_text (s : String) : Ordered (.text s) := Ordered.text s

@[simp]
theorem ordered_list : Ordered (.list items) ↔ ∀ v ∈ items, v.Ordered := by
  constructor
  · rintro ⟨⟩
    assumption
  · exact Ordered.list

@[simp]
theorem ordered_object :
    Ordered (.object members) ↔
      (members.Pairwise fun a b => a.1 < b.1) ∧ ∀ m ∈ members, m.2.Ordered := by
  constructor
  · rintro ⟨⟩
    constructor <;> assumption
  · exact fun ⟨sorted, all⟩ => Ordered.object sorted all

/-! ### Depth -/

mutual

/-- How many containers stand inside each other at most. -/
def depth : Value → Nat
  | .null | .bool _ | .number _ | .text _ => 0
  | .list items => itemsDepth items + 1
  | .object members => membersDepth members + 1

def itemsDepth : List Value → Nat
  | [] => 0
  | v :: items => max v.depth (itemsDepth items)

def membersDepth : List (String × Value) → Nat
  | [] => 0
  | (_, v) :: members => max v.depth (membersDepth members)

end

theorem depth_le_membersDepth {m : String × Value} (here : m ∈ members) :
    m.2.depth ≤ membersDepth members := by
  induction members with
  | nil => exact absurd here List.not_mem_nil
  | cons w members ih =>
    rw [membersDepth]
    obtain rfl | later := List.mem_cons.mp here
    · exact Nat.le_max_left _ _
    · exact Nat.le_trans (ih later) (Nat.le_max_right _ _)

theorem membersDepth_append (members further : List (String × Value)) :
    membersDepth (members ++ further) = max (membersDepth members) (membersDepth further) := by
  induction members with
  | nil => rw [List.nil_append, membersDepth, Nat.zero_max]
  | cons m members ih => rw [List.cons_append, membersDepth, membersDepth, ih, Nat.max_assoc]

theorem depth_lt_of_mem (name : String) {v : Value} {room : Nat} (here : (name, v) ∈ members)
    (space : membersDepth members < room) : v.depth < room :=
  Nat.lt_of_le_of_lt (depth_le_membersDepth here) space

theorem itemsDepth_lt {room : Nat} (positive : 0 < room) (each : ∀ v ∈ items, v.depth < room) :
    itemsDepth items < room := by
  induction items with
  | nil => exact positive
  | cons v items ih =>
    rw [List.forall_mem_cons] at each
    rw [itemsDepth, Nat.max_lt]
    exact ⟨each.1, ih each.2⟩

theorem membersDepth_lt {room : Nat} (positive : 0 < room) (each : ∀ m ∈ members, m.2.depth < room) :
    membersDepth members < room := by
  induction members with
  | nil => exact positive
  | cons m members ih =>
    rw [List.forall_mem_cons] at each
    rw [membersDepth, Nat.max_lt]
    exact ⟨each.1, ih each.2⟩

/-! ### Numbers -/

mutual

/-- The numbers in a value. -/
def numbers : Value → List Number
  | .null | .bool _ | .text _ => []
  | .number n => [n]
  | .list items => itemNumbers items
  | .object members => memberNumbers members

def itemNumbers : List Value → List Number
  | [] => []
  | v :: items => v.numbers ++ itemNumbers items

def memberNumbers : List (String × Value) → List Number
  | [] => []
  | (_, v) :: members => v.numbers ++ memberNumbers members

end

theorem mem_itemNumbers {n : Number} : n ∈ itemNumbers items ↔ ∃ v ∈ items, n ∈ v.numbers := by
  induction items with
  | nil => simp [itemNumbers]
  | cons v items ih => simp [itemNumbers, ih]

theorem mem_memberNumbers {n : Number} :
    n ∈ memberNumbers members ↔ ∃ m ∈ members, n ∈ m.2.numbers := by
  induction members with
  | nil => simp [memberNumbers]
  | cons m members ih => simp [memberNumbers, ih]

theorem Whole.numbers {v : Value} (whole : v.Whole) :
    ∀ n ∈ v.numbers, ∃ k, n = .integer k ∧ Number.InBounds k := by
  induction whole with
  | null | bool | text => exact nofun
  | integer within =>
    intro n here
    exact ⟨_, List.mem_singleton.mp here, within⟩
  | list _ ih =>
    intro n here
    obtain ⟨v, there, here⟩ := mem_itemNumbers.mp here
    exact ih v there n here
  | object _ ih =>
    intro n here
    obtain ⟨m, there, here⟩ := mem_memberNumbers.mp here
    exact ih m there n here

end OrchestrationGraph.Json.Value
