/-!
# Dictionaries

Finite maps from names to values, kept in ascending order of names. Names compare by code point,
which is also the order of their UTF-8 bytes. Two dictionaries with the same entries are equal
(`ext_get?`), so results may be compared with `=`.
-/

namespace OrchestrationGraph

/-- Entries in strictly ascending order of names. -/
structure Dictionary (α : Type) where
  entries : List (String × α) := []
  sorted : entries.Pairwise (fun a b => a.1 < b.1) := by simp

namespace Dictionary

variable {α β : Type}

/-! ### Entry lists -/

def lookup (key : String) : List (String × α) → Option α
  | [] => none
  | (k, v) :: rest => if k = key then some v else lookup key rest

/-- Puts `v` under `key`, in place of what was there. -/
def put (key : String) (v : α) : List (String × α) → List (String × α)
  | [] => [(key, v)]
  | (k, w) :: rest =>
    if key < k then (key, v) :: (k, w) :: rest
    else if key = k then (key, v) :: rest
    else (k, w) :: put key v rest

/-- Applies `f` to the value under `key`, if there is one. -/
def adjust (key : String) (f : α → α) (l : List (String × α)) : List (String × α) :=
  l.map fun e => if e.1 = key then (e.1, f e.2) else e

theorem mem_put {key : String} {v : α} {e : String × α} {l : List (String × α)}
    (h : e ∈ put key v l) : e = (key, v) ∨ e ∈ l := by
  induction l with
  | nil => simpa [put] using h
  | cons hd tl ih =>
    obtain ⟨k, w⟩ := hd
    unfold put at h
    split at h
    · simpa using h
    · split at h
      · simp only [List.mem_cons] at h ⊢; exact h.imp_right .inr
      · simp only [List.mem_cons] at h ⊢
        rcases h with h | h
        · exact .inr (.inl h)
        · exact (ih h).imp_right .inr

theorem lt_of_not_lt {a b : String} (h : ¬ a < b) (hne : a ≠ b) : b < a := by
  rcases Classical.em (b < a) with hba | hba
  · exact hba
  · exact absurd (String.le_antisymm (String.not_lt.mp hba) (String.not_lt.mp h)) hne

theorem put_sorted {key : String} {v : α} {l : List (String × α)}
    (h : l.Pairwise (fun a b => a.1 < b.1)) : (put key v l).Pairwise (fun a b => a.1 < b.1) := by
  induction l with
  | nil => simp [put]
  | cons hd tl ih =>
    obtain ⟨k, w⟩ := hd
    rw [List.pairwise_cons] at h
    unfold put
    split
    case isTrue hlt =>
      refine List.pairwise_cons.mpr ⟨fun e he => ?_, List.pairwise_cons.mpr h⟩
      rcases List.mem_cons.mp he with rfl | he
      · exact hlt
      · exact String.lt_trans hlt (h.1 e he)
    case isFalse hlt =>
      split
      case isTrue heq => subst heq; exact List.pairwise_cons.mpr h
      case isFalse hne =>
        refine List.pairwise_cons.mpr ⟨fun e he => ?_, ih h.2⟩
        rcases mem_put he with rfl | he
        · exact lt_of_not_lt hlt hne
        · exact h.1 e he

theorem adjust_sorted {key : String} {f : α → α} {l : List (String × α)}
    (h : l.Pairwise (fun a b => a.1 < b.1)) :
    (adjust key f l).Pairwise (fun a b => a.1 < b.1) := by
  unfold adjust
  refine List.pairwise_map.mpr (h.imp fun {a b} hab => ?_)
  split <;> split <;> exact hab

theorem lookup_put {key k : String} {v : α} {l : List (String × α)} :
    lookup k (put key v l) = if key = k then some v else lookup k l := by
  induction l with
  | nil => simp [put, lookup]
  | cons hd tl ih =>
    obtain ⟨j, w⟩ := hd
    unfold put
    split
    · simp [lookup]
    · split
      case isTrue heq => subst heq; simp only [lookup]; split <;> rfl
      case isFalse hne =>
        simp only [lookup, ih]
        by_cases hj : j = k
        · subst hj; simp [hne]
        · simp [hj]

theorem lookup_adjust {key k : String} {f : α → α} {l : List (String × α)} :
    lookup k (adjust key f l) = (lookup k l).map fun v => if k = key then f v else v := by
  induction l with
  | nil => rfl
  | cons hd tl ih =>
    obtain ⟨j, w⟩ := hd
    simp only [adjust, List.map_cons] at ih ⊢
    by_cases hj : j = key
    · subst hj
      by_cases hk : j = k
      · subst hk; simp [lookup]
      · simp [lookup, hk, ih]
    · by_cases hk : j = k
      · subst hk; simp [lookup, hj]
      · simp [lookup, hj, hk, ih]

theorem keys_adjust {key : String} {f : α → α} {l : List (String × α)} :
    (adjust key f l).map (·.1) = l.map (·.1) := by
  simp only [adjust, List.map_map]
  refine List.map_congr_left fun e _ => ?_
  simp only [Function.comp_apply]
  split <;> rfl

/-! ### Dictionaries -/

def empty : Dictionary α := {}

instance : EmptyCollection (Dictionary α) := ⟨empty⟩

instance : Inhabited (Dictionary α) := ⟨empty⟩

instance [BEq α] : BEq (Dictionary α) := ⟨fun a b => a.entries == b.entries⟩

def get? (d : Dictionary α) (key : String) : Option α := lookup key d.entries

def contains (d : Dictionary α) (key : String) : Bool := (d.get? key).isSome

def insert (d : Dictionary α) (key : String) (v : α) : Dictionary α :=
  ⟨put key v d.entries, put_sorted d.sorted⟩

def modify (d : Dictionary α) (key : String) (f : α → α) : Dictionary α :=
  ⟨adjust key f d.entries, adjust_sorted d.sorted⟩

/-- Later entries win. -/
def ofList (l : List (String × α)) : Dictionary α :=
  l.foldl (fun (d : Dictionary α) e => d.insert e.1 e.2) empty

def toList (d : Dictionary α) : List (String × α) := d.entries

def keys (d : Dictionary α) : List String := d.entries.map (·.1)

def values (d : Dictionary α) : List α := d.entries.map (·.2)

def size (d : Dictionary α) : Nat := d.entries.length

def isEmpty (d : Dictionary α) : Bool := d.entries.isEmpty

@[simp] theorem get?_empty (k : String) : (empty : Dictionary α).get? k = none := rfl

theorem get?_insert (d : Dictionary α) (key k : String) (v : α) :
    (d.insert key v).get? k = if key = k then some v else d.get? k :=
  lookup_put

theorem get?_modify (d : Dictionary α) (key k : String) (f : α → α) :
    (d.modify key f).get? k = (d.get? k).map fun v => if k = key then f v else v :=
  lookup_adjust

@[simp] theorem keys_modify (d : Dictionary α) (key : String) (f : α → α) :
    (d.modify key f).keys = d.keys :=
  keys_adjust

theorem keys_sorted (d : Dictionary α) : d.keys.Pairwise (· < ·) :=
  List.pairwise_map.mpr d.sorted

theorem mem_entries_of_lookup {k : String} {v : α} {l : List (String × α)}
    (h : lookup k l = some v) : (k, v) ∈ l := by
  induction l with
  | nil => simp [lookup] at h
  | cons hd tl ih =>
    obtain ⟨j, w⟩ := hd
    unfold lookup at h
    split at h
    case isTrue heq => cases heq; cases h; exact List.mem_cons_self
    case isFalse => exact List.mem_cons_of_mem _ (ih h)

theorem lookup_of_mem {k : String} {v : α} {l : List (String × α)}
    (hs : l.Pairwise (fun a b => a.1 < b.1)) (h : (k, v) ∈ l) : lookup k l = some v := by
  induction l with
  | nil => simp at h
  | cons hd tl ih =>
    obtain ⟨j, w⟩ := hd
    rw [List.pairwise_cons] at hs
    rcases List.mem_cons.mp h with he | he
    · cases he; simp [lookup]
    · have hlt : j < k := hs.1 _ he
      have hne : j ≠ k := fun hjk => String.lt_irrefl k (hjk ▸ hlt)
      simp [lookup, hne, ih hs.2 he]

theorem get?_eq_some_iff {d : Dictionary α} {k : String} {v : α} :
    d.get? k = some v ↔ (k, v) ∈ d.entries :=
  ⟨mem_entries_of_lookup, lookup_of_mem d.sorted⟩

theorem contains_iff {d : Dictionary α} {k : String} : d.contains k = true ↔ k ∈ d.keys := by
  unfold contains keys
  rw [Option.isSome_iff_exists, List.mem_map]
  exact ⟨fun ⟨v, hv⟩ => ⟨(k, v), get?_eq_some_iff.mp hv, rfl⟩,
    fun ⟨e, he, hk⟩ => ⟨e.2, get?_eq_some_iff.mpr (hk ▸ he)⟩⟩

theorem entries_injective {d₁ d₂ : Dictionary α} (h : d₁.entries = d₂.entries) : d₁ = d₂ := by
  cases d₁; cases d₂; cases h; rfl

theorem eq_of_sorted {l₁ l₂ : List (String × α)}
    (h₁ : l₁.Pairwise (fun a b => a.1 < b.1)) (h₂ : l₂.Pairwise (fun a b => a.1 < b.1))
    (h : ∀ e, e ∈ l₁ ↔ e ∈ l₂) : l₁ = l₂ := by
  induction l₁ generalizing l₂ with
  | nil =>
    cases l₂ with
    | nil => rfl
    | cons e _ => simpa using (h e).mpr List.mem_cons_self
  | cons a t₁ ih =>
    cases l₂ with
    | nil => simpa using (h a).mp List.mem_cons_self
    | cons b t₂ =>
      rw [List.pairwise_cons] at h₁ h₂
      have hab : a = b := by
        rcases List.mem_cons.mp ((h a).mp List.mem_cons_self) with he | ha
        · exact he
        · rcases List.mem_cons.mp ((h b).mpr List.mem_cons_self) with he | hb
          · exact he.symm
          · exact absurd (h₁.1 b hb) (String.lt_asymm (h₂.1 a ha))
      subst hab
      have ha₁ : a ∉ t₁ := fun hm => String.lt_irrefl _ (h₁.1 a hm)
      have ha₂ : a ∉ t₂ := fun hm => String.lt_irrefl _ (h₂.1 a hm)
      rw [ih h₁.2 h₂.2 fun e => ?_]
      have := h e
      simp only [List.mem_cons] at this
      constructor
      · intro he
        exact (this.mp (.inr he)).resolve_left fun hea => ha₁ (hea ▸ he)
      · intro he
        exact (this.mpr (.inr he)).resolve_left fun hea => ha₂ (hea ▸ he)

theorem ext_get? {d₁ d₂ : Dictionary α} (h : ∀ k, d₁.get? k = d₂.get? k) : d₁ = d₂ := by
  refine entries_injective (eq_of_sorted d₁.sorted d₂.sorted fun ⟨k, v⟩ => ?_)
  rw [← get?_eq_some_iff, ← get?_eq_some_iff, h k]

end Dictionary

end OrchestrationGraph
