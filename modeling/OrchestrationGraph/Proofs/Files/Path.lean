import OrchestrationGraph.Files.Path
import OrchestrationGraph.Proofs.Text.Pieces

/-!
# Where a path leads

`resolve` follows a path piece by piece, names going down and two dots going up. Joining a piece to
a path follows that piece from where the path leads (`resolve_join`). A walk from a folder stays
within it exactly if no part of the walk goes up more often than down (`within_iff_descends`). Below
one path, names that begin differently are of different paths (`same_join_eq_false`).
-/

namespace OrchestrationGraph.Path

/-- One piece of a path, followed from a place. Above the root there is nothing; above the start of
a relative path there may be something. -/
def follow (place : List String) (piece : String) : List String :=
  if isIdle piece then place
  else if piece ≠ ".." then place ++ [piece]
  else if place = ["/"] then place
  else if place.getLast?.all (· = "..") then place ++ [".."]
  else place.dropLast

/-- The place to which a path leads, links aside: the root if it is absolute, and names; a relative
path may have to go up first. -/
def resolve (path : String) : List String :=
  (pieces path).foldl follow (if isAbsolute path then ["/"] else [])

/-- The place is another one or below it. -/
def Inside (place other : List String) : Prop := ∃ names, place = other ++ names ∧ ".." ∉ names

/-- The path leads to a folder or to a place below it. -/
def Within (path folder : String) : Prop := Inside (resolve path) (resolve folder)

/-- The path leads to a place below the folder. -/
def Below (path folder : String) : Prop :=
  ∃ names, resolve path = resolve folder ++ names ∧ names ≠ [] ∧ ".." ∉ names

/-- A single piece of a path. -/
def IsPiece (s : String) : Prop := s ≠ "" ∧ '/' ∉ s.toList

/-- A piece that goes down. -/
def IsName (s : String) : Prop := s ≠ "." ∧ s ≠ ".."

instance (s : String) : Decidable (IsName s) := inferInstanceAs (Decidable (_ ∧ _))

/-- From `depth` names below a place, no beginning of the walk leads above the place: none goes up
more often than down. -/
def DescendsFrom (depth : Nat) (walk : List String) : Prop :=
  ∀ way, way <+: walk → way.count ".." ≤ depth + way.countP fun s => decide (IsName s)

variable {base sub folder : String} {place names walk : List String} {depth : Nat}

/-! ### Pieces -/

theorem pieces_append (a b : String) : pieces (a ++ "/" ++ b) = pieces a ++ pieces b := by
  unfold pieces
  simp only [String.toList_append, List.append_assoc]
  rw [← List.map_append]
  exact congrArg (List.map String.ofList)
    (Text.piecesBy_append (by decide) a.toList b.toList)

theorem pieces_of_isPiece (isPiece : IsPiece sub) : pieces sub = [sub] := by
  unfold pieces
  rw [Text.piecesBy_of_none]
  · simp
  · intro c hc
    have : c ≠ '/' := fun slash => isPiece.2 (slash ▸ hc)
    simpa using this

theorem follow_empty : follow place "" = place := by simp [follow, isIdle]

theorem follow_of_isName (isPiece : IsPiece sub) (isName : IsName sub) :
    follow place sub = place ++ [sub] := by
  simp [follow, isIdle, isPiece.1, isName.1, isName.2]

/-! ### Joining -/

theorem isAbsolute_append (nonempty : base ≠ "") (rest : String) :
    isAbsolute (base ++ rest) = isAbsolute base := by
  have : base.toList ≠ [] := by simpa using nonempty
  unfold isAbsolute
  rw [String.toList_append]
  cases split : base.toList with
  | nil => exact absurd split this
  | cons c l => rfl

/-- What a path puts in front of a relative one that is joined to it is the same for all of these: its
own pieces, without the empty one behind a slash at the end. -/
theorem exists_pieces_join (nonempty : base ≠ "") : ∃ front, front ≠ [] ∧
    (pieces base = front ∨ pieces base = front ++ [""]) ∧
    ∀ sub, sub.toList.head? ≠ some '/' → pieces (join base sub) = front ++ pieces sub ∧
      isAbsolute (join base sub) = isAbsolute base := by
  have isSome (s : String) : pieces s ≠ [] := by simp [pieces, Text.piecesBy_ne_nil]
  by_cases slashed : base.toList.getLast? = some '/'
  · obtain ⟨l, split⟩ := List.getLast?_eq_some_iff.mp slashed
    have cut : base = String.ofList l ++ "/" := by
      rw [← String.toList_inj, split]
      simp
    have ends : pieces base = pieces (String.ofList l) ++ [""] := by
      have := pieces_append (String.ofList l) ""
      rwa [String.append_empty, ← cut] at this
    refine ⟨_, isSome _, .inr ends, fun sub relative => ?_⟩
    have joined : join base sub = base ++ sub := by simp [join, relative, slashed, nonempty]
    refine ⟨?_, by rw [joined, isAbsolute_append nonempty]⟩
    rw [joined, cut, pieces_append]
  · refine ⟨_, isSome _, .inl rfl, fun sub relative => ?_⟩
    have joined : join base sub = base ++ "/" ++ sub := by
      simp [join, relative, slashed, nonempty]
    refine ⟨by rw [joined, pieces_append], ?_⟩
    rw [joined, String.append_assoc, isAbsolute_append nonempty]

theorem resolve_join (isPiece : IsPiece sub) :
    resolve (join base sub) = follow (resolve base) sub := by
  have relative : sub.toList.head? ≠ some '/' := by
    intro slash
    exact isPiece.2 (List.mem_of_mem_head? slash)
  by_cases empty : base = ""
  · subst empty
    have isRelative : isAbsolute sub = false := by simpa [isAbsolute] using relative
    have here : resolve "" = [] := by decide +kernel
    have same : join "" sub = sub := by simp [join]
    rw [same, here]
    unfold resolve
    rw [isRelative, pieces_of_isPiece isPiece]
    rfl
  · obtain ⟨front, -, own, joins⟩ := exists_pieces_join empty
    obtain ⟨all, absolute⟩ := joins sub relative
    have walked (start : List String) :
        (pieces base).foldl follow start = front.foldl follow start := by
      rcases own with own | own
      · rw [own]
      · rw [own, List.foldl_append, List.foldl_cons, List.foldl_nil, follow_empty]
    unfold resolve
    rw [all, absolute, pieces_of_isPiece isPiece, List.foldl_append, walked]
    rfl

theorem resolve_joinAll (arePieces : ∀ s ∈ walk, IsPiece s) :
    resolve (joinAll base walk) = walk.foldl follow (resolve base) := by
  induction walk generalizing base with
  | nil => rfl
  | cons s walk ih =>
    have rest : ∀ t ∈ walk, IsPiece t := fun t ht => arePieces t (List.mem_cons_of_mem s ht)
    calc resolve (joinAll base (s :: walk))
      _ = walk.foldl follow (resolve (join base s)) := ih rest
      _ = (s :: walk).foldl follow (resolve base) := by
        rw [resolve_join (arePieces s List.mem_cons_self), List.foldl_cons]

/-! ### Going up and down -/

theorem follow_dot : follow place "." = place := by simp [follow, isIdle]

theorem follow_up_concat {top : String} (isPiece : IsPiece top) (isName : IsName top) :
    follow (place ++ [top]) ".." = place := by
  have notRoot : place ++ [top] ≠ ["/"] := by
    intro root
    have slash : top = "/" := by
      have last := congrArg List.getLast? root
      simpa using last
    exact isPiece.2 (slash ▸ by decide)
  simp [follow, isIdle, notRoot, isName.2]

/-- Going up never leads below. -/
theorem follow_up_ne_append (nonempty : names ≠ []) (down : ".." ∉ names) :
    follow place ".." ≠ place ++ names := by
  have longer : place.length < (place ++ names).length := by
    have := List.length_pos_iff.mpr nonempty
    rw [List.length_append]
    omega
  intro followed
  rw [← followed] at longer
  unfold follow at followed longer
  rw [if_neg (by decide), if_neg (by decide)] at followed longer
  by_cases isRoot : place = ["/"]
  · rw [if_pos isRoot] at longer
    exact Nat.lt_irrefl _ longer
  · rw [if_neg isRoot] at followed longer
    split at followed
    · have same := List.append_cancel_left followed
      exact down (same ▸ List.mem_singleton_self "..")
    · rename_i ordinary
      rw [if_neg ordinary, List.length_dropLast] at longer
      omega

/-- One piece leads strictly below a folder exactly if it is a name. -/
theorem below_join_iff (isPiece : IsPiece sub) : Below (join base sub) base ↔ IsName sub := by
  unfold Below
  rw [resolve_join isPiece]
  constructor
  · rintro ⟨names, followed, nonempty, down⟩
    refine ⟨?_, ?_⟩
    · rintro rfl
      rw [follow_dot] at followed
      exact nonempty (by simpa using followed)
    · rintro rfl
      exact follow_up_ne_append nonempty down followed
  · intro isName
    refine ⟨[sub], follow_of_isName isPiece isName, by simp, ?_⟩
    simpa using isName.2.symm

/-! ### Walks -/

theorem forall_prefix_cons {P : List String → Prop} {s : String} :
    (∀ way, way <+: s :: walk → P way) ↔ P [] ∧ ∀ way, way <+: walk → P (s :: way) := by
  simp only [List.prefix_cons_iff]
  constructor
  · intro all
    exact ⟨all [] (.inl rfl), fun way isPrefix => all _ (.inr ⟨way, rfl, isPrefix⟩)⟩
  · rintro ⟨nil, cons⟩ way (rfl | ⟨rest, rfl, isPrefix⟩)
    · exact nil
    · exact cons rest isPrefix

theorem descendsFrom_nil : DescendsFrom depth [] := by
  intro way isPrefix
  rw [List.prefix_nil.mp isPrefix]
  simp

theorem descendsFrom_name {s : String} (isName : IsName s) :
    DescendsFrom depth (s :: walk) ↔ DescendsFrom (depth + 1) walk := by
  unfold DescendsFrom
  rw [forall_prefix_cons]
  simp [isName, isName.2, Nat.add_assoc, Nat.add_comm 1]

theorem descendsFrom_dot : DescendsFrom depth ("." :: walk) ↔ DescendsFrom depth walk := by
  have noName : ¬ IsName "." := by decide
  unfold DescendsFrom
  rw [forall_prefix_cons]
  simp [noName]

theorem descendsFrom_up :
    DescendsFrom depth (".." :: walk) ↔ 0 < depth ∧ DescendsFrom (depth - 1) walk := by
  have noName : ¬ IsName ".." := by decide
  have step : ∀ way : List String, (".." :: way).count ".." ≤
      depth + (".." :: way).countP (fun s => decide (IsName s)) ↔
        way.count ".." + 1 ≤ depth + way.countP fun s => decide (IsName s) := by
    intro way
    rw [List.count_cons_self, List.countP_cons_of_neg (by simp [noName])]
  unfold DescendsFrom
  rw [forall_prefix_cons]
  simp only [step, List.count_nil, Nat.zero_le, true_and]
  constructor
  · intro all
    have first : 0 + 1 ≤ depth + 0 := all [] List.nil_prefix
    refine ⟨by omega, fun way isPrefix => ?_⟩
    have := all way isPrefix
    omega
  · rintro ⟨positive, all⟩ way isPrefix
    have := all way isPrefix
    omega

/-- A walk that has come `names` down from `place ++ [top]` leads nowhere above it exactly if it
descends. -/
theorem inside_walk_iff {top : String} (isPiece : IsPiece top) (isName : IsName top)
    (arePieces : ∀ s ∈ walk, IsPiece s) (known : ∀ s ∈ names, IsPiece s ∧ IsName s) :
    (∀ way, way <+: walk → Inside (way.foldl follow (place ++ [top] ++ names)) (place ++ [top])) ↔
      DescendsFrom names.length walk := by
  have down : ∀ {names : List String}, (∀ s ∈ names, IsPiece s ∧ IsName s) → ".." ∉ names :=
    fun known here => (known _ here).2.2 rfl
  induction walk generalizing names with
  | nil =>
    refine iff_of_true ?_ descendsFrom_nil
    intro way isPrefix
    rw [List.prefix_nil.mp isPrefix]
    exact ⟨names, rfl, down known⟩
  | cons s walk ih =>
    have rest : ∀ t ∈ walk, IsPiece t := fun t ht => arePieces t (List.mem_cons_of_mem s ht)
    have start : Inside (([] : List String).foldl follow (place ++ [top] ++ names))
        (place ++ [top]) := ⟨names, rfl, down known⟩
    rw [forall_prefix_cons, and_iff_right start]
    simp only [List.foldl_cons]
    by_cases goesUp : s = ".."
    · subst goesUp
      rw [descendsFrom_up]
      rcases List.eq_nil_or_concat names with rfl | ⟨before, last, rfl⟩
      · -- The walk leaves the folder at once.
        refine iff_of_false ?_ fun ⟨positive, _⟩ => Nat.lt_irrefl 0 positive
        intro all
        obtain ⟨names, above, _⟩ := all [] List.nil_prefix
        have len := congrArg List.length above
        simp only [List.append_nil, List.foldl_nil, follow_up_concat isPiece isName,
          List.length_append, List.length_singleton] at len
        omega
      · rw [List.concat_eq_append] at known ⊢
        obtain ⟨lastPiece, lastName⟩ := known last (by simp)
        rw [← List.append_assoc, follow_up_concat lastPiece lastName]
        refine (ih rest fun t ht => known t (List.mem_append_left _ ht)).trans ?_
        simp
    · by_cases isDot : s = "."
      · subst isDot
        rw [descendsFrom_dot, follow_dot]
        exact ih rest known
      · have sName : IsName s := ⟨isDot, goesUp⟩
        have sPiece := arePieces s List.mem_cons_self
        have both : ∀ t ∈ names ++ [s], IsPiece t ∧ IsName t := by
          intro t ht
          rcases List.mem_append.mp ht with ht | ht
          · exact known t ht
          · rw [List.mem_singleton.mp ht]
            exact ⟨sPiece, sName⟩
        rw [descendsFrom_name sName, follow_of_isName sPiece sName, List.append_assoc _ names]
        refine (ih rest both).trans ?_
        simp

/-- A walk from a folder below another stays within it on all its way exactly if it never goes up
more often than down. -/
theorem within_iff_descends (isPiece : IsPiece sub) (isName : IsName sub)
    (arePieces : ∀ s ∈ walk, IsPiece s) :
    (∀ way, way <+: walk → Within (joinAll (join base sub) way) (join base sub)) ↔
      DescendsFrom 0 walk := by
  have target : resolve (join base sub) = resolve base ++ [sub] := by
    rw [resolve_join isPiece, follow_of_isName isPiece isName]
  have walks : (∀ way, way <+: walk →
      Inside (way.foldl follow (resolve base ++ [sub] ++ [])) (resolve base ++ [sub])) ↔
        DescendsFrom 0 walk := inside_walk_iff isPiece isName arePieces nofun
  rw [← walks]
  refine forall_congr' fun way => imp_congr_right fun isPrefix => ?_
  unfold Within
  rw [resolve_joinAll fun s hs => arePieces s (isPrefix.subset hs), target, List.append_nil]

/-! ### Components of joined paths -/

theorem pieces_slash (slashed : sub.toList.head? = some '/') : ∃ rest, pieces sub = "" :: rest := by
  obtain ⟨l, split⟩ := List.head?_eq_some_iff.mp slashed
  exact ⟨_, by rw [pieces, split, Text.piecesBy_separator (by decide)]; rfl⟩

/-- The components of an absolute or a relative path with these pieces. -/
def componentsOf (absolute : Bool) (l : List String) : List String :=
  if absolute then "/" :: l.filter fun p => !isIdle p
  else match l with
    | "." :: rest => "." :: rest.filter fun p => !isIdle p
    | l => l.filter fun p => !isIdle p

theorem components_eq (path : String) :
    components path = componentsOf (isAbsolute path) (pieces path) := rfl

theorem componentsOf_cons {p : String} (notDot : p ≠ ".") (l : List String) :
    componentsOf false (p :: l) = (p :: l).filter fun p => !isIdle p := by
  rw [componentsOf, if_neg Bool.false_ne_true]
  exact fun rest dotted => notDot (List.cons.inj dotted).1

theorem componentsOf_append {front : List String} (absolute : Bool) (nonempty : front ≠ [])
    (l : List String) : componentsOf absolute (front ++ l) =
      componentsOf absolute front ++ l.filter fun p => !isIdle p := by
  cases absolute with
  | true => exact congrArg ("/" :: ·) (List.filter_append ..)
  | false =>
    obtain ⟨p, front, rfl⟩ := List.exists_cons_of_ne_nil nonempty
    by_cases dot : p = "."
    · subst dot
      exact congrArg ("." :: ·) (List.filter_append ..)
    · rw [List.cons_append, componentsOf_cons dot, componentsOf_cons dot, ← List.cons_append,
        List.filter_append]

theorem exists_components_join (base : String) : ∃ lead, ∀ sub first rest,
    pieces sub = first :: rest → isIdle first = false →
      components (join base sub) = lead ++ first :: rest.filter fun p => !isIdle p := by
  have names {first : String} {rest : List String} (named : isIdle first = false) :
      (first :: rest).filter (fun p => !isIdle p) = first :: rest.filter fun p => !isIdle p :=
    List.filter_cons_of_pos (by simp [named])
  have relative {sub first : String} {rest : List String} (cut : pieces sub = first :: rest)
      (named : isIdle first = false) : sub.toList.head? ≠ some '/' := by
    intro slashed
    obtain ⟨_, cut'⟩ := pieces_slash slashed
    rw [cut] at cut'
    rw [(List.cons.inj cut').1] at named
    exact absurd named (by decide)
  by_cases empty : base = ""
  · subst empty
    refine ⟨[], fun sub first rest cut named => ?_⟩
    have same : join "" sub = sub := by simp [join]
    have isRelative : isAbsolute sub = false := by simpa [isAbsolute] using relative cut named
    have notDot : first ≠ "." := by
      rintro rfl
      exact absurd named (by decide)
    rw [same, components_eq, isRelative, cut, componentsOf_cons notDot, names named, List.nil_append]
  · obtain ⟨front, nonempty, -, joins⟩ := exists_pieces_join empty
    refine ⟨componentsOf (isAbsolute base) front, fun sub first rest cut named => ?_⟩
    obtain ⟨pieces, absolute⟩ := joins sub (relative cut named)
    rw [components_eq, absolute, pieces, cut, componentsOf_append _ nonempty, names named]

theorem same_join_eq_false {title title' : String} (isPiece : IsPiece title) (isPiece' : IsPiece title')
    (long : 2 ≤ title.length) (long' : 2 ≤ title'.length)
    (differ : ∀ l l', title.toList ++ l ≠ title'.toList ++ l') (name name' : String) :
    same (join base (title ++ name)) (join base (title' ++ name')) = false := by
  obtain ⟨lead, components⟩ := exists_components_join base
  have begins {title : String} (isPiece : IsPiece title) (long : 2 ≤ title.length) (name : String) :
      ∃ first rest, pieces (title ++ name) = String.ofList (title.toList ++ first) :: rest ∧
        isIdle (String.ofList (title.toList ++ first)) = false := by
    obtain ⟨first, rest, cut⟩ :=
      List.exists_cons_of_ne_nil (Text.piecesBy_ne_nil (fun c => decide (c = '/')) name.toList)
    have noSlash : ∀ c ∈ title.toList, decide (c = '/') = false := fun c hc =>
      decide_eq_false fun slash => isPiece.2 (slash ▸ hc)
    have whole := Text.piecesBy_prepend noSlash cut
    refine ⟨first, rest.map String.ofList, ?_, ?_⟩
    · rw [pieces, String.toList_append, whole, List.map_cons]
    · have longer : 2 ≤ (String.ofList (title.toList ++ first)).length := by
        simp
        omega
      rw [isIdle, Bool.or_eq_false_iff, decide_eq_false_iff_not, decide_eq_false_iff_not]
      constructor
      · intro none
        rw [none] at longer
        exact absurd longer (by decide)
      · intro dot
        rw [dot] at longer
        exact absurd longer (by decide)
  obtain ⟨first, rest, cut, named⟩ := begins isPiece long name
  obtain ⟨first', rest', cut', named'⟩ := begins isPiece' long' name'
  refine Bool.eq_false_iff.mpr fun same => ?_
  have same := eq_of_beq same
  rw [components _ _ _ cut named, components _ _ _ cut' named'] at same
  have heads := (List.cons.inj (List.append_cancel_left same)).1
  exact differ first first' (String.ofList_inj.mp heads)

end OrchestrationGraph.Path
