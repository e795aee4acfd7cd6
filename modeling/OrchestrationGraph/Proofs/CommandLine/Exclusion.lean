import OrchestrationGraph.CommandLine.Arguments
import OrchestrationGraph.Proofs.Text.Run

/-!
# Options that exclude each other

Which options have been given can be told from the words alone (`Switch.GivenIn`), on each side of
the command's name by itself (`Split`): what one word does (`Given.Reads`) is what it gives. Neither
side may ask for more and for less to be told at once; but the two sides are not held against each
other, and one option on each side is accepted (`verbose_quiet_iff`, `verbose_and_quiet`).
-/

namespace OrchestrationGraph.CommandLine

open Text (EndsRun)

/-- A reading that succeeds passes through each of its parts. -/
theorem bind_eq_ok {ε α β : Type} {x : Except ε α} {f : α → Except ε β} {b : β} :
    (x >>= f) = .ok b ↔ ∃ a, x = .ok a ∧ f a = .ok b := by
  cases x with
  | error e => exact ⟨nofun, fun ⟨_, failed, _⟩ => nomatch failed⟩
  | ok a => exact ⟨fun read => ⟨a, rfl, read⟩, fun ⟨_, is, read⟩ => Except.ok.inj is ▸ read⟩

/-! ### Words -/

namespace Switch

/-- The option's letter is there, and before it are only letters of options without a value; for what
follows one that takes a value is the value. -/
def InCluster (s : Switch) (letters : List Char) : Prop :=
  ∃ front letter rest, letters = front ++ letter :: rest ∧ s.short? = some letter ∧
    ∀ c ∈ front, ∃ x : Switch, x.short? = some c ∧ x.takesValue = false

/-- A word that gives the option by its name, which ends at an equals sign, or by its letter. -/
def GivenBy (s : Switch) (word : String) : Prop :=
  (∃ rest, word.toList = '-' :: '-' :: (s.long.toList ++ rest) ∧ EndsRun (· ≠ '=') rest) ∨
    ∃ letters, word.toList = '-' :: letters ∧ s.InCluster letters

/-- Some word gives the option before two hyphens make everything else a location. -/
def GivenIn (s : Switch) (words : List String) : Prop :=
  ∃ word ∈ words.takeWhile (· ≠ "--"), s.GivenBy word

variable {s x y : Switch} {scope : Scope} {letter : Char} {letters l : List Char} {word : String}
  {words : List String}

theorem long_inj : x.long = y.long ↔ x = y := by
  cases x <;> cases y <;> decide

theorem short_inj (here : x.short? = some letter) (there : y.short? = some letter) : x = y := by
  have same := here.trans there.symm
  cases x <;> cases y <;> first | rfl | exact absurd same (by decide) | exact nomatch here

theorem short_ne_hyphen : s.short? ≠ some '-' := by
  cases s <;> decide

theorem inCluster_cons : s.InCluster (letter :: letters) ↔ s.short? = some letter ∨
    (∃ x : Switch, x.short? = some letter ∧ x.takesValue = false) ∧ s.InCluster letters := by
  constructor
  · rintro ⟨front, c, rest, split, short, flags⟩
    cases front with
    | nil =>
      obtain ⟨rfl, rfl⟩ := List.cons.inj split
      exact .inl short
    | cons d front =>
      obtain ⟨rfl, rfl⟩ := List.cons.inj split
      obtain ⟨flag, flags⟩ := List.forall_mem_cons.mp flags
      exact .inr ⟨flag, front, c, rest, rfl, short, flags⟩
  · rintro (short | ⟨flag, front, c, rest, rfl, short, flags⟩)
    · exact ⟨[], letter, letters, rfl, short, List.forall_mem_nil _⟩
    · exact ⟨letter :: front, c, rest, rfl, short, List.forall_mem_cons.mpr ⟨flag, flags⟩⟩

theorem inCluster_of_value {rest : List Char} (short : x.short? = some letter)
    (takesValue : x.takesValue = true) : s.InCluster (letter :: rest) ↔ s = x := by
  rw [inCluster_cons]
  constructor
  · rintro (here | ⟨⟨y, here, isFlag⟩, -⟩)
    · exact short_inj here short
    · rw [short_inj here short, takesValue] at isFlag
      exact nomatch isFlag
  · rintro rfl
    exact .inl short

theorem inCluster_of_flag {rest : List Char} (short : x.short? = some letter)
    (isFlag : x.takesValue = false) :
    s.InCluster (letter :: rest) ↔ s = x ∨ s.InCluster rest := by
  rw [inCluster_cons]
  constructor
  · rintro (here | ⟨-, cluster⟩)
    · exact .inl (short_inj here short)
    · exact .inr cluster
  · rintro (rfl | cluster)
    · exact .inl short
    · exact .inr ⟨⟨x, short, isFlag⟩, cluster⟩

theorem not_inCluster_nil : ¬s.InCluster [] := by
  rintro ⟨front, c, rest, split, -⟩
  simp at split

theorem not_inCluster_hyphen : ¬s.InCluster ('-' :: letters) := by
  rw [inCluster_cons]
  rintro (short | ⟨⟨x, short, -⟩, -⟩) <;> exact short_ne_hyphen short

theorem long_run : Text.Run (· ≠ '=') s.long.toList := by
  cases s <;> exact Text.run_of_all (by decide +kernel)

theorem splitLong_fst : (Given.splitLong l).1 = s.long ↔
    ∃ rest, l = s.long.toList ++ rest ∧ EndsRun (· ≠ '=') rest := by
  have all := List.takeWhile_append_dropWhile (p := (· ≠ '=')) (l := l)
  have name : (Given.splitLong l).1 = String.ofList (l.takeWhile (· ≠ '=')) := by
    unfold Given.splitLong
    cases after : l.dropWhile (· ≠ '=') with
    | nil =>
      rw [after, List.append_nil] at all
      rw [all]
    | cons c value => rfl
  rw [name]
  constructor
  · intro same
    refine ⟨l.dropWhile (· ≠ '='), ?_, Text.endsRun_dropWhile _ l⟩
    rw [← same, String.toList_ofList, all]
  · rintro ⟨rest, rfl, stops⟩
    have run : Text.Run (· ≠ '=') ((s.long.toList ++ rest).takeWhile (· ≠ '=')) :=
      Text.run_of_all List.all_takeWhile
    rw [(Text.run_unique all run long_run (Text.endsRun_dropWhile _ _) stops).1,
      String.ofList_toList]

theorem splitLong_eq : Given.splitLong l = ("log-level", none) ↔ l = "log-level".toList := by
  constructor
  · intro split
    unfold Given.splitLong at split
    cases after : l.dropWhile (· ≠ '=') with
    | nil =>
      rw [after] at split
      rw [← (Prod.mk.inj split).1, String.toList_ofList]
    | cons c value =>
      rw [after] at split
      exact nomatch (Prod.mk.inj split).2
  · rintro rfl
    decide +kernel

theorem givenBy_long (shape : word.toList = '-' :: '-' :: l) :
    s.GivenBy word ↔ (Given.splitLong l).1 = s.long := by
  rw [splitLong_fst]
  unfold GivenBy
  rw [shape]
  constructor
  · rintro (⟨rest, is, stops⟩ | ⟨letters, is, cluster⟩)
    · exact ⟨rest, (List.cons.inj (List.cons.inj is).2).2, stops⟩
    · obtain rfl := (List.cons.inj is).2
      exact absurd cluster not_inCluster_hyphen
  · rintro ⟨rest, rfl, stops⟩
    exact .inl ⟨rest, rfl, stops⟩

theorem givenBy_short (shape : word.toList = '-' :: letter :: l) (single : letter ≠ '-') :
    s.GivenBy word ↔ s.InCluster (letter :: l) := by
  unfold GivenBy
  rw [shape]
  constructor
  · rintro (⟨rest, is, -⟩ | ⟨letters, is, cluster⟩)
    · exact absurd (List.cons.inj (List.cons.inj is).2).1 single
    · obtain rfl := (List.cons.inj is).2
      exact cluster
  · intro cluster
    exact .inr ⟨_, rfl, cluster⟩

theorem not_givenBy_hyphens : ¬s.GivenBy "--" := by
  rw [givenBy_long (l := []) rfl]
  cases s <;> decide

theorem not_givenIn_nil : ¬s.GivenIn [] := nofun

theorem givenIn_cons : s.GivenIn (word :: words) ↔
    word ≠ "--" ∧ (s.GivenBy word ∨ s.GivenIn words) := by
  unfold GivenIn
  rw [List.takeWhile_cons]
  by_cases stop : word = "--"
  · simp [stop]
  · simp [stop]

end Switch

/-- A word that is read as an option: it begins with a hyphen and does not end there. -/
def IsOption (word : String) : Prop := ∃ c rest, word.toList = '-' :: c :: rest

theorem isOption_hyphens : IsOption "--" := ⟨'-', [], rfl⟩

theorem Switch.GivenBy.isOption {s : Switch} {word : String} (given : s.GivenBy word) :
    IsOption word := by
  rcases given with ⟨rest, shape, -⟩ | ⟨letters, shape, cluster⟩
  · exact ⟨_, _, shape⟩
  · cases letters with
    | nil => exact absurd cluster not_inCluster_nil
    | cons c rest => exact ⟨c, rest, shape⟩

/-! ### One word -/

variable {scope : Scope} {x : Switch} {word : String} {words : List String} {letters : List Char}

theorem Scope.long?_eq_some {name : String} (known : scope.long? name = some x) : x.long = name := by
  simpa using List.find?_some known

theorem Scope.short?_eq_some {letter : Char} (known : scope.short? letter = some x) :
    x.short? = some letter := by
  simpa using List.find?_some known

theorem Scope.takesValue_program (known : x ∈ Scope.program.switches) :
    x.takesValue = true ↔ x = .logLevel := by
  cases x <;> revert known <;> decide

namespace Given

variable {g g₁ g' : Given} {new new' : Switch → Prop}

/-- The option has been given, though its value may be still to come. -/
def Holds (g : Given) (s : Switch) : Prop := g.has s = true ∨ ∃ value, g.pending = some (s, value)

/-- From a place where no value is awaited, options have been read. -/
structure Takes (g g' : Given) (new : Switch → Prop) : Prop where
  idle : g.awaitsValue = false
  holds : ∀ s, g'.Holds s ↔ g.Holds s ∨ new s
  escaped : g'.escaped = g.escaped

theorem Takes.trans (first : Takes g g₁ new) (second : Takes g₁ g' new') :
    Takes g g' fun s => new s ∨ new' s where
  idle := first.idle
  holds s := by rw [second.holds, first.holds, or_assoc]
  escaped := second.escaped.trans first.escaped

theorem Takes.congr (takes : Takes g g' new) (same : ∀ s, new s ↔ new' s) : Takes g g' new' where
  idle := takes.idle
  holds s := by rw [takes.holds, same]
  escaped := takes.escaped

theorem holds_iff_has (settled : g.pending = none) {s : Switch} : g.Holds s ↔ g.has s = true := by
  simp [Holds, settled]

theorem awaitsValue_of_none (settled : g.pending = none) : g.awaitsValue = false := by
  simp [awaitsValue, settled]

theorem add_ok {value : String} (added : g.add x value = .ok g') :
    (∀ s, g'.has s = true ↔ g.has s = true ∨ s = x) ∧ g'.pending = g.pending ∧
      g'.escaped = g.escaped := by
  unfold add at added
  split at added
  · exact nomatch added
  · split at added
    · obtain rfl := Except.ok.inj added
      exact ⟨fun s => by simp [has, eq_comm (a := s)], rfl, rfl⟩
    · exact nomatch added

theorem settle_ok (settled : g.settle = .ok g') :
    Takes g g' (fun _ => False) ∧ g'.pending = none := by
  unfold settle at settled
  split at settled
  case h_1 isNone =>
    obtain rfl := Except.ok.inj settled
    exact ⟨⟨awaitsValue_of_none isNone, by simp, rfl⟩, isNone⟩
  case h_2 => exact nomatch settled
  case h_3 s value isSome =>
    obtain ⟨has, pending, escaped⟩ := add_ok settled
    refine ⟨⟨by simp [awaitsValue, isSome], fun t => ?_, escaped⟩, pending⟩
    rw [holds_iff_has pending, has, or_false, Holds, isSome]
    simp [Given.has, eq_comm (a := t)]

theorem settle_add_ok {value : String} (settled : g.settle = .ok g₁)
    (added : g₁.add x value = .ok g') : Takes g g' (· = x) ∧ g'.pending = none := by
  obtain ⟨takes, isNone⟩ := settle_ok settled
  obtain ⟨has, pending, escaped⟩ := add_ok added
  have stays := pending.trans isNone
  refine ⟨⟨takes.idle, fun s => ?_, escaped.trans takes.escaped⟩, stays⟩
  rw [holds_iff_has stays, has, ← holds_iff_has isNone, takes.holds, or_false]

theorem flag_ok {isLong : Bool} (taken : flag scope g x isLong = .ok g') :
    Takes g g' (· = x) ∧ g'.pending = none := by
  obtain ⟨g₁, settled, taken⟩ := bind_eq_ok.mp taken
  have added : g₁.add x "" = .ok g' := by
    cases x <;> first | exact taken | exact nomatch taken
  exact settle_add_ok settled added

theorem valued_ok {value? : Option String} (taken : g.valued x value? = .ok g') :
    Takes g g' (· = x) ∧ (g'.awaitsValue = true ↔ value? = none) := by
  obtain ⟨g₁, settled, taken⟩ := bind_eq_ok.mp taken
  cases value? with
  | some value =>
    obtain ⟨takes, isNone⟩ := settle_add_ok settled taken
    exact ⟨takes, by simp [awaitsValue_of_none isNone]⟩
  | none =>
    obtain ⟨takes, isNone⟩ := settle_ok settled
    obtain rfl := Except.ok.inj taken
    refine ⟨⟨takes.idle, fun s => ?_, takes.escaped⟩, by simp [awaitsValue]⟩
    have has := takes.holds s
    rw [holds_iff_has isNone, or_false] at has
    rw [← has]
    simp [Holds, Given.has, eq_comm (a := s)]

theorem readLong_ok {name : String} {value? : Option String}
    (taken : g.readLong scope name value? = .ok g') : Takes g g' (·.long = name) ∧
      (scope = .program → (g'.awaitsValue = true ↔ (name, value?) = ("log-level", none))) := by
  unfold readLong at taken
  split at taken
  case h_1 => exact nomatch taken
  case h_2 x known =>
    have long := Scope.long?_eq_some known
    have congr (takes : Takes g g' (· = x)) : Takes g g' (·.long = name) :=
      takes.congr fun s => by rw [← long, Switch.long_inj]
    have level (is : scope = .program) : x.takesValue = true ↔ name = "log-level" := by
      subst is
      rw [Scope.takesValue_program (List.mem_of_find?_eq_some known), ← Switch.long_inj, long]
      rfl
    split at taken
    · rename_i takesValue
      obtain ⟨takes, awaits⟩ := valued_ok taken
      exact ⟨congr takes, fun is => by rw [awaits, Prod.mk.injEq, ← level is]; simp [takesValue]⟩
    · rename_i isFlag
      split at taken
      · exact nomatch taken
      · obtain ⟨takes, isNone⟩ := flag_ok taken
        refine ⟨congr takes, fun is => ?_⟩
        rw [awaitsValue_of_none isNone, Prod.mk.injEq, ← level is]
        simp [isFlag]

theorem readShort_ok (taken : readShort scope g letters = .ok g') :
    (letters = [] ∧ g' = g ∨ Takes g g' (·.InCluster letters)) ∧
      (scope = .program → g.awaitsValue = false → g'.awaitsValue = false) := by
  induction letters generalizing g with
  | nil =>
    obtain rfl := Except.ok.inj taken
    exact ⟨.inl ⟨rfl, rfl⟩, fun _ idle => idle⟩
  | cons letter rest ih =>
    unfold readShort at taken
    split at taken
    case h_1 => exact nomatch taken
    case h_2 x known =>
      have short := Scope.short?_eq_some known
      split at taken
      · rename_i takesValue
        have takes := (valued_ok taken).1
        refine ⟨.inr (takes.congr fun s => (Switch.inCluster_of_value short takesValue).symm), ?_⟩
        -- The only option of the program's own place with a value has no letter.
        rintro rfl
        rw [Scope.takesValue_program (List.mem_of_find?_eq_some known)] at takesValue
        rw [takesValue] at short
        exact nomatch short
      · rename_i isFlag
        have cluster (s : Switch) : s.InCluster (letter :: rest) ↔ s = x ∨ s.InCluster rest :=
          Switch.inCluster_of_flag short (by simpa using isFlag)
        obtain ⟨g₁, first, taken⟩ := bind_eq_ok.mp taken
        obtain ⟨first, isNone⟩ := flag_ok first
        obtain ⟨next, stays⟩ := ih taken
        refine ⟨.inr ?_, fun is _ => stays is (awaitsValue_of_none isNone)⟩
        rcases next with ⟨rfl, rfl⟩ | next
        · exact first.congr fun s => by simp [cluster, Switch.not_inCluster_nil]
        · exact (first.trans next).congr fun s => (cluster s).symm

theorem readPlain_ok (read : g.readPlain scope word = .ok g') :
    scope ≠ .program ∧ Takes g g' (fun _ => False) := by
  unfold readPlain at read
  dsimp only at read
  by_cases outer : scope = .program
  · rw [if_pos outer] at read
    exact nomatch read
  rw [if_neg outer] at read
  by_cases second : g.location.isSome
  · rw [if_pos second] at read
    exact nomatch read
  rw [if_neg second] at read
  obtain ⟨g₁, settled, read⟩ := bind_eq_ok.mp read
  obtain ⟨takes, -⟩ := settle_ok settled
  obtain rfl := Except.ok.inj read
  exact ⟨outer, takes.idle, takes.holds, takes.escaped⟩

/-- What a word does to a place that can read it. -/
inductive Reads (scope : Scope) (g : Given) (word : String) (g' : Given) : Prop
  | hyphens (inOptions : g.escaped = false) (is : word = "--")
      (after : g' = { g with escaped := true })
  | option (inOptions : g.escaped = false) (is : IsOption word) (isNot : word ≠ "--")
      (takes : Takes g g' (·.GivenBy word))
      (awaits : scope = .program → (g'.awaitsValue = true ↔ word = "--log-level"))
  | value (inOptions : g.escaped = false) (isNot : ¬IsOption word) (x : Switch)
      (pending : g.pending = some (x, none)) (after : g' = { g with pending := some (x, some word) })
  | location (is : g.escaped = true ∨ ¬IsOption word) (inner : scope ≠ .program)
      (takes : Takes g g' (fun _ => False))

theorem readWord_ok (read : g.readWord scope word = .ok g') : Reads scope g word g' := by
  unfold readWord at read
  split at read
  · rename_i escaped
    obtain ⟨inner, takes⟩ := readPlain_ok read
    exact .location (.inl escaped) inner takes
  rename_i inOptions
  replace inOptions : g.escaped = false := by simpa using inOptions
  split at read
  case h_1 shape =>
    exact .hyphens inOptions (String.toList_inj.mp shape) (Except.ok.inj read).symm
  case h_2 rest isNot shape =>
    obtain ⟨takes, awaits⟩ := readLong_ok read
    have level : word = "--log-level" ↔ rest = "log-level".toList := by
      rw [← String.toList_inj, shape]
      exact ⟨fun is => (List.cons.inj (List.cons.inj is).2).2, fun is => is ▸ rfl⟩
    refine .option inOptions ⟨_, _, shape⟩ ?_ (takes.congr fun s => ?_) fun is => ?_
    · rintro rfl
      exact isNot (List.cons.inj (List.cons.inj shape).2).2.symm
    · rw [Switch.givenBy_long shape, eq_comm]
    · rw [awaits is, level, ← Switch.splitLong_eq]
  case h_3 c rest _ single shape =>
    obtain ⟨takes, idle⟩ := readShort_ok read
    have takes := takes.resolve_left nofun
    refine .option inOptions ⟨_, _, shape⟩ ?_ (takes.congr fun s => ?_) fun is => ?_
    · rintro rfl
      exact single (List.cons.inj (List.cons.inj shape).2).1.symm
    · rw [Switch.givenBy_short shape single]
    · rw [idle is takes.idle]
      refine ⟨nofun, ?_⟩
      rintro rfl
      exact absurd (List.cons.inj (List.cons.inj shape).2).1.symm single
  case h_4 notOption =>
    have isNot : ¬IsOption word := fun ⟨c, rest, shape⟩ => notOption c rest shape
    split at read
    case h_1 x pending =>
      exact .value inOptions isNot x pending (Except.ok.inj read).symm
    case h_2 =>
      obtain ⟨inner, takes⟩ := readPlain_ok read
      exact .location (.inr isNot) inner takes

theorem Reads.holds (reads : Reads scope g word g') (s : Switch) :
    g'.Holds s ↔ g.Holds s ∨ g.escaped = false ∧ s.GivenBy word := by
  cases reads with
  | hyphens _ is after =>
    subst is after
    simp only [Switch.not_givenBy_hyphens, and_false, or_false]
    rfl
  | option inOptions _ _ takes => simp only [takes.holds, inOptions, true_and]
  | value _ isNot x pending after =>
    subst after
    simp [mt Switch.GivenBy.isOption isNot, Holds, has, pending]
  | location is _ takes =>
    rw [takes.holds]
    rcases is with escaped | isNot
    · simp [escaped]
    · simp [mt Switch.GivenBy.isOption isNot]

theorem Reads.escaped (reads : Reads scope g word g') :
    g'.escaped = false ↔ g.escaped = false ∧ word ≠ "--" := by
  have ne_of_not (isNot : ¬IsOption word) : word ≠ "--" := fun is => isNot (is ▸ isOption_hyphens)
  cases reads with
  | hyphens _ is after => simp [is, after]
  | option _ _ isNot takes => simp [takes.escaped, isNot]
  | value _ isNot x _ after => simp [after, ne_of_not isNot]
  | location is _ takes =>
    rw [takes.escaped]
    rcases is with escaped | isNot
    · simp [escaped]
    · simp [ne_of_not isNot]

/-! ### One side -/

theorem foldlM_holds (read : words.foldlM (readWord scope) g = .ok g') (s : Switch) :
    g'.Holds s ↔ g.Holds s ∨ g.escaped = false ∧ s.GivenIn words := by
  induction words generalizing g with
  | nil =>
    obtain rfl := Except.ok.inj read
    simp [Switch.not_givenIn_nil]
  | cons word words ih =>
    obtain ⟨g₁, first, rest⟩ := bind_eq_ok.mp read
    have reads := readWord_ok first
    rw [ih rest, reads.holds, reads.escaped, Switch.givenIn_cons]
    have ends : s.GivenBy word → word ≠ "--" := fun given is =>
      Switch.not_givenBy_hyphens (is ▸ given)
    grind

theorem checkConflicts_ok (checked : g.checkConflicts = .ok g') :
    g' = g ∧ ¬(g.has .verbose = true ∧ g.has .quiet = true) := by
  unfold checkConflicts at checked
  split at checked
  · exact nomatch checked
  · rename_i apart
    exact ⟨(Except.ok.inj checked).symm, by simpa using apart⟩

end Given

theorem readCommand_ok {g : Given} (read : readCommand scope words = .ok g) :
    (∀ s, g.has s = true ↔ s.GivenIn words) ∧ ¬(g.has .verbose = true ∧ g.has .quiet = true) := by
  obtain ⟨all, folded, read⟩ := bind_eq_ok.mp read
  obtain ⟨last, settled, read⟩ := bind_eq_ok.mp read
  obtain ⟨checked, agreed, read⟩ := bind_eq_ok.mp read
  have same : checked = g := by
    dsimp only at read
    split at read
    · exact nomatch read
    · exact Except.ok.inj read
  obtain ⟨takes, isNone⟩ := Given.settle_ok settled
  obtain ⟨rfl, apart⟩ := Given.checkConflicts_ok (same ▸ agreed)
  refine ⟨fun s => ?_, apart⟩
  rw [← Given.holds_iff_has isNone, takes.holds, Given.foldlM_holds folded]
  simp [Given.Holds, Given.has]

/-! ### Both sides -/

/-- Words before the command's name: options, and what follows the one that takes a value and is
given without. -/
inductive Leading : List String → Prop
  | nil : Leading []
  | option {word : String} {words : List String} (is : IsOption word) (notLast : word ≠ "--")
      (complete : word ≠ "--log-level") (rest : Leading words) : Leading (word :: words)
  | level {value : String} {words : List String} (isValue : ¬IsOption value)
      (rest : Leading words) : Leading ("--log-level" :: value :: words)

/-- The command's name among the words, and what stands on either side of it. -/
structure Split (words before : List String) (name : String) (after : List String) : Prop where
  all : words = before ++ name :: after
  leading : Leading before
  isName : (Scope.command? name).isSome = true

theorem command?_isSome {name : String} :
    (Scope.command? name).isSome = true ↔ name = "traverse" ∨ name = "diagram" := by
  unfold Scope.command?
  by_cases traverse : name = "traverse"
  · simp [traverse]
  · by_cases diagram : name = "diagram"
    · simp [diagram]
    · simp [traverse, diagram]

theorem not_isOption_of_command {name : String} (isName : (Scope.command? name).isSome = true) :
    ¬IsOption name := by
  rintro ⟨c, rest, shape⟩
  rcases command?_isSome.mp isName with rfl | rfl
  · exact nomatch (List.cons.inj shape).1
  · exact nomatch (List.cons.inj shape).1

theorem isOption_level : IsOption "--log-level" := ⟨'-', "log-level".toList, rfl⟩

theorem Split.unique {before before' after after' : List String} {name name' : String}
    (split : Split words before name after) (split' : Split words before' name' after') :
    before = before' ∧ name = name' ∧ after = after' := by
  obtain ⟨rfl, leading, isName⟩ := split
  obtain ⟨all, leading', isName'⟩ := split'
  have notOption := not_isOption_of_command isName
  have notOption' := not_isOption_of_command isName'
  -- No command's name is an option, so neither of the two can end before the other.
  induction leading generalizing before' with
  | nil =>
    cases leading' with
    | nil => simpa using all
    | option is => exact absurd ((List.cons.inj all).1 ▸ is) notOption
    | level => exact absurd ((List.cons.inj all).1 ▸ isOption_level) notOption
  | option is _ complete _ ih =>
    cases leading' with
    | nil => exact absurd ((List.cons.inj all).1 ▸ is) notOption'
    | option _ _ _ rest =>
      obtain ⟨first, tails⟩ := List.cons.inj all
      obtain ⟨rest, same⟩ := ih tails rest
      exact ⟨by rw [first, rest], same⟩
    | level => exact absurd (List.cons.inj all).1 complete
  | level _ _ ih =>
    cases leading' with
    | nil => exact absurd ((List.cons.inj all).1 ▸ isOption_level) notOption'
    | option _ _ complete => exact absurd (List.cons.inj all).1.symm complete
    | level _ rest =>
      obtain ⟨value, tails⟩ := List.cons.inj (List.cons.inj all).2
      obtain ⟨rest, same⟩ := ih tails rest
      exact ⟨by rw [value, rest], same⟩

theorem not_readProgram_of_escaped {g : Given} (escaped : g.escaped = true)
    {r : Given × Scope × Given} : readProgram g words ≠ .ok r := by
  intro read
  cases words with
  | nil =>
    obtain ⟨g₁, settled, read⟩ := bind_eq_ok.mp read
    exact nomatch read
  | cons word words =>
    unfold readProgram at read
    simp only [escaped, Bool.not_true, Bool.false_and, Bool.false_eq_true, if_false, Bool.true_or,
      if_true] at read
    obtain ⟨g₁, first, read⟩ := bind_eq_ok.mp read
    cases Given.readWord_ok first with
    | hyphens inOptions | option inOptions | value inOptions => simp [escaped] at inOptions
    | location _ inner => exact inner rfl

/-- What the program's place and the command's have given after all has been read. If the place still
wants a value when `words` begin, the option that takes it is the last one before them. -/
theorem readProgram_ok {g outer inner : Given} (inOptions : g.escaped = false)
    (read : readProgram g words = .ok (outer, scope, inner)) :
    ∃ before name after, words = before ++ name :: after ∧
      Leading ((if g.awaitsValue then ["--log-level"] else []) ++ before) ∧
      Scope.command? name = some scope ∧ readCommand scope after = .ok inner ∧
      (∀ s, outer.has s = true ↔ g.Holds s ∨ s.GivenIn before) ∧
      ¬(outer.has .verbose = true ∧ outer.has .quiet = true) := by
  induction words generalizing g with
  | nil =>
    obtain ⟨_, _, read⟩ := bind_eq_ok.mp read
    exact nomatch read
  | cons word words ih =>
    unfold readProgram at read
    split at read
    · exact nomatch read
    split at read
    case h_1 command known =>
      obtain ⟨inner', readInner, read⟩ := bind_eq_ok.mp read
      obtain ⟨last, settled, read⟩ := bind_eq_ok.mp read
      obtain ⟨checked, agreed, read⟩ := bind_eq_ok.mp read
      obtain ⟨rfl, rest⟩ := Prod.mk.inj (Except.ok.inj read)
      obtain ⟨rfl, rfl⟩ := Prod.mk.inj rest
      obtain ⟨takes, isNone⟩ := Given.settle_ok settled
      obtain ⟨rfl, apart⟩ := Given.checkConflicts_ok agreed
      rw [inOptions, takes.idle] at known
      refine ⟨[], word, words, rfl, ?_, known, readInner, fun s => ?_, apart⟩
      · rw [takes.idle]
        exact .nil
      · rw [← Given.holds_iff_has isNone, takes.holds]
        simp [Switch.not_givenIn_nil]
    case h_2 =>
      obtain ⟨next, first, read⟩ := bind_eq_ok.mp read
      have inOptions' : next.escaped = false := by
        simpa using fun escaped => not_readProgram_of_escaped escaped read
      obtain ⟨before, name, after, rfl, leading, rest⟩ := ih inOptions' read
      obtain ⟨isName, readInner, has, apart⟩ := rest
      have reads := Given.readWord_ok first
      have notLast := (reads.escaped.mp inOptions').2
      refine ⟨word :: before, name, after, rfl, ?_, isName, readInner, fun s => ?_, apart⟩
      -- An option may leave its value to the next word, which then is no option itself.
      · cases reads with
        | hyphens _ is => exact absurd is notLast
        | option _ is _ takes awaits =>
          rw [takes.idle]
          by_cases level : word = "--log-level"
          · rw [(awaits rfl).mpr level] at leading
            rw [level]
            exact leading
          · have complete := mt (awaits rfl).mp level
            rw [if_neg complete] at leading
            exact .option is notLast level leading
        | value _ isNot x pending after =>
          have awaits : g.awaitsValue = true := by simp [Given.awaitsValue, pending]
          have idle : next.awaitsValue = false := by simp [Given.awaitsValue, after]
          rw [idle] at leading
          rw [awaits]
          exact .level isNot leading
        | location _ inner => exact absurd rfl inner
      · rw [has, reads.holds, Switch.givenIn_cons]
        simp [inOptions, notLast, or_assoc]

variable {a : Arguments}

/-- Whether the options are set can be told from the words on each side of the command's name. The
words of one side never give both, so both are set exactly if one is given on each side. -/
theorem verbose_quiet_iff (accepted : Arguments.ofWords words = .ok a) :
    (∃ before name after, Split words before name after) ∧
    ∀ before name after, Split words before name after →
      (a.verbose = true ↔ Switch.verbose.GivenIn before ∨ Switch.verbose.GivenIn after) ∧
      (a.quiet = true ↔ Switch.quiet.GivenIn before ∨ Switch.quiet.GivenIn after) ∧
      ¬(Switch.verbose.GivenIn before ∧ Switch.quiet.GivenIn before) ∧
      ¬(Switch.verbose.GivenIn after ∧ Switch.quiet.GivenIn after) ∧
      (a.verbose = true ∧ a.quiet = true ↔
        Switch.verbose.GivenIn before ∧ Switch.quiet.GivenIn after ∨
          Switch.quiet.GivenIn before ∧ Switch.verbose.GivenIn after) := by
  obtain ⟨⟨outer, scope, inner⟩, read, is⟩ := bind_eq_ok.mp accepted
  obtain rfl := Except.ok.inj is
  obtain ⟨before, name, after, all, leading, known, readInner, hasOuter, apartOuter⟩ :=
    readProgram_ok rfl read
  obtain ⟨hasInner, apartInner⟩ := readCommand_ok readInner
  have split : Split words before name after := ⟨all, leading, by rw [known]; rfl⟩
  refine ⟨⟨_, _, _, split⟩, fun before' name' after' split' => ?_⟩
  obtain ⟨rfl, rfl, rfl⟩ := split.unique split'
  have none (s : Switch) : ¬Given.Holds {} s := by simp [Given.Holds, Given.has]
  simp only [hasOuter, hasInner, none, false_or, Bool.or_eq_true] at *
  grind

/-- What is read where the two options stand on different sides. -/
theorem ofWords_apart : Arguments.ofWords ["-q", "traverse", ".", "-v"] =
    .ok ⟨.traverse "." .human none false, none, true, true⟩ := by
  rfl

theorem verbose_quiet_iff_apart :
    ∃ a, Arguments.ofWords ["-q", "traverse", ".", "-v"] = .ok a ∧
      Split ["-q", "traverse", ".", "-v"] ["-q"] "traverse" [".", "-v"] ∧
      Switch.quiet.GivenIn ["-q"] ∧ Switch.verbose.GivenIn [".", "-v"] ∧
      a.verbose = true ∧ a.quiet = true := by
  have split : Split ["-q", "traverse", ".", "-v"] ["-q"] "traverse" [".", "-v"] :=
    ⟨rfl, .option ⟨'q', [], rfl⟩ (by decide) (by decide) .nil, rfl⟩
  have quiet : Switch.quiet.GivenIn ["-q"] :=
    ⟨"-q", by decide, .inr ⟨['q'], rfl, [], 'q', [], rfl, rfl, List.forall_mem_nil _⟩⟩
  have verbose : Switch.verbose.GivenIn [".", "-v"] :=
    ⟨"-v", by decide, .inr ⟨['v'], rfl, [], 'v', [], rfl, rfl, List.forall_mem_nil _⟩⟩
  obtain ⟨-, told⟩ := verbose_quiet_iff ofWords_apart
  obtain ⟨-, -, -, -, both⟩ := told _ _ _ split
  exact ⟨_, ofWords_apart, split, quiet, verbose, both.mpr (.inr ⟨quiet, verbose⟩)⟩

theorem verbose_and_quiet : ¬∀ a, Arguments.ofWords ["-q", "traverse", ".", "-v"] = .ok a →
    ¬(a.verbose = true ∧ a.quiet = true) :=
  fun claim => claim _ ofWords_apart ⟨rfl, rfl⟩

end OrchestrationGraph.CommandLine
