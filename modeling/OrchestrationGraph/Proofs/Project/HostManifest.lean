import Mathlib.Logic.Function.Iterate
import OrchestrationGraph.Machine.Basic
import OrchestrationGraph.Proofs.Files.Tree
import OrchestrationGraph.Proofs.Project.Course

/-!
# The uppermost host manifest

A search that nobody stops finds no host manifest exactly if none can be reached, and else the
uppermost one, of those equally far up the one whose way has the least bytes (`find_uppermost`). What
it holds is that of the entries seen so far (`Holds`). A search at standard input comes by nothing,
though a folder of that name may hold a host manifest (`find_standardInput_misses`).
-/

namespace OrchestrationGraph

variable {σ : Type} {c : Context σ} {s s' : Session σ}

/-- Nobody asks the traversal to stop, however often the host is asked. -/
def Context.Undisturbed (c : Context σ) (s : Session σ) : Prop :=
  ∀ n, c.GoesOn ((fun t => t.done c.host.isInterrupted)^[n] s)

theorem Context.Undisturbed.goesOn (undisturbed : c.Undisturbed s) : c.GoesOn s := undisturbed 0

theorem Context.Undisturbed.done (undisturbed : c.Undisturbed s) :
    c.Undisturbed (s.done c.host.isInterrupted) := fun n => undisturbed (n + 1)

/-- The way is shorter, or it is as long and its bytes are less. -/
def Precedes (names names' : List String) : Prop :=
  names.length < names'.length ∨ names.length = names'.length ∧ wayBytes names < wayBytes names'

instance (names names' : List String) : Decidable (Precedes names names') :=
  inferInstanceAs (Decidable (_ ∨ _))

namespace HostManifest

variable {root : String} {v : Visit} {seen visits : List Visit} {best : Option Visit}

/-- What the search holds after some entries: the first of the uppermost host manifests among them. -/
def Holds (root : String) (seen : List Visit) : Option Visit → Prop
  | none => ∀ v ∈ seen, isOne root v = false
  | some b => b ∈ seen ∧ isOne root b = true ∧
      ∀ v ∈ seen, isOne root v = true → b = v ∨ Precedes b.names v.names

theorem holds_next (held : Holds root seen best)
    (later : ∀ u ∈ seen, wayBytes u.names < wayBytes v.names) :
    Holds root (seen ++ [v]) (if isOne root v then better best v else best) := by
  have among {u : Visit} : u ∈ seen ++ [v] ↔ u ∈ seen ∨ u = v := by simp
  split
  · rename_i isOne
    cases best with
    | none =>
      refine ⟨among.mpr (.inr rfl), isOne, fun u hu is => ?_⟩
      rcases among.mp hu with before | rfl
      · exact absurd is (by simp [held u before])
      · exact .inl rfl
    | some b =>
      obtain ⟨hb, isOne', first⟩ := held
      unfold better
      dsimp only
      split
      · rename_i higher
        refine ⟨among.mpr (.inr rfl), isOne, fun u hu is => ?_⟩
        rcases among.mp hu with before | rfl
        · have least : b.depth ≤ u.depth := by
            rcases first u before is with rfl | less | ⟨same, -⟩
            · exact Nat.le_refl _
            · exact Nat.le_of_lt less
            · exact Nat.le_of_eq same
          exact .inr (.inl (Nat.lt_of_lt_of_le higher least))
        · exact .inl rfl
      · rename_i lower
        refine ⟨among.mpr (.inl hb), isOne', fun u hu is => ?_⟩
        rcases among.mp hu with before | rfl
        · exact first u before is
        · refine .inr ?_
          rcases Nat.lt_or_eq_of_le (Nat.le_of_not_lt lower) with less | same
          · exact .inl less
          · exact .inr ⟨same, later b hb⟩
  · rename_i other
    cases best with
    | none =>
      intro u hu
      rcases among.mp hu with before | rfl
      · exact held u before
      · exact Bool.eq_false_iff.mpr other
    | some b =>
      obtain ⟨hb, isOne, first⟩ := held
      refine ⟨among.mpr (.inl hb), isOne, fun u hu is => ?_⟩
      rcases among.mp hu with before | rfl
      · exact first u before is
      · exact absurd is other

/-- A search that nobody stops holds the first of the uppermost ones of all entries in the end. -/
theorem yields_search (undisturbed : c.Undisturbed s) (held : Holds root seen best)
    (inOrder : (seen ++ visits).Pairwise fun v w => wayBytes v.names < wayBytes w.names) :
    ∃ best' s', Yields (search c root best visits) s best' s' ∧ Holds root (seen ++ visits) best' := by
  induction visits generalizing s seen best with
  | nil => exact ⟨best, s, yields_pure.mpr ⟨rfl, rfl⟩, by rwa [List.append_nil]⟩
  | cons v visits ih =>
    have later : ∀ u ∈ seen, wayBytes u.names < wayBytes v.names := fun u hu =>
      (List.pairwise_append.mp inOrder).2.2 u hu v List.mem_cons_self
    rw [List.append_cons] at inOrder ⊢
    obtain ⟨best', s', yields, holds⟩ := ih undisturbed.done (holds_next held later) inOrder
    exact ⟨best', s', yields_bind.mpr
      ⟨(), _, yields_checkpoint.mpr ⟨undisturbed.goesOn, rfl⟩, yields⟩, holds⟩

/-- The names lead to a file that has the name of host manifests, in whatever case. The root itself
has the name of its path. -/
def LeadsToOne (root : String) (t : Tree) (names : List String) : Prop :=
  t.Reaches names ∧ Text.sameIgnoringCase
    (names.getLast?.getD ((Path.fileName? root).getD root)) "host.json" = true

variable {t : Tree} {names : List String}

theorem leadsToOne_iff :
    LeadsToOne root t names ↔ ⟨names, true⟩ ∈ t.walk ∧ isOne root ⟨names, true⟩ = true :=
  and_congr_left' Tree.mem_walk_iff.symm

theorem leadsToOne_of_isOne (here : v ∈ t.walk) (is : isOne root v = true) :
    LeadsToOne root t v.names := by
  obtain ⟨names, isFile⟩ := v
  obtain rfl : isFile = true := ((Bool.and_eq_true ..).mp is).1
  exact leadsToOne_iff.mpr ⟨here, is⟩

theorem holds_none_iff (held : Holds root t.walk best) :
    best = none ↔ ∀ names, ¬ LeadsToOne root t names := by
  cases best with
  | none =>
    refine iff_of_true rfl fun names leads => ?_
    obtain ⟨here, is⟩ := leadsToOne_iff.mp leads
    exact absurd is (by simp [held _ here])
  | some b =>
    refine iff_of_false nofun fun nowhere => ?_
    exact nowhere b.names (leadsToOne_of_isOne held.1 held.2.1)

theorem holds_some {b : Visit} (held : Holds root t.walk (some b)) : LeadsToOne root t b.names ∧
    ∀ names, LeadsToOne root t names → b.names = names ∨ Precedes b.names names := by
  obtain ⟨here, is, first⟩ := held
  refine ⟨leadsToOne_of_isOne here is, fun names leads => ?_⟩
  obtain ⟨here', is'⟩ := leadsToOne_iff.mp leads
  exact (first _ here' is').imp_left (congrArg Visit.names)

theorem run_visits (c : Context σ) (root : String) (s : Session σ) : (c.visits root).run s =
    (if Path.same root standardInput then [⟨[], false⟩]
      else match c.host.tree root s.state with
        | .ok t => t.walk
        | .error _ => [⟨[], false⟩], s) := by
  unfold Context.visits
  split
  · rfl
  · rw [Step.run_bind, run_ask]
    cases c.host.tree root s.state <;> rfl

theorem yields_find {found : Option String} : Yields (find c root) s found s' ↔
    ∃ best, Yields (search c root none ((c.visits root).run s).1) s best s' ∧
      best.map (Visit.path root) = found := by
  unfold find
  simp only [yields_bind, yields_lift, yields_pure, run_visits]
  constructor
  · rintro ⟨_, _, ⟨rfl, rfl⟩, best, _, searched, rfl, rfl⟩
    exact ⟨best, searched, rfl⟩
  · rintro ⟨best, searched, rfl⟩
    exact ⟨_, _, ⟨rfl, rfl⟩, best, _, searched, rfl, rfl⟩

/-- No host manifest is found exactly if none can be reached or the search is at standard input. One
that is found precedes all others that can be reached. -/
theorem find_uppermost (there : c.host.tree root s.state = .ok t) (ascending : t.Ascending)
    (undisturbed : c.Undisturbed s) : ∃ found s', Yields (find c root) s found s' ∧
      (found = none ↔
        Path.same root standardInput = true ∨ ∀ names, ¬ LeadsToOne root t names) ∧
      ∀ path, found = some path → ∃ names, path = Path.joinAll root names ∧
        LeadsToOne root t names ∧
          ∀ names', LeadsToOne root t names' → names = names' ∨ Precedes names names' := by
  have start (visits : List Visit)
      (inOrder : visits.Pairwise fun v w => wayBytes v.names < wayBytes w.names) :
      ∃ best s', Yields (search c root none visits) s best s' ∧ Holds root visits best := by
    have held : Holds root [] none := nofun
    exact yields_search undisturbed held inOrder
  cases isInput : Path.same root standardInput with
  | true =>
    obtain ⟨best, s', searched, held⟩ := start [⟨[], false⟩] (List.pairwise_singleton ..)
    have none : best = none := by
      cases best with
      | none => rfl
      | some b =>
        obtain ⟨here, is, -⟩ := held
        obtain rfl := List.mem_singleton.mp here
        exact absurd is nofun
    subst none
    refine ⟨none, s', yields_find.mpr ⟨none, ?_, rfl⟩, by simp, nofun⟩
    rwa [run_visits, if_pos isInput]
  | false =>
    obtain ⟨best, s', searched, held⟩ := start t.walk (Tree.ascending_walk ascending)
    refine ⟨best.map (Visit.path root), s', yields_find.mpr ⟨best, ?_, rfl⟩, ?_, ?_⟩
    · rwa [run_visits, if_neg (by simp [isInput]), there]
    · simp [holds_none_iff held]
    · intro path found
      obtain ⟨b, rfl, rfl⟩ := Option.map_eq_some_iff.mp found
      exact ⟨b.names, rfl, holds_some held⟩

/-! A project with host manifests in an excluded folder, in one further down, and in two of one
depth; a folder in its root has their name as well. The disk has one more in a folder with the name of
standard input. -/

def smallDisk : Machine.Item := .folder [
  ("-", .folder [("host.json", .ofText "\x7b\x7d")]),
  ("p", .folder [
    (".GIT", .folder [("host.json", .ofText "\x7b\x7d")]),
    ("A", .folder [("z", .folder [("host.json", .ofText "\x7b\x7d")])]),
    ("B", .folder [("HOST.json", .ofText "\x7b\x7d"), ("obj", .ofText "")]),
    ("a", .folder [("host.json", .ofText "\x7b\x7d")]),
    ("host.json", .folder [])])]

def smallProject : Tree := .folder [
  (".GIT", .folder [("host.json", .file)]),
  ("A", .folder [("z", .folder [("host.json", .file)])]),
  ("B", .folder [("HOST.json", .file), ("obj", .file)]),
  ("a", .folder [("host.json", .file)]),
  ("host.json", .folder [])]

def onMachine : Context Machine := { host := Machine.host }

def small : Session Machine := { state := { disk := { root := smallDisk } } }

/-- A path of one name leads to the folder that has that name at the top of the small disk. -/
theorem tree_small (path name : String) {entries : List (String × Machine.Item)}
    (steps : Machine.Disk.steps path = [name])
    (named : path.toList.contains (Char.ofNat 0) = false ∧ path.isEmpty = false ∧
      Text.byteLength path.toList < Machine.Disk.pathBound)
    (plain : name ≠ "." ∧ name ≠ ".." ∧ Text.byteLength name.toList ≤ Machine.Disk.nameBound)
    (here : Dictionary.lookup name smallDisk.entries = some (.folder entries)) :
    Machine.host.tree path small.state = .ok (.folder (Machine.Item.treeEntries entries)) := by
  have isFolder : smallDisk.get? [] = some (.folder smallDisk.entries) := rfl
  have there : smallDisk.get? [name] = some (.folder entries) := by
    rw [Machine.Item.get?, here]
    rfl
  have follows : Machine.Disk.follow smallDisk true Machine.Disk.linkBound [] [name] =
      .ok ([name], some (.folder entries)) := by
    unfold Machine.Disk.follow
    simp only [isFolder, plain.1, plain.2.1, plain.2.2.not_gt, here, ↓reduceIte, List.nil_append]
    rw [Machine.Disk.follow, there]
  have resolved : small.state.disk.resolve true path = .ok ([name], some (.folder entries)) := by
    rw [Machine.Disk.resolve, named.1, named.2.1, if_neg Bool.false_ne_true,
      if_neg Bool.false_ne_true, if_neg named.2.2.not_ge, steps, ← follows]
    exact congrArg (fun place => Machine.Disk.follow smallDisk true _ place [name]) (ite_self _)
  unfold Machine.host Machine.Disk.item
  dsimp only
  rw [resolved, ← Machine.Item.tree]
  rfl

theorem ascending_smallProject : smallProject.Ascending := by
  have single {name : String} {t : Tree} (ascending : t.Ascending) :
      Tree.Ascending (.folder [(name, t)]) :=
    .folder (List.pairwise_singleton ..) (by simpa using ascending)
  have pair : Tree.Ascending (.folder [("HOST.json", .file), ("obj", .file)]) := by
    refine .folder (by decide +kernel) ?_
    simp only [List.forall_mem_cons]
    exact ⟨.file, .file, List.forall_mem_nil _⟩
  refine .folder (by decide +kernel) ?_
  simp only [List.forall_mem_cons]
  have empty : Tree.Ascending (.folder []) := .folder .nil (List.forall_mem_nil _)
  exact ⟨single .file, single (single .file), pair, single .file, empty, List.forall_mem_nil _⟩

theorem sameIgnoringCase_of_lower {s s' : String}
    (same : s.toList.map Char.toLower = s'.toList.map Char.toLower) :
    Text.sameIgnoringCase s s' = true := by
  rw [Text.sameIgnoringCase, beq_iff_eq, ← String.toList_inj, Text.asciiLower, Text.asciiLower,
    String.toList_map, String.toList_map, same]

theorem walk_smallProject : smallProject.walk = [⟨[], false⟩, ⟨["A"], false⟩, ⟨["A", "z"], false⟩,
    ⟨["A", "z", "host.json"], true⟩, ⟨["B"], false⟩, ⟨["B", "HOST.json"], true⟩,
    ⟨["B", "obj"], true⟩, ⟨["a"], false⟩, ⟨["a", "host.json"], true⟩, ⟨["host.json"], false⟩] := by
  have excluded : isExcluded ".GIT" = true :=
    List.any_eq_true.mpr
      ⟨".git", by simp [excludedFolders], sameIgnoringCase_of_lower (by decide)⟩
  have entered : ∀ name ∈ ["A", "z", "B", "a", "host.json"], isExcluded name = false := by
    decide +kernel
  simp only [List.forall_mem_cons] at entered
  simp only [smallProject, Tree.walk, Tree.walkEntries, Tree.isFolder, excluded, entered]
  rfl

theorem undisturbed_small : onMachine.Undisturbed small := by
  intro n
  have same : (fun t : Session Machine => t.done Machine.host.isInterrupted)^[n] small = small :=
    Function.iterate_fixed rfl n
  exact congrArg (fun t : Session Machine => t.state.interrupted) same

theorem find_uppermost_small : Machine.host.tree "/p" small.state = .ok smallProject ∧
    smallProject.Ascending ∧ onMachine.Undisturbed small ∧
      ∃ s', Yields (find onMachine "/p") small (some "/p/B/HOST.json") s' := by
  have there : Machine.host.tree "/p" small.state = .ok smallProject := by
    rw [tree_small "/p" "p" (by decide +kernel) (by decide +kernel) (by decide +kernel) rfl]
    simp only [Machine.Item.treeEntries, Machine.Item.tree, Machine.Item.ofText, smallProject]
  refine ⟨there, ascending_smallProject, undisturbed_small, ?_⟩
  obtain ⟨found, s', yields, isNone, first⟩ :=
    find_uppermost there ascending_smallProject undisturbed_small
  have named : Visit.name "/p" ⟨["B", "HOST.json"], true⟩ = "HOST.json" := by decide +kernel
  have isOne_upper : isOne "/p" ⟨["B", "HOST.json"], true⟩ = true := by
    rw [isOne, named, fileName, sameIgnoringCase_of_lower (by decide), Bool.and_true]
  have leads : LeadsToOne "/p" smallProject ["B", "HOST.json"] :=
    leadsToOne_iff.mpr ⟨by rw [walk_smallProject]; decide, isOne_upper⟩
  have least : ∀ v ∈ smallProject.walk, v.isFile = true →
      Precedes v.names ["B", "HOST.json"] → isOne "/p" v = false := by
    rw [walk_smallProject]
    decide +kernel
  refine ⟨s', ?_⟩
  cases found with
  | none =>
    rcases isNone.mp rfl with isInput | nowhere
    · exact absurd isInput (by decide +kernel)
    · exact absurd leads (nowhere _)
  | some path =>
    obtain ⟨names, rfl, leads', before⟩ := first path rfl
    obtain ⟨here, is⟩ := leadsToOne_iff.mp leads'
    have path : Path.joinAll "/p" ["B", "HOST.json"] = "/p/B/HOST.json" := by decide +kernel
    rcases before _ leads with rfl | precedes
    · rwa [path] at yields
    · exact absurd is (by simp [least _ here rfl precedes])

theorem find_standardInput_misses :
    Machine.host.tree "-" small.state = .ok (.folder [("host.json", .file)]) ∧
      onMachine.Undisturbed small ∧ LeadsToOne "-" (.folder [("host.json", .file)]) ["host.json"] ∧
      ∃ s', Yields (find onMachine "-") small none s' := by
  have reaches : Tree.Reaches (.folder [("host.json", .file)]) ["host.json"] :=
    .entry List.mem_cons_self rfl .file
  have there : Machine.host.tree "-" small.state = .ok (.folder [("host.json", .file)]) := by
    rw [tree_small "-" "-" (by decide +kernel) (by decide +kernel) (by decide +kernel) rfl]
    simp only [Machine.Item.treeEntries, Machine.Item.tree, Machine.Item.ofText]
  exact ⟨there, undisturbed_small, ⟨reaches, by decide +kernel⟩, small, rfl⟩

end HostManifest

end OrchestrationGraph
