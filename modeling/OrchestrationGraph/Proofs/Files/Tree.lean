import OrchestrationGraph.Files.Tree
import OrchestrationGraph.Proofs.Text.ByteOrder

/-!
# Walks through trees

A walk comes by the files that can be reached without entering an excluded folder, and by no others
(`mem_walk_iff`). If the names ascend in each folder, so do the ways of the whole walk
(`ascending_walk`): a folder's way is the front of the ways below it, and all ways through one entry
are before all ways through the next.
-/

namespace OrchestrationGraph

/-- The bytes of each name on a way. -/
def wayBytes (names : List String) : List (List UInt8) := names.map Text.bytes

theorem wayBytes_cons_lt (name : String) {names names' : List String}
    (less : wayBytes names < wayBytes names') :
    wayBytes (name :: names) < wayBytes (name :: names') :=
  List.cons_lt_cons_iff.mpr (.inr ⟨rfl, less⟩)

namespace Tree

/-- The names lead to a file, and no folder that they go into is excluded. -/
inductive Reaches : Tree → List String → Prop
  | file : Reaches .file []
  | entry {entries : List (String × Tree)} {name : String} {t : Tree} {names : List String}
      (here : (name, t) ∈ entries) (enters : (t.isFolder && isExcluded name) = false)
      (reaches : Reaches t names) : Reaches (.folder entries) (name :: names)

/-- In each folder the bytes of the names ascend. -/
inductive Ascending : Tree → Prop
  | file : Ascending .file
  | other : Ascending .other
  | folder {entries : List (String × Tree)}
      (inOrder : entries.Pairwise fun e f => Text.bytes e.1 < Text.bytes f.1)
      (each : ∀ e ∈ entries, Ascending e.2) : Ascending (.folder entries)

variable {names : List String} {t : Tree}

/-- The part of a folder's walk that goes through one entry. -/
def walkEntry (e : String × Tree) : List Visit :=
  if e.2.isFolder && isExcluded e.1 then [] else e.2.walk.map (Visit.below e.1)

theorem walkEntries_eq (entries : List (String × Tree)) :
    walkEntries entries = entries.flatMap walkEntry := by
  induction entries with
  | nil => rw [walkEntries, List.flatMap_nil]
  | cons e entries ih =>
    rw [walkEntries, ih, List.flatMap_cons]
    rfl

theorem walk_folder (entries : List (String × Tree)) :
    walk (.folder entries) = ⟨[], false⟩ :: entries.flatMap walkEntry := by
  rw [walk, walkEntries_eq]

theorem mem_walkEntry {e : String × Tree} {v : Visit} : v ∈ walkEntry e ↔
    (e.2.isFolder && isExcluded e.1) = false ∧ ∃ w ∈ e.2.walk, w.below e.1 = v := by
  unfold walkEntry
  split
  · rename_i excluded
    simp [excluded]
  · rename_i entered
    simp [Bool.eq_false_iff.mpr entered]

/-! ### What is come by -/

theorem mem_walk_iff : ⟨names, true⟩ ∈ t.walk ↔ t.Reaches names := by
  induction names generalizing t with
  | nil =>
    cases t with
    | file => exact iff_of_true (by simp [walk]) .file
    | other => exact iff_of_false (by simp [walk]) nofun
    | folder entries =>
      refine iff_of_false (fun here => ?_) nofun
      rw [walk_folder, List.mem_cons] at here
      rcases here with root | below
      · cases root
      · obtain ⟨e, -, here⟩ := List.mem_flatMap.mp below
        obtain ⟨-, w, -, same⟩ := mem_walkEntry.mp here
        cases same
  | cons name names ih =>
    cases t with
    | file => exact iff_of_false (by simp [walk]) nofun
    | other => exact iff_of_false (by simp [walk]) nofun
    | folder entries =>
      rw [walk_folder, List.mem_cons]
      constructor
      · rintro (root | below)
        · cases root
        · obtain ⟨e, he, here⟩ := List.mem_flatMap.mp below
          obtain ⟨enters, ⟨_, _⟩, hw, same⟩ := mem_walkEntry.mp here
          cases same
          exact .entry he enters (ih.mp hw)
      · rintro (_ | ⟨here, enters, reaches⟩)
        exact .inr (List.mem_flatMap.mpr ⟨_, here, mem_walkEntry.mpr ⟨enters, _, ih.mpr reaches, rfl⟩⟩)

/-! ### In which order -/

theorem ascending_walk (ascending : t.Ascending) :
    t.walk.Pairwise fun v w => wayBytes v.names < wayBytes w.names := by
  induction ascending with
  | file => simp [walk]
  | other => simp [walk]
  | @folder entries inOrder each ih =>
    rw [walk_folder, List.pairwise_cons, List.pairwise_flatMap]
    refine ⟨fun v below => ?_, fun e he => ?_, inOrder.imp fun less v hv w hw => ?_⟩
    · obtain ⟨e, -, here⟩ := List.mem_flatMap.mp below
      obtain ⟨-, w, -, rfl⟩ := mem_walkEntry.mp here
      exact List.nil_lt_cons _ _
    · unfold walkEntry
      split
      · exact .nil
      · exact List.pairwise_map.mpr ((ih e he).imp fun less => wayBytes_cons_lt _ less)
    · obtain ⟨-, v, -, rfl⟩ := mem_walkEntry.mp hv
      obtain ⟨-, w, -, rfl⟩ := mem_walkEntry.mp hw
      exact List.cons_lt_cons_iff.mpr (.inl less)

end Tree

end OrchestrationGraph
