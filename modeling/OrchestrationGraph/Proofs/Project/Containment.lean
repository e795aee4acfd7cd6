import OrchestrationGraph.Project.Location
import OrchestrationGraph.Proofs.Files.Path

/-!
# Where a clone comes to lie

A repository is cloned into a folder that its address names, and the search starts in further
folders that the address of a tree names. All of these are single pieces of a path, but an address
may end in dots: the clone lies below the folder made for it exactly if the name is none of the two
that consist of dots, and the search then stays within the clone exactly if the folders never go up
more often than down (`clone_below_iff`).
-/

namespace OrchestrationGraph.Location

open OrchestrationGraph.Path

variable {s url : String} {folders : List String}

/-! ### Names from addresses -/

theorem isPiece_ofList {l : List Char} (nonempty : l ≠ []) (noSlash : '/' ∉ l) :
    IsPiece (String.ofList l) := by
  refine ⟨?_, by simpa using noSlash⟩
  intro empty
  exact nonempty (by simpa using congrArg String.toList empty)

theorem isPiece_of_mem_segments {l : List Char} (here : s ∈ segments l) : IsPiece s := by
  unfold segments at here
  obtain ⟨piece, kept, rfl⟩ := List.mem_map.mp here
  obtain ⟨isPiece, nonempty⟩ := List.mem_filter.mp kept
  refine isPiece_ofList (by simpa using nonempty) fun slash => ?_
  simpa using Text.of_mem_piecesBy isPiece '/' slash

/-- The name for a clone is one piece of a path, whatever the address. -/
theorem isPiece_repositoryName (url : String) : IsPiece (repositoryName url) := by
  unfold repositoryName
  generalize pieces : Text.piecesBy (fun c => c = '/' || c = ':') (withoutSlashes url.toList) = l
  have noSlash : '/' ∉ l.getLast?.getD [] := by
    cases last : l.getLast? with
    | none => simp
    | some piece =>
      intro slash
      have isPiece : piece ∈ l := List.mem_of_getLast? last
      exact absurd (Text.of_mem_piecesBy (pieces ▸ isPiece) '/' slash) (by decide)
  dsimp only
  split
  · exact ⟨by decide, by decide +kernel⟩
  · rename_i nonempty
    refine isPiece_ofList (by simpa using nonempty) fun slash => noSlash ?_
    cases cut : Text.dropTail? repositoryEnding (l.getLast?.getD []) with
    | none => simpa [cut] using slash
    | some front =>
      rw [Text.dropTail?_eq_some_iff.mp cut]
      exact List.mem_append_left _ (by simpa [cut] using slash)

theorem isPiece_of_ofText (isRepository : ofText s = .repository url folders) :
    ∀ f ∈ folders, IsPiece f := by
  intro f here
  unfold ofText at isRepository
  dsimp only at isRepository
  split at isRepository
  · exact absurd isRepository nofun
  · split at isRepository
    · obtain ⟨-, rfl⟩ := Location.repository.inj isRepository
      exact isPiece_of_mem_segments here
    · obtain ⟨-, rfl⟩ := Location.repository.inj isRepository
      exact absurd here nofun

/-! ### The clone -/

/-- The clone lies below `root` exactly if its name is a name, and then the search stays within the
clone, all on its way, exactly if no folders lead out of it. -/
theorem clone_below_iff (s url : String) (folders : List String)
    (isRepository : ofText s = .repository url folders) (root : String) :
    (Below (join root (repositoryName url)) root ↔ IsName (repositoryName url)) ∧
      (IsName (repositoryName url) →
        ((∀ way, way <+: folders →
            Within (joinAll (join root (repositoryName url)) way) (join root (repositoryName url))) ↔
          DescendsFrom 0 folders)) := by
  have isPiece := isPiece_repositoryName url
  exact ⟨below_join_iff isPiece,
    fun isName => within_iff_descends isPiece isName (isPiece_of_ofText isRepository)⟩

theorem ofText_tree : ofText "https://host/org/repo/tree/main/sub/../dir" =
    .repository "https://host/org/repo.git" ["sub", "..", "dir"] := by
  decide +kernel

/-- A tree whose folders go down, up and down again. -/
theorem clone_below_iff_tree :
    ofText "https://host/org/repo/tree/main/sub/../dir" =
        .repository "https://host/org/repo.git" ["sub", "..", "dir"] ∧
      IsName (repositoryName "https://host/org/repo.git") ∧
      Below (join "/tmp/clone" (repositoryName "https://host/org/repo.git")) "/tmp/clone" ∧
      ∀ way, way <+: ["sub", "..", "dir"] →
        Within (joinAll (join "/tmp/clone" (repositoryName "https://host/org/repo.git")) way)
          (join "/tmp/clone" (repositoryName "https://host/org/repo.git")) := by
  have isName : IsName (repositoryName "https://host/org/repo.git") := by decide +kernel
  have descends : DescendsFrom 0 ["sub", "..", "dir"] := by
    rw [descendsFrom_name (by decide), descendsFrom_up, descendsFrom_name (by decide)]
    exact ⟨Nat.one_pos, descendsFrom_nil⟩
  obtain ⟨below, within⟩ := clone_below_iff _ _ _ ofText_tree "/tmp/clone"
  exact ⟨ofText_tree, isName, below.mpr isName, (within isName).mpr descends⟩

/-- Two dots at the end of an address lead a clone, and two dots at the end of a tree lead a search,
to the folder above. -/
theorem clone_not_below :
    (ofText "https://host/org/.." = .repository "https://host/org/...git" [] ∧
      ¬ Below (join "/tmp/clone" (repositoryName "https://host/org/...git")) "/tmp/clone") ∧
    (ofText "https://host/org/repo/tree/main/.." = .repository "https://host/org/repo.git" [".."] ∧
      ¬ Within (joinAll (join "/tmp/clone" (repositoryName "https://host/org/repo.git")) [".."])
        (join "/tmp/clone" (repositoryName "https://host/org/repo.git"))) := by
  have dots : repositoryName "https://host/org/...git" = ".." := by decide +kernel
  have repo : repositoryName "https://host/org/repo.git" = "repo" := by decide +kernel
  refine ⟨⟨by decide +kernel, ?_⟩, by decide +kernel, ?_⟩
  · rw [below_join_iff (isPiece_repositoryName _), dots]
    decide
  · have above : resolve (joinAll (join "/tmp/clone" "repo") [".."]) = ["/", "tmp", "clone"] := by
      decide +kernel
    have target : resolve (join "/tmp/clone" "repo") = ["/", "tmp", "clone", "repo"] := by
      decide +kernel
    rw [repo]
    rintro ⟨names, same, _⟩
    rw [above, target] at same
    simp at same

end OrchestrationGraph.Location
