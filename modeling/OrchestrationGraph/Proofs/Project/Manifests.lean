import OrchestrationGraph.Proofs.Graph.Keyed
import OrchestrationGraph.Proofs.Project.Step
import OrchestrationGraph.Project.Catalog

/-!
# Where the functions of a catalog come from

Reading manifests and putting together what they say can be told apart (`readFolders_run`). So a
catalog holds functions of manifests that could be read and understood, each under its own name
(`Collected`).
-/

namespace OrchestrationGraph.Catalog

variable {σ : Type}

/-- What an attempt to read a manifest gave, with the name of its folder. -/
abbrev Attempt : Type := String × Except FileError String

def manifestPath (working name : String) : String :=
  Path.join (Path.join working name) Manifest.fileName

/-- What is told of an attempt. -/
def tell (c : Context σ) (name path : String) : Finding → Step σ Unit
  | .nothing => pure ()
  | .broken error => c.report (.manifestFailed path error)
  | .function m => note (.manifestLoaded name m.bindings.length)

/-- Attempts to read the manifests in the folders, one after the other. -/
def readManifests (c : Context σ) (working : String) : List String → Step σ (List Attempt)
  | [] => return []
  | name :: names => do
    let read ← ask (c.host.readText (manifestPath working name))
    tell c name (manifestPath working name) (.ofText read)
    return (name, read) :: (← readManifests c working names)

/-- The catalog after one more attempt. -/
def withAttempt (working : String) (catalog : Catalog) (a : Attempt) : Catalog :=
  match Finding.ofText a.2 with
  | .function m => catalog.add (Path.join working a.1) a.1 m
  | _ => catalog

theorem readFolders_cons (c : Context σ) (working : String) (catalog : Catalog) (name : String)
    (names : List String) (s : Session σ) :
    let read := c.host.readText (manifestPath working name) s.state
    (readFolders c working catalog (name :: names)).run s =
      (readFolders c working (catalog.withAttempt working (name, read)) names).run
        ((tell c name (manifestPath working name) (.ofText read)).run s).2 := by
  intro read
  have answer : c.host.readText (Path.join (Path.join working name) Manifest.fileName) s.state = read :=
    rfl
  rw [readFolders, Step.run_bind, run_ask, answer]
  unfold withAttempt
  cases Finding.ofText read <;> rfl

theorem readFolders_run (c : Context σ) (working : String) (catalog : Catalog) (names : List String)
    (s : Session σ) : (readFolders c working catalog names).run s =
      (((readManifests c working names).run s).1.foldl (withAttempt working) catalog,
        ((readManifests c working names).run s).2) := by
  induction names generalizing catalog s with
  | nil => rfl
  | cons name names ih =>
    rw [readFolders_cons]
    exact ih _ _

theorem map_fst_readManifests (c : Context σ) (working : String) (names : List String)
    (s : Session σ) : ((readManifests c working names).run s).1.map (·.1) = names := by
  induction names generalizing s with
  | nil => rfl
  | cons name names ih => exact congrArg (name :: ·) (ih _)

/-! ### Catalogs of attempts -/

/-- The manifest that an attempt gave, if it could be read and understood. -/
def Attempt.manifest? (a : Attempt) : Option Manifest :=
  a.2.toOption.bind fun content => (Manifest.ofText content.toList).toOption

theorem Attempt.of_manifest {a : Attempt} {m : Manifest} (is : a.manifest? = some m) :
    ∃ content, a.2 = .ok content ∧ Manifest.ofText content.toList = .ok m := by
  obtain ⟨name, read⟩ := a
  cases read with
  | error e => exact absurd is nofun
  | ok content =>
    refine ⟨content, rfl, ?_⟩
    cases parsed : Manifest.ofText content.toList with
    | error fault => simp [manifest?, Except.toOption, parsed] at is
    | ok m' => simpa [manifest?, Except.toOption, parsed] using is

theorem mem_folderNames {entries : List (String × EntryKind)} {name : String} :
    name ∈ folderNames entries ↔ (name, EntryKind.folder) ∈ entries := by
  unfold folderNames
  rw [List.mem_mergeSort, List.mem_map]
  constructor
  · rintro ⟨⟨name, kind⟩, here, rfl⟩
    obtain ⟨here, isFolder⟩ := List.mem_filter.mp here
    obtain rfl : kind = .folder := by simpa using isFolder
    exact here
  · intro here
    exact ⟨(name, .folder), List.mem_filter.mpr ⟨here, by simp⟩, rfl⟩

/-- Each function of the catalog stands under the name of its folder with the bindings of a manifest
found there. -/
structure Collected (catalog : Catalog) (attempts : List Attempt) : Prop where
  keyed : catalog.graph.Keyed
  origin : ∀ name n, catalog.graph.get? name = some n → ∃ a ∈ attempts, ∃ m,
    a.1 = name ∧ a.manifest? = some m ∧ n = { name, bindings := m.bindings }

variable {catalog : Catalog} {attempts : List Attempt}

theorem manifest_of_finding {a : Attempt} {m : Manifest} (found : Finding.ofText a.2 = .function m) :
    a.manifest? = some m := by
  obtain ⟨name, read⟩ := a
  unfold Finding.ofText at found
  cases read with
  | error e => cases e <;> simp at found
  | ok content =>
    dsimp only at found
    cases parsed : Manifest.ofText content.toList with
    | error fault => simp [parsed] at found
    | ok m' =>
      obtain rfl : m' = m := by simpa [parsed] using found
      simp [Attempt.manifest?, parsed, Except.toOption]

theorem Collected.withAttempt (collected : catalog.Collected attempts) (working : String)
    (a : Attempt) : (catalog.withAttempt working a).Collected (attempts ++ [a]) := by
  have before : catalog.Collected (attempts ++ [a]) :=
    ⟨collected.keyed, fun name n found => by
      obtain ⟨a', here, rest⟩ := collected.origin name n found
      exact ⟨a', List.mem_append_left _ here, rest⟩⟩
  unfold Catalog.withAttempt
  split
  · rename_i m found
    refine ⟨before.keyed.insert _, fun name n there => ?_⟩
    unfold add at there
    rw [Graph.get?_insert] at there
    split at there
    · rename_i fresh
      obtain rfl := Option.some.inj there
      exact ⟨a, List.mem_append_right _ (List.mem_singleton.mpr rfl), m, fresh.2,
        manifest_of_finding found, by rw [← fresh.2]⟩
    · exact before.origin name n there
  · exact before

theorem Collected.foldl (collected : catalog.Collected attempts) (working : String)
    (more : List Attempt) :
    (more.foldl (Catalog.withAttempt working) catalog).Collected (attempts ++ more) := by
  induction more generalizing catalog attempts with
  | nil => rwa [List.append_nil]
  | cons a more ih =>
    have := ih (collected.withAttempt working a)
    rwa [List.append_assoc] at this

theorem collected_attempts (working : String) (attempts : List Attempt) :
    (attempts.foldl (Catalog.withAttempt working) {}).Collected attempts := by
  have empty : Collected {} [] := ⟨Graph.keyed_empty, fun name n found => by
    rw [Graph.get?_empty] at found
    exact absurd found nofun⟩
  exact empty.foldl working attempts

end OrchestrationGraph.Catalog
