import Mathlib.Data.List.Sort
import OrchestrationGraph.Proofs.Project.Course
import OrchestrationGraph.Proofs.Project.Manifests
import OrchestrationGraph.Proofs.Text.ByteOrder

/-!
# Each folder for itself

What a catalog says of a folder, and what is told of it, is settled by the folder's own manifest
(`Built`), whatever the order in which folders are listed and manifests are read. So two runs say
the same of each folder that looks the same in both (`build_apart`).
-/

namespace OrchestrationGraph.Catalog

variable {σ τ : Type}

/-! ### What a manifest gives -/

/-- The manifest could be read and understood. -/
def Gives (read : Except FileError String) (m : Manifest) : Prop :=
  ∃ content, read = .ok content ∧ Manifest.ofText content.toList = .ok m

/-- There is a manifest, but it could not be read or not be understood. -/
inductive Fails : Except FileError String → String → Prop
  | unreadable {e : FileError} (there : e ≠ .missing) : Fails (.error e) e.message
  | garbled {content : String} {fault : Json.Fault}
      (unclear : Manifest.ofText content.toList = .error fault) : Fails (.ok content) fault.message

/-- The error of a manifest that failed. -/
def Finding.error? : Finding → Option String
  | broken error => some error
  | _ => none

theorem finding_eq_function_iff {read : Except FileError String} {m : Manifest} :
    Finding.ofText read = .function m ↔ Gives read m := by
  constructor
  · intro found
    let a : Attempt := ("", read)
    exact a.of_manifest (manifest_of_finding (a := a) found)
  · rintro ⟨content, rfl, understood⟩
    simp [Finding.ofText, understood]

theorem error?_finding_iff {read : Except FileError String} {error : String} :
    (Finding.ofText read).error? = some error ↔ Fails read error := by
  constructor
  · intro failed
    match read with
    | .ok content =>
      cases parsed : Manifest.ofText content.toList with
      | ok m => simp [Finding.ofText, parsed, Finding.error?] at failed
      | error fault =>
        obtain rfl : fault.message = error := by
          simpa [Finding.ofText, parsed, Finding.error?] using failed
        exact .garbled parsed
    | .error e =>
      by_cases absent : e = .missing
      · subst absent
        exact absurd failed nofun
      · obtain rfl : e.message = error := by
          simpa [Finding.ofText, absent, Finding.error?] using failed
        exact .unreadable absent
  · rintro (@⟨e, there⟩ | ⟨unclear⟩)
    · simp [Finding.ofText, Finding.error?]
    · simp [Finding.ofText, unclear, Finding.error?]

/-! ### Catalogs of attempts -/

/-- What a catalog says of a name: the function and the path of its script. -/
def under (catalog : Catalog) (name : String) : Option Node × Option String :=
  (catalog.graph.get? name, catalog.scripts.get? name)

/-- What a catalog is to say of a folder. -/
def entry (working name : String) : Finding → Option Node × Option String
  | .function m => (some { name, bindings := m.bindings },
      m.script.map (Path.join (Path.join working name)))
  | _ => (none, none)

def assembled (working : String) (attempts : List Attempt) : Catalog :=
  attempts.foldl (withAttempt working) {}

/-- The folders whose manifests failed, each with the error. -/
def failures (attempts : List Attempt) : List (String × String) :=
  attempts.filterMap fun a => (Finding.ofText a.2).error?.map (a.1, ·)

section

variable {working name : String} {catalog : Catalog}

theorem eq_of_under {catalog' : Catalog} (same : ∀ name, catalog.under name = catalog'.under name) :
    catalog = catalog' := by
  obtain ⟨graph, scripts⟩ := catalog
  obtain ⟨graph', scripts'⟩ := catalog'
  obtain rfl : graph = graph' := Graph.ext_get? fun name => congrArg Prod.fst (same name)
  obtain rfl : scripts = scripts' := Dictionary.ext_get? fun name => congrArg Prod.snd (same name)
  rfl

theorem under_add (catalog : Catalog) (folder key : String) (m : Manifest) (name : String) :
    (catalog.add folder key m).under name =
      (if catalog.graph.contains key = false ∧ key = name then
          some { name := key, bindings := m.bindings }
        else catalog.graph.get? name,
      if key = name then (m.script.map (Path.join folder)).or (catalog.scripts.get? name)
        else catalog.scripts.get? name) := by
  unfold under add
  rw [Graph.get?_insert]
  cases m.script with
  | none => simp
  | some script => simp [Dictionary.get?_insert]

/-- An attempt on one folder says nothing of another. -/
theorem under_withAttempt_of_ne {a : Attempt} (other : a.1 ≠ name) :
    (catalog.withAttempt working a).under name = catalog.under name := by
  unfold withAttempt
  split
  · rw [under_add, if_neg fun own => other own.2, if_neg other]
    rfl
  · rfl

theorem under_foldl_of_ne {attempts : List Attempt} (others : ∀ a ∈ attempts, a.1 ≠ name) :
    (attempts.foldl (withAttempt working) catalog).under name = catalog.under name := by
  induction attempts generalizing catalog with
  | nil => rfl
  | cons a attempts ih =>
    rw [List.foldl_cons, ih fun b here => others b (List.mem_cons_of_mem a here)]
    exact under_withAttempt_of_ne (others a List.mem_cons_self)

theorem under_withAttempt (fresh : catalog.under name = (none, none))
    (read : Except FileError String) :
    (catalog.withAttempt working (name, read)).under name = entry working name (.ofText read) := by
  obtain ⟨noNode, noScript⟩ := Prod.mk.inj fresh
  have free : catalog.graph.contains name = false := congrArg Option.isSome noNode
  unfold withAttempt entry
  cases Finding.ofText read with
  | function m => simp [under_add, free, noScript]
  | broken error => exact fresh
  | nothing => exact fresh

/-- Among attempts on different folders the one on a folder settles what is said of it. -/
theorem under_assembled {names : List String} (distinct : names.Nodup)
    (read : String → Except FileError String) (name : String) :
    (assembled working (names.map fun n => (n, read n))).under name =
      if name ∈ names then entry working name (.ofText (read name)) else (none, none) := by
  have others {l : List String} (absent : name ∉ l) :
      ∀ a ∈ l.map fun n => (n, read n), a.1 ≠ name := by
    intro a here own
    obtain ⟨n, there, rfl⟩ := List.mem_map.mp here
    exact absent (own ▸ there)
  split
  · rename_i here
    obtain ⟨before, after, rfl⟩ := List.append_of_mem here
    obtain ⟨absent, -⟩ := List.nodup_cons.mp (List.perm_middle.nodup_iff.mp distinct)
    rw [List.mem_append, not_or] at absent
    rw [assembled, List.map_append, List.map_cons, List.foldl_append, List.foldl_cons,
      under_foldl_of_ne (others absent.2), under_withAttempt]
    exact under_foldl_of_ne (others absent.1)
  · rename_i absent
    exact under_foldl_of_ne (others absent)

theorem mem_failures {names : List String} {read : String → Except FileError String}
    {error : String} : (name, error) ∈ failures (names.map fun n => (n, read n)) ↔
      name ∈ names ∧ Fails (read name) error := by
  unfold failures
  rw [List.filterMap_map, List.mem_filterMap]
  constructor
  · rintro ⟨n, here, failed⟩
    obtain ⟨e, broken, same⟩ := Option.map_eq_some_iff.mp failed
    cases same
    exact ⟨here, error?_finding_iff.mp broken⟩
  · rintro ⟨here, fails⟩
    exact ⟨name, here, Option.map_eq_some_iff.mpr ⟨error, error?_finding_iff.mpr fails, rfl⟩⟩

end

/-! ### A folder that lies still -/

/-- The manifests in the folders read as given. -/
def Reads (c : Context σ) (working : String) (entries : List (String × EntryKind))
    (read : String → Except FileError String) (state : σ) : Prop :=
  ∀ name, (name, EntryKind.folder) ∈ entries →
    c.host.readText (manifestPath working name) state = read name

/-- What is told of a manifest that failed. -/
def failedEvent (working : String) (f : String × String) : Event :=
  .manifestFailed (manifestPath working f.1) f.2

/-- The working folder lists its entries in some order, under different names, and what the
manifests in its folders read changes neither when a failure is told nor when somebody may ask to
stop. -/
structure Steady (c : Context σ) (working : String) (entries : List (String × EntryKind))
    (read : String → Except FileError String) (state : σ) : Prop where
  listed : c.host.list working state = .ok entries
  distinct : (entries.map (·.1)).Nodup
  reads : Reads c working entries read state
  told : ∀ f t, Reads c working entries read t →
    Reads c working entries read (c.host.hear (failedEvent working f) t)
  asked : ∀ t, Reads c working entries read t →
    Reads c working entries read (c.host.isInterrupted t).2

/-- Attempts on the named folders, each at a moment of its own. -/
def attemptsAt (c : Context σ) (working : String) (moment : String → σ) (names : List String) :
    List Attempt :=
  names.map fun name => (name, c.host.readText (manifestPath working name) (moment name))

/-- Each folder whose manifest was understood is a function without edges, with a script if the
manifest names one; each folder whose manifest failed is told of once, in the order of the folders'
paths; and that is all. -/
structure Built (working : String) (entries : List (String × EntryKind))
    (read : String → Except FileError String) (catalog : Catalog)
    (failed : List (String × String)) : Prop where
  record : ∀ name n, catalog.graph.get? name = some n ↔ (name, EntryKind.folder) ∈ entries ∧
    ∃ m, Gives (read name) m ∧ n = { name, bindings := m.bindings }
  script : ∀ name path, catalog.scripts.get? name = some path ↔ (name, EntryKind.folder) ∈ entries ∧
    ∃ m file, Gives (read name) m ∧ m.script = some file ∧
      path = Path.join (Path.join working name) file
  failure : ∀ name error, (name, error) ∈ failed ↔ (name, EntryKind.folder) ∈ entries ∧
    Fails (read name) error
  /-- The paths of folders side by side are in the order of the bytes of their names. -/
  ascending : failed.Pairwise fun f g => Text.bytes f.1 < Text.bytes g.1

section

variable {c : Context σ} {working : String} {entries : List (String × EntryKind)}
  {read : String → Except FileError String} {state : σ} {catalog : Catalog}
  {failed : List (String × String)}

theorem ascending_folderNames (distinct : (entries.map (·.1)).Nodup) :
    (folderNames entries).Pairwise (· < ·) := by
  have sub : ((entries.filter fun e => e.2 = .folder).map (·.1)).Sublist (entries.map (·.1)) :=
    List.filter_sublist.map _
  have different : (folderNames entries).Nodup :=
    (List.mergeSort_perm _ _).nodup_iff.mpr (distinct.sublist sub)
  exact (List.sortedLE_mergeSort.pairwise.and different).imp fun ⟨le, ne⟩ => lt_of_le_of_ne le ne

theorem fst_entry_iff (working name : String) {read : Except FileError String} {n : Node} :
    (entry working name (.ofText read)).1 = some n ↔
      ∃ m, Gives read m ∧ n = { name, bindings := m.bindings } := by
  simp only [← finding_eq_function_iff]
  cases Finding.ofText read <;> simp [entry, eq_comm]

theorem snd_entry_iff (working name : String) {read : Except FileError String} {path : String} :
    (entry working name (.ofText read)).2 = some path ↔
      ∃ m file, Gives read m ∧ m.script = some file ∧
        path = Path.join (Path.join working name) file := by
  simp only [← finding_eq_function_iff]
  cases Finding.ofText read <;> simp [entry, eq_comm]

theorem built_assembled (distinct : (entries.map (·.1)).Nodup) :
    let attempts := (folderNames entries).map fun name => (name, read name)
    Built working entries read (assembled working attempts) (failures attempts) := by
  have ascending := ascending_folderNames distinct
  have settled (name : String) : (assembled working _).under name = _ :=
    under_assembled ascending.nodup read name
  refine { record := ?_, script := ?_, failure := ?_, ascending := ?_ }
  · intro name n
    rw [← mem_folderNames, ← fst_entry_iff working name]
    rw [show Graph.get? _ name = _ from congrArg Prod.fst (settled name)]
    split <;> simp [*]
  · intro name path
    rw [← mem_folderNames, ← snd_entry_iff working name]
    rw [show Dictionary.get? _ name = _ from congrArg Prod.snd (settled name)]
    split <;> simp [*]
  · intro name error
    rw [mem_failures, mem_folderNames]
  · unfold failures
    rw [List.filterMap_map, List.pairwise_filterMap]
    refine ascending.imp ?_
    rintro a b less f failed g failed'
    obtain ⟨_, -, rfl⟩ := Option.map_eq_some_iff.mp failed
    obtain ⟨_, -, rfl⟩ := Option.map_eq_some_iff.mp failed'
    exact Text.bytes_lt less

/-- What catalogs are built of may be read in any order. -/
theorem assembled_perm {names order : List String} (distinct : names.Nodup)
    (same : order.Perm names) :
    assembled working (order.map fun name => (name, read name)) =
      assembled working (names.map fun name => (name, read name)) := by
  refine eq_of_under fun name => ?_
  rw [under_assembled distinct, under_assembled (same.nodup_iff.mpr distinct)]
  simp only [same.mem_iff]

/-! ### Building -/

theorem attemptsAt_eq {moment : String → σ} {names : List String}
    (folders : ∀ name ∈ names, (name, EntryKind.folder) ∈ entries)
    (reads : ∀ name, Reads c working entries read (moment name)) :
    attemptsAt c working moment names = names.map fun name => (name, read name) :=
  List.map_congr_left fun name here =>
    congrArg (Prod.mk name) (reads name name (folders name here))

/-- Of a manifest that failed one event is told, of others none, and the manifests stay. -/
theorem tell_run (steady : Steady c working entries read state) (name : String) (f : Finding)
    {s : Session σ} (reads : Reads c working entries read s.state) :
    Reads c working entries read ((tell c name (manifestPath working name) f).run s).2.state ∧
      ((tell c name (manifestPath working name) f).run s).2.events = s.events ++
        (f.error?.map (name, ·)).toList.map (failedEvent working) := by
  cases f with
  | nothing => exact ⟨reads, (List.append_nil _).symm⟩
  | function m => exact ⟨reads, (s.events_noted _).trans (List.append_nil _).symm⟩
  | broken error => exact ⟨steady.told (name, error) _ reads, c.events_reported _ s⟩

theorem readManifests_run (steady : Steady c working entries read state) {names : List String}
    (folders : ∀ name ∈ names, (name, EntryKind.folder) ∈ entries) {s : Session σ}
    (reads : Reads c working entries read s.state) :
    let attempts := names.map fun name => (name, read name)
    ((readManifests c working names).run s).1 = attempts ∧
      ((readManifests c working names).run s).2.events =
        s.events ++ (failures attempts).map (failedEvent working) := by
  induction names generalizing s with
  | nil => exact ⟨rfl, (List.append_nil _).symm⟩
  | cons name names ih =>
    have found : c.host.readText (manifestPath working name) s.state = read name :=
      reads name (folders name List.mem_cons_self)
    obtain ⟨stay, told⟩ := tell_run steady name (.ofText (read name)) reads
    obtain ⟨rest, events⟩ := ih (fun n here => folders n (List.mem_cons_of_mem name here)) stay
    dsimp only at rest events ⊢
    rw [readManifests, Step.run_bind, run_ask, Step.run_bind, Step.run_bind, found, rest]
    refine ⟨rfl, ?_⟩
    refine events.trans ?_
    rw [told, List.append_assoc, ← List.map_append]
    congr 2
    unfold failures
    rw [List.map_cons, List.filterMap_cons]
    cases (Finding.ofText (read name)).error? <;> rfl

end

/-- How a catalog is built: the failures are told, and then the size of the catalog. If the
manifests were read in any other order, each at a moment of its own, the catalog would be the same,
and so would the failures. -/
structure Building (c : Context σ) (working : String) (entries : List (String × EntryKind))
    (read : String → Except FileError String) (s : Session σ) (catalog : Catalog)
    (failed : List (String × String)) (s' : Session σ) : Prop where
  yields : Yields (build c working) s catalog s'
  built : Built working entries read catalog failed
  events : s'.events =
    s.events ++ failed.map (failedEvent working) ++ [.catalogComplete catalog.graph.size]
  anyOrder : ∀ order : List String, order.Perm (folderNames entries) → ∀ moment : String → σ,
    (∀ name, Reads c working entries read (moment name)) →
    assembled working (attemptsAt c working moment order) = catalog ∧
      (failures (attemptsAt c working moment order)).Perm failed

theorem exists_building {c : Context σ} {working : String} {entries : List (String × EntryKind)}
    {read : String → Except FileError String} {s : Session σ}
    (steady : Steady c working entries read s.state) (goesOn : c.GoesOn s) :
    ∃ catalog failed s', Building c working entries read s catalog failed s' := by
  let names := folderNames entries
  let attempts : List Attempt := names.map fun name => (name, read name)
  let asked := s.done c.host.isInterrupted
  have folders : ∀ name ∈ names, (name, EntryKind.folder) ∈ entries := fun _ => mem_folderNames.mp
  obtain ⟨found, events⟩ :=
    readManifests_run steady folders (s := asked) (steady.asked _ steady.reads)
  have run := readFolders_run c working {} names asked
  rw [found] at run
  refine ⟨assembled working attempts, failures attempts, _, {
    yields := yields_build.mpr ⟨entries, steady.listed, goesOn, _, run, rfl⟩
    built := built_assembled steady.distinct
    events := ?_
    anyOrder := ?_ }⟩
  · rw [c.events_reported, events]
    rfl
  · intro order same moment reads
    rw [attemptsAt_eq (fun name here => folders name (same.mem_iff.mp here)) reads]
    exact ⟨assembled_perm (ascending_folderNames steady.distinct).nodup same,
      (same.map _).filterMap _⟩

/-! ### Two runs -/

/-- Catalogs and failures that differ in some folders at most. -/
structure AlikeApart (changed : List String) (catalog catalog' : Catalog)
    (failed failed' : List (String × String)) : Prop where
  records : ∀ name, name ∉ changed → catalog.graph.get? name = catalog'.graph.get? name
  scripts : ∀ name, name ∉ changed → catalog.scripts.get? name = catalog'.scripts.get? name
  failures : failed.filter (fun f => f.1 ∉ changed) = failed'.filter (fun f => f.1 ∉ changed)

/-- A folder of one working folder looks as in another. -/
def LooksSame (entries entries' : List (String × EntryKind))
    (read read' : String → Except FileError String) (name : String) : Prop :=
  ((name, EntryKind.folder) ∈ entries ↔ (name, EntryKind.folder) ∈ entries') ∧
    ((name, EntryKind.folder) ∈ entries → read name = read' name)

theorem Built.alikeApart {working : String} {entries entries' : List (String × EntryKind)}
    {read read' : String → Except FileError String} {catalog catalog' : Catalog}
    {failed failed' : List (String × String)} {changed : List String}
    (built : Built working entries read catalog failed)
    (built' : Built working entries' read' catalog' failed')
    (same : ∀ name, name ∉ changed → LooksSame entries entries' read read' name) :
    AlikeApart changed catalog catalog' failed failed' where
  records name apart := by
    obtain ⟨listed, reads⟩ := same name apart
    refine Option.ext fun n => ?_
    rw [built.record, built'.record, ← listed]
    exact and_congr_right fun here => by rw [reads here]
  scripts name apart := by
    obtain ⟨listed, reads⟩ := same name apart
    refine Option.ext fun path => ?_
    rw [built.script, built'.script, ← listed]
    exact and_congr_right fun here => by rw [reads here]
  failures := by
    have : Std.Irrefl fun f g : String × String => Text.bytes f.1 < Text.bytes g.1 :=
      ⟨fun f => List.lt_irrefl _⟩
    refine (built.ascending.filter _).eq_of_mem_iff (built'.ascending.filter _) ?_
    rintro ⟨name, error⟩
    simp only [List.mem_filter, decide_eq_true_eq]
    refine and_congr_left fun apart => ?_
    obtain ⟨listed, reads⟩ := same name apart
    rw [built.failure, built'.failure, ← listed]
    exact and_congr_right fun here => by rw [reads here]

/-- Two working folders may list their folders in different orders and differ in some of them: of
each other folder both catalogs say the same, and the same failures are told in the same order. -/
theorem build_apart {c : Context σ} {c' : Context τ} {working : String}
    {entries entries' : List (String × EntryKind)} {read read' : String → Except FileError String}
    {s : Session σ} {t : Session τ} (steady : Steady c working entries read s.state)
    (steady' : Steady c' working entries' read' t.state) (goesOn : c.GoesOn s)
    (goesOn' : c'.GoesOn t) (changed : List String)
    (same : ∀ name, name ∉ changed → LooksSame entries entries' read read' name) :
    ∃ catalog failed s' catalog' failed' t',
      Building c working entries read s catalog failed s' ∧
      Building c' working entries' read' t catalog' failed' t' ∧
      AlikeApart changed catalog catalog' failed failed' := by
  obtain ⟨catalog, failed, s', building⟩ := exists_building steady goesOn
  obtain ⟨catalog', failed', t', building'⟩ := exists_building steady' goesOn'
  exact ⟨catalog, failed, s', catalog', failed', t', building, building',
    building.built.alikeApart building'.built same⟩

/-! A working folder of two functions, of which the second one's manifest is to be broken. -/

namespace TwoFunctions

def listed : List (String × EntryKind) :=
  [("Second", .folder), ("host.json", .file), ("bin", .folder), ("First", .folder)]

def reading (second name : String) : Except FileError String :=
  match name with
  | "First" => .ok "\x7b\"scriptFile\":\"first.js\"\x7d"
  | "Second" => .ok second
  | _ => .error .missing

def context (entries : List (String × EntryKind)) (second : String) : Context Unit where
  host := {
    isText _ := true
    hasEntry _ _ := true
    hasFolder _ _ := true
    readText path _ :=
      match path with
      | "/w/First/function.json" => reading second "First"
      | "/w/Second/function.json" => reading second "Second"
      | _ => .error .missing
    list _ _ := .ok entries
    tree _ _ := .error .missing
    writeText _ _ s := (.ok (), s)
    createFolder _ s := (.ok (), s)
    removeFolder _ s := (.ok (), s)
    freshName s := ("0", s)
    run _ s := (.error .missing, s)
    hear _ s := s
    isInterrupted s := (false, s)
    print _ _ s := (.ok (), s) }

theorem steady {entries : List (String × EntryKind)} (same : entries.Perm listed)
    (second : String) : Steady (context entries second) "/w" entries (reading second) () := by
  have reads : Reads (context entries second) "/w" entries (reading second) () := by
    intro name here
    have paths : manifestPath "/w" "First" = "/w/First/function.json" ∧
        manifestPath "/w" "Second" = "/w/Second/function.json" ∧
        manifestPath "/w" "bin" = "/w/bin/function.json" := by decide +kernel
    have known : name = "Second" ∨ name = "bin" ∨ name = "First" := by
      simpa [listed] using same.mem_iff.mp here
    obtain rfl | rfl | rfl := known
    · rw [paths.2.1]
      rfl
    · rw [paths.2.2]
      rfl
    · rw [paths.1]
      rfl
  exact {
    listed := rfl
    distinct := (same.map _).nodup_iff.mpr (by decide)
    reads
    told := fun _ _ still => still
    asked := fun _ still => still }

end TwoFunctions

open TwoFunctions in
theorem build_apart_broken : ∃ catalog failed s' catalog' failed' t',
    Building (context listed "\x7b\x7d") "/w" listed (reading "\x7b\x7d") { state := () }
      catalog failed s' ∧
    Building (context listed.reverse "\x7b") "/w" listed.reverse (reading "\x7b") { state := () }
      catalog' failed' t' ∧
    AlikeApart ["Second"] catalog catalog' failed failed' ∧
    catalog.graph.contains "Second" = true ∧ catalog'.graph.contains "Second" = false := by
  have same : ∀ name, name ∉ ["Second"] →
      LooksSame listed listed.reverse (reading "\x7b\x7d") (reading "\x7b") name := by
    intro name apart
    refine ⟨(listed.reverse_perm.mem_iff).symm, fun _ => ?_⟩
    unfold reading
    split <;> simp_all
  obtain ⟨catalog, failed, s', catalog', failed', t', building, building', alike⟩ :=
    build_apart (steady (.refl _) "\x7b\x7d") (steady listed.reverse_perm "\x7b") rfl rfl
      ["Second"] same
  refine ⟨catalog, failed, s', catalog', failed', t', building, building', alike, ?_, ?_⟩
  · have understood : (Manifest.ofText "\x7b\x7d".toList).toOption.isSome = true := by
      decide +kernel
    cases parsed : Manifest.ofText "\x7b\x7d".toList with
    | error fault => rw [parsed] at understood; exact nomatch understood
    | ok m =>
      exact Graph.contains_iff.mpr ⟨_, (building.built.record "Second" _).mpr
        ⟨by decide, m, ⟨"\x7b\x7d", rfl, parsed⟩, rfl⟩⟩
  · have unclear : (Manifest.ofText "\x7b".toList).toOption.isSome = false := by decide +kernel
    refine Bool.eq_false_iff.mpr fun known => ?_
    obtain ⟨n, found⟩ := Graph.contains_iff.mp known
    obtain ⟨-, m, ⟨content, is, parsed⟩, -⟩ := (building'.built.record "Second" n).mp found
    obtain rfl : "\x7b" = content := Except.ok.inj is
    rw [parsed] at unclear
    exact nomatch unclear

end OrchestrationGraph.Catalog
