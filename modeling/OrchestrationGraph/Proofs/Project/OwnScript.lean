import Mathlib.Data.List.Sort
import OrchestrationGraph.Machine.Basic
import OrchestrationGraph.Project.Sources
import OrchestrationGraph.Proofs.Project.Step
import OrchestrationGraph.Proofs.Text.ByteOrder

/-!
# The script of a function

Of a folder only the files directly in it count, and of these only the one with a script's name that
comes first in the order of bytes (`IsOwn`). Its content is the function's source if it can be read as
text, else that of the script in the manifest (`Finds`). So the order of the listing does not matter,
and neither does anything else that lies in the folder or below (`find?_settled`).
-/

namespace OrchestrationGraph.Script

variable {σ τ : Type}

/-- What a host says of the entries of a folder. -/
abbrev Listing := Except FileError (List (String × EntryKind))

/-- A file of that name is directly in the folder, and it is the name of a script, letter case
aside. -/
def IsCandidate (listing : Listing) (name : String) : Prop :=
  ∃ entries, listing = .ok entries ∧ (name, EntryKind.file) ∈ entries ∧
    Text.asciiLower name ∈ names

/-- Of the scripts in the folder, the one whose name comes first. -/
structure IsOwn (listing : Listing) (name : String) : Prop where
  candidate : IsCandidate listing name
  least : ∀ other, IsCandidate listing other → Text.bytes name ≤ Text.bytes other

/-- What the source of a function is: the folder's own script as a whole or, if there is none that can
be read, the one that the manifest mentions. -/
inductive Finds (listing : Listing) (read : String → Except FileError String)
    (function folder : String) (mentioned : Option String) : Option Source → Prop where
  | own {name code : String} (isOwn : IsOwn listing name)
      (reads : read (Path.join folder name) = .ok code) :
      Finds listing read function folder mentioned
        (some ⟨function, code, Path.join folder name, 0, 1⟩)
  | mentioned {path code : String}
      (noOwn : ∀ name code, IsOwn listing name → read (Path.join folder name) ≠ .ok code)
      (mentions : mentioned = some path) (reads : read path = .ok code) :
      Finds listing read function folder mentioned (some ⟨function, code, path, 0, 1⟩)
  | none
      (noOwn : ∀ name code, IsOwn listing name → read (Path.join folder name) ≠ .ok code)
      (noOther : ∀ path code, mentioned = some path → read path ≠ .ok code) :
      Finds listing read function folder mentioned none

/-! ### The first script of a listing -/

variable {entries : List (String × EntryKind)} {listing : Listing} {name : String}

theorem isOne_iff : isOne name = true ↔ Text.asciiLower name ∈ names := by
  have small : ∀ known ∈ names, Text.asciiLower known = known := by decide +kernel
  unfold isOne Text.sameIgnoringCase
  simp only [List.any_eq_true, beq_iff_eq]
  constructor
  · rintro ⟨known, here, same⟩
    rwa [same, small known here]
  · intro here
    exact ⟨_, here, (small _ here).symm⟩

theorem head?_mergeSort {l : List String} {a : String} :
    l.mergeSort.head? = some a ↔ a ∈ l ∧ ∀ b ∈ l, a ≤ b := by
  have ascending := (List.sortedLE_mergeSort (l := l)).pairwise
  have same (b : String) : b ∈ l ↔ b ∈ l.mergeSort := List.mem_mergeSort.symm
  simp only [same]
  generalize l.mergeSort = sorted at *
  cases sorted with
  | nil => simp
  | cons first rest =>
    rw [List.pairwise_cons] at ascending
    constructor
    · intro is
      obtain rfl := Option.some.inj is
      exact ⟨List.mem_cons_self, List.forall_mem_cons.mpr ⟨le_rfl, ascending.1⟩⟩
    · rintro ⟨here, least⟩
      have below : first ≤ a := by
        rcases List.mem_cons.mp here with rfl | later
        · exact le_rfl
        · exact ascending.1 a later
      exact congrArg some (le_antisymm below (least first List.mem_cons_self))

theorem among?_eq_some_iff : among? entries = some name ↔ IsOwn (.ok entries) name := by
  have candidate (other : String) : other ∈ ((entries.filter fun e =>
      e.2 = EntryKind.file && isOne e.1).map (·.1)) ↔ IsCandidate (.ok entries) other := by
    simp [IsCandidate, isOne_iff]
  unfold among?
  rw [head?_mergeSort]
  simp only [candidate, ← Text.bytes_le_iff]
  exact ⟨fun ⟨is, least⟩ => ⟨is, least⟩, fun ⟨is, least⟩ => ⟨is, least⟩⟩

/-- The first script of a folder, if it can be listed and has one. -/
def own? (listing : Listing) : Option String := listing.toOption.bind among?

theorem own?_eq_some_iff : own? listing = some name ↔ IsOwn listing name := by
  cases listing with
  | ok entries => exact among?_eq_some_iff
  | error e =>
    constructor
    · exact nofun
    · rintro ⟨⟨_, listed, -⟩, -⟩
      exact nomatch listed

/-! ### Runs -/

variable {c : Context σ} {s : Session σ} {function folder : String} {mentioned : Option String}

/-- The first of some scripts that can be read. -/
def firstOf (read : String → Except FileError String) : List String → Option SourceFile
  | [] => none
  | path :: paths =>
    match read path with
    | .ok content => some ⟨path, content⟩
    | .error _ => firstOf read paths

theorem inFolder?_run : (inFolder? c folder).run s =
    ((own? (c.host.list folder s.state)).map (Path.join folder), ((inFolder? c folder).run s).2) ∧
      ((inFolder? c folder).run s).2.state = s.state := by
  unfold inFolder?
  rw [Step.run_bind, run_ask]
  cases c.host.list folder s.state <;> exact ⟨rfl, rfl⟩

theorem firstReadable?_run (paths : List String) :
    ((firstReadable? c paths).run s).1 = firstOf (c.host.readText · s.state) paths := by
  induction paths generalizing s with
  | nil => rfl
  | cons path paths ih =>
    unfold firstReadable? firstOf
    rw [Step.run_bind, run_ask]
    dsimp only
    cases c.host.readText path s.state with
    | ok content => rfl
    | error e => exact ih

theorem find?_run : ((find? c function folder mentioned).run s).1 =
    (firstOf (c.host.readText · s.state)
      (((own? (c.host.list folder s.state)).map (Path.join folder)).toList ++ mentioned.toList)).map
        (·.whole function) := by
  unfold find?
  obtain ⟨listed, same⟩ : _ ∧ ((inFolder? c folder).run s).2.state = s.state := inFolder?_run
  rw [Step.run_bind_of listed, Step.run_bind]
  show Option.map _ ((firstReadable? c _).run _).1 = _
  rw [firstReadable?_run, same]

/-! ### The source -/

variable {read read' : String → Except FileError String} {found : Option Source}

theorem firstOf_own (noOwn : ∀ name code, IsOwn listing name → read (Path.join folder name) ≠ .ok code)
    (paths : List String) :
    firstOf read (((own? listing).map (Path.join folder)).toList ++ paths) = firstOf read paths := by
  cases own : own? listing with
  | none => rfl
  | some name =>
    cases reads : read (Path.join folder name) with
    | ok code => exact absurd reads (noOwn name code (own?_eq_some_iff.mp own))
    | error e => simp [firstOf, reads]

theorem Finds.eq (finds : Finds listing read function folder mentioned found) :
    (firstOf read (((own? listing).map (Path.join folder)).toList ++ mentioned.toList)).map
      (·.whole function) = found := by
  cases finds with
  | own isOwn reads =>
    simp [own?_eq_some_iff.mpr isOwn, firstOf, reads, SourceFile.whole]
  | mentioned noOwn mentions reads =>
    simp [firstOf_own noOwn, mentions, firstOf, reads, SourceFile.whole]
  | none noOwn noOther =>
    rw [firstOf_own noOwn]
    cases mentioned with
    | none => rfl
    | some path =>
      cases reads : read path with
      | ok code => exact absurd reads (noOther path code rfl)
      | error e => simp [firstOf, reads]

theorem exists_finds : ∃ found, Finds listing read function folder mentioned found := by
  by_cases own : ∃ name code, IsOwn listing name ∧ read (Path.join folder name) = .ok code
  · obtain ⟨name, code, isOwn, reads⟩ := own
    exact ⟨_, .own isOwn reads⟩
  · have noOwn : ∀ name code, IsOwn listing name → read (Path.join folder name) ≠ .ok code :=
      fun name code isOwn reads => own ⟨name, code, isOwn, reads⟩
    by_cases other : ∃ path code, mentioned = some path ∧ read path = .ok code
    · obtain ⟨path, code, mentions, reads⟩ := other
      exact ⟨_, .mentioned noOwn mentions reads⟩
    · exact ⟨none, .none noOwn fun path code mentions reads => other ⟨path, code, mentions, reads⟩⟩

/-- Whatever else is in the folder, only its own script and the one mentioned count. -/
theorem Finds.congr {listing' : Listing} (sameOwn : ∀ name, IsOwn listing name ↔ IsOwn listing' name)
    (sameCode : ∀ name, IsOwn listing name →
      read (Path.join folder name) = read' (Path.join folder name))
    (sameOther : ∀ path, mentioned = some path → read path = read' path)
    (finds : Finds listing read function folder mentioned found) :
    Finds listing' read' function folder mentioned found := by
  have carry (noOwn : ∀ name code, IsOwn listing name → read (Path.join folder name) ≠ .ok code) :
      ∀ name code, IsOwn listing' name → read' (Path.join folder name) ≠ .ok code := by
    intro name code isOwn
    have isOwn := (sameOwn name).mpr isOwn
    rw [← sameCode name isOwn]
    exact noOwn name code isOwn
  cases finds with
  | own isOwn reads => exact .own ((sameOwn _).mp isOwn) ((sameCode _ isOwn).symm.trans reads)
  | mentioned noOwn mentions reads =>
    exact .mentioned (carry noOwn) mentions ((sameOther _ mentions).symm.trans reads)
  | none noOwn noOther =>
    refine .none (carry noOwn) fun path code mentions => ?_
    rw [← sameOther path mentions]
    exact noOther path code mentions

theorem find?_iff : ((find? c function folder mentioned).run s).1 = found ↔
    Finds (c.host.list folder s.state) (c.host.readText · s.state) function folder mentioned
      found := by
  rw [find?_run]
  refine ⟨?_, Finds.eq⟩
  rintro rfl
  obtain ⟨found, finds⟩ := exists_finds
  rwa [finds.eq]

/-- A file on a disk is read as text exactly if its content is the UTF-8 form of a text. -/
theorem readText_iff {d : Machine.Disk} {path code : String} {content : ByteArray} {runnable : Bool}
    (there : d.item path = .ok (.file content runnable)) :
    d.readText path = .ok code ↔ content = code.toUTF8 := by
  have bytes : d.readBytes path = .ok content := by
    rw [Machine.Disk.readBytes, there]
    rfl
  rw [Machine.Disk.readText, bytes]
  dsimp only [bind, Except.bind]
  constructor
  · intro reads
    split at reads
    · rename_i isText
      obtain ⟨valid, is⟩ := Option.dite_none_right_eq_some.mp isText
      obtain rfl := Option.some.inj is
      obtain rfl := Except.ok.inj reads
      rfl
    · cases reads
  · rintro rfl
    have isText : String.fromUTF8? code.toUTF8 = some code :=
      dif_pos (show code.toUTF8.IsValidUTF8 from code.isValidUTF8)
    rw [isText]
    rfl

/-- The source of a function is found in the first script of its folder if that can be read, and else
in the script that the manifest mentions; to be read, a file on a disk must be text in UTF-8. Two
hosts may list the entries of the folder in different orders and differ in all other files, other
scripts of the folder included: the same is found. -/
theorem find?_settled (c : Context σ) (s : Session σ) (function folder : String)
    (mentioned : Option String) :
    (∀ found, ((find? c function folder mentioned).run s).1 = found ↔
      Finds (c.host.list folder s.state) (c.host.readText · s.state) function folder mentioned
        found) ∧
    (∀ (c' : Context τ) (t : Session τ),
      (∀ name, IsOwn (c.host.list folder s.state) name ↔ IsOwn (c'.host.list folder t.state) name) →
      (∀ name, IsOwn (c.host.list folder s.state) name →
        c.host.readText (Path.join folder name) s.state =
          c'.host.readText (Path.join folder name) t.state) →
      (∀ path, mentioned = some path → c.host.readText path s.state = c'.host.readText path t.state) →
      ((find? c function folder mentioned).run s).1 =
        ((find? c' function folder mentioned).run t).1) ∧
    ∀ (m : Machine) path content runnable code, m.disk.item path = .ok (.file content runnable) →
      (Machine.host.readText path m = .ok code ↔ content = code.toUTF8) := by
  refine ⟨fun _ => find?_iff, fun c' t sameOwn sameCode sameOther => ?_, ?_⟩
  · exact (find?_iff.mpr ((find?_iff.mp rfl).congr sameOwn sameCode sameOther)).symm
  · intro m path content runnable code there
    exact readText_iff there

/-! Two folders whose own script is no text. In one of them are another script, a folder, and a link
with a script's name as well. -/

namespace Unreadable

def crowded : List (String × EntryKind) :=
  [("lib", .folder), ("index.ts", .file), ("index.js", .other), ("INDEX.JS", .file)]

def alone : List (String × EntryKind) := [("INDEX.JS", .file)]

def context (entries : List (String × EntryKind)) (other : String) : Context Unit where
  host := {
    isText _ := true
    hasEntry _ _ := true
    hasFolder _ _ := true
    readText path _ :=
      if path = "/F/INDEX.JS" then .error .notText
      else if path = "/m.js" then .ok "mentioned"
      else .ok other
    list _ _ := .ok entries
    tree _ _ := .error .missing
    writeText _ _ s := (.ok (), s)
    createFolder _ s := (.ok (), s)
    removeFolder _ s := (.ok (), s)
    freshName s := ("0", s)
    run _ s := (.error .missing, s)
    hear _ s := s
    isInterrupted s := (false, s)
    print _ _ s := (.ok (), s) }

def onDisk : Machine where
  disk := { root := .folder [("m", .file "x".toUTF8 false)] }

theorem item_onDisk : onDisk.disk.item "/m" = .ok (.file "x".toUTF8 false) := by
  have steps : Machine.Disk.steps "/m" = ["m"] := by decide +kernel
  have absolute : Path.isAbsolute "/m" = true := by decide +kernel
  have short : ¬Machine.Disk.nameBound < Text.byteLength ['m'] := by decide
  have resolved : onDisk.disk.resolve true "/m" =
      .ok (["m"], some (.file "x".toUTF8 false)) := by
    rw [Machine.Disk.resolve, if_neg (by decide +kernel), if_neg (by decide +kernel),
      if_neg (by decide +kernel), steps, absolute]
    simp [onDisk, Machine.Disk.follow, Machine.Item.get?, Machine.Item.entries, Dictionary.lookup,
      short]
  rw [Machine.Disk.item, resolved]
  rfl

theorem isOwn_iff {entries : List (String × EntryKind)} (here : ("INDEX.JS", .file) ∈ entries)
    (others : ∀ e ∈ entries, e.2 = .file → "INDEX.JS" ≤ e.1) {name : String} :
    IsOwn (.ok entries) name ↔ name = "INDEX.JS" := by
  have isOwn : IsOwn (.ok entries) "INDEX.JS" := by
    refine ⟨⟨entries, rfl, here, by decide +kernel⟩, ?_⟩
    rintro other ⟨_, ⟨⟩, there, -⟩
    exact Text.bytes_le_iff.mpr (others _ there rfl)
  rw [← own?_eq_some_iff, own?_eq_some_iff.mpr isOwn, Option.some.injEq, eq_comm]

theorem isOwn_crowded {name : String} : IsOwn (.ok crowded) name ↔ name = "INDEX.JS" :=
  isOwn_iff (by decide) (by decide)

theorem isOwn_alone {name : String} : IsOwn (.ok alone) name ↔ name = "INDEX.JS" :=
  isOwn_iff (by decide) (by decide)

theorem join_own : Path.join "/F" "INDEX.JS" = "/F/INDEX.JS" := by decide +kernel

theorem find?_settled_unreadable :
    (∀ name, IsOwn (.ok crowded) name ↔ IsOwn (.ok alone) name) ∧
    (∀ name, IsOwn (.ok crowded) name →
      (context crowded "1").host.readText (Path.join "/F" name) () =
        (context alone "2").host.readText (Path.join "/F" name) ()) ∧
    (∀ path, some "/m.js" = some path →
      (context crowded "1").host.readText path () = (context alone "2").host.readText path ()) ∧
    ((find? (context crowded "1") "F" "/F" (some "/m.js")).run { state := () }).1 =
      ((find? (context alone "2") "F" "/F" (some "/m.js")).run { state := () }).1 ∧
    ((find? (context crowded "1") "F" "/F" (some "/m.js")).run { state := () }).1 =
      some ⟨"F", "mentioned", "/m.js", 0, 1⟩ ∧
    onDisk.disk.item "/m" = .ok (.file "x".toUTF8 false) ∧
    Machine.host.readText "/m" onDisk = .ok "x" := by
  have sameOwn : ∀ name, IsOwn (.ok crowded) name ↔ IsOwn (.ok alone) name := by
    intro name
    rw [isOwn_crowded, isOwn_alone]
  have sameCode : ∀ name, IsOwn (.ok crowded) name →
      (context crowded "1").host.readText (Path.join "/F" name) () =
        (context alone "2").host.readText (Path.join "/F" name) () := by
    intro name isOwn
    rw [isOwn_crowded.mp isOwn, join_own]
    rfl
  have sameOther : ∀ path, some "/m.js" = some path →
      (context crowded "1").host.readText path () = (context alone "2").host.readText path () := by
    rintro _ ⟨⟩
    rfl
  obtain ⟨found, same, onDisks⟩ :=
    find?_settled (context crowded "1") { state := () } "F" "/F" (some "/m.js")
  have noOwn : ∀ name code, IsOwn (.ok crowded) name →
      (context crowded "1").host.readText (Path.join "/F" name) () ≠ .ok code := by
    intro name code isOwn
    rw [isOwn_crowded.mp isOwn, join_own]
    simp [context]
  exact ⟨sameOwn, sameCode, sameOther, same _ _ sameOwn sameCode sameOther,
    (found _).mpr (.mentioned noOwn rfl rfl), item_onDisk, (onDisks _ _ _ _ _ item_onDisk).mpr rfl⟩

end Unreadable

end OrchestrationGraph.Script
