import OrchestrationGraph.Proofs.Pattern.First
import OrchestrationGraph.Proofs.Source.Balanced
import OrchestrationGraph.Proofs.Usage.Declaration
import OrchestrationGraph.Source.File

/-!
# Where the source of a function is found

Among compiled sources a function is found exactly if one of them declares it. Then the source tells
of the first file that does, of the first site in it, and of the shortest body behind the
declaration there (`find?_declared`).
-/

namespace OrchestrationGraph.SourceFile

open Usage
open Source.Brackets (IsShortest)

variable {name : String} {text l : List Char} {f : SourceFile} {s : Source}

/-! ### Sites -/

theorem occurs_declaresFunction : (declaresFunction name).Occurs text ↔ Nonempty (Site name text) := by
  constructor
  · rintro ⟨before, _, after, split, accepts⟩
    obtain ⟨⟨d, rfl⟩, isEdge⟩ := accepts_declaresFunction.mp accepts
    exact ⟨before, d, after, split, isEdge⟩
  · rintro ⟨site⟩
    exact ⟨site.before, site.declaration.text, site.after, site.split,
      accepts_declaresFunction.mpr ⟨⟨_, rfl⟩, site.isEdge⟩⟩

/-- Sites at the same place are the same: what follows the declaration is the same text. -/
theorem after_eq_of_before_eq {site site' : Site name text} (same : site'.before = site.before) :
    site'.after = site.after := by
  have split := site'.split.symm.trans site.split
  rw [same, List.append_assoc, List.append_assoc] at split
  exact site'.declaration.unique site.declaration (List.append_cancel_left split)

/-! ### Bodies -/

/-- A whole body: it ends with the closing brace, has as many braces that open as that close, and
has a line end where more are open than closed. -/
structure IsBody (l : List Char) : Prop where
  ends : l.getLast? = some '\x7d'
  balanced : l.count '\x7b' = l.count '\x7d'
  inner : ∃ before after, l = before ++ '\n' :: after ∧
    before.count '\x7d' < before.count '\x7b'

theorem hasRequired_braces : braces.HasRequired l ↔
    ∃ before after, l = before ++ '\n' :: after ∧ before.count '\x7d' < before.count '\x7b' := by
  have inside : ∀ before : List Char,
      0 < braces.depth (before ++ ['\n']) ↔ before.count '\x7d' < before.count '\x7b' := by
    intro before
    simp only [Source.Brackets.depth, braces, List.count_append]
    have opens : ['\n'].count '\x7b' = 0 := by decide
    have closes : ['\n'].count '\x7d' = 0 := by decide
    omega
  constructor
  · rintro ⟨before, c, after, split, required, deep⟩
    obtain rfl : c = '\n' := by simpa [braces] using required
    exact ⟨before, after, split, (inside before).mp deep⟩
  · rintro ⟨before, after, split, deep⟩
    exact ⟨before, '\n', after, split, by simp [braces], (inside before).mpr deep⟩

theorem closes_braces : braces.Closes l ↔ IsBody l := by
  have required : braces.required ≠ [] := by decide
  have balanced : braces.depth l = 0 ↔ l.count '\x7b' = l.count '\x7d' := by
    simp only [Source.Brackets.depth, braces]
    omega
  rw [Source.Brackets.Closes, if_neg required, balanced, hasRequired_braces]
  constructor
  · rintro ⟨ends, balanced, inner⟩
    exact ⟨ends, balanced, inner⟩
  · rintro ⟨ends, balanced, inner⟩
    exact ⟨ends, balanced, inner⟩

theorem IsBody.ne_nil (isBody : IsBody l) : l ≠ [] := by
  rintro rfl
  exact absurd isBody.ends nofun

/-- What is cut out of a text is its shortest beginning that is a body, or nothing. -/
theorem body_cases (text : List Char) :
    ((braces.span? text).getD [] = [] ∧ ¬ ∃ p, p <+: text ∧ IsBody p) ∨
      IsShortest IsBody text ((braces.span? text).getD []) := by
  have different : braces.opening ≠ braces.closing := by decide
  have isBody : braces.Closes = IsBody := funext fun _ => propext closes_braces
  rcases Source.Brackets.span?_cases different text with ⟨p, found, shortest⟩ | ⟨none, unclosed⟩
  · rw [found, Option.getD_some, ← isBody]
    exact .inr shortest
  · rw [none, Option.getD_none]
    refine .inl ⟨rfl, ?_⟩
    rintro ⟨p, isPrefix, body⟩
    exact unclosed p isPrefix (closes_braces.mpr body)

/-! ### One file -/

/-- The source tells of the file and of the site in it, which is the first. -/
structure Tells (f : SourceFile) (site : Site name f.content.toList) (s : Source) : Prop where
  function : s.function = name
  file : s.file = f.path
  position : s.position = Text.byteLength site.before
  /-- No declaration begins at an earlier byte. -/
  least : ∀ site' : Site name f.content.toList, s.position ≤ Text.byteLength site'.before
  /-- At that byte only this declaration is to be read. -/
  definite : ∀ site' : Site name f.content.toList, s.position = Text.byteLength site'.before →
    site'.before = site.before ∧ site'.after = site.after
  begins : ∃ rest, Text.dropBytes? s.position f.content.toList = some rest ∧
    "Function".toList <+: rest
  line : s.line = site.before.count '\n' + 1
  /-- The code is missing where no body follows. -/
  bodiless : s.code = "" ↔ ¬ ∃ p, p <+: site.after ∧ IsBody p
  /-- Else it is the first body that does, from the end of the declaration on. -/
  body : s.code ≠ "" → IsShortest IsBody site.after s.code.toList

theorem declaration?_eq_none_iff :
    declaration? name f = none ↔ ¬ Nonempty (Site name f.content.toList) := by
  rw [declaration?, Option.map_eq_none_iff, Pattern.find?_eq_none_iff, occurs_declaresFunction]

/-- The site that is first in characters is first in bytes, and the only one at its byte. -/
theorem byteLength_before_le (site site' : Site name text)
    (le : site.before.length ≤ site'.before.length) :
    Text.byteLength site.before ≤ Text.byteLength site'.before ∧
      (Text.byteLength site.before = Text.byteLength site'.before →
        site'.before = site.before) := by
  obtain ⟨between, split⟩ := List.prefix_of_prefix_length_le site.isPrefix site'.isPrefix le
  rw [← split, Text.byteLength_append]
  refine ⟨Nat.le_add_right _ _, fun same => ?_⟩
  have none : Text.byteLength between = 0 := by omega
  rw [Text.byteLength_eq_zero none, List.append_nil]

theorem tells_of_declaration? (found : declaration? name f = some s) :
    ∃ site : Site name f.content.toList, Tells f site s := by
  obtain ⟨m, first, rfl⟩ := Option.map_eq_some_iff.mp found
  obtain ⟨before, taken, after, split, accepts, start, stop, least⟩ := Pattern.exists_of_find? first
  obtain ⟨⟨d, rfl⟩, isEdge⟩ := accepts_declaresFunction.mp accepts
  let site : Site name f.content.toList := ⟨before, d, after, split, isEdge⟩
  have first_site : ∀ site' : Site name f.content.toList, before.length ≤ site'.before.length :=
    fun site' => least site'.before site'.declaration.text site'.after site'.split
      (accepts_declaresFunction.mpr ⟨⟨_, rfl⟩, site'.isEdge⟩)
  have split' : f.content.toList = before ++ (d.text ++ after) := by rw [split, List.append_assoc]
  have upto : f.content.toList.take m.start = before := by
    rw [split', start, List.take_left]
  have behind : f.content.toList.drop m.stop = after := by
    rw [split, stop, List.drop_left]
  have position : (f.sourceAt name f.content.toList m).position = Text.byteLength before :=
    congrArg Text.byteLength upto
  have code : (f.sourceAt name f.content.toList m).code =
      String.ofList ((braces.span? after).getD []) := by
    rw [sourceAt, behind]
  have body := body_cases after
  -- From here on the code is the text `l` that `body_cases` speaks of.
  generalize (braces.span? after).getD [] = l at code body
  refine ⟨site, rfl, rfl, position, ?_, ?_, ?_, ?_, ?_, ?_⟩
  · intro site'
    rw [position]
    exact (byteLength_before_le site site' (first_site site')).1
  · intro site' same
    have same := (byteLength_before_le site site' (first_site site')).2 (position ▸ same)
    exact ⟨same, after_eq_of_before_eq same⟩
  · refine ⟨_, ?_, d.begins after⟩
    rw [position, split', Text.dropBytes?_byteLength]
  · have line : Text.lineNumber f.content.toList (Text.byteLength before) =
        before.count '\n' + 1 := by
      rw [split', Text.lineNumber_byteLength]
    exact (congrArg (Text.lineNumber f.content.toList) position).trans line
  · rw [code]
    rcases body with ⟨rfl, unclosed⟩ | ⟨isPrefix, isBody, -⟩
    · simpa using unclosed
    · have nonempty : String.ofList l ≠ "" := by
        simpa using isBody.ne_nil
      exact iff_of_false nonempty (fun unclosed => unclosed ⟨l, isPrefix, isBody⟩)
  · intro nonempty
    rcases body with ⟨rfl, unclosed⟩ | shortest
    · exact absurd code nonempty
    · rw [code, String.toList_ofList]
      exact shortest

/-- What the search tells: nothing if no file has a site, and else of the first file that has one. -/
theorem find?_declared (files : List SourceFile) (name : String) :
    (find? files name = none ↔ ∀ f ∈ files, ¬ Nonempty (Site name f.content.toList)) ∧
      ∀ s, find? files name = some s → ∃ earlier f later, files = earlier ++ f :: later ∧
        (∀ g ∈ earlier, ¬ Nonempty (Site name g.content.toList)) ∧
        ∃ site : Site name f.content.toList, Tells f site s := by
  constructor
  · simp only [find?, List.findSome?_eq_none_iff, declaration?_eq_none_iff]
  · intro s found
    obtain ⟨earlier, f, later, split, here, missed⟩ := List.findSome?_eq_some_iff.mp found
    refine ⟨earlier, f, later, split, ?_, tells_of_declaration? here⟩
    exact fun g isEarlier => declaration?_eq_none_iff.mp (missed g isEarlier)

/-- A file that declares one function, on its second line. -/
def declaring : SourceFile :=
  ⟨"Run.cs", "\n[FunctionName(\"Run\")]\nvoid Run()\n\x7b\n\x7d\n"⟩

theorem find?_declared_second :
    ∃ site : Site "Run" declaring.content.toList,
      Tells declaring site ⟨"Run", ")]\nvoid Run()\n\x7b\n\x7d", "Run.cs", 2, 2⟩ := by
  have found : find? [⟨"Host.cs", "class Host;"⟩, declaring] "Run" =
      some ⟨"Run", ")]\nvoid Run()\n\x7b\n\x7d", "Run.cs", 2, 2⟩ := by decide +kernel
  obtain ⟨earlier, f, later, split, -, site, tells⟩ := (find?_declared _ _).2 _ found
  have here : f ∈ [⟨"Host.cs", "class Host;"⟩, declaring] := by
    rw [split]
    simp
  rcases List.mem_cons.mp here with rfl | isLast
  · exact absurd tells.file (by decide)
  · obtain rfl := List.mem_singleton.mp isLast
    exact ⟨site, tells⟩

end OrchestrationGraph.SourceFile
