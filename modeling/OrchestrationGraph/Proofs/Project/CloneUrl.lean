import OrchestrationGraph.Proofs.Project.TreeAddress

/-!
# Clone addresses

The address under which a repository is cloned is a normal form: it is an address, it has nothing
around it that reading would take off, and it is read as a repository under itself (`Normal`).
Reading an address with more than slashes behind its scheme gives such a form (`ofText_normal`):
slashes off the end and the ending of repositories make no tree of what was none
(`IsTree.of_append_ending`), and the repository of a tree has too few slashes to be one.
-/

namespace OrchestrationGraph.Location

open Pattern
open Text (Run EndsRun)

variable {l w branch tail slashes : List Char} {s url : String} {r : Repository}

structure Normal (url : String) : Prop where
  endsInGit : EndsInGit url.toList
  slashless : ∀ c ∈ url.toList.getLast?, c ≠ '/'
  front : ∀ c ∈ url.toList.head?, Text.isBlank c = false
  back : ∀ c ∈ url.toList.getLast?, Text.isBlank c = false
  isOne : isAddress url = true
  again : ofText url = .repository url []

/-! ### The ending -/

theorem getLast?_of_endsInGit (ends : EndsInGit l) : ∃ c, l.getLast? = some c ∧ c.toLower = 't' := by
  obtain ⟨front, ending, rfl, lowers⟩ := ends
  have last : (ending.map Char.toLower).getLast? = some 't' := by rw [lowers]; rfl
  rw [List.getLast?_map, Option.map_eq_some_iff] at last
  obtain ⟨c, last, lower⟩ := last
  exact ⟨c, by rw [List.getLast?_append, last]; rfl, lower⟩

theorem slashless_of_endsInGit (ends : EndsInGit l) : ∀ c ∈ l.getLast?, c ≠ '/' := by
  obtain ⟨c, last, lower⟩ := getLast?_of_endsInGit ends
  rw [last]
  rintro _ ⟨⟩ rfl
  exact absurd lower (by decide)

theorem back_of_endsInGit (ends : EndsInGit l) : ∀ c ∈ l.getLast?, Text.isBlank c = false := by
  have noneLower : Text.blankPoints.all (fun n => (Char.ofNat n).toLower ≠ 't') = true := by
    decide +kernel
  obtain ⟨c, last, lower⟩ := getLast?_of_endsInGit ends
  rw [last]
  rintro _ ⟨⟩
  cases blank : Text.isBlank c with
  | false => rfl
  | true =>
    have other := List.all_eq_true.mp noneLower _ (Text.mem_blankPoints blank)
    simp [lower] at other

theorem IsCloneUrl.endsInGit (clone : IsCloneUrl w url) : EndsInGit url.toList := by
  obtain ⟨ends, same⟩ | ⟨-, same⟩ := clone
  · exact same ▸ ends
  · exact ⟨w, ".git".toList, same, by decide⟩

theorem IsCloneUrl.eq_append (clone : IsCloneUrl w url) :
    url.toList = w ∨ url.toList = w ++ ".git".toList :=
  clone.imp And.right And.right

/-- An address that ends so already is cloned under itself. -/
theorem cloneUrl_of_endsInGit (ends : EndsInGit url.toList) : cloneUrl url.toList = url := by
  have clone := isCloneUrl_cloneUrl url.toList
  rw [withoutSlashes_eq (slashless_of_endsInGit ends)] at clone
  obtain ⟨-, same⟩ | ⟨other, -⟩ := clone
  · exact String.toList_inj.mp same
  · exact absurd ends other

/-! ### The front -/

theorem run_of_isScheme (isScheme : IsScheme l) : Run isSchemePart l := by
  obtain ⟨c, rest, rfl, letter, isRun⟩ := isScheme
  exact Text.run_cons.mpr ⟨by simp [isSchemePart, letter], isRun⟩

theorem front_of_isAddress (isOne : isAddress url = true) :
    ∀ c ∈ url.toList.head?, Text.isBlank c = false := by
  rcases isAddress_iff.mp isOne with ⟨_, rest, ⟨c, more, rfl, letter, -⟩, split⟩ | ⟨rest, split⟩
  · rw [split]
    rintro _ ⟨⟩
    exact not_isBlank_of_isLetter letter
  · rw [split]
    rintro _ ⟨⟩
    decide

/-- The scheme, or the user, outlives the slashes at the end. -/
theorem isAddress_withoutSlashes (isOne : isAddress s = true)
    (more : ∀ lead rest, IsScheme lead → s.toList = lead ++ "://".toList ++ rest →
      ∃ c ∈ rest, c ≠ '/') : isAddress (String.ofList (withoutSlashes s.toList)) = true := by
  rw [isAddress_iff, String.toList_ofList]
  rcases isAddress_iff.mp isOne with ⟨lead, rest, isScheme, split⟩ | ⟨rest, split⟩
  · obtain ⟨c, hc, other⟩ := more lead rest isScheme split
    obtain ⟨rest, after, rfl⟩ := List.append_of_mem hc
    have back : EndsRun (fun c => decide (c = '/')) (lead ++ "://".toList ++ rest ++ [c]).reverse := by
      rw [List.reverse_append]
      exact Text.endsRun_cons.mpr (decide_eq_false other)
    have whole : s.toList = lead ++ "://".toList ++ rest ++ [c] ++ after := by rw [split]; simp
    refine .inl ⟨lead, rest ++ [c] ++ withoutSlashes after, isScheme, ?_⟩
    rw [whole, withoutSlashes, Text.trimEndBy_append back, withoutSlashes]
    simp only [List.append_assoc]
  · have back : EndsRun (fun c => decide (c = '/')) "git@".toList.reverse :=
      Text.endsRun_cons.mpr (by decide)
    exact .inr ⟨withoutSlashes rest, by rw [split, withoutSlashes, Text.trimEndBy_append back]; rfl⟩

/-! ### No tree comes about -/

theorem IsTree.append_slashes (isTree : IsTree w r branch tail)
    (isRun : Run (fun c => decide (c = '/')) slashes) :
    IsTree (w ++ slashes) r branch (tail ++ slashes) := by
  obtain ⟨rfl, isBranch, atSlash, oneLine⟩ := isTree
  refine ⟨by simp only [List.append_assoc], isBranch, ?_, ?_⟩
  · cases tail with
    | cons c tail => exact Text.endsRun_cons.mpr (Text.endsRun_cons.mp atSlash)
    | nil =>
      intro c first
      obtain rfl : c = '/' := by simpa using isRun c (List.mem_of_mem_head? first)
      rfl
  · rw [List.mem_append, not_or]
    exact ⟨oneLine, isRun.not_mem (by decide)⟩

/-- The ending of repositories is part of the rest or else of the branch, and the branch is more
than it. -/
theorem IsTree.of_append_ending (isTree : IsTree (w ++ ".git".toList) r branch tail)
    (slashless : ∀ c ∈ w.getLast?, c ≠ '/') : ∃ branch tail, IsTree w r branch tail := by
  obtain ⟨split, isBranch, atSlash, oneLine⟩ := isTree
  obtain ⟨rest, rfl, ending⟩ | ⟨middle, whole, ending⟩ := List.append_eq_append_iff.mp split.symm
  · refine ⟨branch, rest, rfl, isBranch, ?_, fun newline => ?_⟩
    · cases rest with
      | nil => exact nofun
      | cons c rest =>
        rw [ending] at atSlash
        exact Text.endsRun_cons.mpr (Text.endsRun_cons.mp atSlash)
    · exact oneLine (ending ▸ List.mem_append_left _ newline)
  · have none : tail = [] := by
      cases tail with
      | nil => rfl
      | cons c tail =>
        obtain rfl : c = '/' := by simpa [isSegmentPart] using Text.endsRun_cons.mp atSlash
        have here : '/' ∈ ".git".toList := ending ▸ List.mem_append_right _ List.mem_cons_self
        exact absurd here (by decide)
    rw [none, List.append_nil] at ending
    rw [← ending] at whole
    have last : (r.text ++ "/tree/".toList).getLast? = some '/' := by rw [List.getLast?_append]; rfl
    obtain ⟨shorter, rfl, cut⟩ | ⟨middle, before, cut⟩ := List.append_eq_append_iff.mp whole
    · refine ⟨shorter, [], ?_, ⟨?_, fun here => ?_⟩, nofun, List.not_mem_nil⟩
      · rw [List.append_nil]
      · rintro rfl
        rw [List.append_nil, last] at slashless
        exact slashless '/' rfl rfl
      · exact isBranch.2 (cut ▸ List.mem_append_left _ here)
    · rw [before, List.getLast?_append] at last
      cases endsIn : middle.getLast? with
      | none =>
        rw [endsIn, Option.none_or] at last
        exact absurd rfl (slashless '/' last)
      | some c =>
        rw [endsIn, Option.some_or] at last
        obtain rfl := Option.some.inj last
        have here : '/' ∈ ".git".toList :=
          cut ▸ List.mem_append_left _ (List.mem_of_getLast? endsIn)
        exact absurd here (by decide)

theorem count_slash_of_isTree (isTree : IsTree l r branch tail) :
    r.text.count '/' + 2 ≤ l.count '/' := by
  obtain ⟨rfl, -, -⟩ := isTree
  have marks : "/tree/".toList.count '/' = 2 := by decide
  simp only [List.count_append, marks]
  omega

theorem Repository.count_slash (r : Repository) : r.text.count '/' = 4 := by
  have scheme : '/' ∉ r.scheme := (run_of_isScheme r.isScheme).not_mem (by decide)
  have colon : "://".toList.count '/' = 2 := by decide
  have slash : "/".toList.count '/' = 1 := by decide
  simp only [Repository.text, List.count_append, List.count_eq_zero_of_not_mem scheme, colon, slash,
    List.count_eq_zero_of_not_mem r.isHost.2, List.count_eq_zero_of_not_mem r.isOwner.2,
    List.count_eq_zero_of_not_mem r.isName.2]

theorem not_isTree_of_repository {r' : Repository} (clone : IsCloneUrl r.text url) :
    ¬ IsTree url.toList r' branch tail := by
  intro isTree
  have more := count_slash_of_isTree isTree
  have ending : ".git".toList.count '/' = 0 := by decide
  rw [r'.count_slash] at more
  rcases clone.eq_append with same | same
  · rw [same, r.count_slash] at more
    omega
  · rw [same, List.count_append, r.count_slash, ending] at more
    omega

theorem not_isTree_of_not_isTree (noTree : ¬ ∃ r branch tail, IsTree l r branch tail)
    (clone : IsCloneUrl (withoutSlashes l) url) : ¬ IsTree url.toList r branch tail := by
  intro isTree
  obtain ⟨slashes, cut, isRun, back⟩ := Text.exists_trimEndBy (fun c => decide (c = '/')) l
  have slashless : ∀ c ∈ (withoutSlashes l).getLast?, c ≠ '/' := by
    intro c last
    rw [← List.head?_reverse] at last
    simpa using back c last
  have shorter : ∃ branch tail, IsTree (withoutSlashes l) r branch tail := by
    rcases clone.eq_append with same | same
    · exact ⟨branch, tail, same ▸ isTree⟩
    · exact (same ▸ isTree).of_append_ending slashless
  obtain ⟨branch, tail, shorter⟩ := shorter
  exact noTree ⟨r, branch, tail ++ slashes, cut ▸ shorter.append_slashes isRun⟩

/-! ### Normal forms -/

theorem normal_of_isCloneUrl (clone : IsCloneUrl w url)
    (isOne : isAddress (String.ofList w) = true)
    (noTree : ¬ ∃ r branch tail, IsTree url.toList r branch tail) : Normal url := by
  have ends := clone.endsInGit
  have isOne : isAddress url = true := by
    rcases clone.eq_append with same | same
    · rwa [← same, String.ofList_toList] at isOne
    · have longer := isAddress_append isOne ".git".toList
      rwa [← same, String.ofList_toList] at longer
  have slashless := slashless_of_endsInGit ends
  have back := back_of_endsInGit ends
  have front := front_of_isAddress isOne
  have nonempty : url.toList ≠ [] := by
    obtain ⟨c, last, -⟩ := getLast?_of_endsInGit ends
    rintro none
    rw [none] at last
    exact absurd last nofun
  have trimmed : Text.trim url = url := by
    have bare := Text.trimBy_surrounded Text.run_nil Text.run_nil nonempty front
      (fun c last => back c (by rwa [List.head?_reverse] at last))
    rw [List.nil_append, List.append_nil] at bare
    rw [Text.trim, bare, String.ofList_toList]
  have again : ofText url = .repository url [] := by
    rw [ofText_of_no_tree (by rwa [trimmed]) (by rwa [trimmed]), trimmed, cloneUrl_of_endsInGit ends]
  exact ⟨ends, slashless, front, back, isOne, again⟩

theorem ofText_normal (s : String) (isOne : isAddress (Text.trim s) = true)
    (more : ∀ lead rest, IsScheme lead → (Text.trim s).toList = lead ++ "://".toList ++ rest →
      ∃ c ∈ rest, c ≠ '/') :
    ∃ url folders, ofText s = .repository url folders ∧ Normal url := by
  by_cases tree : ∃ r branch tail, IsTree (Text.trim s).toList r branch tail
  · obtain ⟨r, branch, tail, isTree⟩ := tree
    have clone := isCloneUrl_cloneUrl r.text
    rw [r.withoutSlashes_text] at clone
    refine ⟨_, _, ofText_of_isTree isTree, normal_of_isCloneUrl clone r.isAddress_text ?_⟩
    rintro ⟨_, _, _, isTree⟩
    exact not_isTree_of_repository clone isTree
  · have clone := isCloneUrl_cloneUrl (Text.trim s).toList
    refine ⟨_, [], ofText_of_no_tree isOne tree,
      normal_of_isCloneUrl clone (isAddress_withoutSlashes isOne more) ?_⟩
    rintro ⟨_, _, _, isTree⟩
    exact not_isTree_of_not_isTree tree clone isTree

theorem ofText_normal_newline :
    isAddress (Text.trim " https://h/o/r/tree/b/\n// ") = true ∧
    ofText " https://h/o/r/tree/b/\n// " = .repository "https://h/o/r/tree/b/\n.git" [] ∧
      Normal "https://h/o/r/tree/b/\n.git" := by
  have isOne : isAddress (Text.trim " https://h/o/r/tree/b/\n// ") = true := by decide +kernel
  have read : ofText " https://h/o/r/tree/b/\n// " = .repository "https://h/o/r/tree/b/\n.git" [] := by
    decide +kernel
  obtain ⟨url, folders, same, normal⟩ := ofText_normal " https://h/o/r/tree/b/\n// " isOne (by
    intro lead rest isScheme split
    have here : '\n' ∈ lead ++ "://".toList ++ rest := split ▸ by decide +kernel
    have notLead : '\n' ∉ lead := (run_of_isScheme isScheme).not_mem (by decide)
    refine ⟨'\n', ?_, by decide⟩
    simpa [notLead] using here)
  obtain ⟨rfl, -⟩ := Location.repository.inj (read.symm.trans same)
  exact ⟨isOne, read, normal⟩

end OrchestrationGraph.Location
