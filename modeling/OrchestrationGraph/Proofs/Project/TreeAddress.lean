import OrchestrationGraph.Project.Location
import OrchestrationGraph.Proofs.Pattern.First
import OrchestrationGraph.Proofs.Text.Pieces

/-!
# Addresses of trees

The address of a tree, said without patterns (`TreeAddress`): a repository, a branch, and folders
with any number of slashes around them. There is one way to read it, for none of its parts has a
slash in it, so reading gives back the repository and the folders it was made of, and folders are
read from such addresses alone (`ofText_treeAddress`).
-/

namespace OrchestrationGraph.Location

open Pattern
open Text (Run EndsRun)

variable {l tail before after : List Char} {s url : String} {folders : List String}

/-! ### Parts of an address -/

/-- A letter and further characters of schemes. -/
def IsScheme (l : List Char) : Prop :=
  ∃ c rest, l = c :: rest ∧ isLetter c = true ∧ Run isSchemePart rest

/-- At least one character, and no slash. -/
def IsSegment (l : List Char) : Prop := l ≠ [] ∧ '/' ∉ l

instance : Decidable (IsSegment l) := inferInstanceAs (Decidable (l ≠ [] ∧ '/' ∉ l))

structure Repository where
  scheme : List Char
  host : List Char
  owner : List Char
  name : List Char
  isScheme : IsScheme scheme
  isHost : IsSegment host
  isOwner : IsSegment owner
  isName : IsSegment name

def Repository.text (r : Repository) : List Char :=
  r.scheme ++ "://".toList ++ r.host ++ "/".toList ++ r.owner ++ "/".toList ++ r.name

/-- Folders, each behind a slash and as many more as its number says, and slashes at the end. -/
def foldersText (folders : List (Nat × List Char)) (slashes : Nat) : List Char :=
  folders.flatMap (fun f => List.replicate (f.1 + 1) '/' ++ f.2) ++ List.replicate slashes '/'

structure TreeAddress where
  repository : Repository
  branch : List Char
  folders : List (Nat × List Char)
  slashes : Nat
  isBranch : IsSegment branch
  areFolders : ∀ f ∈ folders, IsSegment f.2 ∧ '\n' ∉ f.2

namespace TreeAddress

def text (a : TreeAddress) : List Char :=
  a.repository.text ++ "/tree/".toList ++ a.branch ++ foldersText a.folders a.slashes

def names (a : TreeAddress) : List String := a.folders.map fun f => String.ofList f.2

end TreeAddress

/-- The text ends in `.git`, whatever the case of the letters. -/
def EndsInGit (l : List Char) : Prop :=
  ∃ front ending, l = front ++ ending ∧ ending.map Char.toLower = ".git".toList

/-- The address under which a repository is cloned: its own, with `.git` at the end unless it ends
so already. -/
def IsCloneUrl (address : List Char) (url : String) : Prop :=
  EndsInGit address ∧ url.toList = address ∨
    ¬ EndsInGit address ∧ url.toList = address ++ ".git".toList

theorem isSegmentPart_iff {c : Char} : isSegmentPart c = true ↔ c ≠ '/' := by
  simp [isSegmentPart]

theorem run_isSegmentPart : Run isSegmentPart l ↔ '/' ∉ l := by
  constructor
  · intro isRun
    exact isRun.not_mem (by decide)
  · intro none c hc
    exact isSegmentPart_iff.mpr fun slash => none (slash ▸ hc)

theorem isSegment_iff : IsSegment l ↔ l ≠ [] ∧ Run isSegmentPart l :=
  and_congr_right' run_isSegmentPart.symm

/-! ### Clone addresses -/

theorem isSuffixOf_iff_endsInGit :
    repositoryEnding.isSuffixOf (l.map Char.toLower) = true ↔ EndsInGit l := by
  rw [List.isSuffixOf_iff_suffix]
  constructor
  · rintro ⟨lowered, split⟩
    obtain ⟨front, ending, rfl, -, lowers⟩ := List.map_eq_append_iff.mp split.symm
    exact ⟨front, ending, rfl, lowers⟩
  · rintro ⟨front, ending, rfl, lowers⟩
    exact ⟨front.map Char.toLower, by rw [List.map_append, lowers]; rfl⟩

theorem isCloneUrl_cloneUrl (l : List Char) : IsCloneUrl (withoutSlashes l) (cloneUrl l) := by
  unfold cloneUrl
  dsimp only
  split
  · rename_i ends
    exact .inl ⟨isSuffixOf_iff_endsInGit.mp ends, String.toList_ofList⟩
  · rename_i other
    exact .inr ⟨fun ends => other (isSuffixOf_iff_endsInGit.mpr ends), String.toList_ofList⟩

theorem withoutSlashes_eq (slashless : ∀ c ∈ l.getLast?, c ≠ '/') : withoutSlashes l = l := by
  have back : EndsRun (fun c => decide (c = '/')) l.reverse := by
    intro c last
    rw [List.head?_reverse] at last
    simpa using slashless c last
  rw [withoutSlashes, Text.trimEndBy, back.dropWhile_eq, List.reverse_reverse]

theorem Repository.withoutSlashes_text (r : Repository) : withoutSlashes r.text = r.text := by
  refine withoutSlashes_eq fun c last => ?_
  obtain ⟨nonempty, noSlash⟩ := r.isName
  rw [Repository.text, List.getLast?_append, List.getLast?_eq_some_getLast nonempty,
    Option.some_or] at last
  rintro rfl
  exact noSlash (Option.some.inj last ▸ List.getLast_mem nonempty)

/-! ### Folders -/

/-- The text ends, or a slash comes next. -/
def AtSlash (l : List Char) : Prop := EndsRun isSegmentPart l

theorem segments_slash (l : List Char) : segments ('/' :: l) = segments l := by
  rw [segments, segments, Text.piecesBy_separator (by decide)]
  rfl

theorem segments_slashes (n : Nat) (l : List Char) :
    segments (List.replicate n '/' ++ l) = segments l := by
  induction n with
  | zero => rfl
  | succ n ih => rw [List.replicate_succ, List.cons_append, segments_slash, ih]

theorem segments_segment (isSegment : IsSegment l) (stops : AtSlash tail) :
    segments (l ++ tail) = String.ofList l :: segments tail := by
  obtain ⟨nonempty, noSlash⟩ := isSegment
  have whole : Text.piecesBy (fun c => decide (c = '/')) l = [l] :=
    Text.piecesBy_of_none fun c hc => decide_eq_false fun slash => noSlash (slash ▸ hc)
  have kept : ([l].filter fun piece => !piece.isEmpty) = [l] := by simp [nonempty]
  cases tail with
  | nil => rw [List.append_nil, segments, whole, kept]; rfl
  | cons c tail =>
    obtain rfl : c = '/' := by simpa [isSegmentPart] using Text.endsRun_cons.mp stops
    rw [segments_slash, segments, Text.piecesBy_append (by decide), whole, List.filter_append, kept]
    rfl

theorem atSlash_foldersText (folders : List (Nat × List Char)) (slashes : Nat) :
    AtSlash (foldersText folders slashes) := by
  have slash : ∀ {rest}, AtSlash ('/' :: rest) := Text.endsRun_cons.mpr (by decide)
  cases folders with
  | nil =>
    cases slashes with
    | zero => exact nofun
    | succ n => exact slash
  | cons f folders => exact slash

/-- The folders are read back, however many slashes stand around them. -/
theorem segments_foldersText {folders : List (Nat × List Char)} (slashes : Nat)
    (areFolders : ∀ f ∈ folders, IsSegment f.2) :
    segments (foldersText folders slashes) = folders.map fun f => String.ofList f.2 := by
  induction folders with
  | nil =>
    have none : segments (List.replicate slashes '/' ++ []) = [] := segments_slashes slashes []
    rwa [List.append_nil] at none
  | cons f folders ih =>
    obtain ⟨isFolder, areFolders⟩ := List.forall_mem_cons.mp areFolders
    have cut : foldersText (f :: folders) slashes =
        List.replicate (f.1 + 1) '/' ++ (f.2 ++ foldersText folders slashes) := by
      simp [foldersText]
    rw [cut, segments_slashes, segments_segment isFolder (atSlash_foldersText _ _), ih areFolders,
      List.map_cons]

/-- Every text is a piece without slashes and folders behind it. -/
theorem exists_foldersText (l : List Char) : ∃ lead folders slashes,
    l = lead ++ foldersText folders slashes ∧ '/' ∉ lead ∧
      ∀ f ∈ folders, IsSegment f.2 ∧ f.2 ⊆ l := by
  induction l with
  | nil => exact ⟨[], [], 0, rfl, List.not_mem_nil, nofun⟩
  | cons c l ih =>
    obtain ⟨lead, folders, slashes, split, noSlash, areFolders⟩ := ih
    have kept : ∀ f ∈ folders, IsSegment f.2 ∧ f.2 ⊆ c :: l := fun f hf =>
      ⟨(areFolders f hf).1, List.subset_cons_of_subset c (areFolders f hf).2⟩
    by_cases slash : c = '/'
    · subst slash
      by_cases empty : lead = []
      · subst empty
        cases folders with
        | nil => exact ⟨[], [], slashes + 1, by rw [split]; rfl, List.not_mem_nil, nofun⟩
        | cons f folders =>
          obtain ⟨isFolder, others⟩ := List.forall_mem_cons.mp kept
          refine ⟨[], (f.1 + 1, f.2) :: folders, slashes, by rw [split]; rfl, List.not_mem_nil, ?_⟩
          exact List.forall_mem_cons.mpr ⟨isFolder, others⟩
      · have isFolder : IsSegment lead ∧ lead ⊆ '/' :: l :=
          ⟨⟨empty, noSlash⟩, fun d hd => List.mem_cons_of_mem _ (split ▸ List.mem_append_left _ hd)⟩
        refine ⟨[], (0, lead) :: folders, slashes, ?_, List.not_mem_nil,
          List.forall_mem_cons.mpr ⟨isFolder, kept⟩⟩
        rw [split]
        simp [foldersText]
    · refine ⟨c :: lead, folders, slashes, by rw [split]; rfl, ?_, kept⟩
      simp [Ne.symm slash, noSlash]

/-! ### The pattern -/

theorem accepts_segment {l : List Char} : segment.Accepts before l after ↔ IsSegment l :=
  accepts_oneOrMore.trans (isSegment_iff.symm)

theorem accepts_scheme : scheme.Accepts before l after ↔
    ∃ lead, l = lead ++ "://".toList ∧ IsScheme lead := by
  unfold scheme
  constructor
  · rintro ⟨_, _, rfl, ⟨_, rest, rfl, ⟨c, rfl, isLetter⟩, isRun⟩, rfl⟩
    exact ⟨c :: rest, rfl, c, rest, rfl, isLetter, isRun⟩
  · rintro ⟨_, rfl, c, rest, rfl, isLetter, isRun⟩
    exact ⟨c :: rest, _, rfl, ⟨[c], rest, rfl, ⟨c, rfl, isLetter⟩, isRun⟩, rfl⟩

/-- What may follow the branch: nothing, or a slash and a rest of one line. -/
def IsRest (l : List Char) : Prop := AtSlash l ∧ '\n' ∉ l

theorem isRest_iff : IsRest l ↔ l = [] ∨ ∃ rest, l = '/' :: rest ∧ '\n' ∉ rest := by
  unfold IsRest AtSlash
  cases l with
  | nil => simp [EndsRun]
  | cons c rest =>
    rw [Text.endsRun_cons, isSegmentPart]
    constructor
    · rintro ⟨slash, oneLine⟩
      obtain rfl : c = '/' := by simpa using slash
      exact .inr ⟨rest, rfl, fun here => oneLine (List.mem_cons_of_mem _ here)⟩
    · rintro (none | ⟨_, same, oneLine⟩)
      · exact absurd none (List.cons_ne_nil c rest)
      · obtain ⟨rfl, rfl⟩ := List.cons.inj same
        exact ⟨by decide, by simpa using oneLine⟩

/-- What the pattern asks of a text. -/
def IsTree (l : List Char) (r : Repository) (branch tail : List Char) : Prop :=
  l = r.text ++ "/tree/".toList ++ branch ++ tail ∧ IsSegment branch ∧ IsRest tail

theorem occurs_treeAddress :
    treeAddress.Occurs l ↔ ∃ r branch tail, IsTree l r branch tail := by
  unfold treeAddress
  constructor
  · rintro ⟨_, _, _, rfl, ⟨_, _, rfl, ⟨_, tail, rfl, ⟨_, branch, rfl, ⟨_, _, rfl, ⟨_, _, rfl, ⟨rfl, rfl⟩,
      isRepository⟩, rfl⟩, isBranch⟩, isTail⟩, rfl, rfl⟩⟩
    obtain ⟨_, name, rfl, ⟨_, _, rfl, ⟨_, owner, rfl, ⟨_, _, rfl, ⟨_, host, rfl, begins, isHost⟩,
      rfl⟩, isOwner⟩, rfl⟩, isName⟩ := accepts_group.mp isRepository
    obtain ⟨lead, rfl, isScheme⟩ := accepts_scheme.mp begins
    have isRest : IsRest tail := by
      rcases accepts_optional.mp isTail with rfl | ⟨_, _, rfl, rfl, isRest⟩
      · exact isRest_iff.mpr (.inl rfl)
      · have oneLine := accepts_group.mp isRest
        exact isRest_iff.mpr (.inr ⟨_, rfl, fun here => by simpa using oneLine _ here⟩)
    refine ⟨⟨lead, host, owner, name, isScheme, accepts_segment.mp isHost, accepts_segment.mp isOwner,
      accepts_segment.mp isName⟩, branch, tail, ?_, accepts_segment.mp isBranch, isRest⟩
    simp [Repository.text]
  · rintro ⟨r, branch, tail, rfl, isBranch, isRest⟩
    refine ⟨[], _, [], (List.append_nil _).symm, _, [], (List.append_nil _).symm, ⟨_, tail, rfl,
      ⟨_, branch, rfl, ⟨_, _, rfl, ⟨[], _, rfl, ⟨rfl, rfl⟩, accepts_group.mpr ⟨_, r.name, rfl, ⟨_, _,
      rfl, ⟨_, r.owner, rfl, ⟨_, _, rfl, ⟨_, r.host, rfl, accepts_scheme.mpr ⟨_, rfl, r.isScheme⟩,
      accepts_segment.mpr r.isHost⟩, rfl⟩, accepts_segment.mpr r.isOwner⟩, rfl⟩,
      accepts_segment.mpr r.isName⟩⟩, rfl⟩, accepts_segment.mpr isBranch⟩,
      accepts_optional.mpr ?_⟩, rfl, rfl⟩
    rcases isRest_iff.mp isRest with rfl | ⟨rest, rfl, oneLine⟩
    · exact .inl rfl
    · refine .inr ⟨_, rest, rfl, rfl, accepts_group.mpr fun c hc => decide_eq_true ?_⟩
      rintro rfl
      exact oneLine hc

/-- An address begins with a scheme, or with the user of the shell's protocol. -/
theorem isAddress_iff : isAddress s = true ↔
    (∃ lead rest, IsScheme lead ∧ s.toList = lead ++ "://".toList ++ rest) ∨
      ∃ rest, s.toList = "git@".toList ++ rest := by
  unfold isAddress schemeAtStart
  rw [Bool.or_eq_true, occursIn_iff, List.isPrefixOf_iff_prefix]
  refine or_congr ?_ (exists_congr fun rest => eq_comm)
  constructor
  · rintro ⟨_, _, rest, split, _, _, rfl, ⟨rfl, rfl⟩, begins⟩
    obtain ⟨lead, rfl, isScheme⟩ := accepts_scheme.mp begins
    exact ⟨lead, rest, isScheme, split⟩
  · rintro ⟨lead, rest, isScheme, split⟩
    exact ⟨[], _, rest, split, [], _, rfl, ⟨rfl, rfl⟩, accepts_scheme.mpr ⟨lead, rfl, isScheme⟩⟩

theorem isAddress_append (isOne : isAddress (String.ofList l) = true) (l' : List Char) :
    isAddress (String.ofList (l ++ l')) = true := by
  rw [isAddress_iff, String.toList_ofList] at isOne ⊢
  rcases isOne with ⟨lead, rest, isScheme, rfl⟩ | ⟨rest, rfl⟩
  · exact .inl ⟨lead, rest ++ l', isScheme, List.append_assoc _ _ _⟩
  · exact .inr ⟨rest ++ l', List.append_assoc _ _ _⟩

theorem Repository.isAddress_text (r : Repository) : isAddress (String.ofList r.text) = true := by
  refine isAddress_iff.mpr (.inl ⟨r.scheme, r.host ++ "/".toList ++ r.owner ++ "/".toList ++ r.name,
    r.isScheme, ?_⟩)
  rw [String.toList_ofList]
  simp only [Repository.text, List.append_assoc]

/-! ### The way through an address -/

variable {next : Next} {h : Hit}

theorem attempt_segment (isSegment : IsSegment l) (stops : AtSlash after)
    (leads : next (before ++ l) after = some h) : segment.attempt next before (l ++ after) = some h :=
  attempt_oneOrMore isSegment.1 (run_isSegmentPart.mpr isSegment.2) stops leads

theorem attempt_scheme (isScheme : IsScheme l)
    (leads : next (before ++ l ++ "://".toList) after = some h) :
    scheme.attempt next before (l ++ ("://".toList ++ after)) = some h := by
  obtain ⟨c, rest, rfl, isLetter, isRun⟩ := isScheme
  have stops : EndsRun isSchemePart ("://".toList ++ after) := Text.endsRun_cons.mpr (by decide)
  have colon := (attempt_text "://").trans leads
  rw [List.append_cons] at colon
  exact (if_pos isLetter).trans (longest_run isRun stops colon)

def repositoryOn : Pattern :=
  scheme ++ segment ++ text "/" ++ segment ++ text "/" ++ segment

/-- What follows the branch. -/
def restOn : Pattern := optional (text "/" ++ group "rest" (many (· ≠ '\n'))) ++ atEnd

/-- The marks for the rest behind the branch. -/
def restMarks (before tail : List Char) : List (Mark × Nat) :=
  if tail = [] then []
  else [(.opens "rest", before.length + 1), (.closes "rest", (before ++ tail).length)]

theorem attempt_restOn (before : List Char) (isRest : IsRest tail) :
    restOn.attempt finish before tail =
      some ⟨(before ++ tail).length, restMarks before tail⟩ := by
  rcases isRest_iff.mp isRest with rfl | ⟨rest, rfl, oneLine⟩
  · have stuck : (text "/" ++ group "rest" (many (· ≠ '\n'))).attempt (atEnd.attempt finish) before [] =
        none := rfl
    rw [List.append_nil]
    exact attempt_optional_none stuck
  · have isRun : Run (fun c => decide (c ≠ '\n')) rest := by
      intro c hc
      refine decide_eq_true ?_
      rintro rfl
      exact oneLine hc
    have ends : (atEnd.attempt finish) (before ++ "/".toList ++ rest) [] = some _ := if_pos rfl
    have stops : EndsRun (fun c => decide (c ≠ '\n')) [] := by simp [EndsRun]
    have through : (many fun c => decide (c ≠ '\n')).attempt
        ((mark (.closes "rest")).attempt (atEnd.attempt finish)) (before ++ "/".toList) (rest ++ []) =
          some _ :=
      longest_run isRun stops (attempt_mark (.closes "rest") ends)
    rw [List.append_nil] at through
    have opened := (attempt_text "/").trans (attempt_group through)
    have whole : before ++ "/".toList ++ rest = before ++ '/' :: rest := by simp
    have start : (before ++ "/".toList).length = before.length + 1 := List.length_append
    rw [whole, start] at opened
    exact attempt_optional_some opened

theorem attempt_start (next : Next) (l : List Char) :
    treeAddress.attempt next [] l = (group "repository" repositoryOn).attempt
      ((text "/tree/").attempt (segment.attempt (restOn.attempt next))) [] l :=
  rfl

theorem attempt_treeAddress {r : Repository} {branch : List Char} (isBranch : IsSegment branch)
    (isRest : IsRest tail) :
    treeAddress.attempt finish [] (r.text ++ "/tree/".toList ++ branch ++ tail) =
      some ⟨(r.text ++ "/tree/".toList ++ branch ++ tail).length,
        (.opens "repository", 0) :: (.closes "repository", r.text.length) ::
          restMarks (r.text ++ "/tree/".toList ++ branch) tail⟩ := by
  have slash : ∀ rest, AtSlash ("/".toList ++ rest) := fun _ => Text.endsRun_cons.mpr (by decide)
  have tree : ∀ rest, AtSlash ("/tree/".toList ++ rest) := fun _ =>
    Text.endsRun_cons.mpr (by decide)
  have branched := attempt_segment isBranch isRest.1
    (attempt_restOn (r.text ++ "/tree/".toList ++ branch) isRest)
  have closed := attempt_mark (.closes "repository") ((attempt_text "/tree/").trans branched)
  have named := attempt_segment r.isName (tree _) closed
  have owned := attempt_segment r.isOwner (slash _) ((attempt_text "/").trans named)
  have hosted := attempt_segment r.isHost (slash _) ((attempt_text "/").trans owned)
  have whole : r.text ++ "/tree/".toList ++ branch ++ tail = r.scheme ++ ("://".toList ++ (r.host ++
      ("/".toList ++ (r.owner ++ ("/".toList ++ (r.name ++ ("/tree/".toList ++ (branch ++ tail)))))))) := by
    simp [Repository.text]
  have begun : repositoryOn.attempt _ [] _ = some _ := attempt_scheme r.isScheme hosted
  rw [← whole] at begun
  rw [attempt_start]
  exact attempt_group begun

/-! ### Reading -/

variable {r : Repository} {branch : List Char}

theorem group?_repository {stop : Nat} {marks : List (Mark × Nat)} (rest : List Char) :
    (⟨0, stop, (.opens "repository", 0) :: (.closes "repository", r.text.length) :: marks⟩ : Match).group?
        "repository" (r.text ++ rest) = some r.text :=
  congrArg some (slice_middle [] r.text rest)

/-- The folders are those of the rest behind the branch, also where the match did not come by one. -/
theorem segments_group?_rest {start stop i j : Nat} (isRest : IsRest tail) :
    segments (((⟨start, stop, (.opens "repository", i) :: (.closes "repository", j) ::
        restMarks before tail⟩ : Match).group? "rest" (before ++ tail)).getD []) = segments tail := by
  rcases isRest_iff.mp isRest with rfl | ⟨rest, rfl, -⟩
  · rfl
  · have place : (before ++ "/".toList).length = before.length + 1 := List.length_append
    have middle := slice_middle (before ++ "/".toList) rest []
    have whole : before ++ "/".toList ++ rest = before ++ '/' :: rest := by simp
    rw [List.append_nil, whole, place] at middle
    rw [segments_slash]
    exact congrArg segments middle

theorem find?_of_isTree (isTree : IsTree l r branch tail) : ∃ m, treeAddress.find? l = some m ∧
    m.group? "repository" l = some r.text ∧
      segments ((m.group? "rest" l).getD []) = segments tail := by
  obtain ⟨rfl, isBranch, isRest⟩ := isTree
  have here : treeAddress.matchAt? [] (r.text ++ "/tree/".toList ++ branch ++ tail) = some ⟨0, _, _⟩ :=
    congrArg (Option.map _) (attempt_treeAddress isBranch isRest)
  refine ⟨_, find?_eq_some_iff.mpr ⟨[], _, rfl, here, ?_⟩, ?_, segments_group?_rest isRest⟩
  · intro earlier more split nonempty
    exact absurd (List.append_eq_nil_iff.mp split.symm).2 nonempty
  · simp only [List.append_assoc]
    exact group?_repository _

theorem ofText_of_isTree (isTree : IsTree (Text.trim s).toList r branch tail) :
    ofText s = .repository (cloneUrl r.text) (segments tail) := by
  obtain ⟨m, found, repository, rest⟩ := find?_of_isTree isTree
  have isOne : isAddress (Text.trim s) = true := by
    have longer := isAddress_append r.isAddress_text ("/tree/".toList ++ branch ++ tail)
    rwa [← List.append_assoc, ← List.append_assoc, ← isTree.1, String.ofList_toList] at longer
  unfold ofText
  simp only [isOne, found, repository, rest]
  rfl

theorem ofText_of_no_tree (isOne : isAddress (Text.trim s) = true)
    (noTree : ¬ ∃ r branch tail, IsTree (Text.trim s).toList r branch tail) :
    ofText s = .repository (cloneUrl (Text.trim s).toList) [] := by
  have none : treeAddress.find? (Text.trim s).toList = none :=
    find?_eq_none_iff.mpr fun occurs => noTree (occurs_treeAddress.mp occurs)
  unfold ofText
  simp only [isOne, none]
  rfl

/-! ### Trees -/

theorem isTree_text (a : TreeAddress) :
    IsTree a.text a.repository a.branch (foldersText a.folders a.slashes) := by
  refine ⟨rfl, a.isBranch, atSlash_foldersText _ _, fun newline => ?_⟩
  unfold foldersText at newline
  rcases List.mem_append.mp newline with among | among
  · obtain ⟨f, hf, among⟩ := List.mem_flatMap.mp among
    rcases List.mem_append.mp among with among | among
    · exact absurd (List.eq_of_mem_replicate among) (by decide)
    · exact (a.areFolders f hf).2 among
  · exact absurd (List.eq_of_mem_replicate among) (by decide)

theorem exists_treeAddress (isTree : IsTree l r branch tail) :
    ∃ a : TreeAddress, l = a.text ∧ r = a.repository ∧ segments tail = a.names := by
  obtain ⟨rfl, isBranch, atSlash, oneLine⟩ := isTree
  obtain ⟨lead, folders, slashes, rfl, noSlash, areFolders⟩ := exists_foldersText tail
  -- What follows the branch begins with a slash, so no piece stands in front of the folders.
  have none : lead = [] := by
    cases lead with
    | nil => rfl
    | cons c lead =>
      refine absurd ?_ noSlash
      obtain rfl : c = '/' := by simpa [isSegmentPart] using Text.endsRun_cons.mp atSlash
      exact List.mem_cons_self
  subst none
  refine ⟨⟨r, branch, folders, slashes, isBranch, fun f hf =>
    ⟨(areFolders f hf).1, fun newline => oneLine ((areFolders f hf).2 newline)⟩⟩, rfl, rfl, ?_⟩
  exact segments_foldersText slashes fun f hf => (areFolders f hf).1

theorem not_isBlank_of_isLetter {c : Char} (isOne : isLetter c = true) : Text.isBlank c = false := by
  have noLetter : Text.blankPoints.all (fun n => !isLetter (Char.ofNat n)) = true := by
    decide +kernel
  cases blank : Text.isBlank c with
  | false => rfl
  | true =>
    have other := List.all_eq_true.mp noLetter _ (Text.mem_blankPoints blank)
    simp [isOne] at other

theorem trim_text (a : TreeAddress) (isRun : Run Text.isBlank before)
    (isRun' : Run Text.isBlank after) (back : ∀ c ∈ a.text.getLast?, Text.isBlank c = false) :
    (Text.trim (String.ofList (before ++ a.text ++ after))).toList = a.text := by
  obtain ⟨c, rest, scheme, isLetter, -⟩ := a.repository.isScheme
  have begins : ∃ more, a.text = c :: more := by
    rw [TreeAddress.text, Repository.text, scheme]
    exact ⟨_, rfl⟩
  obtain ⟨more, begins⟩ := begins
  have front : EndsRun Text.isBlank a.text :=
    begins ▸ Text.endsRun_cons.mpr (not_isBlank_of_isLetter isLetter)
  have back : EndsRun Text.isBlank a.text.reverse := by
    intro d last
    exact back d (by rwa [List.head?_reverse] at last)
  rw [Text.trim, String.toList_ofList, String.toList_ofList]
  exact Text.trimBy_surrounded isRun isRun' (begins ▸ List.cons_ne_nil c more) front back

/-- Whatever its parts say, the address of a tree is read as the repository and the folders it is
made of, with white space around it too; and where folders are read, such an address was. -/
theorem ofText_treeAddress :
    (∀ (a : TreeAddress) (before after : List Char), Run Text.isBlank before →
      Run Text.isBlank after → (∀ c ∈ a.text.getLast?, Text.isBlank c = false) →
      ∃ url, ofText (String.ofList (before ++ a.text ++ after)) = .repository url a.names ∧
        IsCloneUrl a.repository.text url) ∧
    ∀ s url folders, ofText s = .repository url folders → folders ≠ [] →
      ∃ a : TreeAddress, Text.trim s = String.ofList a.text ∧ folders = a.names ∧
        IsCloneUrl a.repository.text url := by
  have clone (r : Repository) : IsCloneUrl r.text (cloneUrl r.text) := by
    simpa only [r.withoutSlashes_text] using isCloneUrl_cloneUrl r.text
  constructor
  · intro a before after isRun isRun' back
    have isTree := isTree_text a
    rw [← trim_text a isRun isRun' back] at isTree
    refine ⟨cloneUrl a.repository.text, ?_, clone a.repository⟩
    rw [ofText_of_isTree isTree, segments_foldersText a.slashes fun f hf => (a.areFolders f hf).1]
    rfl
  · intro s url folders read nonempty
    by_cases tree : ∃ r branch tail, IsTree (Text.trim s).toList r branch tail
    · obtain ⟨r, branch, tail, isTree⟩ := tree
      obtain ⟨a, text, rfl, names⟩ := exists_treeAddress isTree
      rw [ofText_of_isTree isTree] at read
      injection read with isUrl areNames
      refine ⟨a, ?_, areNames ▸ names, isUrl ▸ clone a.repository⟩
      rw [← text, String.ofList_toList]
    · cases isOne : isAddress (Text.trim s) with
      | false =>
        unfold ofText at read
        simp [isOne] at read
      | true =>
        rw [ofText_of_no_tree isOne tree] at read
        injection read with _ areNames
        exact absurd areNames.symm nonempty

/-- Parts that look like the marks between them. -/
def markedTree : TreeAddress where
  repository := {
    scheme := "x-1".toList
    host := "git@a:b".toList
    owner := "tree".toList
    name := "r.GIT".toList
    isScheme := ⟨'x', "-1".toList, rfl, by decide, Text.run_of_all (by decide)⟩
    isHost := by decide
    isOwner := by decide
    isName := by decide }
  branch := "tree".toList
  folders := [(0, "a b".toList), (2, "tree".toList), (1, "..".toList)]
  slashes := 3
  isBranch := by decide
  areFolders := by simp only [List.forall_mem_cons]; decide

theorem ofText_markedTree :
    ofText " x-1://git@a:b/tree/r.GIT/tree/tree/a b///tree//..///\t\n" =
        .repository "x-1://git@a:b/tree/r.GIT" ["a b", "tree", ".."] ∧
      ∃ a : TreeAddress, Text.trim " x-1://git@a:b/tree/r.GIT/tree/tree/a b///tree//..///\t\n" =
        String.ofList a.text ∧ ["a b", "tree", ".."] = a.names := by
  have back : ∀ c ∈ markedTree.text.getLast?, Text.isBlank c = false := by
    have last : markedTree.text.getLast? = some '/' := by decide
    rw [last]
    rintro _ ⟨⟩
    decide
  obtain ⟨url, read, clone⟩ := ofText_treeAddress.1 markedTree [' '] "\t\n".toList
    (Text.run_of_all (by decide)) (Text.run_of_all (by decide)) back
  have isUrl : url = "x-1://git@a:b/tree/r.GIT" := by
    obtain ⟨-, same⟩ | ⟨other, -⟩ := clone
    · exact String.toList_inj.mp same
    · exact absurd (isSuffixOf_iff_endsInGit.mp (by decide)) other
  rw [isUrl] at read
  obtain ⟨a, text, names, -⟩ := ofText_treeAddress.2 _ _ _ read (by decide)
  exact ⟨read, a, text, names⟩

end OrchestrationGraph.Location
