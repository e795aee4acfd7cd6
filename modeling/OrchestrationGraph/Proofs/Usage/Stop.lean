import OrchestrationGraph.Proofs.Text.Run
import OrchestrationGraph.Proofs.Usage.Naming

/-!
# Characters at which a name stops

No name, qualifier or white space of a call goes over a bracket that opens or a character that ends
a name. So the first such character behind a place settles how a call can go on from there.
-/

namespace OrchestrationGraph.Usage

open Pattern
open Text (Run EndsRun)

/-- Brackets that open, and all that ends a name. -/
def isStop (c : Char) : Bool := isQuote c || c = ')' || c = ',' || c = '<' || c = '('

def noStop (c : Char) : Bool := !isStop c

def stopList : List Char := ['"', '\x27', '\x60', ')', ',', '<', '(']

theorem isStop_iff {c : Char} : isStop c = true ↔ c ∈ stopList := by
  simp [isStop, isQuote, stopList, or_assoc]

/-- A class to which no stop belongs. -/
theorem noStop_of_class {cls : Char → Bool} (none : stopList.all (fun c => !cls c) = true) {c : Char}
    (isCls : cls c = true) : noStop c = true := by
  rw [noStop, Bool.not_eq_true', Bool.eq_false_iff]
  intro stops
  have refused := List.all_eq_true.mp none c (isStop_iff.mp stops)
  exact absurd isCls (by simpa using refused)

theorem noStop_of_isBlank {c : Char} (blank : Text.isBlank c = true) : noStop c = true :=
  noStop_of_class (by decide) blank

theorem noStop_of_isWord {c : Char} (word : Text.isWord c = true) : noStop c = true :=
  noStop_of_class (by decide +kernel) word

theorem run_noStop_of_blank {l : List Char} (blank : Blank l) : Run noStop l := fun c hc =>
  noStop_of_isBlank (blank c hc)

theorem run_noStop_of_class {extra l : List Char} (all : ∀ c ∈ l, WordBlankOr extra c)
    (none : extra.all noStop = true) : Run noStop l := by
  intro c hc
  rcases all c hc with word | blank | isExtra
  · exact noStop_of_isWord word
  · exact noStop_of_isBlank blank
  · exact List.all_eq_true.mp none c isExtra

theorem run_noStop_of_wordBlankOr {extra : String} {l : List Char}
    (all : ∀ c ∈ l, wordBlankOr extra c = true) (none : extra.toList.all noStop = true) :
    Run noStop l :=
  run_noStop_of_class (fun c hc => wordBlankOr_iff.mp (all c hc)) none

/-- Stops have no letter case. -/
theorem run_noStop_of_spells {word : String} {l : List Char} (spells : Spells word l)
    (none : (word.toList.map foldCase).all noStop = true) : Run noStop l := by
  intro c hc
  rw [noStop, Bool.not_eq_true', Bool.eq_false_iff]
  intro stops
  have folded : foldCase c ∈ word.toList.map foldCase := spells ▸ List.mem_map_of_mem hc
  have same : foldCase c = c := by
    have fixed : stopList.all (fun c => foldCase c == c) = true := by decide
    simpa using List.all_eq_true.mp fixed c (isStop_iff.mp stops)
  have refused := List.all_eq_true.mp none _ (same ▸ folded)
  exact absurd stops (by simpa [noStop] using refused)

theorem isStop_of_endsName {c : Char} (ends : EndsName c) : isStop c = true := by
  rcases ends with quote | rfl | rfl
  · simp [isStop, isQuote_iff.mpr quote]
  · decide
  · decide

theorem isStop_of_quote {c : Char} (quote : Quote c) : isStop c = true :=
  isStop_of_endsName (.inl quote)

theorem endsRun_noStop {c : Char} {rest : List Char} (stops : isStop c = true) :
    EndsRun noStop (c :: rest) :=
  Text.endsRun_cons.mpr (by simp [noStop, stops])

end OrchestrationGraph.Usage
