import OrchestrationGraph.Diagram.Printer
import OrchestrationGraph.Proofs.Text.Run

/-!
# What a line of a flowchart says

A line can be read in one way only (`Reading.eq_of_text_eq`), whatever its labels and types hold,
arrows included. Names have neither blanks nor dots nor brackets, so what stands behind the name in
front of a line tells what the line is about, and the name at its end tells where it leads.
-/

namespace OrchestrationGraph.Diagram

open Text

def isNameChar (c : Char) : Bool := c.isAlphanum || c = '-' || c = '_'

/-- A name of a function as hosts admit it. -/
structure IsName (l : List Char) : Prop where
  nonempty : l ≠ []
  run : Run isNameChar l

instance (l : List Char) : Decidable (IsName l) :=
  decidable_of_iff (l ≠ [] ∧ l.all isNameChar = true)
    ⟨fun ⟨nonempty, all⟩ => ⟨nonempty, List.all_eq_true.mp all⟩,
      fun isName => ⟨isName.nonempty, List.all_eq_true.mpr isName.run⟩⟩

/-- What a line says. Of a drawn node that is not itself a function the owner is told apart; the rest
of its identifier, its form and its label stay as they are written. -/
inductive Reading where
  | function (name form : List Char)
  | call (caller callee : List Char)
  | trigger (owner drawing target : List Char)
  | input (owner drawing target : List Char)
  | output (source owner drawing : List Char)
  | both (source owner drawing : List Char)
  | signal (sender event target : List Char)
  | continuation (source target : List Char)
  deriving DecidableEq

namespace Reading

def text : Reading → List Char
  | function name form => name ++ form
  | call caller callee => caller ++ " ---> ".toList ++ callee
  | trigger owner drawing target => owner ++ '.' :: drawing ++ " --> ".toList ++ target
  | input owner drawing target => owner ++ '.' :: drawing ++ " -.-> ".toList ++ target
  | output source owner drawing => source ++ " -.-> ".toList ++ owner ++ '.' :: drawing
  | both source owner drawing => source ++ " -.- ".toList ++ owner ++ '.' :: drawing
  | signal sender event target =>
    sender ++ " -. \"signal: ".toList ++ event ++ "\" .-> ".toList ++ target
  | continuation source target => source ++ " -- \"[ContinueAsNew]\" --> ".toList ++ target

/-- The name in front. -/
def first : Reading → List Char
  | function name _ => name
  | call caller _ => caller
  | trigger owner _ _ | input owner _ _ => owner
  | output source _ _ | both source _ _ => source
  | signal sender _ _ => sender
  | continuation source _ => source

/-- What stands behind the name in front. -/
def rest : Reading → List Char
  | function _ form => form
  | call _ callee => [' ', '-', '-', '-', '>', ' '] ++ callee
  | trigger _ drawing target => ['.'] ++ (drawing ++ " --> ".toList ++ target)
  | input _ drawing target => ['.'] ++ (drawing ++ " -.-> ".toList ++ target)
  | output _ owner drawing => [' ', '-', '.', '-', '>', ' '] ++ (owner ++ '.' :: drawing)
  | both _ owner drawing => [' ', '-', '.', '-', ' '] ++ (owner ++ '.' :: drawing)
  | signal _ event target =>
    [' ', '-', '.', ' '] ++ ("\"signal: ".toList ++ event ++ "\" .-> ".toList ++ target)
  | continuation _ target =>
    [' ', '-', '-', ' '] ++ ("\"[ContinueAsNew]\" --> ".toList ++ target)

/-- Names stand where names should, and the form of a function begins with a bracket. -/
def Plain : Reading → Prop
  | function name form => IsName name ∧ ∃ c ∈ ['[', '\x7b'], ∃ more, form = c :: more
  | call caller callee => IsName caller ∧ IsName callee
  | trigger owner _ target | input owner _ target => IsName owner ∧ IsName target
  | output source owner _ | both source owner _ => IsName source ∧ IsName owner
  | signal sender _ target => IsName sender ∧ IsName target
  | continuation source target => IsName source ∧ IsName target

variable {r r' : Reading}

theorem text_eq (r : Reading) : r.text = r.first ++ r.rest := by
  cases r <;> simp [text, first, rest]

theorem Plain.first (plain : r.Plain) : IsName r.first := by
  cases r <;> exact plain.1

theorem Plain.endsRun_rest (plain : r.Plain) : EndsRun isNameChar r.rest := by
  cases r with
  | function name form =>
    obtain ⟨-, c, bracket, more, rfl⟩ := plain
    have noName : isNameChar c = false := by
      simp only [List.mem_cons, List.not_mem_nil, or_false] at bracket
      obtain rfl | rfl := bracket <;> decide
    exact endsRun_cons.mpr noName
  | trigger | input =>
    have : isNameChar '.' = false := by decide
    exact endsRun_cons.mpr this
  | _ =>
    have : isNameChar ' ' = false := by decide
    exact endsRun_cons.mpr this

end Reading

/-! ### The name at the end -/

theorem ends_unique {l l' name name' : List Char} (same : l ++ name = l' ++ name')
    (isName : IsName name) (isName' : IsName name') (stops : EndsRun isNameChar l.reverse)
    (stops' : EndsRun isNameChar l'.reverse) : l = l' ∧ name = name' := by
  have reverse {name : List Char} (isName : IsName name) : Run isNameChar name.reverse :=
    fun c here => isName.run c (List.mem_reverse.mp here)
  have backwards := congrArg List.reverse same
  rw [List.reverse_append, List.reverse_append] at backwards
  obtain ⟨names, fronts⟩ := run_unique backwards (reverse isName) (reverse isName') stops stops'
  exact ⟨List.reverse_inj.mp fronts, List.reverse_inj.mp names⟩

/-- An arrow ends with a blank, which is no part of a name. -/
theorem endsRun_arrow (l : List Char) {arrow : List Char} (blank : arrow.reverse.head? = some ' ') :
    EndsRun isNameChar (l ++ arrow).reverse := by
  obtain ⟨more, backwards⟩ := List.head?_eq_some_iff.mp blank
  have noName : isNameChar ' ' = false := by decide
  rw [List.reverse_append, backwards]
  exact endsRun_cons.mpr noName

/-- What an arrow leads from and to, if the arrow is known. -/
theorem arrow_unique {l l' name name' : List Char} {arrow : List Char}
    (blank : arrow.reverse.head? = some ' ') (same : l ++ arrow ++ name = l' ++ arrow ++ name')
    (isName : IsName name) (isName' : IsName name') : l = l' ∧ name = name' := by
  obtain ⟨fronts, names⟩ := ends_unique same isName isName' (endsRun_arrow l blank)
    (endsRun_arrow l' blank)
  exact ⟨List.append_cancel_right fronts, names⟩

/-- An arrow of dots is told from an arrow without them. -/
theorem arrow_ne {l l' name name' : List Char} (isName : IsName name) (isName' : IsName name') :
    l ++ " --> ".toList ++ name ≠ l' ++ " -.-> ".toList ++ name' := by
  intro same
  obtain ⟨fronts, -⟩ := ends_unique same isName isName' (endsRun_arrow l rfl) (endsRun_arrow l' rfl)
  have backwards := congrArg List.reverse fronts
  simp at backwards

/-- The owner of a drawn node stands before the first dot. -/
theorem owner_unique {owner owner' drawing drawing' : List Char} (isName : IsName owner)
    (isName' : IsName owner') (same : owner ++ '.' :: drawing = owner' ++ '.' :: drawing') :
    owner = owner' ∧ drawing = drawing' := by
  have dot (l : List Char) : EndsRun isNameChar ('.' :: l) := endsRun_cons.mpr (by decide)
  obtain ⟨owners, rests⟩ := run_unique same isName.run isName'.run (dot _) (dot _)
  exact ⟨owners, (List.cons.inj rests).2⟩

namespace Reading

variable {r r' : Reading}

theorem Plain.form_ne {name form : List Char} (plain : (function name form).Plain) {c : Char}
    (other : c ∉ ['[', '\x7b']) (l : List Char) : form ≠ c :: l := by
  rintro rfl
  obtain ⟨-, d, bracket, more, same⟩ := plain
  obtain rfl := (List.cons.inj same).1
  exact other bracket

theorem eq_of_text_eq (plain : r.Plain) (plain' : r'.Plain) (same : r.text = r'.text) : r = r' := by
  rw [text_eq, text_eq] at same
  obtain ⟨firsts, rests⟩ := run_unique same plain.first.run plain'.first.run plain.endsRun_rest
    plain'.endsRun_rest
  clear same
  -- What follows the name in front tells all readings apart but those of the two arrows that lead
  -- from a drawn node to its function.
  cases r with
  | function name form =>
    cases r' with
    | function name' form' =>
      obtain rfl : name = name' := firsts
      obtain rfl : form = form' := rests
      rfl
    | _ => exact absurd rests (plain.form_ne (by decide) _)
  | call caller callee =>
    cases r' with
    | call caller' callee' =>
      obtain rfl : caller = caller' := firsts
      obtain rfl : callee = callee' := List.append_cancel_left rests
      rfl
    | function => exact absurd rests.symm (plain'.form_ne (by decide) _)
    | _ => simp [rest] at rests
  | trigger owner drawing target =>
    cases r' with
    | trigger owner' drawing' target' =>
      obtain rfl : owner = owner' := firsts
      obtain ⟨rfl, rfl⟩ :=
        arrow_unique rfl (List.append_cancel_left rests) plain.2 plain'.2
      rfl
    | input =>
      exact absurd (List.append_cancel_left rests) (arrow_ne plain.2 plain'.2)
    | function => exact absurd rests.symm (plain'.form_ne (by decide) _)
    | _ => simp [rest] at rests
  | input owner drawing target =>
    cases r' with
    | input owner' drawing' target' =>
      obtain rfl : owner = owner' := firsts
      obtain ⟨rfl, rfl⟩ :=
        arrow_unique rfl (List.append_cancel_left rests) plain.2 plain'.2
      rfl
    | trigger =>
      exact absurd (List.append_cancel_left rests).symm (arrow_ne plain'.2 plain.2)
    | function => exact absurd rests.symm (plain'.form_ne (by decide) _)
    | _ => simp [rest] at rests
  | output source owner drawing =>
    cases r' with
    | output source' owner' drawing' =>
      obtain rfl : source = source' := firsts
      obtain ⟨rfl, rfl⟩ := owner_unique plain.2 plain'.2 (List.append_cancel_left rests)
      rfl
    | function => exact absurd rests.symm (plain'.form_ne (by decide) _)
    | _ => simp [rest] at rests
  | both source owner drawing =>
    cases r' with
    | both source' owner' drawing' =>
      obtain rfl : source = source' := firsts
      obtain ⟨rfl, rfl⟩ := owner_unique plain.2 plain'.2 (List.append_cancel_left rests)
      rfl
    | function => exact absurd rests.symm (plain'.form_ne (by decide) _)
    | _ => simp [rest] at rests
  | signal sender event target =>
    cases r' with
    | signal sender' event' target' =>
      obtain rfl : sender = sender' := firsts
      obtain ⟨events, rfl⟩ :=
        arrow_unique rfl (List.append_cancel_left rests) plain.2 plain'.2
      obtain rfl : event = event' := List.append_cancel_left events
      rfl
    | function => exact absurd rests.symm (plain'.form_ne (by decide) _)
    | _ => simp [rest] at rests
  | continuation source target =>
    cases r' with
    | continuation source' target' =>
      obtain rfl : source = source' := firsts
      obtain rfl : target = target' :=
        List.append_cancel_left (List.append_cancel_left rests)
      rfl
    | function => exact absurd rests.symm (plain'.form_ne (by decide) _)
    | _ => simp [rest] at rests

/-- The line above all others says nothing that a plain line could say. -/
theorem header_ne (plain : r.Plain) : header ≠ r.text := by
  rw [text_eq]
  have split : header = "graph".toList ++ [' ', 'L', 'R'] := by decide
  have word : ∀ c ∈ "graph".toList, isNameChar c = true := List.all_eq_true.mp (by decide)
  have noName : isNameChar ' ' = false := by decide
  intro same
  obtain ⟨-, rests⟩ := run_unique (split.symm.trans same) word plain.first.run
    (endsRun_cons.mpr noName) plain.endsRun_rest
  cases r with
  | function => exact plain.form_ne (by decide) _ rests.symm
  | _ => simp [rest] at rests

end Reading

end OrchestrationGraph.Diagram
