import OrchestrationGraph.Machine.Shell.Arithmetic
import OrchestrationGraph.Machine.Shell.Pattern

/-!
# What words stand for

A word becomes any number of fields: parameters and the output of scripts take their places, and
what came so without quotes is split at blanks and read as a pattern for paths.

The shell stands in for external tools in trial runs; nothing here is part of the program.
-/

namespace OrchestrationGraph.Machine.Shell

/-- The fields so far, and the one that is being put together; what came last is first. -/
structure Fields where
  done : List (List Marked) := []
  current : Option (List Marked) := none
  /-- Whether blanks have ended the last field, so that a separator after them ends none. -/
  isOpen : Bool := false

namespace Fields

def add (f : Fields) (l : List Marked) : Fields :=
  { f with current := some (l.reverse ++ f.current.getD []), isOpen := false }

def cut (f : Fields) : Fields := { done := f.current.toList ++ f.done }

/-- Adds text that is split at separators; those that are no blanks end a field each. -/
def addSplit (separators : List Char) (f : Fields) (l : List Char) : Fields :=
  l.foldl (fun f c =>
    if !separators.contains c then f.add [(c, false)]
    else if Text.isBlank c then { f.cut with isOpen := f.isOpen || f.current.isSome }
    else if f.isOpen then { f with isOpen := false }
    else (f.add []).cut) f

def all (f : Fields) : List (List Marked) := (f.cut.done.map List.reverse).reverse

end Fields

structure Manner where
  /-- Runs a script and gives what it prints. -/
  capture : List Char → Run String
  splits : Bool
  splitsText : Bool := false

def separators : Run (List Char) := do return ((← variableValue "IFS").getD " \t\n").toList

def addValue (m : Manner) (quoted : Bool) (f : Fields) (value : String) : Run Fields := do
  if quoted || !m.splits then return f.add (value.toList.map (·, quoted))
  return f.addSplit (← separators) value.toList

/-- Adds the parameters as fields of their own. -/
def addAll (m : Manner) (quoted : Bool) (f : Fields) (values : List String) : Run Fields := do
  match values with
  | [] => return f
  | first :: others =>
    let f ← addValue m quoted f first
    others.foldlM (fun f value => addValue m quoted f.cut value) f

/-- Whether the word is all parameters between double quotes, which is nothing if there are none. -/
def isAllQuoted : Word → Bool
  | [.text [] true, .parameter "@" .keep _ _ true] => true
  | _ => false

def numberOf (s : State) (name : String) : Except Arithmetic.Defect Int :=
  let value := (s.values.lookup name).getD ""
  let l := (Text.trim value).toList
  let isNegative := l.head? = some '-'
  let digits := if isNegative || l.head? = some '+' then l.tail else l
  match Arithmetic.readNumber digits with
  | (n, []) =>
    if digits.isEmpty && !value.isEmpty then .error (.illegal value)
    else .ok (if isNegative then -n else n)
  | _ => .error (.illegal value)

mutual

def addParts (m : Manner) : (steps : Nat) → Fields → Word → Run Fields
  | 0, f, _ | _, f, [] => return f
  | steps + 1, f, part :: rest => do addParts m steps (← addPart m steps f part) rest

def addPart (m : Manner) : (steps : Nat) → Fields → Part → Run Fields
  | 0, f, _ => return f
  | steps + 1, f, part => do
    match part with
    | .text l quoted =>
      if m.splitsText && m.splits && !quoted then addValue m false f (String.ofList l)
      else return f.add (l.map (·, quoted))
    | .output script quoted => addValue m quoted f (← m.capture script)
    | .number expression quoted =>
      let text ← textOf m steps expression
      match Arithmetic.evaluate (numberOf (← get)) text.toList with
      | .ok (n, values) =>
        values.reverse.forM fun (name, n) => assign name (toString n)
        addValue m quoted f (toString n)
      | .error .division => fail ("arithmetic expression: division by zero: \"" ++ text ++ "\"")
      | .error .primary => fail ("arithmetic expression: expecting primary: \"" ++ text ++ "\"")
      | .error .rest => fail ("arithmetic expression: expecting EOF: \"" ++ text ++ "\"")
      | .error (.illegal value) => fail ("Illegal number: " ++ value)
    | .parameter name change orEmpty word quoted =>
      if name.isEmpty then fail "Bad substitution"
      let list := name = "@" || name = "*"
      let value ← value? name
      let isThere := value.any fun v => !(orEmpty && v.isEmpty)
      if value.isNone && !list && (← get).needsParameters &&
          (change = .keep || change = .length || change matches .trim ..) then
        fail (name ++ ": parameter not set")
      let plain : Run Fields := do
        if name = "@" && m.splits || name = "*" && m.splits && !quoted then
          addAll m quoted f (← get).parameters
        else if name = "*" && quoted then
          let separator := ((← separators).head?.map String.singleton).getD ""
          addValue m quoted f (separator.intercalate (← get).parameters)
        else addValue m quoted f (value.getD "")
      let other := addParts { m with splitsText := true } steps f word
      match change with
      | .keep => plain
      | .length => addValue m quoted f (toString (value.getD "").utf8ByteSize)
      | .orElse => if isThere then plain else other
      | .replace => if isThere then other else return f
      | .assign =>
        if isThere then plain
        else
          let text ← textOf m steps word
          if !isName name then fail (name ++ ": bad variable name")
          assign name text
          addValue m quoted f text
      | .require =>
        if isThere then plain
        else
          let text ← textOf m steps word
          let text := if text.isEmpty then
            if orEmpty then "parameter not set or null" else "parameter not set" else text
          fail (name ++ ": " ++ text)
      | .trim atEnd longest =>
        let pattern ← addParts { m with splits := false } steps {} word
        let rest := trimMatch atEnd longest (pattern.all.flatten) (value.getD "").toList
        addValue m quoted f (String.ofList rest)

def textOf (m : Manner) : (steps : Nat) → Word → Run String
  | 0, _ => return ""
  | steps + 1, w => do
    return plainText (← addParts { m with splits := false } steps {} w).all.flatten

end

/-- More steps than the parts of a word ask for. -/
def depthBound : Nat := 1000

/-- The fields that a word stands for. -/
def expand (capture : List Char → Run String) (w : Word) : Run (List String) := do
  if isAllQuoted w then return (← get).parameters
  let fields ← addParts { capture, splits := true } depthBound {} w
  if (← get).keepsPatterns then return fields.all.map plainText
  return fields.all.flatMap (expandPaths (← get).disk)

/-- The one text that a word stands for where there are no fields. -/
def expandText (capture : List Char → Run String) (w : Word) : Run String :=
  textOf { capture, splits := false } depthBound w

def expandPattern (capture : List Char → Run String) (w : Word) : Run (List Marked) := do
  return (← addParts { capture, splits := false } depthBound {} w).all.flatten

end OrchestrationGraph.Machine.Shell
