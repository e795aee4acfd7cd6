import OrchestrationGraph.Log.Level
import OrchestrationGraph.Regex.Parser
import OrchestrationGraph.Text.Ascii

/-!
# Directives for log records

A directive sets the least level for records of some parts of the program, with some fields, or made
within some spans of it: `target[span{field=value}]=level`, where each part may be left out.
-/

namespace OrchestrationGraph.Log

/-- What a directive asks of one field. -/
structure FieldTest where
  name : String
  /-- What the value must be like, if that matters. -/
  value : Option String
  deriving DecidableEq, Repr

structure Directive where
  /-- How the part of the program must begin. -/
  target : Option String := none
  span : Option String := none
  fields : List FieldTest := []
  /-- The least level that passes; nothing passes if there is none. -/
  level : Option Level := some .trace
  deriving DecidableEq, Repr

inductive Defect where
  | form
  | level
  | value
  deriving DecidableEq, Repr

def Defect.message : Defect → String
  | form => "invalid filter directive"
  | level =>
    "error parsing level filter: expected one of \"off\", \"error\", \"warn\", " ++
      "\"info\", \"debug\", \"trace\", or a number 0-5"
  | value => "invalid field filter: error building NFA"

/-! ### Values -/

/-- A decimal fraction with at least one digit and perhaps an exponent. -/
def isFraction (l : List Char) : Bool :=
  let whole := l.takeWhile Char.isDigit
  let rest := l.dropWhile Char.isDigit
  let point := rest.head? = some '.'
  let places := if point then rest.tail.takeWhile Char.isDigit else []
  let rest := if point then rest.tail.dropWhile Char.isDigit else rest
  !(whole.isEmpty && places.isEmpty) && match rest with
    | [] => true
    | e :: '+' :: digits | e :: '-' :: digits | e :: digits =>
      (e = 'e' || e = 'E') && !digits.isEmpty && digits.all Char.isDigit

/-- Whether the text is a truth value or a number, which no text of a field is equal to. -/
def isScalar (s : String) : Bool :=
  let unsigned := match s.toList with
    | '+' :: rest | '-' :: rest => rest
    | l => l
  s = "true" || s = "false" || isFraction unsigned ||
    ["inf", "infinity", "nan"].contains (Text.asciiLower (String.ofList unsigned))

namespace FieldTest

/-- A name, and perhaps an equals sign and a value, which is a scalar or a regular expression. -/
def ofText? (s : List Char) : Option FieldTest :=
  match Text.piecesBy (· = '=') s with
  | name :: value :: _ =>
    let value := String.ofList value
    if isScalar value || (Regex.ofText? value).isSome then some ⟨String.ofList name, some value⟩
    else none
  | _ => some ⟨String.ofList s, none⟩

/-- Whether a field's text passes: the first match of the expression must reach to its end. -/
def accepts (t : FieldTest) (text : String) : Bool :=
  match t.value with
  | none => true
  | some value =>
    !isScalar value && ((Regex.ofText? value).bind (·.find? text.toList)).any fun found =>
      found.2 == text.length

end FieldTest

namespace Directive

/-! ### Reading -/

/-- Level words: names in any letter case, and numbers from the gravest on. -/
def levelWord? (word : String) : Option (Option Level) :=
  let digits := match word.toList with
    | '+' :: rest => rest
    | l => l
  if !digits.isEmpty && digits.all Char.isDigit then
    [none, some .error, some .warn, some .info, some .debug, some .trace][
      digits.foldl (fun n d => n * 10 + (d.toNat - '0'.toNat)) 0]?
  else if Text.asciiLower word = "off" then some none
  else (Level.all.find? fun l => l.name = Text.asciiLower word).map some

/-- A directive's characters, each with the one that stands for it when a part is cut out. -/
abbrev Chars := List (Char × Char)

def cut (l : Chars) : String := String.ofList (l.map (·.2))

/-- The characters up to one of `ends`, and those from there on. -/
def splitAt (ends : String) (l : Chars) : Chars × Chars :=
  l.span fun c => !ends.toList.contains c.1

/-- The level after the equals sign; without one everything passes. `rest` follows the last
character. -/
def readLevel (d : Directive) (l : Chars) (rest : String) : Except Defect Directive :=
  let word := cut l ++ rest
  if word.isEmpty then .ok d
  else match levelWord? word with
    | some level => .ok { d with level }
    | none => .error .level

def readEnd (d : Directive) (rest : String) : Chars → Except Defect Directive
  | [] => .ok d
  | ('=', _) :: l => d.readLevel l rest
  | _ => .error .form

def readSpan (d : Directive) (rest : String) (l : Chars) : Except Defect Directive :=
  let (name, l) := splitAt "]\x7b" l
  match l with
  | [] => .error .form
  | (']', _) :: l => { d with span := some (cut name) }.readEnd rest l
  | _ :: l =>
    let (field, l) := splitAt "\x7d" l
    if l.isEmpty || field.isEmpty then .error .form
    else match FieldTest.ofText? (cut field).toList, l.tail with
      | none, _ => .error .value
      | some test, (']', _) :: l =>
        { d with
          span := if name.isEmpty then none else some (cut name)
          fields := [test] }.readEnd rest l
      | _, _ => .error .form

def isTargetStart (c : Char) : Bool := Text.isWord c || c = ':' || c = '-'

/-- Reads a directive. Its form is that of the text without blanks at the ends, but parts are cut
out of the text as it is, so that a blank in front moves them all. -/
def ofText (s : String) : Except Defect Directive :=
  let trimmed := Text.trimBy Text.isBlank s.toList
  let rest := String.ofList (s.toList.drop trimmed.length)
  let l := trimmed.zip s.toList
  match l with
  | [] => .error .form
  | ('[', _) :: l => readSpan {} rest l
  | (c, _) :: _ =>
    let (target, after) := splitAt "=[" l
    let d : Directive := { target := some (cut target) }
    if !isTargetStart c then .error .form
    else match after with
      | [] =>
        match levelWord? s with
        | some level => .ok { level }
        | none => .ok { target := some s }
      | ('=', _) :: l => d.readLevel l rest
      | _ :: l => d.readSpan rest l

/-! ### Meaning -/

def covers (d : Directive) (l : Level) : Bool := d.level.any fun least => least.rank ≤ l.rank

def concerns (d : Directive) (target : String) : Bool :=
  d.target.all fun t => t.toList.isPrefixOf target.toList

/-- Whether the directive depends on the span around a record. -/
def isScoped (d : Directive) : Bool := d.span.isSome || !d.fields.isEmpty

/-- Whether the directive may depend on the record alone. -/
def isPlain (d : Directive) : Bool := d.span.isNone && d.fields.all fun t => t.value.isNone

/-- Whether the two are for the same records, whatever their level. -/
def sameScope (d e : Directive) : Bool := { d with level := none } = { e with level := none }

/-- Whether a plain directive is at least as specific as another: by the length of the target, the
number of fields, and their names. -/
def isAsSpecificAs (d e : Directive) : Bool :=
  let length (d : Directive) : Nat := d.target.elim 0 fun t => t.length + 1
  let names (d : Directive) : List String := d.fields.map (·.name)
  length e < length d || (length e = length d &&
    (e.fields.length < d.fields.length ||
      (e.fields.length = d.fields.length && !decide (names d < names e))))

end Directive

end OrchestrationGraph.Log
