import OrchestrationGraph.Json.Outline
import OrchestrationGraph.Dictionary

/-!
# Reading typed values

A reader turns an outline into a value of its own type and stops at the first fault in the order of
the text. It is told how many containers deep it may still go.
-/

namespace OrchestrationGraph.Json

abbrev Reader (α : Type) := (room : Nat) → Outline → Except Fault α

/-- Entering a container takes one unit of room, and some must be left. -/
def enter (room : Nat) : Except Fault Nat := if room ≤ 1 then .error .tooDeep else .ok (room - 1)

/-- A text may nest one container less than this. -/
def fullRoom : Nat := 128

/-- The fault of a value that is not of the wanted type. A fault inside a scalar comes first. -/
def Outline.refused (wanted : String) : Outline → Fault
  | .null => .wrongType .null wanted
  | .bool b => .wrongType (.bool b) wanted
  | .number (.ok n) => .wrongType (.number n) wanted
  | .text (.ok s) => .wrongType (.text s) wanted
  | .number (.error fault) | .text (.error fault) | .broken fault _ => fault
  | .list .. => .wrongType .list wanted
  | .object .. => .wrongType .object wanted

def unlessFault (fault? : Option Fault) : Except Fault Unit :=
  match fault? with
  | none => .ok ()
  | some fault => .error fault

namespace Reader

/-! ### Any value -/

mutual

def value : Reader Value
  | _, .null => .ok .null
  | _, .bool b => .ok (.bool b)
  | _, .number n => n.map .number
  | _, .text s => s.map .text
  | _, .broken fault _ => .error fault
  | room, .list items ending => do
    let items ← values (← enter room) items
    unlessFault ending.listFault?
    return .list items
  | room, .object members ending => do
    let members ← namedValues (← enter room) [] members
    unlessFault ending.objectFault?
    return .object members

def values (room : Nat) : List Outline → Except Fault (List Value)
  | [] => .ok []
  | item :: items => do
    let v ← value room item
    let vs ← values room items
    return v :: vs

/-- Members in ascending order of names, added to those of `before`; the last of a name stays. -/
def namedValues (room : Nat) (before : List (String × Value)) :
    List (Except Fault String × Outline) → Except Fault (List (String × Value))
  | [] => .ok before
  | (name, v) :: members => do
    let name ← name
    let v ← value room v
    namedValues room (Dictionary.put name v before) members

end

/-! ### Scalars -/

def textAs (wanted : String) : Reader String
  | _, .text s => s
  | _, other => .error (other.refused wanted)

def text : Reader String := textAs "a string"

def bool : Reader Bool
  | _, .bool b => .ok b
  | _, other => .error (other.refused "a boolean")

/-- A count, which is a natural number below the bound of integers. -/
def count : Reader Nat
  | _, .number (.ok (.integer (.ofNat n))) => .ok n
  | _, .number (.ok (.integer n)) => .error (.wrongValue (.number (.integer n)) "usize")
  | _, other => .error (other.refused "usize")

/-- Null reads as nothing. -/
def optional {α : Type} (r : Reader α) : Reader (Option α)
  | _, .null => .ok none
  | room, other => (r room other).map some

/-! ### Containers -/

def list {α : Type} (r : Reader α) : Reader (List α)
  | room, .list items ending => do
    let inner ← enter room
    let read ← items.mapM (r inner)
    unlessFault ending.listFault?
    return read
  | _, other => .error (other.refused "a sequence")

def foldMembers {σ : Type} (wanted : String)
    (step : (room : Nat) → σ → String → Outline → Except Fault σ) (start : σ) : Reader σ
  | room, .object members ending => do
    let inner ← enter room
    let read ← members.foldlM (fun s (name, v) => do step inner s (← name) v) start
    unlessFault ending.objectFault?
    return read
  | _, other => .error (other.refused wanted)

/-- The last member of a name stays. -/
def dictionary {α : Type} (r : Reader α) : Reader (Dictionary α) :=
  foldMembers "a map" (fun room d name v => do return d.insert name (← r room v)) Dictionary.empty

end Reader

/-! ### Structures -/

/-- One field of a structure that is being read into a `σ`. -/
structure Field (σ : Type) where
  name : String
  /-- Whether a list of the fields must reach up to this one. -/
  required : Bool
  isSet : σ → Bool
  read : (room : Nat) → σ → Outline → Except Fault σ

structure Shape (σ α : Type) where
  title : String
  fields : List (Field σ)
  start : σ
  finish : σ → Except Fault α

namespace Shape

variable {σ α : Type}

/-- A field may be given once; an unknown member is skipped. -/
def readMember (shape : Shape σ α) (room : Nat) (s : σ) (name : String) (v : Outline) :
    Except Fault σ :=
  match shape.fields.find? fun f => f.name = name with
  | none => (unlessFault v.skippingFault?).map fun _ => s
  | some f => if f.isSet s then .error (.duplicateField name) else f.read room s v

def wanted (shape : Shape σ α) : String := "struct " ++ shape.title

def wantedLength (shape : Shape σ α) : String :=
  let n := shape.fields.length
  shape.wanted ++ " with " ++ String.ofList (Nat.toDigits 10 n) ++
    (if n = 1 then " element" else " elements")

/-- What a reader meets who has all fields, `index` of them, and goes to the end of a list. -/
def surplusFault? (index : Nat) (left : List Outline) (ending : Ending) : Option Fault :=
  if left.isEmpty then
    match ending with
    | .commaEnd | .stray => some .trailingCharacters
    | _ => ending.listFault?
  else if ending = .known then some (.wrongLength (index + left.length) "fewer elements in array")
  else some .trailingCharacters

def readFields (shape : Shape σ α) (room : Nat) (ending : Ending) :
    (index : Nat) → σ → List (Field σ) → List Outline → Except Fault σ
  | index, s, [], items => (unlessFault (surplusFault? index items ending)).map fun _ => s
  | index, s, f :: fields, [] => do
    unlessFault ending.listFault?
    if f.required then throw (.wrongLength index shape.wantedLength)
    shape.readFields room ending (index + 1) s fields []
  | index, s, f :: fields, item :: items => do
    shape.readFields room ending (index + 1) (← f.read room s item) fields items

/-- Reads an object of the fields by name, or a list of the fields in order. That a field is missing
shows at the end of an object, once it is known to end well. -/
def reader (shape : Shape σ α) : Reader α
  | room, .list items ending => do
    let inner ← enter room
    let s ← shape.readFields inner ending 0 shape.start shape.fields items
    shape.finish s
  | room, other => do
    let s ← Reader.foldMembers shape.wanted shape.readMember shape.start room other
    shape.finish s

end Shape

def read {α : Type} (r : Reader α) (text : List Char) : Except Fault α := do
  let (outline, rest) := Outline.ofTokens (tokens text)
  let a ← r fullRoom outline
  if rest.isEmpty then return a else throw .trailingCharacters

/-- Reads a value that is there already, however it came about. -/
def readAs {α : Type} (r : Reader α) (v : Value) : Except Fault α := r fullRoom (.ofValue v)

end OrchestrationGraph.Json
