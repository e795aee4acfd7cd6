import OrchestrationGraph.Dictionary
import OrchestrationGraph.Files.Error
import OrchestrationGraph.Files.Path
import OrchestrationGraph.Files.Tree
import OrchestrationGraph.Project.Host
import OrchestrationGraph.Text.Offset

/-!
# A disk in memory

Files, folders and symbolic links below one root. Operations take paths, follow links as far as a
system call of that purpose does, and fail as it would.
-/

namespace OrchestrationGraph.Machine

/-- A file that keeps nothing and is read as empty: what becomes of that which is written to it. -/
inductive Device where
  | drops
  | prints
  /-- There is room for nothing. -/
  | full
  deriving DecidableEq, Repr

/-- What lies at one place of a disk. The entries of a folder ascend by name. -/
inductive Item where
  | file (content : ByteArray) (runnable : Bool)
  | device (d : Device)
  | link (target : String)
  | folder (entries : List (String × Item))

instance : Inhabited Item := ⟨.folder []⟩

namespace Item

def ofText (s : String) : Item := file s.toUTF8 false

def isFolder : Item → Bool
  | folder _ => true
  | _ => false

def kind : Item → EntryKind
  | file .. => .file
  | folder _ => .folder
  | device _ | link _ => .other

def entries : Item → List (String × Item)
  | folder entries => entries
  | _ => []

/-- The item at a place, links taken as they are. -/
def get? (i : Item) : List String → Option Item
  | [] => some i
  | name :: names => do (← Dictionary.lookup name i.entries).get? names

/-- Changes the entries of the folder at a place. -/
def onFolder (f : List (String × Item) → List (String × Item)) (i : Item) : List String → Item
  | [] => if i.isFolder then folder (f i.entries) else i
  | name :: names =>
    match Dictionary.lookup name i.entries with
    | some inner => folder (Dictionary.put name (inner.onFolder f names) i.entries)
    | none => i

def set (i : Item) (place : List String) (new : Item) : Item :=
  match place.getLast? with
  | none => new
  | some name => i.onFolder (Dictionary.put name new) place.dropLast

def erase (i : Item) (place : List String) : Item :=
  match place.getLast? with
  | none => folder []
  | some name => i.onFolder (fun l => l.filter fun e => e.1 ≠ name) place.dropLast

mutual

def tree : Item → Tree
  | file .. => .file
  | device _ | link _ => .other
  | folder entries => .folder (treeEntries entries)

def treeEntries : List (String × Item) → List (String × Tree)
  | [] => []
  | (name, i) :: entries => (name, i.tree) :: treeEntries entries

end

end Item

structure Disk where
  root : Item := default
  /-- The place from which relative paths start. -/
  current : List String := []
  /-- What has been written to devices that print. -/
  printed : ByteArray := .empty

namespace Disk

/-! ### Finding places -/

/-- Links that one path may lead through. -/
def linkBound : Nat := 40

/-- Bytes that one name may have. -/
def nameBound : Nat := 255

/-- Bytes that a path must stay below. -/
def pathBound : Nat := 4096

/-- The names of a path; a slash at the end asks for a folder, as a dot does. -/
def steps (path : String) : List String :=
  (Path.pieces path).filter (· ≠ "") ++ if path.toList.getLast? = some '/' then ["."] else []

/-- Follows names from a place. Only what the last name stands for may be missing, and a link there
is followed if so wished. -/
def follow (root : Item) (last : Bool) :
    (links : Nat) → (place names : List String) → Except FileError (List String × Option Item)
  | _, place, [] => .ok (place, root.get? place)
  | links, place, name :: names => do
    let some (.folder entries) := root.get? place | throw .notFolder
    if name = "." then follow root last links place names
    else if name = ".." then follow root last links place.dropLast names
    else if nameBound < Text.byteLength name.toList then throw .nameTooLong
    else match Dictionary.lookup name entries with
      | none => if names.isEmpty then return (place ++ [name], none) else throw .missing
      | some (.link target) =>
        if names.isEmpty && !last then return (place ++ [name], some (.link target))
        else match links with
          | 0 => throw .tooManyLinks
          | links + 1 =>
            follow root last links (if Path.isAbsolute target then [] else place)
              (steps target ++ names)
      | some _ => follow root last links (place ++ [name]) names
termination_by links _ names => (links, names.length)

def resolve (d : Disk) (last : Bool) (path : String) :
    Except FileError (List String × Option Item) :=
  if path.toList.contains (Char.ofNat 0) then .error .holdsNul
  else if path.isEmpty then .error .missing
  else if pathBound ≤ Text.byteLength path.toList then .error .nameTooLong
  else follow d.root last linkBound (if Path.isAbsolute path then [] else d.current) (steps path)

/-- What is at a path, at the end of all links. -/
def item (d : Disk) (path : String) : Except FileError Item := do
  match (← d.resolve true path).2 with
  | some i => return i
  | none => throw .missing

def item? (d : Disk) (path : String) : Option Item := (d.item path).toOption

/-! ### Reading -/

def readBytes (d : Disk) (path : String) : Except FileError ByteArray := do
  match ← d.item path with
  | .file content _ => return content
  | .folder _ => throw .isFolder
  | .device _ | .link _ => return .empty

def readText (d : Disk) (path : String) : Except FileError String := do
  let content ← d.readBytes path
  match String.fromUTF8? content with
  | some s => return s
  | none => throw .notText

def list (d : Disk) (path : String) : Except FileError (List (String × EntryKind)) := do
  match ← d.item path with
  | .folder entries => return entries.map fun e => (e.1, e.2.kind)
  | _ => throw .notFolder

/-! ### Writing -/

def put (d : Disk) (place : List String) (i : Item) : Disk := { d with root := d.root.set place i }

def feed (d : Disk) (content : ByteArray) : Device → Except FileError Disk
  | .drops => .ok d
  | .prints => .ok { d with printed := d.printed ++ content }
  | .full => if content.isEmpty then .ok d else .error .noSpace

/-- Puts an item at a path, in place of a file there; a device takes the content of a file. -/
def write (d : Disk) (path : String) (i : Item) : Except FileError Disk := do
  let slashed := path.toList.getLast? = some '/' && path.toList.any (· ≠ '/')
  let name := if slashed then String.ofList (Text.trimEndBy (· = '/') path.toList) else path
  match ← d.resolve true name with
  | (_, some (.folder _)) => throw .isFolder
  | (place, found) =>
    if slashed then throw (if found.isNone then .isFolder else .notFolder)
    match found, i with
    | some (.device device), .file content _ => d.feed content device
    | some (.device _), _ => throw .present
    | _, _ => return d.put place i

def makeFolder (d : Disk) (path : String) : Except FileError Disk := do
  match ← d.resolve false path with
  | (_, some _) => throw .present
  | (place, none) => return d.put place (.folder [])

def hasFolder (d : Disk) (path : String) : Bool := (d.item? path).any Item.isFolder

/-- Makes a folder after those above it, where they are missing; `levels` bounds their number. -/
def makeFolders (d : Disk) : (levels : Nat) → String → Except FileError Disk
  | 0, _ => .error .missing
  | levels + 1, path =>
    if path.isEmpty then .ok d
    else match d.makeFolder path with
      | .ok d => .ok d
      | .error .missing =>
        match Path.parent? path with
        | none => .error .missing
        | some above => do
          let d ← d.makeFolders levels above
          match d.makeFolder path with
          | .ok d => return d
          | .error e => if d.hasFolder path then return d else throw e
      | .error e => if d.hasFolder path then .ok d else .error e

/-- Makes a folder and those above it. -/
def createFolder (d : Disk) (path : String) : Except FileError Disk :=
  d.makeFolders (path.length + 1) path

/-- Whether a path with a slash at its end leads through a link there. -/
def endsInLink (d : Disk) (path : String) : Bool :=
  let name := String.ofList (Text.trimEndBy (· = '/') path.toList)
  name ≠ path && match d.resolve false name with
    | .ok (_, some (.link _)) => true
    | _ => false

/-- Removes a folder with all that is in it, or a link to one. Where the folder itself cannot go,
it is emptied. -/
def removeFolder (d : Disk) (path : String) : Except FileError Unit × Disk :=
  match d.resolve false path with
  | .error e => (.error e, d)
  | .ok (_, none) => (.error .missing, d)
  | .ok (place, some i) =>
    let without := { d with root := d.root.erase place }
    match i with
    | .link _ => (.ok (), without)
    | .folder _ =>
      match ((Path.pieces path).filter (· ≠ "")).getLast? with
      | some "." => (.error .invalid, d.put place (.folder []))
      | some ".." => (.error .notEmpty, d.put place (.folder []))
      | _ =>
        if d.endsInLink path then (.error .notFolder, d.put place (.folder []))
        else (.ok (), without)
    | .file .. | .device _ => (.error .notFolder, d)

def plant (d : Disk) (path : String) (i : Item) : Except FileError Disk := do
  let d ← match Path.parent? path with
    | none => pure d
    | some above => d.createFolder above
  match i with
  | .folder _ => d.createFolder path
  | _ => d.write path i

end Disk

end OrchestrationGraph.Machine
