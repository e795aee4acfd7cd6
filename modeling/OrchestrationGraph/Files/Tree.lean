import OrchestrationGraph.Text.Ascii

/-!
# Folder trees

What lies below a folder, as far as a search goes through it: files, folders, and other entries such
as links, which are not followed.
-/

namespace OrchestrationGraph

inductive Tree where
  | file
  | folder (entries : List (String × Tree))
  | other

/-- An entry that a search comes by: the names on the way to it, and whether it is a file. -/
structure Visit where
  names : List String
  isFile : Bool
  deriving DecidableEq, Repr

namespace Visit

def depth (v : Visit) : Nat := v.names.length

/-- The same entry, seen from one folder further up. -/
def below (name : String) (v : Visit) : Visit := { v with names := name :: v.names }

end Visit

/-- Folders that hold nothing of a project's own. -/
def excludedFolders : List String := [
  "node_modules", "obj", ".vs", ".vscode", ".env", ".python_packages", ".git", ".github"]

/-- Letter case is ignored. -/
def isExcluded (name : String) : Bool := excludedFolders.any (Text.sameIgnoringCase name)

namespace Tree

def isFile : Tree → Bool
  | file => true
  | _ => false

def isFolder : Tree → Bool
  | folder _ => true
  | _ => false

mutual

/-- The entries of a tree, each folder before what lies in it. Excluded folders are passed over,
unless one is the tree's own root. -/
def walk : Tree → List Visit
  | file => [⟨[], true⟩]
  | other => [⟨[], false⟩]
  | folder entries => ⟨[], false⟩ :: walkEntries entries

def walkEntries : List (String × Tree) → List Visit
  | [] => []
  | (name, t) :: entries =>
    (if t.isFolder && isExcluded name then [] else t.walk.map (Visit.below name)) ++
      walkEntries entries

end

end Tree

end OrchestrationGraph
