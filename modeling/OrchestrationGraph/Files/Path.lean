import OrchestrationGraph.Text.Blank

/-!
# Paths

Paths are kept as they were written: joining adds text, and nothing is resolved. Two paths count as
the same if their components are; repeated slashes, inner dots and a slash at the end do not matter.
-/

namespace OrchestrationGraph.Path

/-- A path below another; an absolute path stands for itself. -/
def join (base sub : String) : String :=
  if sub.toList.head? = some '/' || base.isEmpty then sub
  else if base.toList.getLast? = some '/' then base ++ sub
  else base ++ "/" ++ sub

def joinAll (base : String) (subs : List String) : String := subs.foldl join base

def isAbsolute (path : String) : Bool := path.toList.head? = some '/'

def pieces (path : String) : List String :=
  (Text.piecesBy (· = '/') path.toList).map String.ofList

/-- A piece that names nothing. -/
def isIdle (piece : String) : Bool := piece = "" || piece = "."

/-- The root if the path is absolute, and the names; a dot counts in front of a relative path. -/
def components (path : String) : List String :=
  let names (l : List String) := l.filter fun p => !isIdle p
  if isAbsolute path then "/" :: names (pieces path)
  else match pieces path with
    | "." :: rest => "." :: names rest
    | l => names l

def same (p q : String) : Bool := components p == components q

/-- The pieces up to the last one that names something. -/
def dropIdleEnd (l : List String) : List String := (l.reverse.dropWhile isIdle).reverse

/-- What stands before the names of a path, and the pieces with the names. -/
def split (path : String) : String × List String :=
  if isAbsolute path then ("/", (pieces path).tail)
  else match pieces path with
    | "." :: rest => ("./", rest)
    | l => ("", l)

/-- The path without its last component; the root has none. -/
def parent? (path : String) : Option String :=
  let (lead, body) := split path
  match (dropIdleEnd body).reverse with
  | [] => if lead = "./" then some "" else none
  | _ :: before =>
    let rest := (before.dropWhile isIdle).reverse
    some <|
      if rest.isEmpty then (if lead = "./" then "." else lead)
      else lead ++ "/".intercalate rest

/-- The last component, if it is a name. -/
def fileName? (path : String) : Option String :=
  match (dropIdleEnd (split path).2).getLast? with
  | some ".." => none
  | name? => name?

end OrchestrationGraph.Path
