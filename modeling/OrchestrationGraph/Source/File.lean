import OrchestrationGraph.Source.Balanced
import OrchestrationGraph.Source.Basic
import OrchestrationGraph.Usage

/-!
# Source files

In a file of a compiled language a function starts at the attribute that declares it, and its code
is the span of braces after that. A script belongs to its function as a whole.
-/

namespace OrchestrationGraph

structure SourceFile where
  path : String
  content : String
  deriving DecidableEq, Repr

namespace SourceFile

/-- Endings of compiled sources, as they are folded. -/
def endings : List (List Char) := [".cs".toList, ".fs".toList]

/-- Whether a file of that name holds compiled source; letter case is ignored. -/
def isCompiled (name : String) : Bool :=
  let name := name.toList.map foldCase
  endings.any fun ending => ending.isSuffixOf name

/-- The braces of a body; a body has more than one line. -/
def braces : Source.Brackets := ⟨'\x7b', '\x7d', ['\n']⟩

/-- The part that a match of the declaration stands for; without a body there is no code. -/
def sourceAt (f : SourceFile) (function : String) (text : List Char) (m : Match) : Source where
  function
  code := String.ofList ((braces.span? (text.drop m.stop)).getD [])
  file := f.path
  position := (m.byteSpan text).1
  line := Text.lineNumber text (m.byteSpan text).1

/-- The first declaration of a function in the file. -/
def declaration? (function : String) (f : SourceFile) : Option Source :=
  let text := f.content.toList
  ((Usage.declaresFunction function).find? text).map (f.sourceAt function text)

def find? (files : List SourceFile) (function : String) : Option Source :=
  files.findSome? (declaration? function)

def whole (f : SourceFile) (function : String) : Source where
  function
  code := f.content
  file := f.path
  position := 0
  line := 1

end SourceFile

end OrchestrationGraph
