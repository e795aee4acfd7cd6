import OrchestrationGraph.Files.Error
import OrchestrationGraph.Files.Tree
import OrchestrationGraph.Project.Event
import OrchestrationGraph.Tool.Basic

/-!
# The surroundings of a traversal

A host offers files, folders, external tools and channels to print on, hears of events, and may ask
for a traversal to stop. Its state `σ` is its own, and nothing is assumed of its answers.
-/

namespace OrchestrationGraph

/-- Where text is printed. -/
inductive Channel where
  | output
  | error
  deriving DecidableEq, Repr

/-- What a listing says of an entry; links are not followed. -/
inductive EntryKind where
  | file
  | folder
  | other
  deriving DecidableEq, Repr

structure Host (σ : Type) where
  /-- Whether a path is UTF-8 as it is, so that text can tell it. -/
  isText : (path : String) → Bool
  /-- Whether something is at a path, at the end of all links. -/
  hasEntry : (path : String) → σ → Bool
  hasFolder : (path : String) → σ → Bool
  readText : (path : String) → σ → Except FileError String
  /-- The entries directly in a folder, in any order. -/
  list : (folder : String) → σ → Except FileError (List (String × EntryKind))
  /-- What is at a path and below, the entries of each folder in ascending order of names. -/
  tree : (path : String) → σ → Except FileError Tree
  writeText : (path content : String) → σ → Except FileError Unit × σ
  /-- Makes a folder and those above it. -/
  createFolder : (path : String) → σ → Except FileError Unit × σ
  /-- Removes a folder and all that is in it. -/
  removeFolder : (path : String) → σ → Except FileError Unit × σ
  /-- A name that has not been given before. -/
  freshName : σ → String × σ
  run : Tool.Command → σ → Except FileError Tool.Outcome × σ
  /-- Takes notice of an event. -/
  hear : Event → σ → σ
  /-- Whether the traversal is asked to stop. -/
  isInterrupted : σ → Bool × σ
  /-- Prints text, all of it or with an error. -/
  print : Channel → (text : String) → σ → Except FileError Unit × σ

end OrchestrationGraph
