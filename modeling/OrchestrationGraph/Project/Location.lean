import OrchestrationGraph.Pattern.Search
import OrchestrationGraph.Pattern.Spelling
import OrchestrationGraph.Text.Ascii

/-!
# Project locations

A project lies in a folder or in a repository that must be fetched first. The address of a tree
inside a repository names the repository, a branch, and the folders to descend into.
-/

namespace OrchestrationGraph

open Pattern

inductive Location where
  | folder (path : String)
  | repository (url : String) (folders : List String)
  deriving DecidableEq, Repr

namespace Location

/-! ### Addresses -/

def isLetter (c : Char) : Bool := ('a' ≤ c && c ≤ 'z') || ('A' ≤ c && c ≤ 'Z')

def isSchemePart (c : Char) : Bool :=
  isLetter c || ('0' ≤ c && c ≤ '9') || c = '+' || c = '.' || c = '-'

def isSegmentPart (c : Char) : Bool := c ≠ '/'

/-- A scheme and the mark after it. -/
def scheme : Pattern := oneOf isLetter ++ many isSchemePart ++ text "://"

def segment : Pattern := oneOrMore isSegmentPart

def schemeAtStart : Pattern := atStart ++ scheme

/-- Repositories on the shell's own protocol are addressed without a scheme. -/
def shellUser : List Char := "git@".toList

def isAddress (s : String) : Bool :=
  schemeAtStart.occursIn s.toList || shellUser.isPrefixOf s.toList

/-- The address of a tree: a repository of three segments, a branch, and the rest. -/
def treeAddress : Pattern :=
  atStart ++
    group "repository" (scheme ++ segment ++ text "/" ++ segment ++ text "/" ++ segment) ++
    text "/tree/" ++ segment ++
    optional (text "/" ++ group "rest" (many (· ≠ '\n'))) ++ atEnd

/-! ### Repositories -/

def repositoryEnding : List Char := ".git".toList

def withoutSlashes (l : List Char) : List Char := Text.trimEndBy (· = '/') l

/-- The address without slashes at its end and with the ending of repositories. -/
def cloneUrl (l : List Char) : String :=
  let url := withoutSlashes l
  if repositoryEnding.isSuffixOf (url.map Char.toLower) then String.ofList url
  else String.ofList (url ++ repositoryEnding)

/-- The folder name for a clone: the last segment without its ending. -/
def repositoryName (url : String) : String :=
  let segments := Text.piecesBy (fun c => c = '/' || c = ':') (withoutSlashes url.toList)
  let last := segments.getLast?.getD []
  let name := (Text.dropTail? repositoryEnding last).getD last
  if name.isEmpty then "repository" else String.ofList name

/-! ### Reading -/

/-- The segments of a path, empty ones left out. -/
def segments (l : List Char) : List String :=
  ((Text.piecesBy (· = '/') l).filter (!·.isEmpty)).map String.ofList

/-- White space around a location does not count. -/
def ofText (s : String) : Location :=
  let s := Text.trim s
  if !isAddress s then .folder s
  else
    let l := s.toList
    match treeAddress.find? l with
    | some m =>
      .repository (cloneUrl ((m.group? "repository" l).getD l))
        (segments ((m.group? "rest" l).getD []))
    | none => .repository (cloneUrl l) []

end Location

end OrchestrationGraph
