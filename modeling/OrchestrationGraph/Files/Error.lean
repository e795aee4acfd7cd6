/-!
# Failures of files and folders
-/

namespace OrchestrationGraph

inductive FileError where
  | missing
  | denied
  | present
  | notFolder
  | isFolder
  | busy
  | invalid
  | nameTooLong
  | notEmpty
  | tooManyLinks
  | wordTooLong
  /-- What is written to is closed. -/
  | closed
  | noSpace
  | notText
  | holdsNul
  | commandHoldsNul
  deriving DecidableEq, Repr

namespace FileError

def reason : FileError → String
  | missing => "No such file or directory"
  | denied => "Permission denied"
  | busy => "Device or resource busy"
  | present => "File exists"
  | notFolder => "Not a directory"
  | isFolder => "Is a directory"
  | invalid => "Invalid argument"
  | nameTooLong => "File name too long"
  | notEmpty => "Directory not empty"
  | tooManyLinks => "Too many levels of symbolic links"
  | wordTooLong => "Argument list too long"
  | closed => "Bad file descriptor"
  | noSpace => "No space left on device"
  | notText => "stream did not contain valid UTF-8"
  | holdsNul => "file name contained an unexpected NUL byte"
  | commandHoldsNul => "nul byte found in provided data"

def number? : FileError → Option Nat
  | missing => some 2
  | wordTooLong => some 7
  | closed => some 9
  | denied => some 13
  | busy => some 16
  | present => some 17
  | notFolder => some 20
  | isFolder => some 21
  | invalid => some 22
  | noSpace => some 28
  | nameTooLong => some 36
  | notEmpty => some 39
  | tooManyLinks => some 40
  | notText | holdsNul | commandHoldsNul => none

def message (e : FileError) : String :=
  e.reason ++ e.number?.elim "" fun n => " (os error " ++ String.ofList (Nat.toDigits 10 n) ++ ")"

end FileError

end OrchestrationGraph
