import GoldenCheck.Duration
import GoldenCheck.Path.Basic
import GoldenCheck.Policy

/-!
# Why a case fails

Each step of a case has its own causes of failure: making the report (`GenerationError`),
comparing it (`ComparisonError`), judging it, and two that belong to no step (`CaseFailure`). Each
cause has a short stable name (`kind`) and one sentence (`message`). A `CaseError` adds the root of
the case.
-/

namespace GoldenCheck

/-- What the file system or the start of a program can answer in place of a result. -/
inductive SystemError where
  /-- The caller may not do this. -/
  | notPermitted
  /-- The entry, or a directory on the way to it, does not exist. -/
  | notFound
  /-- There is no process of this number. -/
  | noProcess
  /-- There is no device behind the entry. -/
  | noDevice
  /-- The arguments are too long. -/
  | argumentsTooLong
  /-- The file is no program. -/
  | notExecutable
  /-- The descriptor is not open, or not for this use. -/
  | badDescriptor
  /-- The file may not be used in this way. -/
  | permissionDenied
  /-- The entry is in use by the system. -/
  | busy
  /-- The entry exists already. -/
  | alreadyExists
  /-- A directory was needed. -/
  | notADirectory
  /-- A directory was not wanted. -/
  | isADirectory
  /-- The request makes no sense. -/
  | invalidArgument
  /-- The device is full. -/
  | noSpace
  /-- The file has no position to move to. -/
  | illegalSeek
  /-- Nobody reads from the pipe. -/
  | brokenPipe
  /-- A name, or a whole path, is too long. -/
  | nameTooLong
  /-- The directory has entries. -/
  | directoryNotEmpty
  /-- A path holds a NUL byte. -/
  | nulInPath
  /-- A program name or an argument holds a NUL byte. -/
  | nulInArgument
  /-- A text file holds bytes that are no text. -/
  | invalidText
  /-- Any other cause, in its own words. -/
  | other (message : String)
  deriving DecidableEq, Repr

namespace SystemError

/-- The errors that the system numbers, with their numbers. -/
def numbers : List (SystemError × Nat) :=
  [(notPermitted, 1), (notFound, 2), (noProcess, 3), (noDevice, 6), (argumentsTooLong, 7),
   (notExecutable, 8), (badDescriptor, 9), (permissionDenied, 13), (busy, 16), (alreadyExists, 17),
   (notADirectory, 20), (isADirectory, 21), (invalidArgument, 22), (noSpace, 28),
   (illegalSeek, 29), (brokenPipe, 32), (nameTooLong, 36), (directoryNotEmpty, 39)]

/-- The words for an error, without its number. -/
def words : SystemError → String
  | .notPermitted => "Operation not permitted"
  | .notFound => "No such file or directory"
  | .noProcess => "No such process"
  | .noDevice => "No such device or address"
  | .argumentsTooLong => "Argument list too long"
  | .notExecutable => "Exec format error"
  | .badDescriptor => "Bad file descriptor"
  | .permissionDenied => "Permission denied"
  | .busy => "Device or resource busy"
  | .alreadyExists => "File exists"
  | .notADirectory => "Not a directory"
  | .isADirectory => "Is a directory"
  | .invalidArgument => "Invalid argument"
  | .noSpace => "No space left on device"
  | .illegalSeek => "Illegal seek"
  | .brokenPipe => "Broken pipe"
  | .nameTooLong => "File name too long"
  | .directoryNotEmpty => "Directory not empty"
  | .nulInPath => "file name contained an unexpected NUL byte"
  | .nulInArgument => "nul byte found in provided data"
  | .invalidText => "stream did not contain valid UTF-8"
  | .other message => message

/-- Words with the number of an error. -/
def numbered (words : String) (code : Nat) : String :=
  words ++ " (os error " ++ toString code ++ ")"

/-- The words for an error, with its number if it has one. -/
def message (e : SystemError) : String :=
  match numbers.lookup e with
  | some code => numbered e.words code
  | none => e.words

/-- The error that the system gives a number to. -/
def ofCode (code : Nat) : SystemError :=
  match numbers.find? (·.2 = code) with
  | some (e, _) => e
  | none => .other (numbered "" code)

end SystemError

/-- Why a report was not made. -/
inductive GenerationError where
  /-- The root cannot be analysed. -/
  | invalidRoot (root : Path) (reason : String)
  /-- The report cannot be put at its place. -/
  | writeFailure (path : Path) (cause : SystemError)
  /-- The engine did not make a report. -/
  | analysisFailure (reason : String)
  /-- The engine took longer than it may. -/
  | timeout (limit : Duration)
  /-- The command to run before the engine failed. -/
  | setup (reason : String)
  deriving DecidableEq, Repr

namespace GenerationError

/-- The short name of a cause. -/
def kind : GenerationError → String
  | .invalidRoot .. => "invalid-root"
  | .writeFailure .. => "write-failure"
  | .analysisFailure .. => "analysis-failure"
  | .timeout .. => "timeout"
  | .setup .. => "setup-failure"

/-- The sentence for a cause. -/
def message : GenerationError → String
  | .invalidRoot root reason => "invalid root '" ++ root.display ++ "': " ++ reason
  | .writeFailure path cause => "cannot write report to '" ++ path.display ++ "': " ++ cause.message
  | .analysisFailure reason => "analysis engine failed: " ++ reason
  | .timeout limit => "analysis engine timed out after " ++ limit.shortestSeconds ++ "s"
  | .setup reason => "setup command failed: " ++ reason

end GenerationError

/-- Why a report was not compared. -/
inductive ComparisonError where
  /-- There is no report. -/
  | missingGenerated (path : Path)
  /-- There is no reference. -/
  | missingReference (path : Path)
  /-- The comparison itself failed. -/
  | tool (reason : String)
  deriving DecidableEq, Repr

namespace ComparisonError

/-- The short name of a cause. -/
def kind : ComparisonError → String
  | .missingGenerated .. => "missing-generated"
  | .missingReference .. => "missing-reference"
  | .tool .. => "comparison-tool-error"

/-- The sentence for a cause. -/
def message : ComparisonError → String
  | .missingGenerated path => "generated report '" ++ path.display ++ "' is missing"
  | .missingReference path => "reference report '" ++ path.display ++ "' is missing"
  | .tool reason => "comparison tool error: " ++ reason

end ComparisonError

/-- Why a case failed. -/
inductive CaseFailure where
  /-- The report was not made. -/
  | generation (cause : GenerationError)
  /-- The report was not compared. -/
  | comparison (cause : ComparisonError)
  /-- The comparison found what was not expected. -/
  | policyViolation (expected : Expectation) (observed : ContentMatch)
  /-- The report would be written over its own reference. -/
  | outputIsReference (reference : Path)
  /-- A step broke off. -/
  | panicked (reason : String)
  deriving DecidableEq, Repr

namespace CaseFailure

/-- The short name of a failure. -/
def kind : CaseFailure → String
  | .generation cause => cause.kind
  | .comparison cause => cause.kind
  | .policyViolation .. => "policy-violation"
  | .outputIsReference .. => "output-is-reference"
  | .panicked .. => "panicked"

/-- The sentence for a failure. -/
def message : CaseFailure → String
  | .generation cause => "generation failed: " ++ cause.message
  | .comparison cause => "comparison failed: " ++ cause.message
  | .policyViolation expected observed =>
    "expected the generated report to be " ++ expected.word ++ " to the reference, but it was "
      ++ observed.word
  | .outputIsReference reference =>
    "generated report would overwrite its reference '" ++ reference.display ++ "'"
  | .panicked reason => "case panicked: " ++ reason

/-- The sentences of the causes behind a failure, the nearest first. -/
def causes : CaseFailure → List String
  | .generation (.writeFailure path cause) =>
    [(GenerationError.writeFailure path cause).message, cause.message]
  | .generation cause => [cause.message]
  | .comparison cause => [cause.message]
  | _ => []

end CaseFailure

/-- A failure and the root of the case that has it. -/
structure CaseError where
  /-- The root of the case. -/
  root : Path
  /-- Why the case failed. -/
  failure : CaseFailure
  deriving DecidableEq, Repr

namespace CaseError

/-- The sentence for an error. -/
def message (e : CaseError) : String := e.root.display ++ ": " ++ e.failure.message

/-- The sentences of the causes behind an error, the nearest first. -/
def causes (e : CaseError) : List String := e.failure.message :: e.failure.causes

end CaseError

end GoldenCheck
