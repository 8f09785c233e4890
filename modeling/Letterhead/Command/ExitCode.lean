import Letterhead.Choice.Basic

/-
  Exit codes: what a run tells the shell. Except for `wouldChange` they are the codes that programs
  use by convention.
-/

namespace Letterhead

/-- How a run ends. -/
inductive ExitCode where
  | success
  | failure
  | wouldChange
  | usageError
  | fileNotFound
  | ioError
  | permissionDenied
  | configError
  | unexpectedError
  deriving DecidableEq, Repr

namespace ExitCode

/-- The number for the shell. -/
def number : ExitCode → Nat
  | success => 0
  | failure => 1
  | wouldChange => 2
  | usageError => 64
  | fileNotFound => 66
  | ioError => 74
  | permissionDenied => 77
  | configError => 78
  | unexpectedError => 255

/-- The number for a command line that cannot be read. -/
def badCommandLine : Nat := 2

end ExitCode

instance : Choice ExitCode where
  all := [.success, .failure, .wouldChange, .usageError, .fileNotFound, .ioError,
    .permissionDenied, .configError, .unexpectedError]
  label
    | .success => "SUCCESS"
    | .failure => "FAILURE"
    | .wouldChange => "WOULD_CHANGE"
    | .usageError => "USAGE_ERROR"
    | .fileNotFound => "FILE_NOT_FOUND"
    | .ioError => "IO_ERROR"
    | .permissionDenied => "PERMISSION_DENIED"
    | .configError => "CONFIG_ERROR"
    | .unexpectedError => "UNEXPECTED_ERROR"

end Letterhead
