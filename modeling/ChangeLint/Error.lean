import ChangeLint.Vcs.Kind

/-! # Failures of a run

Why a run ends early, the text shown for it, and the exit status that reports it. -/

namespace ChangeLint

/-- Why a run ended early. -/
inductive Error where
  /-- A version control system was asked for by a name that none has. -/
  | unsupportedVcs (name : String)
  /-- No version control system is in effect. -/
  | noVcs
  /-- The arguments or the configuration cannot be used. -/
  | user (text : String)
  /-- A version control command failed. -/
  | vcs (text : String)
  /-- The linter failed. -/
  | linter (text : String)
  /-- The report could not be written. -/
  | io (text : String)
  deriving DecidableEq, Repr

namespace ExitStatus

/-- No finding on a changed line. -/
def clean : Nat := 0

/-- Bad arguments, a bad configuration, or no usable version control system. -/
def userError : Nat := 1

/-- A finding on a changed line. -/
def findings : Nat := 2

/-- A listing or a diff could not be had. -/
def vcsFailure : Nat := 3

/-- The linter could not be run or ended abnormally. -/
def linterFailure : Nat := 4

end ExitStatus

namespace Error

/-- The text shown for a failure. -/
def message : Error → String
  | unsupportedVcs name =>
    "VCS '" ++ name ++ "' is not supported (supported: "
      ++ ", ".intercalate (Vcs.Kind.all.map Vcs.Kind.name) ++ ")"
  | noVcs => "could not locate a supported VCS in the current directory"
  | user text => text
  | vcs text => "VCS operation failed: " ++ text
  | linter text => "Linter failed: " ++ text
  | io text => "I/O error: " ++ text

/-- The exit status that reports a failure. -/
def exitStatus : Error → Nat
  | unsupportedVcs _ | noVcs | user _ | io _ => ExitStatus.userError
  | vcs _ => ExitStatus.vcsFailure
  | linter _ => ExitStatus.linterFailure

end Error

end ChangeLint
