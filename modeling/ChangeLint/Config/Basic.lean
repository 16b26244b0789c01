import ChangeLint.Report.Layout
import ChangeLint.Vcs.Include

/-! # Configurations

What a run needs to know, with the values that hold when nothing else is said. -/

namespace ChangeLint

/-- What a run needs to know. -/
structure Config where
  /-- The version control system to use, if it is not to be found out. -/
  vcs : Option String := none
  /-- Further options for the linter, split at blanks. -/
  linterOptions : Option String := none
  /-- Is the report laid out like the linter's own? -/
  standardOutput : Bool := false
  theme : Report.Theme := .dark
  /-- The command line of the linter. -/
  linter : String := "flake8"
  /-- Patterns for the files to lint. -/
  patterns : List String := ["*.py"]
  /-- The revisions to compare with. -/
  commits : List String := ["master"]
  deriving DecidableEq, Repr

namespace Config

instance : Inhabited Config := ⟨{}⟩

/-- The name of the file that is read where a run takes place. -/
def fileName : String := ".flake8-diff.yaml"

/-! ## Validation -/

/-- Why a configuration cannot be used. -/
inductive Invalid where
  | noLinter
  | noCommit
  | badInclude (fault : Error)
  deriving DecidableEq, Repr

/-- The text shown for an invalid configuration. -/
def Invalid.message : Invalid → String
  | noLinter => "config validation failed: linter must not be empty"
  | noCommit => "config validation failed: commits must name at least one revision"
  | badInclude fault => "config validation failed: " ++ fault.message

/-- The first reason why a configuration cannot be used, if there is one. -/
def invalid? (config : Config) : Option Invalid :=
  if Text.isBlankText config.linter then some .noLinter
  else if config.commits.all Text.isBlankText then some .noCommit
  else
    match Vcs.Include.ofPatterns config.patterns with
    | .error fault => some (.badInclude fault)
    | .ok _ => none

/-- Refuses a configuration that cannot be used. -/
def validate (config : Config) : Except Error Unit :=
  match config.invalid? with
  | some reason => .error (.user reason.message)
  | none => .ok ()

end Config

end ChangeLint
