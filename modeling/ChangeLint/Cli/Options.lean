import ChangeLint.Config.Basic
import ChangeLint.Event

/-! # Options

What the command line says.  Options that were given are laid over a configuration, field by
field: a given value replaces the one of the configuration, and a list replaces the whole
list. -/

namespace ChangeLint.Cli

/-- What a command line says. -/
structure Options where
  commits : List String := []
  vcs : Option String := none
  linterOptions : Option String := none
  standardOutput : Bool := false
  theme : Option Report.Theme := none
  linter : Option String := none
  patterns : List String := []
  configPath : Option String := none
  verbose : Bool := false
  debug : Bool := false
  deriving DecidableEq, Repr

namespace Options

/-- How much of the log is to be shown. -/
def verbosity (options : Options) : Verbosity := .ofFlags options.verbose options.debug

/-- A list if it is given, and else what holds without. -/
def given (list without : List α) : List α := if list.isEmpty then without else list

/-- The configuration with the given options laid over it. -/
def applyTo (options : Options) (config : Config) : Config where
  vcs := options.vcs <|> config.vcs
  linterOptions := options.linterOptions <|> config.linterOptions
  standardOutput := options.standardOutput || config.standardOutput
  theme := options.theme.getD config.theme
  linter := options.linter.getD config.linter
  patterns := given options.patterns config.patterns
  commits := given options.commits config.commits

/-- Options that say nothing leave a configuration as it is. -/
@[simp] theorem applyTo_default (config : Config) : ({} : Options).applyTo config = config := by
  cases config
  simp [applyTo, given]

end Options

end ChangeLint.Cli
