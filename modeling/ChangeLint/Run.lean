import ChangeLint.Config.Basic
import ChangeLint.Engine
import ChangeLint.Linter
import ChangeLint.Vcs.Context

/-! # Runs on a machine

The engine at work on a machine, with the providers of all version control systems and a
linter that was found. -/

namespace ChangeLint

open Host (Machine)

namespace Config

/-- The engine that works as the configuration says. -/
def engine (config : Config) (linter : Linter) (dir : String) : Engine Machine where
  vcs := config.vcs
  dir := dir
  style := ⟨config.theme, .ofFlag config.standardOutput⟩
  lint := linter.lint

/-- What version control commands are run for. -/
def context (config : Config) (filter : Vcs.Include) (dir : String) : Vcs.Context where
  dir := dir
  commits := config.commits
  filter := filter

/-- Checks all changed files and answers whether nothing was kept. -/
def process (config : Config) (linter : Linter) (dir : String) :
    Attempt (Session Machine) Bool :=
  match Vcs.Include.ofPatterns config.patterns with
  | .error error => throw error
  | .ok filter => (config.engine linter dir).runWith (config.context filter dir).providers

end Config

end ChangeLint
