import ChangeLint.Config.Reading
import ChangeLint.Yaml.Emitter

/-! # Writing configurations

A configuration is written as a mapping with its fields in a fixed order.  What is not given is
left out.

`toYaml?` writes it event by event, as the program does, and can fail.  `toYaml` is the text that
is to come out. -/

namespace ChangeLint.Config

/-- What is written for a field, unless nothing is given for it. -/
def fieldValue? (config : Config) : Field → Option Yaml.Value
  | .vcs => config.vcs.map fun name => .text name.toList
  | .linterOptions => config.linterOptions.map fun options => .text options.toList
  | .standardOutput => some (.flag config.standardOutput)
  | .theme => some (.text config.theme.name.toList)
  | .linter => some (.text config.linter.toList)
  | .patterns => some (.texts (config.patterns.map String.toList))
  | .commits => some (.texts (config.commits.map String.toList))

/-- The entries of the mapping that is written. -/
def entries (config : Config) : List (List Char × Yaml.Value) :=
  Field.all.filterMap fun field =>
    (config.fieldValue? field).map fun value => (field.key.toList, value)

/-- Writes the configuration as a YAML text. -/
def toYaml? (config : Config) : Except Error String :=
  match Yaml.Emitter.start.run (Yaml.documentEvents config.entries) with
  | .error awaited =>
    .error (.user ("failed to serialize config to YAML: " ++ awaited.message))
  | .ok emitter => .ok (String.ofList emitter.written)

/-- The configuration as a YAML text. -/
def toYaml (config : Config) : String := String.ofList (Yaml.writeMapping config.entries)

end ChangeLint.Config
