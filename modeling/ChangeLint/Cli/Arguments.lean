import ChangeLint.Cli.Options
import ChangeLint.Text.Blank
import ChangeLint.Text.Terminal

/-! # Reading a command line

Arguments are read from left to right.

* A long option is `--name` or `--name=value`, short flags may be joined after one dash, and
  after `--` every argument is a revision.
* An option that takes a value takes the next argument, unless that looks like an option.  The
  options for the linter take any argument.
* A value is judged when the next option or revision begins, or at the end of the command
  line.  So an unknown option is reported before a bad value that stands right before it.
* Only `--include` may be repeated. -/

namespace ChangeLint.Cli

/-! ## Section 1: Names -/

/-- The options that take a value. -/
inductive Valued where
  | vcs
  | linterOptions
  | theme
  | linter
  | pattern
  | configPath
  deriving DecidableEq, Repr

/-- The options that stand alone. -/
inductive Flag where
  | standardOutput
  | verbose
  | debug
  | help
  | version
  deriving DecidableEq, Repr

/-- An option. -/
inductive Opt where
  | valued (option : Valued)
  | flag (flag : Flag)
  deriving DecidableEq, Repr

namespace Valued

/-- The long name. -/
def name : Valued → String
  | vcs => "vcs"
  | linterOptions => "flake8-options"
  | theme => "color"
  | linter => "linter"
  | pattern => "include"
  | configPath => "config"

/-- What the value is called. -/
def valueName : Valued → String
  | vcs => "VCS"
  | linterOptions => "FLAKE8_OPTIONS"
  | theme => "COLOR_THEME"
  | linter => "LINTER"
  | pattern => "GLOB"
  | configPath => "CONFIG"

/-- All of them. -/
def all : List Valued := [vcs, linterOptions, theme, linter, pattern, configPath]

/-- The option as it is shown. -/
def shown (option : Valued) : String := "--" ++ option.name ++ " <" ++ option.valueName ++ ">"

end Valued

namespace Flag

/-- The long name. -/
def name : Flag → String
  | standardOutput => "standard-flake8-output"
  | verbose => "verbose"
  | debug => "debug"
  | help => "help"
  | version => "version"

/-- The short name, if there is one. -/
def short : Flag → Option Char
  | verbose => some 'v'
  | help => some 'h'
  | version => some 'V'
  | standardOutput | debug => none

/-- All of them. -/
def all : List Flag := [standardOutput, verbose, debug, help, version]

/-- The flag as it is shown. -/
def shown (flag : Flag) : String := "--" ++ flag.name

end Flag

/-- The option with a long name. -/
def Opt.ofName? (name : String) : Option Opt :=
  ((Valued.all.find? (·.name == name)).map .valued) <|>
    ((Flag.all.find? (·.name == name)).map .flag)

/-- The flag with a short name. -/
def Flag.ofShort? (c : Char) : Option Flag := Flag.all.find? (·.short == some c)

/-! ## Section 2: Faults -/

/-- Why a command line cannot be used. -/
inductive Fault where
  /-- There is no such option. -/
  | unknown (arg : String)
  /-- A flag was given a value. -/
  | unneededValue (value : String) (flag : Flag)
  /-- An option was not given a value, or an empty one that it does not take. -/
  | missingValue (option : Valued)
  /-- An option does not take this value. -/
  | badValue (value : String) (option : Valued)
  /-- An option was given twice. -/
  | repeated (option : Opt)
  deriving DecidableEq, Repr

/-- The option as it is shown. -/
def Opt.shown : Opt → String
  | valued option => option.shown
  | flag f => f.shown

/-- The text shown for a fault.  What was written on the command line is shown without what
would steer a terminal. -/
def Fault.message : Fault → String
  | unknown arg => "unexpected argument '" ++ Text.Terminal.visibleText arg ++ "' found"
  | unneededValue value flag =>
    "unexpected value '" ++ Text.Terminal.visibleText value ++ "' for '" ++ flag.shown
      ++ "' found; no more were expected"
  | missingValue option =>
    "a value is required for '" ++ option.shown ++ "' but none was supplied"
  | badValue value option =>
    "invalid value '" ++ Text.Terminal.visibleText value ++ "' for '" ++ option.shown ++ "'"
  | repeated option => "the argument '" ++ option.shown ++ "' cannot be used multiple times"

/-- Why the program does not go on after reading the command line. -/
inductive Stop where
  /-- Help was asked for, in full or as a summary. -/
  | help (full : Bool)
  /-- The version was asked for. -/
  | version
  | fault (fault : Fault)
  deriving DecidableEq, Repr

/-! ## Section 3: The reader -/

/-- An option whose value has not been judged yet, and the value if it has been read. -/
structure Begun where
  option : Valued
  value : Option String
  deriving DecidableEq, Repr

/-- What was read so far. -/
structure Reader where
  options : Options
  begun : Option Begun
  /-- Has everything become a revision? -/
  onlyCommits : Bool
  deriving DecidableEq, Repr

namespace Reader

/-- Before the first argument. -/
def start : Reader := ⟨{}, none, false⟩

/-- Fails with a fault. -/
def refuse (fault : Fault) : Except Stop α := .error (.fault fault)

/-- Sets an option that may be given once only. -/
def once (option : Opt) (before : Bool) (options : Options) : Except Stop Options :=
  if before then refuse (.repeated option) else .ok options

/-- Options with the value of an option taken in. -/
def setValue (options : Options) (option : Valued) (value : String) : Except Stop Options :=
  match option with
  | .vcs => once (.valued .vcs) options.vcs.isSome { options with vcs := some value }
  | .linterOptions =>
    once (.valued .linterOptions) options.linterOptions.isSome
      { options with linterOptions := some value }
  | .linter =>
    once (.valued .linter) options.linter.isSome { options with linter := some value }
  | .pattern => .ok { options with patterns := options.patterns ++ [value] }
  | .configPath => do
    -- That an option is repeated is noticed before what is wrong with its value.
    let set ← once (.valued .configPath) options.configPath.isSome
      { options with configPath := some value }
    if value.isEmpty then refuse (.missingValue .configPath) else pure set
  | .theme => do
    let set ← once (.valued .theme) options.theme.isSome options
    match Report.Theme.ofName? value with
    | some theme => pure { set with theme := some theme }
    | none =>
      refuse (if value.isEmpty then .missingValue .theme else .badValue value .theme)

/-- Judges the value of the option that was begun last. -/
def settle (reader : Reader) : Except Stop Reader :=
  match reader.begun with
  | none => .ok reader
  | some ⟨option, none⟩ => refuse (.missingValue option)
  | some ⟨option, some value⟩ => do
    let options ← setValue reader.options option value
    pure { reader with options, begun := none }

/-- Takes in a flag. -/
def setFlag (reader : Reader) (flag : Flag) (full : Bool) : Except Stop Reader := do
  let reader ← reader.settle
  let options := reader.options
  let set ← match flag with
    | .standardOutput =>
      once (.flag flag) options.standardOutput { options with standardOutput := true }
    | .verbose => once (.flag flag) options.verbose { options with verbose := true }
    | .debug => once (.flag flag) options.debug { options with debug := true }
    | .help => .error (.help full)
    | .version => .error .version
  pure { reader with options := set }

/-- Takes in a long option, which may have a value attached. -/
def long (reader : Reader) (name : String) (value : Option String) : Except Stop Reader :=
  match Opt.ofName? name, value with
  | none, _ => refuse (.unknown ("--" ++ name))
  | some (.flag flag), some value => refuse (.unneededValue value flag)
  | some (.flag flag), none => reader.setFlag flag true
  -- A value that is attached is judged at once, but behind the one that was begun before.
  | some (.valued option), some value => do
    let reader ← reader.settle
    let options ← setValue reader.options option value
    pure { reader with options }
  | some (.valued option), none => do
    let reader ← reader.settle
    pure { reader with begun := some ⟨option, none⟩ }

/-- Takes in joined short flags. -/
def shorts (reader : Reader) : List Char → Except Stop Reader
  | [] => .ok reader
  | c :: cs =>
    match Flag.ofShort? c with
    | none => refuse (.unknown ("-" ++ c.toString))
    | some flag => do
      let reader ← reader.setFlag flag false
      reader.shorts cs

/-- Takes in a revision. -/
def commit (reader : Reader) (arg : String) : Except Stop Reader := do
  let reader ← reader.settle
  let options := reader.options
  pure { reader with options := { options with commits := options.commits ++ [arg] } }

/-- The option that waits for a value. -/
def waiting (reader : Reader) : Option Valued :=
  match reader.begun with
  | some ⟨option, none⟩ => some option
  | _ => none

/-- Takes in an argument that is no option: the value of an option that waits for one, or else
a revision. -/
def plain (reader : Reader) (arg : String) : Except Stop Reader :=
  match reader.waiting with
  | some option => .ok { reader with begun := some ⟨option, some arg⟩ }
  | none => reader.commit arg

/-- Takes in an argument that may be an option. -/
def option (reader : Reader) (arg : String) : Except Stop Reader :=
  match arg.toList with
  | ['-', '-'] => .ok { reader with onlyCommits := true }
  | '-' :: '-' :: rest =>
    match Text.splitAtFirst? (· == '=') rest with
    | some (name, value) => reader.long (String.ofList name) (some (String.ofList value))
    | none => reader.long (String.ofList rest) none
  | '-' :: c :: cs => reader.shorts (c :: cs)
  | _ => reader.plain arg

/-- Takes in an argument. -/
def step (reader : Reader) (arg : String) : Except Stop Reader :=
  if reader.onlyCommits then reader.commit arg
  -- The options for the linter may look like options of the program.
  else if reader.waiting = some .linterOptions then reader.plain arg
  else reader.option arg

/-- Takes in arguments from left to right. -/
def run (reader : Reader) (args : List String) : Except Stop Reader := args.foldlM step reader

end Reader

/-- Reads a command line. -/
def Options.ofArgs (args : List String) : Except Stop Options := do
  let reader ← Reader.start.run args
  let reader ← reader.settle
  pure reader.options

end ChangeLint.Cli
