import ChangeLint.Cli.Arguments

/-! # Help

The texts that the program shows about itself: a full help, a summary of it, and its
version.  In full help an entry is followed by an empty line and the values of an option are
explained one by one; in the summary they are listed at the end of the line. -/

namespace ChangeLint.Cli

namespace Help

/-- An entry of the help. -/
structure Entry where
  /-- How the option is written. -/
  heading : String
  /-- What it does. -/
  about : String
  /-- The values that it takes, with their explanations, if they can be listed. -/
  values : List (String × String) := []

/-- How an option is written, after its short form if it has one. -/
def headingOf (option : Opt) : String :=
  match option with
  | .flag flag =>
    match flag.short with
    | some c => "  -" ++ c.toString ++ ", " ++ option.shown
    | none => "      " ++ option.shown
  | .valued _ => "      " ++ option.shown

/-- What a theme is for. -/
def themeAbout : Report.Theme → String
  | .off => ""
  | .nocolor => "Emphasis without colors (bold, underline, reverse video)"
  | .dark => "For dark terminal backgrounds"
  | .light => "For light terminal backgrounds"

/-- What an option does. -/
def about (full : Bool) : Opt → String
  | .valued .vcs => "Force a VCS instead of detecting one (git, hg)"
  | .valued .linterOptions =>
    "Extra options passed to the linter, e.g. \"--max-line-length=100\""
  | .flag .standardOutput => "Print violations in the standard flake8 one-line format"
  | .valued .theme => "Color theme for the report"
  | .valued .linter => "Linter command (default: flake8)"
  | .valued .pattern =>
    "Only lint changed files matching this glob (repeatable, default: *.py)"
  | .valued .configPath =>
    "Path to a YAML config file (default: ./.flake8-diff.yaml if present)"
  | .flag .verbose => "Log each file and the changed lines being checked"
  | .flag .debug => "Log VCS and linter commands"
  | .flag .help =>
    if full then "Print help (see a summary with '-h')" else "Print help (see more with '--help')"
  | .flag .version => "Print version"

/-- The options in the order in which they are shown. -/
def order : List Opt :=
  [.valued .vcs, .valued .linterOptions, .flag .standardOutput, .valued .theme, .valued .linter,
    .valued .pattern, .valued .configPath, .flag .verbose, .flag .debug, .flag .help,
    .flag .version]

/-- The entry of an option. -/
def entry (full : Bool) (option : Opt) : Entry where
  heading := headingOf option
  about := about full option
  values :=
    if option = .valued .theme then Report.Theme.all.map fun theme => (theme.name, themeAbout theme)
    else []

/-- What every explanation is indented by. -/
def indent : String := "          "

/-- Fills a text with spaces at its end. -/
def padded (width : Nat) (text : String) : String :=
  text ++ String.ofList (List.replicate (width - text.length) ' ')

/-- The line of a value; the explanations of all values begin in one column. -/
def valueLine (width : Nat) (value : String × String) : String :=
  indent ++ "- "
    ++ (if value.2.isEmpty then value.1 else padded width (value.1 ++ ":") ++ " " ++ value.2)

/-- The lines of an entry in full help. -/
def fullLines (entry : Entry) : List String :=
  let width := entry.values.foldl (fun width value => max width (value.1.length + 1)) 0
  [entry.heading, indent ++ entry.about]
    ++ (if entry.values.isEmpty then []
        else ["", indent ++ "Possible values:"] ++ entry.values.map (valueLine width))

/-- The lines of an entry in the summary. -/
def shortLines (entry : Entry) : List String :=
  let values := ", ".intercalate (entry.values.map (·.1))
  let listed := if entry.values.isEmpty then "" else " [possible values: " ++ values ++ "]"
  [entry.heading, indent ++ entry.about ++ listed]

/-- Lists of lines with an empty line between any two of them. -/
def spaced (blocks : List (List String)) : List String := List.intercalate [""] blocks

/-- What the program does. -/
def purpose : String := "Run flake8 on changed files and report only violations on changed lines"

/-- What revisions are for. -/
def commitAbout : String := "Revisions to diff against (passed to `git diff` / `hg diff`)"

/-- The lines of the help. -/
def lines (full : Bool) : List String :=
  let entries := order.map (entry full)
  let argument :=
    if full then ["  [COMMIT]...", indent ++ commitAbout] else ["  [COMMIT]...  " ++ commitAbout]
  let options := if full then spaced (entries.map fullLines) else entries.flatMap shortLines
  [purpose, "", "Usage: flake8-diff [OPTIONS] [COMMIT]...", "", "Arguments:"] ++ argument
    ++ ["", "Options:"] ++ options

/-- The help, in full or as a summary. -/
def text (full : Bool) : String := String.join ((lines full).map (· ++ "\n"))

/-- The version. -/
def versionText : String := "flake8-diff 0.1.0\n"

end Help

/-- The text shown when the program does not go on. -/
def Stop.text : Stop → String
  | help full => Help.text full
  | version => Help.versionText
  | fault reason => "error: " ++ reason.message

end ChangeLint.Cli
