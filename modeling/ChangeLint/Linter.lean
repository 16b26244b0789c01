import ChangeLint.Host.Launch
import ChangeLint.Text.Decimal
import ChangeLint.Text.ShellWords

/-! # The linter

A linter is a program with fixed arguments, to which the file is added as the last one.  Its
program is found once, when the linter is set up from a command line, so that a missing linter
is noticed before any file is linted. -/

namespace ChangeLint

open Host (Machine)

/-- A linter that was found. -/
structure Linter where
  /-- The path of the program. -/
  binary : String
  args : List String
  /-- The directory in which it runs. -/
  dir : String
  deriving DecidableEq, Repr

namespace Linter

/-! ## Section 1: Setting up -/

/-- Why no linter can be set up. -/
inductive Fault where
  /-- The command line has a quote that is not closed. -/
  | openQuote (command : String)
  /-- The command line has no word. -/
  | noWord (command : String)
  /-- No executable file of that name was found. -/
  | notFound (program : String)
  deriving DecidableEq, Repr

/-- The text shown for a fault. -/
def Fault.message : Fault → String
  | openQuote command =>
    "failed to parse linter command '" ++ command ++ "': missing closing quote\n"
      ++ "Fix: check for unmatched quotes or invalid escape sequences."
  | noWord command => "linter command is empty after parsing: '" ++ command ++ "'"
  | notFound program =>
    "linter '" ++ program ++ "' not found.\n\n"
      ++ "Fix: install it (e.g. `pip install flake8`) or pass --linter with a valid path."

/-- The paths at which a program may be: one if its name holds a slash, and else one for each
directory in which programs are searched. -/
def candidates (machine : Machine) (dir program : String) : List String :=
  if Host.hasChar '/' program then [Host.join dir program]
  else machine.searchPath.map (Host.join · program)

/-- The first path at which a program is an executable file. -/
def locate (machine : Machine) (dir program : String) : Option String :=
  (candidates machine dir program).find?
    (machine.tree.leadsToFrom machine.workingDir Host.Node.isExecutable)

/-- The linter of a command line, with further options split at blanks. -/
def find (machine : Machine) (command : String) (options : Option String) (dir : String) :
    Except Fault Linter :=
  match Text.ShellWords.split? command with
  | none => .error (.openQuote command)
  | some [] => .error (.noWord command)
  | some (program :: args) =>
    match locate machine dir program with
    | none => .error (.notFound program)
    | some binary =>
      let more := (Text.words (options.getD "").toList).map String.ofList
      .ok ⟨binary, args ++ more, dir⟩

/-- Sets up the linter of a command line. -/
def resolve (command : String) (options : Option String) (dir : String) :
    Attempt Machine Linter := do
  let machine ← Attempt.ofAct Act.look
  match find machine command options dir with
  | .error fault => throw (.user fault.message)
  | .ok linter =>
    Attempt.ofAct (Act.log .debug .linter
      ("resolved linter: " ++ linter.binary ++ " " ++ " ".intercalate linter.args))
    pure linter

/-! ## Section 2: Linting -/

/-- The exit statuses of a linter that did its work; with 1 it reports that it found something. -/
def completed : List Nat := [0, 1]

/-- The report of a linter that was launched on a file. -/
def judge (linter : Linter) (file : String) :
    Except Host.Fault Host.Outcome → Except Error String
  | .error fault =>
    .error (.linter ("failed to execute " ++ linter.binary ++ ": " ++ fault.message))
  | .ok outcome =>
    let failed (how : String) : Except Error String :=
      .error (.linter (linter.binary ++ " " ++ file ++ " exited with " ++ how ++ ": "
        ++ Text.trim (Text.Utf8.lossyText outcome.stderr)))
    match outcome.ending with
    | .signalled => failed "a signal"
    | .exited code =>
      if completed.contains code then .ok (Text.Utf8.lossyText outcome.stdout)
      else failed ("exit code " ++ Text.Decimal.text code)

/-- Lints a file and answers the report. -/
def lint (linter : Linter) (file : String) : Attempt Machine String := .mk do
  -- The path is handed on as it was found, so a bare name is searched once more.
  let outcome ← Host.launch ⟨linter.binary, linter.args ++ [file], linter.dir⟩
  pure (linter.judge file outcome)

end Linter

end ChangeLint
